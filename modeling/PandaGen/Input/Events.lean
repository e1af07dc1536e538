/-!
# Input events

`input_types/src/lib.rs`. The text of a key event is left out: nothing reads it.
-/

namespace PandaGen.Input

inductive KeyCode where
  | a | b | c | d | e | f | g | h | i | j | k | l | m | n | o | p | q | r | s | t | u | v | w | x | y | z
  | num0 | num1 | num2 | num3 | num4 | num5 | num6 | num7 | num8 | num9
  | f1 | f2 | f3 | f4 | f5 | f6 | f7 | f8 | f9 | f10 | f11 | f12
  | escape | tab | capsLock | leftShift | rightShift | leftCtrl | rightCtrl | leftAlt | rightAlt | leftMeta | rightMeta
  | space | enter | backspace | delete | insert | home | «end» | pageUp | pageDown
  | up | down | left | right
  | minus | equal | leftBracket | rightBracket | backslash | semicolon | quote | comma | period | slash | grave
  | numpadDivide | numpadMultiply | numpadMinus | numpadPlus | numpadEnter | numpadPeriod
  | numpad0 | numpad1 | numpad2 | numpad3 | numpad4 | numpad5 | numpad6 | numpad7 | numpad8 | numpad9
  | printScreen | scrollLock | pause | numLock
  | unknown
  deriving DecidableEq

structure Modifiers where
  bits : UInt8
  deriving DecidableEq

namespace Modifiers

def none : Modifiers := ⟨0⟩

def ctrl : Modifiers := ⟨1⟩

def alt : Modifiers := ⟨2⟩

def shift : Modifiers := ⟨4⟩

def contains (self other : Modifiers) : Bool := self.bits &&& other.bits = other.bits

def isCtrl (self : Modifiers) : Bool := self.contains ctrl

def isShift (self : Modifiers) : Bool := self.contains shift

def isEmpty (self : Modifiers) : Bool := self.bits = 0

end Modifiers

inductive KeyState where
  | pressed
  | released
  | repeat
  deriving DecidableEq

structure KeyEvent where
  code : KeyCode
  modifiers : Modifiers
  state : KeyState

/-- Every input event is a key event. -/
inductive InputEvent where
  | key (event : KeyEvent)

namespace KeyEvent

def pressed (code : KeyCode) (modifiers : Modifiers) : KeyEvent := ⟨code, modifiers, .pressed⟩

def isPressed (self : KeyEvent) : Bool := self.state = .pressed

/-- The characters of a key, without and with shift. `key_event_to_char` of the workspace and `key_to_char` of the vi
editor have this table. -/
def chars : KeyCode → Option (Char × Char)
  | .a => some ('a', 'A')
  | .b => some ('b', 'B')
  | .c => some ('c', 'C')
  | .d => some ('d', 'D')
  | .e => some ('e', 'E')
  | .f => some ('f', 'F')
  | .g => some ('g', 'G')
  | .h => some ('h', 'H')
  | .i => some ('i', 'I')
  | .j => some ('j', 'J')
  | .k => some ('k', 'K')
  | .l => some ('l', 'L')
  | .m => some ('m', 'M')
  | .n => some ('n', 'N')
  | .o => some ('o', 'O')
  | .p => some ('p', 'P')
  | .q => some ('q', 'Q')
  | .r => some ('r', 'R')
  | .s => some ('s', 'S')
  | .t => some ('t', 'T')
  | .u => some ('u', 'U')
  | .v => some ('v', 'V')
  | .w => some ('w', 'W')
  | .x => some ('x', 'X')
  | .y => some ('y', 'Y')
  | .z => some ('z', 'Z')
  | .num0 => some ('0', ')')
  | .num1 => some ('1', '!')
  | .num2 => some ('2', '@')
  | .num3 => some ('3', '#')
  | .num4 => some ('4', '$')
  | .num5 => some ('5', '%')
  | .num6 => some ('6', '^')
  | .num7 => some ('7', '&')
  | .num8 => some ('8', '*')
  | .num9 => some ('9', '(')
  | .space => some (' ', ' ')
  | .minus => some ('-', '_')
  | .equal => some ('=', '+')
  | .leftBracket => some ('[', '\x7b')
  | .rightBracket => some (']', '\x7d')
  | .backslash => some ('\\', '|')
  | .semicolon => some (';', ':')
  | .quote => some ('\'', '"')
  | .comma => some (',', '<')
  | .period => some ('.', '>')
  | .slash => some ('/', '?')
  | .grave => some ('\x60', '~')
  | _ => Option.none

def toChar (self : KeyEvent) : Option Char :=
  (chars self.code).map fun (plain, shifted) => if self.modifiers.isShift then shifted else plain

end KeyEvent

end PandaGen.Input
