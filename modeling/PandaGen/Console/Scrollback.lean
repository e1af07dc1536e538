import PandaGen.Core.Word
import PandaGen.Lib.ByteText
import PandaGen.Lib.Machine

/-!
# Scrollback

`ScrollbackBuffer` of `console_fb/src/scrollback.rs` and `VgaScrollback` of `console_vga/src/scrollback.rs`, which
differ in their lines: `fromText` makes one of a text, of the attribute `A` of its characters and of the number
of columns.
-/

namespace PandaGen.Console

open Lib

structure Line where
  text : List UInt8

def Line.fromText (text : Text) (_ : Unit) (cols : Nat) : Line := ⟨(text.flatMap String.utf8EncodeChar).take cols⟩

structure VgaLine where
  text : List UInt8
  attrs : List UInt8

def VgaLine.fromText (text : Text) (attr : UInt8) (cols : Nat) : VgaLine :=
  let bytes := (text.flatMap String.utf8EncodeChar).take cols
  ⟨bytes, bytes.map fun _ => attr⟩

structure ScrollbackBuffer (α : Type) where
  maxLines : Nat
  cols : Nat
  viewportRows : Nat
  lines : List α
  viewportOffset : Nat

namespace ScrollbackBuffer

variable {A α : Type}

def new (cols viewportRows maxLines : Nat) : ScrollbackBuffer α := ⟨maxLines, cols, viewportRows, [], 0⟩

def removeOld (maxLines : Nat) : List α → List α
  | [] => []
  | line :: lines => if (line :: lines).length > maxLines then removeOld maxLines lines else line :: lines

def pushLine (fromText : Text → A → Nat → α) (attr : A) (self : ScrollbackBuffer α) (text : Text) :
    ScrollbackBuffer α :=
  { self with
    lines := removeOld self.maxLines (self.lines ++ [fromText text attr self.cols])
    viewportOffset := 0 }

def pushText (fromText : Text → A → Nat → α) (attr : A) (self : ScrollbackBuffer α) (text : Text) :
    ScrollbackBuffer α :=
  text.lines.foldl (pushLine fromText attr) self

variable (self : ScrollbackBuffer α)

def maxScrollUp : Nat :=
  if self.lines.length > self.viewportRows then self.lines.length - self.viewportRows else 0

def scrollUp (lines : Nat) : Option (Bool × ScrollbackBuffer α) :=
  if self.maxScrollUp > 0 then do
    let viewportOffset ← checkedAdd self.viewportOffset (min lines self.maxScrollUp)
    return (true, { self with viewportOffset })
  else some (false, self)

def scrollDown (lines : Nat) : Bool × ScrollbackBuffer α :=
  if self.viewportOffset > 0 then (true, { self with viewportOffset := self.viewportOffset - lines })
  else (false, self)

def scrollToBottom : ScrollbackBuffer α := { self with viewportOffset := 0 }

def scrollToTop : ScrollbackBuffer α := { self with viewportOffset := self.maxScrollUp }

def visibleLines : Option (List α) :=
  if self.lines.length = 0 then some []
  else do
    let stop ← checkedSub self.lines.length self.viewportOffset
    return (self.lines.take stop).drop (stop - self.viewportRows)

def clear : ScrollbackBuffer α := { self with lines := [], viewportOffset := 0 }

inductive Call (A : Type) where
  | pushLine (text : Text) (attr : A)
  | pushText (text : Text) (attr : A)
  | scrollUp (lines : Nat)
  | scrollDown (lines : Nat)
  | scrollToBottom
  | scrollToTop
  | clear

def perform (fromText : Text → A → Nat → α) (self : ScrollbackBuffer α) :
    Call A → Option (Option Bool × ScrollbackBuffer α)
  | .pushLine text attr => some (none, self.pushLine fromText attr text)
  | .pushText text attr => some (none, self.pushText fromText attr text)
  | .scrollUp lines => (self.scrollUp lines).map fun (scrolled, self) => (some scrolled, self)
  | .scrollDown lines => some (some (self.scrollDown lines).1, (self.scrollDown lines).2)
  | .scrollToBottom => some (none, self.scrollToBottom)
  | .scrollToTop => some (none, self.scrollToTop)
  | .clear => some (none, self.clear)

def machine (fromText : Text → A → Nat → α) : Machine (ScrollbackBuffer α) (Call A) (Option Bool) := ⟨perform fromText⟩

end ScrollbackBuffer

end PandaGen.Console
