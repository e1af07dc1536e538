import PandaGen.Lib.ByteText
import PandaGen.Lib.Machine

/-!
# The text buffer of the editor

`editor_core/src/buffer.rs`. Columns count bytes. A `String` operation of the source panics where its byte offset is
not a boundary; the result is `none` there.
-/

namespace PandaGen.Editor

open Lib

structure Position where
  row : Nat
  col : Nat

def Position.zero : Position := ⟨0, 0⟩

/-- Every constructor and every edit leaves at least one line. -/
structure TextBuffer where
  lines : List Text
  nonempty : lines ≠ []

namespace TextBuffer

@[ext] theorem ext {b c : TextBuffer} (h : b.lines = c.lines) : b = c := by
  cases b
  cases c
  simp_all

def new : TextBuffer := ⟨[[]], by simp⟩

def fromString (content : Text) : TextBuffer :=
  if h : content = [] then new else ⟨content.lines, fun hnil => h (Text.lines_eq_nil.mp hnil)⟩

variable (b : TextBuffer)

def asString : Text := Text.unlines b.lines

def lineCount : Nat := b.lines.length

def line (row : Nat) : Option Text := b.lines[row]?

def lineLength (row : Nat) : Nat := ((b.line row).map Text.byteLength).getD 0

def setLine (row : Nat) (line : Text) : TextBuffer :=
  ⟨b.lines.set row line, by simpa using b.nonempty⟩

def eraseLine (row : Nat) (h : 1 < b.lines.length) : TextBuffer :=
  ⟨b.lines.eraseIdx row, by
    have := b.lines.le_length_eraseIdx row
    exact List.ne_nil_of_length_pos (by omega)⟩

def insertLine (row : Nat) (line : Text) : TextBuffer :=
  ⟨b.lines.insertIdx row line, by
    have : b.lines.length ≤ (b.lines.insertIdx row line).length := List.length_le_length_insertIdx
    have := List.length_pos_of_ne_nil b.nonempty
    exact List.ne_nil_of_length_pos (by omega)⟩

theorem line_lt {b : TextBuffer} {row : Nat} {line} (h : b.line row = some line) : row < b.lines.length :=
  (List.getElem?_eq_some_iff.mp h).1

def insertChar (pos : Position) (ch : Char) : Option (Bool × TextBuffer) :=
  match b.line pos.row with
  | none => some (false, b)
  | some line =>
    if pos.col > line.byteLength then some (false, b)
    else (line.insert pos.col ch).map fun line => (true, b.setLine pos.row line)

def insertNewline (pos : Position) : Option (Bool × TextBuffer) :=
  match b.line pos.row with
  | none => some (false, b)
  | some line =>
    if pos.col > line.byteLength then some (false, b)
    else (line.splitAt? pos.col).map fun (line, rest) =>
      (true, (b.setLine pos.row line).insertLine (pos.row + 1) rest)

def deleteChar (pos : Position) : Option (Bool × TextBuffer) :=
  match b.line pos.row with
  | none => some (false, b)
  | some line =>
    if pos.col ≥ line.byteLength then some (false, b)
    else (line.remove pos.col).map fun line => (true, b.setLine pos.row line)

/-- The new position of the cursor, or `none` at the start of the text. Rows are not checked: one that is not there
panics. -/
def backspace (pos : Position) : Option (Option Position × TextBuffer) :=
  if pos.col > 0 then do
    let line ← b.line pos.row
    let line ← line.remove (pos.col - 1)
    some (some ⟨pos.row, pos.col - 1⟩, b.setLine pos.row line)
  else if hrow : pos.row > 0 then
    match h : b.line pos.row, b.line (pos.row - 1) with
    | some currentLine, some prevLine =>
      some (some ⟨pos.row - 1, prevLine.byteLength⟩,
        (b.eraseLine pos.row (Nat.lt_of_le_of_lt hrow (line_lt h))).setLine (pos.row - 1) (prevLine ++ currentLine))
    | _, _ => none
  else some (none, b)

def deleteLine (row : Nat) : Bool × TextBuffer :=
  if row ≥ b.lineCount then (false, b)
  else if h : b.lineCount > 1 then (true, b.eraseLine row h)
  else (true, b.setLine row [])

/-! ## Edits of a buffer -/

inductive Edit where
  | insertChar (pos : Position) (ch : Char)
  | insertNewline (pos : Position)
  | deleteChar (pos : Position)
  | backspace (pos : Position)
  | deleteLine (row : Nat)

def edit : Edit → Option (Bool × TextBuffer)
  | .insertChar pos ch => b.insertChar pos ch
  | .insertNewline pos => b.insertNewline pos
  | .deleteChar pos => b.deleteChar pos
  | .backspace pos => (b.backspace pos).map fun (cursor, b) => (cursor.isSome, b)
  | .deleteLine row => some (b.deleteLine row)

def machine : Machine TextBuffer Edit Bool := ⟨edit⟩

/-- An edit that does not type a newline into a line. No key stands for that character. -/
def Edit.Plain (e : Edit) : Prop := ∀ pos, e ≠ .insertChar pos '\n'

def Reached : Prop := ∃ s tr, machine.Run (fun _ e _ => e.Plain) (fromString s) tr b

end TextBuffer

end PandaGen.Editor
