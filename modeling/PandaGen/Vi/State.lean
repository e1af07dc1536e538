import PandaGen.Editor.Core

/-!
# The state of the vi editor

`services_editor_vi/src/state.rs`. The lines to draw again are left out: the views are drawn from the buffer. `none` is
a panic.
-/

namespace PandaGen.Vi

open Lib
open Editor (Position EditorMode)

/-! ## The text buffer

The functions have the bodies of those in `editor_core/src/buffer.rs`; there is no `delete_line`.
-/

structure TextBuffer where
  shared : Editor.TextBuffer

namespace TextBuffer

def new : TextBuffer := ⟨.new⟩

def fromString (content : Text) : TextBuffer := ⟨.fromString content⟩

variable (b : TextBuffer)

def asString : Text := b.shared.asString

def lines : List Text := b.shared.lines

def insertChar (b : TextBuffer) (pos : Position) (ch : Char) : Option (Bool × TextBuffer) :=
  (b.shared.insertChar pos ch).map fun (changed, shared) => (changed, ⟨shared⟩)

def insertNewline (b : TextBuffer) (pos : Position) : Option (Bool × TextBuffer) :=
  (b.shared.insertNewline pos).map fun (changed, shared) => (changed, ⟨shared⟩)

def deleteChar (b : TextBuffer) (pos : Position) : Option (Bool × TextBuffer) :=
  (b.shared.deleteChar pos).map fun (changed, shared) => (changed, ⟨shared⟩)

def backspace (b : TextBuffer) (pos : Position) : Option (Option Position × TextBuffer) :=
  (b.shared.backspace pos).map fun (cursor, shared) => (cursor, ⟨shared⟩)

/-! ## Edits of a buffer -/

inductive Edit where
  | insertChar (pos : Position) (ch : Char)
  | insertNewline (pos : Position)
  | deleteChar (pos : Position)
  | backspace (pos : Position)

def edit : Edit → Option (Bool × TextBuffer)
  | .insertChar pos ch => b.insertChar pos ch
  | .insertNewline pos => b.insertNewline pos
  | .deleteChar pos => b.deleteChar pos
  | .backspace pos => (b.backspace pos).map fun (cursor, b) => (cursor.isSome, b)

def machine : Machine TextBuffer Edit Bool := ⟨edit⟩

/-- An edit that does not type a newline into a line. No key stands for that character. -/
def Edit.Plain (e : Edit) : Prop := ∀ pos, e ≠ .insertChar pos '\n'

def Reached : Prop := ∃ s tr, machine.Run (fun _ e _ => e.Plain) (fromString s) tr b

end TextBuffer

/-! ## The state -/

structure EditorSnapshot where
  buffer : TextBuffer
  cursor : Position

/-- The top of a stack is at its end. -/
structure EditorState where
  mode : EditorMode
  buffer : TextBuffer
  cursor : Position
  dirty : Bool
  commandBuffer : Text
  statusMessage : Text
  documentLabel : Option Text
  undoStack : List EditorSnapshot
  redoStack : List EditorSnapshot
  searchQuery : Text
  lastSearch : Option Text

namespace EditorState

def new : EditorState where
  mode := .normal
  buffer := .new
  cursor := .zero
  dirty := false
  commandBuffer := []
  statusMessage := []
  documentLabel := none
  undoStack := []
  redoStack := []
  searchQuery := []
  lastSearch := none

variable (s : EditorState)

def setMode (mode : EditorMode) : EditorState :=
  { s with
    mode
    commandBuffer := if mode ≠ .command then [] else s.commandBuffer
    searchQuery := if mode ≠ .search then [] else s.searchQuery }

def setStatusMessage (msg : String) : EditorState := { s with statusMessage := msg.toList }

def setDocumentLabel (documentLabel : Option Text) : EditorState := { s with documentLabel }

/-- The undo and redo stacks stay as they are. -/
def loadContent (content : Text) : EditorState :=
  { s with buffer := .fromString content, cursor := .zero, dirty := false }

/-! ## The cursor -/

def clampCursorCol : EditorState :=
  let lineLen := s.buffer.shared.lineLength s.cursor.row
  if s.cursor.col > lineLen then { s with cursor.col := lineLen } else s

def moveCursorUp : EditorState :=
  if s.cursor.row > 0 then clampCursorCol { s with cursor.row := s.cursor.row - 1 } else s

def moveCursorDown : EditorState :=
  if s.cursor.row < s.buffer.shared.lineCount - 1 then clampCursorCol { s with cursor.row := s.cursor.row + 1 } else s

def moveCursorLeft : EditorState :=
  if s.cursor.col > 0 then { s with cursor.col := s.cursor.col - 1 } else s

def moveCursorRight : EditorState :=
  if s.cursor.col < s.buffer.shared.lineLength s.cursor.row then { s with cursor.col := s.cursor.col + 1 } else s

def search (query : Text) : Option (Option Position) :=
  let repeated := s.searchQuery = []
  let startCol := if repeated then s.cursor.col + 1 else s.cursor.col
  match Editor.EditorCore.searchForward query (s.buffer.lines.drop s.cursor.row) s.cursor.row startCol with
  | none => none
  | some (some pos) => some (some pos)
  | some none =>
    match Editor.EditorCore.searchLines query (s.buffer.lines.take s.cursor.row) 0 with
    | some pos => some (some pos)
    | none => if repeated then Editor.EditorCore.searchBefore query s.buffer.shared s.cursor else some none

/-- `find_next(true)` -/
def findNext : Option (Bool × EditorState) :=
  let s := if s.searchQuery ≠ [] then { s with lastSearch := some s.searchQuery } else s
  match s.lastSearch with
  | none => some (false, s)
  | some query =>
    if query = [] then some (false, s)
    else (s.search query).map fun
      | some pos => (true, { s with cursor := pos })
      | none => (false, s)

/-! ## Undo and redo -/

def maxUndoStack : Nat := 100

def snapshot : EditorSnapshot := ⟨s.buffer, s.cursor⟩

def saveUndoSnapshot : EditorState :=
  let undoStack := s.undoStack ++ [s.snapshot]
  { s with
    undoStack := if undoStack.length > maxUndoStack then undoStack.drop 1 else undoStack
    redoStack := [] }

def undo : Bool × EditorState :=
  match s.undoStack.getLast? with
  | some snapshot =>
    (true, { s with
      undoStack := s.undoStack.dropLast
      redoStack := s.redoStack ++ [s.snapshot]
      buffer := snapshot.buffer
      cursor := snapshot.cursor
      dirty := true })
  | none => (false, s)

def redo : Bool × EditorState :=
  match s.redoStack.getLast? with
  | some snapshot =>
    (true, { s with
      redoStack := s.redoStack.dropLast
      undoStack := s.undoStack ++ [s.snapshot]
      buffer := snapshot.buffer
      cursor := snapshot.cursor
      dirty := true })
  | none => (false, s)

end EditorState

end PandaGen.Vi
