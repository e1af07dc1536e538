import PandaGen.Editor.Buffer

/-!
# The editor core

`editor_core/src/{key,mode,command,core}.rs`: a modal editor as a state machine over keys. `none` is a panic.
-/

namespace PandaGen.Editor

open Lib

/-! ## Keys -/

inductive Key where
  | char (ch : Char)
  | left
  | right
  | up
  | down
  | enter
  | backspace
  | delete
  | escape
  | tab
  | space
  | h
  | j
  | k
  | l
  | i
  | a
  | x
  | d
  | u
  | n
  | colon
  | slash
  | ctrlR

def Key.fromAscii (byte : UInt8) : Option Key :=
  match byte with
  | 0x1b => some .escape
  | 0x08 => some .backspace
  | 0x7f => some .backspace
  | 0x0d => some .enter
  | 0x0a => some .enter
  | 0x09 => some .tab
  | 0x20 => some .space
  | 0x3a => some .colon
  | 0x2f => some .slash
  | 0x68 => some .h
  | 0x6a => some .j
  | 0x6b => some .k
  | 0x6c => some .l
  | 0x69 => some .i
  | 0x61 => some .a
  | 0x78 => some .x
  | 0x64 => some .d
  | 0x75 => some .u
  | 0x6e => some .n
  | ch => if 0x20 ≤ ch ∧ ch < 0x7f then some (.char (Char.ofNat ch.toNat)) else none

/-- The keys that a keyboard gives: those of a byte, and those that no byte stands for. -/
def Key.IsInput (key : Key) : Prop :=
  (∃ byte, fromAscii byte = some key) ∨ key ∈ [.left, .right, .up, .down, .delete, .ctrlR]

/-! ## Commands -/

inductive EditorMode where
  | normal
  | insert
  | command
  | search
  deriving DecidableEq

inductive Command where
  | quit (force : Bool)
  | write
  | writeAs (path : Text)
  | writeQuit
  | unknown (command : Text)
  deriving DecidableEq

def parseCommand (cmdStr : Text) : Command :=
  let trimmed := cmdStr.trim
  if trimmed = ['q'] then .quit false
  else if trimmed = ['q', '!'] then .quit true
  else if trimmed = ['w'] then .write
  else if trimmed = ['w', 'q'] then .writeQuit
  else if ['w', ' '] <+: trimmed then .writeAs (Text.trim (trimmed.drop 2))
  else .unknown trimmed

inductive CoreIoRequest where
  | save
  | saveAs (path : Text)
  | saveAndQuit

inductive CoreOutcome where
  | continue
  | changed
  | requestExit (forced : Bool)
  | statusMessage (message : Text)
  | requestIo (request : CoreIoRequest)

def CoreOutcome.isRequest : CoreOutcome → Bool
  | .requestExit _ | .requestIo _ => true
  | _ => false

/-! ## The state -/

structure BufferSnapshot where
  buffer : TextBuffer
  cursor : Position

/-- The top of a stack is at its end. -/
structure EditorCore where
  mode : EditorMode
  buffer : TextBuffer
  cursor : Position
  dirty : Bool
  commandBuffer : Text
  searchQuery : Text
  lastSearch : Option Text
  undoStack : List BufferSnapshot
  redoStack : List BufferSnapshot

namespace EditorCore

def new : EditorCore where
  mode := .normal
  buffer := .new
  cursor := .zero
  dirty := false
  commandBuffer := []
  searchQuery := []
  lastSearch := none
  undoStack := []
  redoStack := []

variable (core : EditorCore)

def loadContent (content : Text) : EditorCore :=
  { core with buffer := .fromString content, cursor := .zero, dirty := false, undoStack := [], redoStack := [] }

def markSaved : EditorCore := { core with dirty := false }

/-! ### The cursor -/

def clampCursor : EditorCore :=
  let lineLen := core.buffer.lineLength core.cursor.row
  if core.cursor.col > lineLen then { core with cursor.col := lineLen } else core

def moveCursorUp : EditorCore :=
  if core.cursor.row > 0 then clampCursor { core with cursor.row := core.cursor.row - 1 } else core

def moveCursorDown : EditorCore :=
  if core.cursor.row < core.buffer.lineCount - 1 then clampCursor { core with cursor.row := core.cursor.row + 1 }
  else core

def moveCursorLeft : EditorCore :=
  if core.cursor.col > 0 then { core with cursor.col := core.cursor.col - 1 } else core

def moveCursorRight : EditorCore :=
  if core.cursor.col < core.buffer.lineLength core.cursor.row then { core with cursor.col := core.cursor.col + 1 }
  else core

/-! ### Undo and redo -/

def maxUndoStack : Nat := 100

def snapshot : BufferSnapshot := ⟨core.buffer, core.cursor⟩

def saveUndoSnapshot : EditorCore :=
  let undoStack := core.undoStack ++ [core.snapshot]
  { core with
    undoStack := if undoStack.length > maxUndoStack then undoStack.drop 1 else undoStack
    redoStack := [] }

def undo : Bool × EditorCore :=
  match core.undoStack.getLast? with
  | some snapshot =>
    (true, { core with
      undoStack := core.undoStack.dropLast
      redoStack := core.redoStack ++ [core.snapshot]
      buffer := snapshot.buffer
      cursor := snapshot.cursor
      dirty := true })
  | none => (false, core)

def redo : Bool × EditorCore :=
  match core.redoStack.getLast? with
  | some snapshot =>
    (true, { core with
      redoStack := core.redoStack.dropLast
      undoStack := core.undoStack ++ [core.snapshot]
      buffer := snapshot.buffer
      cursor := snapshot.cursor
      dirty := true })
  | none => (false, core)

/-! ### Search -/

def searchForward (query : Text) : List Text → Nat → Nat → Option (Option Position)
  | [], _, _ => some none
  | line :: lines, row, col =>
    if col < line.byteLength then
      match line.splitAt? col with
      | none => none
      | some (_, rest) =>
        match rest.find query with
        | some pos => some (some ⟨row, col + pos⟩)
        | none => searchForward query lines (row + 1) 0
    else searchForward query lines (row + 1) 0

def searchLines (query : Text) : List Text → Nat → Option Position
  | [], _ => none
  | line :: lines, row =>
    match line.find query with
    | some pos => some ⟨row, pos⟩
    | none => searchLines query lines (row + 1)

def searchBefore (query : Text) (buffer : TextBuffer) (pos : Position) : Option (Option Position) :=
  match buffer.line pos.row with
  | none => some none
  | some line => (line.splitAt? (min pos.col line.byteLength)).map fun (before, _) =>
    (before.find query).map fun col => ⟨pos.row, col⟩

/-- The position that `query` is found at. A repeated search starts after the cursor and ends before it. -/
def search (query : Text) : Option (Option Position) :=
  let repeated := core.searchQuery = []
  let startCol := if repeated then core.cursor.col + 1 else core.cursor.col
  match searchForward query (core.buffer.lines.drop core.cursor.row) core.cursor.row startCol with
  | none => none
  | some (some pos) => some (some pos)
  | some none =>
    match searchLines query (core.buffer.lines.take core.cursor.row) 0 with
    | some pos => some (some pos)
    | none => if repeated then searchBefore query core.buffer core.cursor else some none

def findNext : Option (Bool × EditorCore) :=
  let core := if core.searchQuery ≠ [] then { core with lastSearch := some core.searchQuery } else core
  match core.lastSearch with
  | none => some (false, core)
  | some query =>
    if query = [] then some (false, core)
    else (core.search query).map fun
      | some pos => (true, { core with cursor := pos })
      | none => (false, core)

/-! ### Modes -/

def insertCharInInsertMode (ch : Char) : Option (CoreOutcome × EditorCore) :=
  let core := core.saveUndoSnapshot
  (core.buffer.insertChar core.cursor ch).map fun
    | (true, buffer) => (.changed, { core with buffer := buffer, cursor.col := core.cursor.col + 1, dirty := true })
    | (false, buffer) => (.continue, { core with buffer := buffer })

def patternNotFound : Text := "Pattern not found".toList

def handleNormalMode : Key → Option (CoreOutcome × EditorCore)
  | .i => some (.changed, { core with mode := .insert })
  | .a => some (.changed, moveCursorRight { core with mode := .insert })
  | .h | .left => some (.changed, core.moveCursorLeft)
  | .j | .down => some (.changed, core.moveCursorDown)
  | .k | .up => some (.changed, core.moveCursorUp)
  | .l | .right => some (.changed, core.moveCursorRight)
  | .x =>
    let core := core.saveUndoSnapshot
    (core.buffer.deleteChar core.cursor).map fun
      | (true, buffer) => (.changed, { core with buffer := buffer, dirty := true })
      | (false, buffer) => (.continue, { core with buffer := buffer })
  | .d =>
    let core := core.saveUndoSnapshot
    match core.buffer.deleteLine core.cursor.row with
    | (true, buffer) =>
      let row := if core.cursor.row ≥ buffer.lineCount then buffer.lineCount - 1 else core.cursor.row
      some (.changed, clampCursor { core with buffer := buffer, cursor.row := row, dirty := true })
    | (false, buffer) => some (.continue, { core with buffer := buffer })
  | .u =>
    match core.undo with
    | (true, core) => some (.statusMessage "Undo".toList, core)
    | (false, core) => some (.statusMessage "Already at oldest change".toList, core)
  | .ctrlR =>
    match core.redo with
    | (true, core) => some (.statusMessage "Redo".toList, core)
    | (false, core) => some (.statusMessage "Already at newest change".toList, core)
  | .colon => some (.changed, { core with mode := .command, commandBuffer := [] })
  | .slash => some (.changed, { core with mode := .search, searchQuery := [] })
  | .n => core.findNext.map fun (found, core) => (if found then .changed else .statusMessage patternNotFound, core)
  | _ => some (.continue, core)

def handleInsertMode : Key → Option (CoreOutcome × EditorCore)
  | .escape => some (.changed, clampCursor (moveCursorLeft { core with mode := .normal }))
  | .char ch => core.insertCharInInsertMode ch
  | .i => core.insertCharInInsertMode 'i'
  | .a => core.insertCharInInsertMode 'a'
  | .h => core.insertCharInInsertMode 'h'
  | .j => core.insertCharInInsertMode 'j'
  | .k => core.insertCharInInsertMode 'k'
  | .l => core.insertCharInInsertMode 'l'
  | .x => core.insertCharInInsertMode 'x'
  | .d => core.insertCharInInsertMode 'd'
  | .u => core.insertCharInInsertMode 'u'
  | .n => core.insertCharInInsertMode 'n'
  | .space => core.insertCharInInsertMode ' '
  | .enter =>
    let core := core.saveUndoSnapshot
    (core.buffer.insertNewline core.cursor).map fun
      | (true, buffer) =>
        (.changed, { core with buffer := buffer, cursor := ⟨core.cursor.row + 1, 0⟩, dirty := true })
      | (false, buffer) => (.continue, { core with buffer := buffer })
  | .backspace =>
    let core := core.saveUndoSnapshot
    (core.buffer.backspace core.cursor).map fun
      | (some newPos, buffer) => (.changed, { core with buffer := buffer, cursor := newPos, dirty := true })
      | (none, buffer) => (.continue, { core with buffer := buffer })
  | _ => some (.continue, core)

def executeCommand : CoreOutcome :=
  match parseCommand core.commandBuffer with
  | .quit force =>
    if core.dirty && !force then
      .statusMessage "No write since last change (use :q! to override)".toList
    else .requestExit force
  | .write => .requestIo .save
  | .writeAs path => .requestIo (.saveAs path)
  | .writeQuit => if core.dirty then .requestIo .saveAndQuit else .requestExit false
  | .unknown cmdStr => .statusMessage ("Unknown command: ".toList ++ cmdStr)

def handleCommandMode : Key → CoreOutcome × EditorCore
  | .escape => (.changed, { core with mode := .normal, commandBuffer := [] })
  | .enter =>
    match core.executeCommand with
    | .requestExit forced => (.requestExit forced, core)
    | outcome => (outcome, { core with mode := .normal })
  | .backspace => (.changed, { core with commandBuffer := core.commandBuffer.dropLast })
  | .char ch => (.changed, { core with commandBuffer := core.commandBuffer ++ [ch] })
  | .space => (.changed, { core with commandBuffer := core.commandBuffer ++ [' '] })
  | _ => (.continue, core)

/-- The query is cleared after the search, so that a later one knows that it is a repetition. -/
def handleSearchMode : Key → Option (CoreOutcome × EditorCore)
  | .escape => some (.changed, { core with mode := .normal, searchQuery := [] })
  | .enter => core.findNext.map fun (found, core) =>
    (if found then .changed else .statusMessage patternNotFound, { core with mode := .normal, searchQuery := [] })
  | .backspace => some (.changed, { core with searchQuery := core.searchQuery.dropLast })
  | .char ch => some (.changed, { core with searchQuery := core.searchQuery ++ [ch] })
  | .space => some (.changed, { core with searchQuery := core.searchQuery ++ [' '] })
  | _ => some (.continue, core)

def applyKey (key : Key) : Option (CoreOutcome × EditorCore) :=
  match core.mode with
  | .normal => core.handleNormalMode key
  | .insert => core.handleInsertMode key
  | .command => some (core.handleCommandMode key)
  | .search => core.handleSearchMode key

inductive Call where
  | key (key : Key)
  | loadContent (content : Text)
  | markSaved

def machine : Machine EditorCore Call (Option CoreOutcome) where
  step core
    | .key key => (core.applyKey key).map fun (outcome, core) => (some outcome, core)
    | .loadContent content => some (none, core.loadContent content)
    | .markSaved => some (none, core.markSaved)

end EditorCore

end PandaGen.Editor
