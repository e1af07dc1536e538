import PandaGen.Editor.Core
import PandaGen.Editor.Lemmas.Buffer
import PandaGen.Lib.Walk

/-!
# What a key does

A key leaves the text alone, makes one edit at the cursor, or brings back a snapshot.
-/

namespace PandaGen.Editor

open Lib Option List Nat TextBuffer Text

variable {ch : Char}

variable {key : Key}

/-! ## Keys -/

def Key.Types (key : Key) (ch : Char) : Prop :=
  key = .char ch ∨ ch ∈ ['i', 'a', 'h', 'j', 'k', 'l', 'x', 'd', 'u', 'n', ' ']

theorem Key.toNat_ofNat (byte : UInt8) : (Char.ofNat byte.toNat).toNat = byte.toNat := by
  have hvalid : byte.toNat.isValidChar := .inl (by have := byte.toNat_lt; omega)
  rw [Char.ofNat, dif_pos hvalid]
  rfl

theorem Key.IsInput.types (h : key.IsInput) (htypes : key.Types ch) : 0x20 ≤ ch.toNat ∧ ch.toNat < 0x7f := by
  rcases htypes with rfl | hmem
  · rcases h with ⟨byte, hbyte⟩ | hmem
    · unfold fromAscii at hbyte
      split at hbyte
      all_goals try cases hbyte
      split at hbyte
      · rename_i hrange
        have hlow : 0x20 ≤ byte.toNat := UInt8.le_iff_toNat_le.mp hrange.1
        have hhigh : byte.toNat < 0x7f := UInt8.lt_iff_toNat_lt.mp hrange.2
        cases hbyte
        rw [toNat_ofNat]
        exact ⟨hlow, hhigh⟩
      · cases hbyte
    · simp at hmem
  · simp only [mem_cons, not_mem_nil, or_false] at hmem
    rcases hmem with rfl | rfl | rfl | rfl | rfl | rfl | rfl | rfl | rfl | rfl | rfl <;> decide

namespace EditorCore

variable {b : TextBuffer} {row : Nat} {query : Text} {pos : Position}

variable {core core' : EditorCore} {outcome : CoreOutcome} {P : BufferSnapshot → Prop}

/-! ## The cursor -/

def MovesTo (core core' : EditorCore) : Prop :=
  ∃ pos, core' = { core with cursor := pos } ∧ (core.buffer.Contains core.cursor → core.buffer.Contains pos)

theorem clampCursor_eq (core : EditorCore) : core.clampCursor =
      { core with cursor := ⟨core.cursor.row, min core.cursor.col (core.buffer.lineLength core.cursor.row)⟩ } := by
  simp only [clampCursor]
  split
  · rw [Nat.min_eq_right (by omega)]
  · rw [Nat.min_eq_left (by omega)]

theorem contains_clamp (h : row < b.lineCount) (col : Nat) : b.Contains ⟨row, min col (b.lineLength row)⟩ :=
  .of_lt h (min_le_right _ _)

theorem MovesTo.refl (core : EditorCore) : core.MovesTo core := ⟨core.cursor, rfl, id⟩

theorem MovesTo.trans {core''} (h : core.MovesTo core') (h' : core'.MovesTo core'') : core.MovesTo core'' := by
  obtain ⟨pos, rfl, hpos⟩ := h
  obtain ⟨pos', rfl, hpos'⟩ := h'
  exact ⟨pos', rfl, fun hc => hpos' (hpos hc)⟩

theorem clampCursor_movesTo (core : EditorCore) : core.MovesTo core.clampCursor :=
  ⟨_, clampCursor_eq core, fun h => contains_clamp h.lt _⟩

theorem moveCursorUp_movesTo (core : EditorCore) : core.MovesTo core.moveCursorUp := by
  unfold moveCursorUp
  split
  · rw [clampCursor_eq]
    exact ⟨_, rfl, fun h => contains_clamp (lt_of_le_of_lt (sub_le _ _) h.lt) _⟩
  · exact .refl core

theorem moveCursorDown_movesTo (core : EditorCore) : core.MovesTo core.moveCursorDown := by
  unfold moveCursorDown
  split
  · rw [clampCursor_eq]
    exact ⟨_, rfl, fun h => contains_clamp (by dsimp only; omega) _⟩
  · exact .refl core

theorem moveCursorLeft_movesTo (core : EditorCore) : core.MovesTo core.moveCursorLeft := by
  unfold moveCursorLeft
  split
  · exact ⟨_, rfl, fun h => .of_lt h.lt (le_trans (sub_le _ _) h.le)⟩
  · exact .refl core

theorem moveCursorRight_movesTo (core : EditorCore) : core.MovesTo core.moveCursorRight := by
  unfold moveCursorRight
  split
  · rename_i hcol
    exact ⟨_, rfl, fun h => .of_lt h.lt hcol⟩
  · exact .refl core

/-! ## Search -/

theorem searchForward_contains {col} (h : searchForward query (b.lines.drop row) row col = some (some pos)) :
    b.Contains pos := by
  generalize hls : b.lines.drop row = ls at h
  induction ls generalizing row col with
  | nil => cases h
  | cons line ls ih =>
    obtain ⟨hline, hrest⟩ := walk_cons hls
    unfold searchForward at h
    split at h
    · split at h
      · cases h
      · rename_i before rest hsplit
        obtain ⟨rfl, rfl⟩ := splitAt?_eq_some.mp hsplit
        split at h
        · rename_i n hn
          cases h
          have := find_le hn
          exact ⟨_, hline, by simpa using this⟩
        · exact ih hrest h
    · exact ih hrest h

theorem searchLines_contains {bound} (h : searchLines query ((b.lines.take bound).drop row) row = some pos) :
    b.Contains pos := by
  generalize hls : (b.lines.take bound).drop row = ls at h
  induction ls generalizing row with
  | nil => cases h
  | cons line ls ih =>
    obtain ⟨hline, hrest⟩ := walk_cons hls
    rw [getElem?_take, ite_none_right_eq_some] at hline
    unfold searchLines at h
    split at h
    · rename_i n hn
      cases h
      exact ⟨line, hline.2, find_le hn⟩
    · exact ih hrest h

theorem searchBefore_contains {start} (h : searchBefore query b start = some (some pos)) : b.Contains pos := by
  unfold searchBefore at h
  split at h
  · cases h
  · rename_i line hline
    obtain ⟨⟨before, rest⟩, hsplit, hfind⟩ := map_eq_some_iff.mp h
    obtain ⟨rfl, -⟩ := splitAt?_eq_some.mp hsplit
    obtain ⟨n, hn, rfl⟩ := map_eq_some_iff.mp hfind
    have := find_le hn
    exact ⟨_, hline, by simp only [byteLength_append]; omega⟩

theorem search_contains (h : core.search query = some (some pos)) : core.buffer.Contains pos := by
  simp only [search] at h
  split at h
  · cases h
  · rename_i hforward
    cases h
    exact searchForward_contains hforward
  · split at h
    · rename_i hlines
      cases h
      exact searchLines_contains (b := core.buffer) (by rwa [drop_zero])
    · split at h
      · exact searchBefore_contains h
      · cases h

theorem findNext_effect {found} (h : core.findNext = some (found, core')) :
    ∃ lastSearch pos, core' = { core with lastSearch := lastSearch, cursor := pos } ∧
      (core.buffer.Contains core.cursor → core.buffer.Contains pos) ∧ (found = false → pos = core.cursor) := by
  have hlast : ∃ lastSearch, (if core.searchQuery ≠ [] then { core with lastSearch := some core.searchQuery } else core)
      = { core with lastSearch := lastSearch } := by
    split
    · exact ⟨_, rfl⟩
    · exact ⟨core.lastSearch, rfl⟩
  obtain ⟨lastSearch, hlast⟩ := hlast
  simp only [findNext, hlast] at h
  split at h
  · cases h
    exact ⟨_, core.cursor, rfl, id, fun _ => rfl⟩
  · split at h
    · cases h
      exact ⟨_, core.cursor, rfl, id, fun _ => rfl⟩
    · obtain ⟨result, hresult, heq⟩ := map_eq_some_iff.mp h
      cases result with
      | none =>
        cases heq
        exact ⟨_, core.cursor, rfl, id, fun _ => rfl⟩
      | some pos =>
        cases heq
        exact ⟨_, pos, rfl, fun _ => search_contains hresult, nofun⟩

theorem saveUndoSnapshot_eq (core : EditorCore) :
    ∃ stack, core.saveUndoSnapshot = { core with undoStack := stack, redoStack := [] } ∧
      stack ⊆ core.undoStack ++ [core.snapshot] := by
  refine ⟨_, rfl, ?_⟩
  split
  · exact drop_subset _ _
  · exact fun _ h => h

/-! ## Effects -/

inductive Effect (key : Key) (core core' : EditorCore) : Prop
  | moved (hbuffer : core'.buffer = core.buffer) (hdirty : core'.dirty = core.dirty)
      (hundo : core'.undoStack = core.undoStack) (hredo : core'.redoStack = core.redoStack)
      (hcursor : core.buffer.Contains core.cursor → core'.buffer.Contains core'.cursor)
  | edited (edit : TextBuffer.Edit) (changed : Bool) (hedit : core.buffer.edit edit = some (changed, core'.buffer))
      (htypes : ∀ pos ch, edit = .insertChar pos ch → key.Types ch) (hdirty : core'.dirty = (changed || core.dirty))
      (hundo : core'.undoStack ⊆ core.undoStack ++ [core.snapshot]) (hredo : core'.redoStack = [])
      (hcursor : core.buffer.Contains core.cursor → core'.buffer.Contains core'.cursor)
  | restored (hsnapshot : core'.snapshot ∈ core.undoStack ++ core.redoStack) (hdirty : core'.dirty = true)
      (hundo : core'.undoStack ⊆ core.undoStack ++ [core.snapshot])
      (hredo : core'.redoStack ⊆ core.redoStack ++ [core.snapshot])

theorem Effect.of_movesTo (h : core.MovesTo core') : Effect key core core' := by
  obtain ⟨pos, rfl, hpos⟩ := h
  exact .moved rfl rfl rfl rfl hpos

theorem Effect.of_edit {edit changed buffer cursor} (hedit : core.buffer.edit edit = some (changed, buffer))
    (htypes : ∀ pos ch, edit = .insertChar pos ch → key.Types ch)
    (hcursor : core.buffer.Contains core.cursor → buffer.Contains cursor) :
    Effect key core { core.saveUndoSnapshot with buffer, cursor, dirty := changed || core.dirty } := by
  obtain ⟨stack, hsave, hstack⟩ := saveUndoSnapshot_eq core
  rw [hsave]
  exact .edited edit changed hedit htypes rfl hstack rfl hcursor

theorem undo_effect (core : EditorCore) : Effect key core core.undo.2 := by
  unfold undo
  split
  · rename_i snapshot hlast
    refine .restored ?_ rfl ?_ (fun _ h => h)
    · exact mem_append_left _ (mem_of_getLast? hlast)
    · exact fun s hs => mem_append_left _ (dropLast_subset _ hs)
  · exact .of_movesTo (.refl core)

theorem redo_effect (core : EditorCore) : Effect key core core.redo.2 := by
  unfold redo
  split
  · rename_i snapshot hlast
    refine .restored ?_ rfl (fun _ h => h) ?_
    · exact mem_append_right _ (mem_of_getLast? hlast)
    · exact fun s hs => mem_append_left _ (dropLast_subset _ hs)
  · exact .of_movesTo (.refl core)

def Handles (key : Key) (core : EditorCore) (outcome : CoreOutcome) (core' : EditorCore) : Prop :=
  Effect key core core' ∧ outcome.isRequest = false

theorem insertCharInInsertMode_handles (hch : key.Types ch)
    (h : core.insertCharInInsertMode ch = some (outcome, core')) : Handles key core outcome core' := by
  obtain ⟨⟨changed, buffer⟩, hinsert, heq⟩ := map_eq_some_iff.mp h
  have hedit : core.buffer.edit (.insertChar core.cursor ch) = some (changed, buffer) := hinsert
  have htypes : ∀ pos c, TextBuffer.Edit.insertChar core.cursor ch = .insertChar pos c → key.Types c := by
    rintro _ _ ⟨⟩
    exact hch
  rcases insertChar_cases hinsert with ⟨rfl, rfl⟩ | ⟨rfl, u, v, hline, hcol, rfl⟩
  · cases heq
    exact ⟨.of_edit hedit htypes id, rfl⟩
  · cases heq
    refine ⟨.of_edit hedit htypes fun hc => ⟨_, line_setLine hc.lt, ?_⟩, rfl⟩
    have := ch.utf8Size_pos
    simp only [byteLength_append, byteLength_cons]
    exact Nat.add_le_add hcol.symm.le (by omega)

theorem deleteChar_handles (h : core.handleNormalMode .x = some (outcome, core')) : Handles key core outcome core' := by
  obtain ⟨⟨changed, buffer⟩, hdelete, heq⟩ := map_eq_some_iff.mp h
  have hedit : core.buffer.edit (.deleteChar core.cursor) = some (changed, buffer) := hdelete
  rcases deleteChar_cases hdelete with ⟨rfl, rfl⟩ | ⟨rfl, u, c, v, hline, hcol, rfl⟩
  · cases heq
    exact ⟨.of_edit hedit nofun id, rfl⟩
  · cases heq
    refine ⟨.of_edit hedit nofun fun hc => ⟨_, line_setLine hc.lt, ?_⟩, rfl⟩
    rw [byteLength_append]
    exact le_add_right_of_le hcol.symm.le

theorem deleteLine_handles (h : core.handleNormalMode .d = some (outcome, core')) : Handles key core outcome core' := by
  simp only [handleNormalMode, clampCursor_eq] at h
  split at h
  · rename_i buffer hdelete
    have hedit : core.buffer.edit (.deleteLine core.cursor.row) = some (true, buffer) := congrArg some hdelete
    cases h
    refine ⟨.of_edit hedit nofun fun _ => contains_clamp ?_ _, rfl⟩
    have hpos : 0 < buffer.lineCount := length_pos_of_ne_nil buffer.nonempty
    by_cases hrow : core.saveUndoSnapshot.cursor.row ≥ buffer.lineCount
    · simp only [hrow, if_true]
      omega
    · simp only [hrow, if_false]
      omega
  · rename_i buffer hdelete
    have hedit : core.buffer.edit (.deleteLine core.cursor.row) = some (false, buffer) := congrArg some hdelete
    obtain rfl := edit_false hedit
    cases h
    exact ⟨.of_edit hedit nofun id, rfl⟩

theorem insertNewline_handles (h : core.handleInsertMode .enter = some (outcome, core')) :
    Handles key core outcome core' := by
  obtain ⟨⟨changed, buffer⟩, hinsert, heq⟩ := map_eq_some_iff.mp h
  have hedit : core.buffer.edit (.insertNewline core.cursor) = some (changed, buffer) := hinsert
  rcases insertNewline_cases hinsert with ⟨rfl, rfl⟩ | ⟨rfl, u, v, hline, -, rfl⟩
  · cases heq
    exact ⟨.of_edit hedit nofun id, rfl⟩
  · cases heq
    refine ⟨.of_edit hedit nofun fun hc => ⟨v, line_insertLine ?_, zero_le _⟩, rfl⟩
    rw [lineCount_setLine]
    exact hc.lt

theorem backspace_handles (h : core.handleInsertMode .backspace = some (outcome, core')) :
    Handles key core outcome core' := by
  obtain ⟨⟨cursor, buffer⟩, hback, heq⟩ := map_eq_some_iff.mp h
  have hedit : core.buffer.edit (.backspace core.cursor) = some (cursor.isSome, buffer) :=
    map_eq_some_iff.mpr ⟨_, hback, rfl⟩
  rcases backspace_cases hback with ⟨rfl, rfl⟩ | ⟨u, c, v, hline, -, rfl, rfl⟩ |
    ⟨row, current, previous, hcount, -, hcurrent, hprevious, rfl, rfl⟩
  · cases heq
    exact ⟨.of_edit hedit nofun id, rfl⟩
  · cases heq
    exact ⟨.of_edit hedit nofun fun hc => ⟨_, line_setLine hc.lt, by simp⟩, rfl⟩
  · cases heq
    have hlt := line_lt hcurrent
    refine ⟨.of_edit hedit nofun fun hc => ⟨_, line_setLine ?_, by simp⟩, rfl⟩
    exact (lt_sub_of_add_lt hlt).trans_eq (length_eraseIdx_of_lt hlt).symm

theorem handleNormalMode_handles (h : core.handleNormalMode key = some (outcome, core')) :
    Handles key core outcome core' := by
  cases key with
  | x => exact deleteChar_handles h
  | d => exact deleteLine_handles h
  | u =>
    have heffect : Effect .u core core.undo.2 := core.undo_effect
    simp only [handleNormalMode] at h
    split at h <;> rename_i hundo <;> rw [hundo] at heffect <;> cases h <;> exact ⟨heffect, rfl⟩
  | ctrlR =>
    have heffect : Effect .ctrlR core core.redo.2 := core.redo_effect
    simp only [handleNormalMode] at h
    split at h <;> rename_i hredo <;> rw [hredo] at heffect <;> cases h <;> exact ⟨heffect, rfl⟩
  | n =>
    obtain ⟨⟨found, _⟩, hfind, ⟨⟩⟩ := map_eq_some_iff.mp h
    obtain ⟨lastSearch, pos, rfl, hpos, -⟩ := findNext_effect hfind
    exact ⟨.moved rfl rfl rfl rfl hpos, by cases found <;> rfl⟩
  | a =>
    cases h
    obtain ⟨pos, heq, hpos⟩ := moveCursorRight_movesTo { core with mode := .insert }
    rw [heq]
    exact ⟨.moved rfl rfl rfl rfl hpos, rfl⟩
  | h | left => cases h; exact ⟨.of_movesTo core.moveCursorLeft_movesTo, rfl⟩
  | j | down => cases h; exact ⟨.of_movesTo core.moveCursorDown_movesTo, rfl⟩
  | k | up => cases h; exact ⟨.of_movesTo core.moveCursorUp_movesTo, rfl⟩
  | l | right => cases h; exact ⟨.of_movesTo core.moveCursorRight_movesTo, rfl⟩
  | _ => cases h; exact ⟨.moved rfl rfl rfl rfl id, rfl⟩

theorem handleInsertMode_handles (h : core.handleInsertMode key = some (outcome, core')) :
    Handles key core outcome core' := by
  cases key with
  | escape =>
    cases h
    obtain ⟨pos, heq, hpos⟩ :=
      (moveCursorLeft_movesTo { core with mode := .normal }).trans (clampCursor_movesTo _)
    rw [heq]
    exact ⟨.moved rfl rfl rfl rfl hpos, rfl⟩
  | char ch => exact insertCharInInsertMode_handles (.inl rfl) h
  | enter => exact insertNewline_handles h
  | backspace => exact backspace_handles h
  | i | a | h | j | k | l | x | d | u | n | space => exact insertCharInInsertMode_handles (.inr (by decide)) h
  | _ => cases h; exact ⟨.moved rfl rfl rfl rfl id, rfl⟩

theorem handleCommandMode_effect (core key) : Effect key core (core.handleCommandMode key).2 := by
  cases key with
  | enter =>
    unfold handleCommandMode
    dsimp only
    split <;> exact .moved rfl rfl rfl rfl id
  | _ => exact .moved rfl rfl rfl rfl id

theorem handleSearchMode_handles (h : core.handleSearchMode key = some (outcome, core')) :
    Handles key core outcome core' := by
  cases key with
  | enter =>
    obtain ⟨⟨found, _⟩, hfind, ⟨⟩⟩ := map_eq_some_iff.mp h
    obtain ⟨lastSearch, pos, rfl, hpos, -⟩ := findNext_effect hfind
    exact ⟨.moved rfl rfl rfl rfl hpos, by cases found <;> rfl⟩
  | _ => cases h; exact ⟨.moved rfl rfl rfl rfl id, rfl⟩

theorem applyKey_effect (h : core.applyKey key = some (outcome, core')) : Effect key core core' := by
  unfold applyKey at h
  split at h
  · exact (handleNormalMode_handles h).1
  · exact (handleInsertMode_handles h).1
  · have : core' = (core.handleCommandMode key).2 := by rw [some.inj h]
    exact this ▸ handleCommandMode_effect core key
  · exact (handleSearchMode_handles h).1

/-! ## Invariants -/

def Every (P : BufferSnapshot → Prop) (core : EditorCore) : Prop :=
  P core.snapshot ∧ ∀ s ∈ core.undoStack ++ core.redoStack, P s

def Writes (key : Key) (b b' : TextBuffer) : Prop :=
  b' = b ∨ ∃ edit changed, b.edit edit = some (changed, b') ∧ ∀ pos ch, edit = .insertChar pos ch → key.Types ch

theorem Effect.every (h : Effect key core core') (hevery : core.Every P) (hP : Writes key core.buffer core'.buffer →
      (core.buffer.Contains core.cursor → core'.buffer.Contains core'.cursor) → P core'.snapshot) :
    core'.Every P := by
  obtain ⟨hnow, hstacks⟩ := hevery
  have hsaved : ∀ s ∈ core.undoStack ++ [core.snapshot], P s := by
    simp only [forall_mem_append, forall_mem_singleton] at hstacks ⊢
    exact ⟨hstacks.1, hnow⟩
  cases h with
  | moved hbuffer _ hundo hredo hcursor =>
    refine ⟨hP (.inl hbuffer) hcursor, ?_⟩
    rwa [hundo, hredo]
  | edited edit changed hedit htypes _ hundo hredo hcursor =>
    refine ⟨hP (.inr ⟨edit, changed, hedit, htypes⟩) hcursor, ?_⟩
    rw [hredo, append_nil]
    exact fun s hs => hsaved s (hundo hs)
  | restored hsnapshot _ hundo hredo =>
    refine ⟨hstacks _ hsnapshot, forall_mem_append.mpr ⟨fun s hs => hsaved s (hundo hs), fun s hs => ?_⟩⟩
    rcases mem_append.mp (hredo hs) with hs | hs
    · exact hstacks s (mem_append_right _ hs)
    · exact mem_singleton.mp hs ▸ hnow

theorem every_loadContent {content} (h : P ⟨.fromString content, .zero⟩) : (core.loadContent content).Every P :=
  ⟨h, by simp [loadContent]⟩

/-- The cursor is in the text, and so it would be after an undo or a redo. -/
def CursorInText (core : EditorCore) : Prop := core.Every fun s => s.buffer.Contains s.cursor

theorem CursorInText.applyKey (hc : core.CursorInText) (h : core.applyKey key = some (outcome, core')) :
    core'.CursorInText :=
  (applyKey_effect h).every hc fun _ hcursor => hcursor hc.1

theorem Every.allChars_applyKey {q} (hq : core.Every fun s => s.buffer.AllChars q)
    (hkey : ∀ ch, key.Types ch → q ch) (h : core.applyKey key = some (outcome, core')) :
    core'.Every fun s => s.buffer.AllChars q := by
  refine (applyKey_effect h).every hq fun hwrites _ => ?_
  rcases hwrites with heq | ⟨edit, changed, hedit, htypes⟩
  · have : core'.snapshot.buffer = core.snapshot.buffer := heq
    exact this ▸ hq.1
  · exact hq.1.edit (fun pos ch he => hkey ch (htypes pos ch he)) hedit

/-! ## Where a key panics -/

theorem searchForward_isSome (query ls row col)
    (h : ∀ line, ls.head? = some line → col ≤ line.byteLength → line.IsBoundary col) :
    (searchForward query ls row col).isSome = true := by
  induction ls generalizing row col with
  | nil => rfl
  | cons line ls ih =>
    have hrest := ih (row + 1) 0 fun line _ _ => line.isBoundary_zero
    unfold searchForward
    split
    · rename_i hcol
      obtain ⟨⟨before, rest⟩, hsplit⟩ := isSome_iff_exists.mp (h line rfl (le_of_lt hcol))
      rw [hsplit]
      dsimp only
      split
      · rfl
      · exact hrest
    · exact hrest

variable {line : Text}

section

variable (hline : core.buffer.line core.cursor.row = some line)
include hline

theorem search_isSome (hascii : line.Ascii) (query) : (core.search query).isSome = true := by
  have hforward : ∀ col,
      (searchForward query (core.buffer.lines.drop core.cursor.row) core.cursor.row col).isSome = true := by
    intro col
    refine searchForward_isSome query _ _ col fun l hl hcol => ?_
    rw [head?_drop] at hl
    obtain rfl := some.inj (hline.symm.trans hl)
    exact hascii.isBoundary hcol
  have hbefore : (searchBefore query core.buffer core.cursor).isSome = true := by
    simp only [searchBefore, hline, isSome_map]
    exact hascii.isBoundary (min_le_right _ _)
  simp only [search]
  split
  · rename_i hnone
    have := hforward (if core.searchQuery = [] then core.cursor.col + 1 else core.cursor.col)
    rw [hnone] at this
    cases this
  · rfl
  · split
    · rfl
    · split
      · exact hbefore
      · rfl

theorem findNext_isSome (hascii : line.Ascii) : core.findNext.isSome = true := by
  simp only [findNext]
  split
  · rfl
  · split
    · rfl
    · rw [isSome_map]
      split <;> exact search_isSome hline hascii _

/-- A key panics only where the line of the cursor has a character of more than one byte in it. -/
theorem applyKey_isSome (hcol : core.cursor.col ≤ line.byteLength) (hascii : line.Ascii) (key) :
    (core.applyKey key).isSome = true := by
  have hinsert : ∀ ch, (core.insertCharInInsertMode ch).isSome = true := by
    intro ch
    simp only [insertCharInInsertMode, isSome_map]
    exact insertChar_isSome hline hascii ch
  unfold applyKey
  split
  · cases key with
    | x =>
      simp only [handleNormalMode, isSome_map]
      exact deleteChar_isSome hline hascii
    | n =>
      simp only [handleNormalMode, isSome_map]
      exact findNext_isSome hline hascii
    | d | u | ctrlR =>
      simp only [handleNormalMode]
      split <;> rfl
    | _ => rfl
  · cases key with
    | char ch => exact hinsert ch
    | enter => exact isSome_map.trans (insertNewline_isSome hline hascii)
    | backspace => exact isSome_map.trans (backspace_isSome hline hcol hascii)
    | i | a | h | j | k | l | x | d | u | n | space => exact hinsert _
    | _ => rfl
  · rfl
  · cases key with
    | enter => exact isSome_map.trans (findNext_isSome hline hascii)
    | _ => rfl

end

/-- Only an undo or a redo moves the cursor without telling of a change. -/
theorem applyKey_still (h : core.applyKey key = some (outcome, core')) (hundo : core.mode = .normal → key ≠ .u)
    (hredo : key ≠ .ctrlR) : outcome = .changed ∨ core'.cursor = core.cursor := by
  have hfind : ∀ {found core'}, core.findNext = some (found, core') →
      (if found then CoreOutcome.changed else .statusMessage patternNotFound) = .changed ∨
        core'.cursor = core.cursor := by
    intro found core' h
    obtain ⟨lastSearch, pos, rfl, -, hpos⟩ := findNext_effect h
    cases found with
    | true => exact .inl rfl
    | false => exact .inr (hpos rfl)
  unfold applyKey at h
  split at h
  · rename_i hmode
    cases key with
    | u => exact absurd rfl (hundo hmode)
    | ctrlR => contradiction
    | x => obtain ⟨⟨_ | _, _⟩, -, ⟨⟩⟩ := map_eq_some_iff.mp h <;> simp [saveUndoSnapshot]
    | d =>
      simp only [handleNormalMode] at h
      split at h <;> cases h <;> simp [saveUndoSnapshot]
    | n =>
      obtain ⟨⟨found, core'⟩, hn, ⟨⟩⟩ := map_eq_some_iff.mp h
      exact hfind hn
    | _ => cases h; simp
  · cases key with
    | char | enter | backspace | i | a | h | j | k | l | x | d | u | n | space =>
      obtain ⟨⟨_ | _, _⟩, -, ⟨⟩⟩ := map_eq_some_iff.mp h <;> simp [saveUndoSnapshot]
    | _ => cases h; simp
  · cases key with
    | enter =>
      simp only [handleCommandMode] at h
      split at h <;> cases h <;> simp
    | _ => cases h; simp
  · cases key with
    | enter =>
      obtain ⟨⟨found, core'⟩, hn, ⟨⟩⟩ := map_eq_some_iff.mp h
      exact (hfind hn :)
    | _ => cases h; simp

/-! ## Requests to exit -/

theorem applyKey_request (h : core.applyKey key = some (outcome, core')) (hrequest : outcome.isRequest = true) :
    core.executeCommand = outcome ∧ core'.buffer = core.buffer ∧ core'.dirty = core.dirty := by
  unfold applyKey at h
  split at h
  · simp [(handleNormalMode_handles h).2] at hrequest
  · simp [(handleInsertMode_handles h).2] at hrequest
  · cases key with
    | enter =>
      unfold handleCommandMode at h
      dsimp only at h
      split at h
      · rename_i forced hexit
        cases h
        exact ⟨hexit, rfl, rfl⟩
      · cases h
        exact ⟨rfl, rfl, rfl⟩
    | _ => cases h; cases hrequest
  · simp [(handleSearchMode_handles h).2] at hrequest

/-- The requests to quit. An editor that is dirty is left by force or after a save. -/
theorem executeCommand_exit {forced} (h : core.executeCommand = .requestExit forced) :
    (forced = true ∧ parseCommand core.commandBuffer = .quit true) ∨ (forced = false ∧ core.dirty = false) := by
  unfold executeCommand at h
  split at h
  · rename_i hparse
    split at h
    · cases h
    · cases h
      cases forced <;> simp_all
  · cases h
  · cases h
  · split at h
    · cases h
    · cases h
      simp_all
  · cases h

theorem executeCommand_saveAndQuit (h : core.executeCommand = .requestIo .saveAndQuit) :
    parseCommand core.commandBuffer = .writeQuit ∧ core.dirty = true := by
  unfold executeCommand at h
  split at h
  · split at h <;> cases h
  · cases h
  · cases h
  · rename_i hparse
    split at h
    · rename_i hdirty
      exact ⟨hparse, hdirty⟩
    · cases h
  · cases h

theorem requestExit_clean (h : core.applyKey key = some (.requestExit false, core')) : core.dirty = false := by
  simpa using executeCommand_exit (applyKey_request h rfl).1

end EditorCore

end PandaGen.Editor
