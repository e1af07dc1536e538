import PandaGen.Editor.Lemmas.Core

/-!
# What holds whatever keys are pressed
-/

namespace PandaGen.Editor

open Lib EditorCore

/-! ## The cursor stays in the text -/

def EditorCore.keyMachine : Machine EditorCore Key CoreOutcome := ⟨applyKey⟩

/-- After any keys on any document the cursor is in a line, or at its end. It is on a boundary there, and no key
panics, unless the line has a character of more than one byte in it; a document of ASCII characters gets no such
line. -/
theorem cursor_in_text (core : EditorCore) (content : Text) {tr : List (Key × CoreOutcome)} {core' : EditorCore}
    (hrun : keyMachine.Run (fun _ key _ => key.IsInput) (core.loadContent content) tr core') :
    (∃ line, core'.buffer.line core'.cursor.row = some line ∧ core'.cursor.col ≤ line.byteLength ∧
      (line.Ascii → line.IsBoundary core'.cursor.col ∧ ∀ key, (core'.applyKey key).isSome = true)) ∧
    (content.Ascii →
      (∃ line, core'.buffer.line core'.cursor.row = some line ∧ line.IsBoundary core'.cursor.col) ∧
      ∀ key, (core'.applyKey key).isSome = true) := by
  have hcursor : core'.CursorInText :=
    hrun.invariantTrace (P := fun _ core => core.CursorInText) (fun _ _ _ _ _ hc hstep _ => hc.applyKey hstep) []
      (every_loadContent (TextBuffer.contains_zero _))
  obtain ⟨line, hline, hcol⟩ := hcursor.1
  have hsafe : line.Ascii → line.IsBoundary core'.cursor.col ∧ ∀ key, (core'.applyKey key).isSome = true :=
    fun hascii => ⟨hascii.isBoundary hcol, applyKey_isSome hline hcol hascii⟩
  refine ⟨⟨line, hline, hcol, hsafe⟩, fun hcontent => ?_⟩
  have hchars : core'.Every fun s => s.buffer.AllChars (·.toNat < 128) := by
    refine hrun.invariantTrace (P := fun _ core => core.Every fun s => s.buffer.AllChars (·.toNat < 128)) ?_ []
      (every_loadContent (TextBuffer.allChars_fromString hcontent))
    intro _ _ key _ _ hq hstep hinput
    exact hq.allChars_applyKey (fun ch htypes => Nat.lt_succ_of_lt (hinput.types htypes).2) hstep
  have hascii : line.Ascii := hchars.1.atRow hline
  exact ⟨⟨line, hline, (hsafe hascii).1⟩, (hsafe hascii).2⟩

theorem cursor_in_text_after_delete :
    ∃ core', keyMachine.Run (fun _ key _ => key.IsInput) (new.loadContent ['a', 'b']) [(.l, .changed), (.x, .changed)]
        core' ∧
      core'.buffer.lines = [['a']] ∧
      ∃ line, core'.buffer.line core'.cursor.row = some line ∧ line.IsBoundary core'.cursor.col := by
  have hrun : keyMachine.Run (fun _ key _ => key.IsInput) (new.loadContent ['a', 'b'])
      [(.l, .changed), (.x, .changed)] _ :=
    .cons rfl (.inl ⟨0x6c, rfl⟩) (.cons rfl (.inl ⟨0x78, rfl⟩) .nil)
  exact ⟨_, hrun, rfl, ((cursor_in_text new ['a', 'b'] hrun).2 (by decide)).1⟩

/-- Moving right in a character of two bytes leaves the cursor inside it, and deleting there panics. -/
theorem cursor_inside_character :
    ∃ core', keyMachine.Run (fun _ key _ => key.IsInput) (new.loadContent ['é']) [(.l, .changed)] core' ∧
      core'.buffer.line core'.cursor.row = some ['é'] ∧ ¬ Text.IsBoundary ['é'] core'.cursor.col ∧
      Key.IsInput .x ∧ core'.applyKey .x = none := by
  have hrun : keyMachine.Run (fun _ key _ => key.IsInput) (new.loadContent ['é']) [(.l, .changed)] _ :=
    .cons rfl (.inl ⟨0x6c, rfl⟩) .nil
  exact ⟨_, hrun, rfl, by decide, .inl ⟨0x78, rfl⟩, rfl⟩

namespace EditorCore

variable {core core' : EditorCore} {key : Key}

def savedBy (core : EditorCore) (call : Call) (_ : Option CoreOutcome) : List TextBuffer :=
  match call with
  | .key _ => []
  | .loadContent content => [.fromString content]
  | .markSaved => [core.buffer]

def lastSaved (tr : List (Call × Option CoreOutcome)) : TextBuffer :=
  (machine.observe savedBy new tr).foldl (fun _ buffer => buffer) .new

theorem Effect.clean (h : Effect key core core') (hclean : core'.dirty = false) :
    core.dirty = false ∧ core'.buffer = core.buffer := by
  cases h with
  | moved hbuffer hdirty => exact ⟨hdirty ▸ hclean, hbuffer⟩
  | edited edit changed hedit _ hdirty =>
    rw [hdirty, Bool.or_eq_false_iff] at hclean
    obtain ⟨rfl, hclean⟩ := hclean
    exact ⟨hclean, TextBuffer.edit_false hedit⟩
  | restored _ hdirty =>
    rw [hdirty] at hclean
    cases hclean

end EditorCore

open EditorCore

/-- An exit that is not forced would lose no change. -/
theorem clean_buffer_is_saved {tr : List (Call × Option CoreOutcome)} {core : EditorCore}
    (hrun : machine.FreeRun new tr core) : (core.dirty = false → core.buffer = lastSaved tr) ∧
      ∀ key core', core.applyKey key = some (.requestExit false, core') → core.buffer = lastSaved tr := by
  have hclean : core.dirty = false → core.buffer = lastSaved tr := by
    refine hrun.invariantObserved (f := savedBy) (P := fun saved core => core.dirty = false → core.buffer = saved)
      ?_ .new fun _ => rfl
    intro saved core call outcome core' hsaved hstep _ hclean
    cases call with
    | key key =>
      obtain ⟨⟨_, _⟩, happly, ⟨⟩⟩ := Option.map_eq_some_iff.mp hstep
      obtain ⟨hbefore, hbuffer⟩ := (applyKey_effect happly).clean hclean
      exact hbuffer.trans (hsaved hbefore)
    | loadContent content | markSaved =>
      cases hstep
      rfl
  exact ⟨hclean, fun key core' hexit => hclean (requestExit_clean hexit)⟩

theorem exit_after_save : ∃ tr core core', machine.FreeRun new tr core ∧
      tr.map (·.1) = [.key .i, .key (.char 'b'), .key .escape, .markSaved, .key .colon, .key (.char 'q')] ∧
      core.applyKey .enter = some (.requestExit false, core') ∧ core.buffer = lastSaved tr := by
  have hrun : machine.FreeRun new
      [(.key .i, some .changed), (.key (.char 'b'), some .changed), (.key .escape, some .changed), (.markSaved, none),
        (.key .colon, some .changed), (.key (.char 'q'), some .changed)] _ :=
    .cons rfl trivial (.cons rfl trivial (.cons rfl trivial (.cons rfl trivial (.cons rfl trivial
      (.cons rfl trivial .nil)))))
  exact ⟨_, _, _, hrun, rfl, rfl, (clean_buffer_is_saved hrun).2 .enter _ rfl⟩

/-! ## What is typed -/

namespace EditorCore

def ignored : EditorMode → List UInt8
  | .insert => [0x3a, 0x2f]
  | _ => [0x3a, 0x2f, 0x68, 0x6a, 0x6b, 0x6c, 0x69, 0x61, 0x78, 0x64, 0x75, 0x6e]

def feedByte (core : EditorCore) (byte : UInt8) : Option EditorCore :=
  match Key.fromAscii byte with
  | none => some core
  | some key => (core.applyKey key).map Prod.snd

def charOf (byte : UInt8) : Char := Char.ofNat byte.toNat

/-- A text was typed where the mode puts it, in Insert mode between `u` and `v`. -/
def Typed (core : EditorCore) (u v text : Text) (core' : EditorCore) : Prop :=
  core'.mode = core.mode ∧ match core.mode with
    | .normal => False
    | .insert => core'.buffer = core.buffer.setLine core.cursor.row (u ++ text ++ v) ∧
      core'.cursor = ⟨core.cursor.row, core.cursor.col + text.byteLength⟩
    | .command => core'.commandBuffer = core.commandBuffer ++ text
    | .search => core'.searchQuery = core.searchQuery ++ text

variable {core c : EditorCore} {byte : UInt8} {u v text : Text}

theorem feedByte_printable (hmode : core.mode ≠ .normal) (h : 0x20 ≤ byte ∧ byte < 0x7f)
    (hkept : byte ∉ ignored core.mode) : core.feedByte byte = (core.applyKey (.char (charOf byte))).map Prod.snd := by
  have hkey : ∃ key, Key.fromAscii byte = some key ∧ core.applyKey key = core.applyKey (.char (charOf byte)) := by
    obtain ⟨mode, _⟩ := core
    cases mode with
    | normal => exact absurd rfl hmode
    | insert | command | search =>
      unfold Key.fromAscii
      split
      case h_20 => exact ⟨_, if_pos h, rfl⟩
      all_goals first
        | exact ⟨_, rfl, rfl⟩
        | exact absurd h (by decide)
        | exact absurd (by simp [ignored]) hkept
  obtain ⟨key, hkey, happly⟩ := hkey
  rw [feedByte, hkey, ← happly]

theorem Typed.feedByte (hrow : core.cursor.row < core.buffer.lineCount) (hcol : u.byteLength = core.cursor.col)
    (ht : core.Typed u v text c) (h : 0x20 ≤ byte ∧ byte < 0x7f) (hkept : byte ∉ ignored core.mode) :
    ∃ c', c.feedByte byte = some c' ∧ core.Typed u v (text ++ [charOf byte]) c' := by
  obtain ⟨hmode, ht⟩ := ht
  have hnormal : c.mode ≠ .normal := by
    intro hnormal
    rw [← hmode, hnormal] at ht
    exact ht
  rw [feedByte_printable hnormal h (hmode ▸ hkept), applyKey, hmode]
  unfold Typed
  cases hcore : core.mode <;> rw [hcore] at ht hmode
  case normal => exact ht.elim
  case command => exact ⟨_, rfl, hmode, by simp [ht, handleCommandMode]⟩
  case search => exact ⟨_, rfl, hmode, by simp [ht]⟩
  case insert =>
    obtain ⟨hbuffer, hcursor⟩ := ht
    have hline : c.buffer.line c.cursor.row = some (u ++ text ++ v) := by
      rw [hbuffer, hcursor]
      exact TextBuffer.line_setLine hrow
    have hat : Text.byteLength (u ++ text) = c.cursor.col := by rw [Text.byteLength_append, hcol, hcursor]
    have hsize : (charOf byte).utf8Size = 1 := by
      have hlt : byte.toNat < 0x7f := UInt8.lt_iff_toNat_lt.mp h.2
      exact Text.utf8Size_of_ascii (by rw [charOf, Key.toNat_ofNat]; omega)
    have hinsert := TextBuffer.insertChar_eq hline hat (charOf byte)
    simp only [handleInsertMode, insertCharInInsertMode, saveUndoSnapshot, hinsert]
    exact ⟨_, rfl, hmode, by simp [hbuffer, hcursor, TextBuffer.setLine], by simp [hcursor, hsize, Nat.add_assoc]⟩

theorem Typed.ignored (ht : core.Typed u v text c) (h : byte ∈ ignored core.mode) :
    ∃ c', c.feedByte byte = some c' ∧ core.Typed u v text c' := by
  have hmode := ht.1
  cases hcore : core.mode <;> rw [hcore] at h hmode
  case normal => exact absurd ht.2 (by simp [hcore])
  all_goals
    refine ⟨c, ?_, ht⟩
    simp only [EditorCore.ignored, List.mem_cons, List.not_mem_nil, or_false] at h
    rcases h with rfl | rfl | rfl | rfl | rfl | rfl | rfl | rfl | rfl | rfl | rfl | rfl <;>
      simp [EditorCore.feedByte, Key.fromAscii, applyKey, hmode, handleInsertMode, handleCommandMode, handleSearchMode]

theorem Typed.unique {text'} (hrow : core.cursor.row < core.buffer.lineCount) (h : core.Typed u v text c)
    (h' : core.Typed u v text' c) : text = text' := by
  replace h := h.2
  replace h' := h'.2
  cases hcore : core.mode <;> rw [hcore] at h h'
  case normal => exact h.elim
  case insert =>
    have hline := (TextBuffer.line_setLine hrow).symm.trans
      ((congrArg (TextBuffer.line · _) (h.1.symm.trans h'.1)).trans
      (TextBuffer.line_setLine hrow))
    simpa using hline
  all_goals exact List.append_cancel_left (h.symm.trans h')

/-- Printable characters arrive where the mode puts them, but for those that stand for keys which the mode ignores. -/
theorem typed_arrives (core : EditorCore) {bytes : List UInt8} (hprintable : ∀ b ∈ bytes, 0x20 ≤ b ∧ b < 0x7f)
    (hmode : core.mode ≠ .normal) (hline : core.buffer.line core.cursor.row = some (u ++ v))
    (hcol : u.byteLength = core.cursor.col) : ∃ core', bytes.foldlM EditorCore.feedByte core = some core' ∧
      core.Typed u v ((bytes.filter (· ∉ ignored core.mode)).map charOf) core' ∧
      (core.Typed u v (bytes.map charOf) core' ↔ ∀ b ∈ bytes, b ∉ ignored core.mode) := by
  obtain ⟨hrow, hget⟩ := List.getElem?_eq_some_iff.mp hline
  have hstart : core.Typed u v [] core := by
    unfold Typed
    split
    · contradiction
    · exact ⟨rfl, TextBuffer.ext (by simp [TextBuffer.setLine, ← hget]), rfl⟩
    · simp
    · simp
  have hfed : ∀ text c, core.Typed u v text c → ∃ c', bytes.foldlM EditorCore.feedByte c = some c' ∧
      core.Typed u v (text ++ (bytes.filter (· ∉ ignored core.mode)).map charOf) c' := by
    induction bytes with
    | nil => exact fun text c hc => ⟨c, rfl, by simpa using hc⟩
    | cons byte bytes ih =>
      intro text c hc
      rw [List.forall_mem_cons] at hprintable
      by_cases hkept : byte ∈ ignored core.mode
      · obtain ⟨c₁, hbyte, hc₁⟩ := hc.ignored hkept
        obtain ⟨c', hbytes, hc'⟩ := ih hprintable.2 _ c₁ hc₁
        exact ⟨c', by rw [List.foldlM_cons, hbyte]; exact hbytes, by simpa [hkept] using hc'⟩
      · obtain ⟨c₁, hbyte, hc₁⟩ := hc.feedByte hrow hcol hprintable.1 hkept
        obtain ⟨c', hbytes, hc'⟩ := ih hprintable.2 _ c₁ hc₁
        exact ⟨c', by rw [List.foldlM_cons, hbyte]; exact hbytes, by simpa [hkept] using hc'⟩
  obtain ⟨core', hfeed, htyped⟩ := hfed [] core hstart
  rw [List.nil_append] at htyped
  refine ⟨core', hfeed, htyped, fun hall => ?_, fun hkept => ?_⟩
  · have hlength := congrArg List.length (htyped.unique hrow hall)
    rw [List.length_map, List.length_map, List.length_filter_eq_length_iff] at hlength
    simpa using hlength
  · rwa [List.filter_eq_self.mpr (by simpa using hkept)] at htyped

theorem typed_arrives_two : ∃ core', [0x68, 0x3a, 0x6f].foldlM feedByte { new with mode := .insert } = some core' ∧
    core'.buffer.lines = [['h', 'o']] := by
  have hprintable : ∀ b ∈ ([0x68, 0x3a, 0x6f] : List UInt8), 0x20 ≤ b ∧ b < 0x7f := by decide +kernel
  obtain ⟨core', hfeed, ⟨-, hbuffer, -⟩, -⟩ :=
    typed_arrives { new with mode := .insert } (u := []) (v := []) hprintable nofun rfl rfl
  exact ⟨core', hfeed, by rw [hbuffer]; rfl⟩

/-- A colon is not inserted, and a letter is put neither into a command nor into a query. -/
theorem typed_lost : (∃ core', feedByte { new with mode := .insert } 0x3a = some core' ∧ core'.buffer.lines = [[]]) ∧
    feedByte { new with mode := .command } 0x61 = some { new with mode := .command } ∧
    feedByte { new with mode := .search } 0x61 = some { new with mode := .search } :=
  ⟨⟨_, rfl, rfl⟩, rfl, rfl⟩

end EditorCore

end PandaGen.Editor
