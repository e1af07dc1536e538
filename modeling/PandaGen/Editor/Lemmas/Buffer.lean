import PandaGen.Editor.Buffer
import Mathlib.Data.List.InsertIdx

/-!
# Edits of the buffer

What each edit does to the lines, and where it panics.
-/

namespace PandaGen.Editor

open Lib Option List Nat Text

namespace TextBuffer

variable {b b' : TextBuffer} {pos : Position} {row : Nat} {line : Text}

def Contains (b : TextBuffer) (pos : Position) : Prop :=
  ∃ line, b.line pos.row = some line ∧ pos.col ≤ line.byteLength

theorem mem_of_line (h : b.line row = some line) : line ∈ b.lines := mem_of_getElem? h

theorem line_of_lt (h : row < b.lineCount) : ∃ line, b.line row = some line := ⟨_, getElem?_eq_getElem h⟩

theorem lineLength_eq (h : b.line row = some line) : b.lineLength row = line.byteLength := by
  simp [lineLength, h]

theorem contains_zero (b : TextBuffer) : b.Contains .zero := by
  obtain ⟨line, hline⟩ := line_of_lt (b := b) (length_pos_of_ne_nil b.nonempty)
  exact ⟨line, hline, zero_le _⟩

theorem Contains.of_lt {col} (hrow : row < b.lineCount) (hcol : col ≤ b.lineLength row) : b.Contains ⟨row, col⟩ := by
  obtain ⟨line, hline⟩ := line_of_lt hrow
  exact ⟨line, hline, lineLength_eq hline ▸ hcol⟩

theorem Contains.lt (h : b.Contains pos) : pos.row < b.lineCount := line_lt h.choose_spec.1

theorem Contains.le (h : b.Contains pos) : pos.col ≤ b.lineLength pos.row := by
  obtain ⟨line, hline, hcol⟩ := h
  rwa [lineLength_eq hline]

@[simp] theorem lineCount_setLine : (b.setLine row line).lineCount = b.lineCount := length_set

theorem line_setLine (h : row < b.lineCount) : (b.setLine row line).line row = some line := by
  simp only [setLine, TextBuffer.line, getElem?_set_self h]

theorem line_insertLine (h : row ≤ b.lineCount) : (b.insertLine row line).line row = some line := by
  simp only [insertLine, TextBuffer.line, getElem?_insertIdx_self]
  exact if_pos h

theorem mem_setLine {l} (h : l ∈ (b.setLine row line).lines) : l ∈ b.lines ∨ l = line :=
  mem_or_eq_of_mem_set h

/-! ## What an edit does -/

theorem insertChar_cases {ch changed} (h : b.insertChar pos ch = some (changed, b')) : (changed = false ∧ b' = b) ∨
      (changed = true ∧ ∃ u v, b.line pos.row = some (u ++ v) ∧ byteLength u = pos.col ∧
        b' = b.setLine pos.row (u ++ ch :: v)) := by
  unfold insertChar at h
  split at h
  · simp_all
  · rename_i line hline
    split at h
    · simp_all
    · obtain ⟨l, hl, heq⟩ := map_eq_some_iff.mp h
      obtain ⟨u, v, rfl, hu, rfl⟩ := insert_eq_some.mp hl
      cases heq
      exact .inr ⟨rfl, u, v, hline, hu, rfl⟩

theorem insertChar_eq {u v} (hline : b.line pos.row = some (u ++ v)) (hcol : u.byteLength = pos.col) (ch) :
    b.insertChar pos ch = some (true, b.setLine pos.row (u ++ ch :: v)) := by
  have hle : ¬ pos.col > byteLength (u ++ v) := by simp [← hcol]
  simp only [insertChar, hline, hle, if_false, insert_eq_some.mpr ⟨u, v, rfl, hcol, rfl⟩, Option.map_some]

theorem insertNewline_cases {changed} (h : b.insertNewline pos = some (changed, b')) : (changed = false ∧ b' = b) ∨
      (changed = true ∧ ∃ u v, b.line pos.row = some (u ++ v) ∧ byteLength u = pos.col ∧
        b' = (b.setLine pos.row u).insertLine (pos.row + 1) v) := by
  unfold insertNewline at h
  split at h
  · simp_all
  · rename_i line hline
    split at h
    · simp_all
    · obtain ⟨⟨u, v⟩, huv, heq⟩ := map_eq_some_iff.mp h
      obtain ⟨rfl, hu⟩ := splitAt?_eq_some.mp huv
      cases heq
      exact .inr ⟨rfl, u, v, hline, hu, rfl⟩

theorem deleteChar_cases {changed} (h : b.deleteChar pos = some (changed, b')) : (changed = false ∧ b' = b) ∨
      (changed = true ∧ ∃ u c v, b.line pos.row = some (u ++ c :: v) ∧ byteLength u = pos.col ∧
        b' = b.setLine pos.row (u ++ v)) := by
  unfold deleteChar at h
  split at h
  · simp_all
  · rename_i line hline
    split at h
    · simp_all
    · obtain ⟨l, hl, heq⟩ := map_eq_some_iff.mp h
      obtain ⟨u, c, v, rfl, hu, rfl⟩ := remove_eq_some.mp hl
      cases heq
      exact .inr ⟨rfl, u, c, v, hline, hu, rfl⟩

theorem backspace_cases {cursor} (h : b.backspace pos = some (cursor, b')) : (cursor = none ∧ b' = b) ∨
      (∃ u c v, b.line pos.row = some (u ++ c :: v) ∧ byteLength u + 1 = pos.col ∧
        cursor = some ⟨pos.row, byteLength u⟩ ∧ b' = b.setLine pos.row (u ++ v)) ∨
      (∃ row current previous hcount, pos = ⟨row + 1, 0⟩ ∧ b.line (row + 1) = some current ∧
        b.line row = some previous ∧ cursor = some ⟨row, previous.byteLength⟩ ∧
        b' = (b.eraseLine (row + 1) hcount).setLine row (previous ++ current)) := by
  unfold backspace at h
  split at h
  · rename_i hcol
    obtain ⟨line, hline, h⟩ := bind_eq_some_iff.mp h
    obtain ⟨l, hl, heq⟩ := bind_eq_some_iff.mp h
    obtain ⟨u, c, v, rfl, hu, rfl⟩ := remove_eq_some.mp hl
    cases heq
    exact .inr (.inl ⟨u, c, v, hline, by omega, by rw [hu], rfl⟩)
  · rename_i hcol
    split at h
    · rename_i hrow
      split at h
      · rename_i current previous hcurrent hprevious
        obtain ⟨row, col⟩ := pos
        cases row with
        | zero => simp at hrow
        | succ row =>
          cases h
          obtain rfl : col = 0 := by simpa using hcol
          exact .inr (.inr ⟨row, current, previous, _, rfl, hcurrent, hprevious, rfl, rfl⟩)
      · cases h
    · cases h
      exact .inl ⟨rfl, rfl⟩

theorem deleteLine_cases (hrow : row < b.lineCount) : (∃ h, b.deleteLine row = (true, b.eraseLine row h)) ∨
      (b.lineCount = 1 ∧ b.deleteLine row = (true, b.setLine row [])) := by
  unfold deleteLine
  rw [if_neg (not_le.mpr hrow)]
  split
  · rename_i hcount
    exact .inl ⟨hcount, rfl⟩
  · rename_i hcount
    exact .inr ⟨by omega, rfl⟩

theorem edit_false {e} (h : b.edit e = some (false, b')) : b' = b := by
  cases e with
  | insertChar pos ch =>
    rcases insertChar_cases h with ⟨-, rfl⟩ | ⟨hfalse, -⟩
    · rfl
    · cases hfalse
  | insertNewline pos =>
    rcases insertNewline_cases h with ⟨-, rfl⟩ | ⟨hfalse, -⟩
    · rfl
    · cases hfalse
  | deleteChar pos =>
    rcases deleteChar_cases h with ⟨-, rfl⟩ | ⟨hfalse, -⟩
    · rfl
    · cases hfalse
  | backspace pos =>
    obtain ⟨⟨cursor, c⟩, hb, heq⟩ := map_eq_some_iff.mp h
    simp only [Prod.mk.injEq, isSome_eq_false_iff, isNone_iff_eq_none] at heq
    obtain ⟨rfl, rfl⟩ := heq
    rcases backspace_cases hb with ⟨-, rfl⟩ | ⟨_, _, _, _, _, hsome, _⟩ | ⟨_, _, _, _, _, _, _, hsome, _⟩
    · rfl
    · cases hsome
    · cases hsome
  | deleteLine row =>
    simp only [edit, deleteLine, some.injEq] at h
    split at h
    · exact (Prod.mk.inj h).2.symm
    · split at h <;> cases (Prod.mk.inj h).1

/-! ## Where an edit panics -/

section

variable (hline : b.line pos.row = some line) (hascii : line.Ascii)
include hline hascii

theorem insertChar_isSome (ch) : (b.insertChar pos ch).isSome = true := by
  simp only [insertChar, hline]
  split
  · rfl
  · rw [isSome_map]
    exact insert_isSome ch (hascii.isBoundary (by omega))

theorem insertNewline_isSome : (b.insertNewline pos).isSome = true := by
  simp only [insertNewline, hline]
  split
  · rfl
  · rw [isSome_map]
    exact hascii.isBoundary (by omega)

theorem deleteChar_isSome : (b.deleteChar pos).isSome = true := by
  simp only [deleteChar, hline]
  split
  · rfl
  · rw [isSome_map]
    exact remove_isSome (hascii.isBoundary (by omega)) (by omega)

end

theorem backspace_isSome (hline : b.line pos.row = some line) (hcol : pos.col ≤ line.byteLength)
    (hascii : line.Ascii) : (b.backspace pos).isSome = true := by
  unfold backspace
  split
  · have hremove := remove_isSome (hascii.isBoundary (n := pos.col - 1) (by omega)) (by omega)
    obtain ⟨l, hl⟩ := isSome_iff_exists.mp hremove
    simp [hline, hl]
  · split
    · have hlt : pos.row - 1 < b.lineCount := lt_of_le_of_lt (sub_le _ _) (line_lt hline)
      obtain ⟨previous, hprevious⟩ := line_of_lt hlt
      split
      · rfl
      · simp_all
    · rfl

/-! ## Characters of the lines -/

def AllChars (q : Char → Prop) (b : TextBuffer) : Prop := ∀ line ∈ b.lines, ∀ c ∈ line, q c

variable {q : Char → Prop}

theorem allChars_fromString {content} (h : ∀ c ∈ content, q c) : (fromString content).AllChars q := by
  intro line hline c hc
  unfold fromString at hline
  split at hline
  · simp only [new, mem_singleton] at hline
    simp [hline] at hc
  · exact h c (mem_of_mem_lines hline hc)

theorem AllChars.atRow (h : b.AllChars q) (hline : b.line row = some line) : ∀ c ∈ line, q c :=
  h line (mem_of_line hline)

theorem AllChars.setLine (h : b.AllChars q) (hline : ∀ c ∈ line, q c) : (b.setLine row line).AllChars q := by
  intro l hl
  rcases mem_setLine hl with hl | rfl
  · exact h l hl
  · exact hline

theorem AllChars.eraseLine (h : b.AllChars q) (hcount : 1 < b.lines.length) : (b.eraseLine row hcount).AllChars q :=
  fun l hl => h l (mem_of_mem_eraseIdx hl)

theorem AllChars.insertLine (h : b.AllChars q) (hline : ∀ c ∈ line, q c) : (b.insertLine row line).AllChars q := by
  intro l hl
  rcases eq_or_mem_of_mem_insertIdx hl with rfl | hl
  · exact hline
  · exact h l hl

theorem AllChars.removeChar (h : b.AllChars q) {u v c} (hline : b.line row = some (u ++ c :: v)) :
    (b.setLine row (u ++ v)).AllChars q := by
  have hq := h.atRow hline
  refine h.setLine ?_
  simp only [forall_mem_append, forall_mem_cons] at hq ⊢
  exact ⟨hq.1, hq.2.2⟩

theorem AllChars.edit (hb : b.AllChars q) {e} (he : ∀ pos ch, e = .insertChar pos ch → q ch) {changed}
    (h : b.edit e = some (changed, b')) : b'.AllChars q := by
  cases e with
  | insertChar pos ch =>
    rcases insertChar_cases h with ⟨-, rfl⟩ | ⟨-, u, v, hline, -, rfl⟩
    · exact hb
    · have hq := hb.atRow hline
      refine hb.setLine ?_
      simp only [forall_mem_append, forall_mem_cons] at hq ⊢
      exact ⟨hq.1, he pos ch rfl, hq.2⟩
  | insertNewline pos =>
    rcases insertNewline_cases h with ⟨-, rfl⟩ | ⟨-, u, v, hline, -, rfl⟩
    · exact hb
    · have hq := forall_mem_append.mp (hb.atRow hline)
      exact (hb.setLine hq.1).insertLine hq.2
  | deleteChar pos =>
    rcases deleteChar_cases h with ⟨-, rfl⟩ | ⟨-, u, c, v, hline, -, rfl⟩
    · exact hb
    · exact hb.removeChar hline
  | backspace pos =>
    obtain ⟨⟨cursor, c⟩, hback, heq⟩ := map_eq_some_iff.mp h
    obtain ⟨-, rfl⟩ := Prod.mk.inj heq
    rcases backspace_cases hback with ⟨-, rfl⟩ | ⟨u, d, v, hline, -, -, rfl⟩ |
      ⟨row, current, previous, hcount, -, hcurrent, hprevious, -, rfl⟩
    · exact hb
    · exact hb.removeChar hline
    · exact (hb.eraseLine hcount).setLine (forall_mem_append.mpr ⟨hb.atRow hprevious, hb.atRow hcurrent⟩)
  | deleteLine row =>
    simp only [TextBuffer.edit, some.injEq] at h
    by_cases hrow : row < b.lineCount
    · rcases deleteLine_cases hrow with ⟨hcount, hdel⟩ | ⟨-, hdel⟩
      · obtain ⟨-, rfl⟩ := Prod.mk.inj (hdel.symm.trans h)
        exact hb.eraseLine hcount
      · obtain ⟨-, rfl⟩ := Prod.mk.inj (hdel.symm.trans h)
        exact hb.setLine (by simp)
    · rw [deleteLine, if_pos (not_lt.mp hrow)] at h
      obtain ⟨-, rfl⟩ := Prod.mk.inj h
      exact hb

end TextBuffer

end PandaGen.Editor
