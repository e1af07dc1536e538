import PandaGen.Editor.Lemmas.Core
import PandaGen.Vi.State

/-!
# Opening and saving
-/

namespace PandaGen.Editor

open Lib Text

namespace TextBuffer

variable {b : TextBuffer}

def KeepsText (s : Text) : Prop := s.getLast? ≠ some '\n' ∧ ¬ ['\r', '\n'] <:+: s

/-- Lines that are not taken for ends of lines when they are read again. -/
def KeepsLines (ls : List Text) : Prop :=
  (ls = [[]] ∨ ls.getLast? ≠ some []) ∧ ∀ l ∈ ls.dropLast, l.getLast? ≠ some '\r'

theorem asString_fromString {s} : (fromString s).asString = s ↔ KeepsText s := by
  unfold fromString
  split
  · rename_i hs
    subst hs
    simp [KeepsText, new, asString]
  · exact unlines_lines

theorem fromString_asString {b} : fromString b.asString = b ↔ (∀ l ∈ b.lines, '\n' ∉ l) ∧ KeepsLines b.lines := by
  by_cases hempty : b.lines = [[]]
  · have hb : b = new := TextBuffer.ext hempty
    subst hb
    simp [KeepsLines, new, asString, fromString]
  · have hne : b.asString ≠ [] := fun hnil => (unlines_eq_nil.mp hnil).elim b.nonempty hempty
    rw [TextBuffer.ext_iff, fromString, dif_neg hne]
    simp only [KeepsLines, hempty, false_or]
    exact lines_unlines

theorem fromString_allChars (s) : (fromString s).AllChars (· ≠ '\n') := by
  intro l hl c hc
  unfold fromString at hl
  split at hl
  · simp only [new, List.mem_singleton] at hl
    simp [hl] at hc
  · rintro rfl
    exact newline_not_mem_lines hl hc

theorem Reached.edit {b' e changed} (h : b.Reached) (he : e.Plain)
    (hedit : b.edit e = some (changed, b')) : b'.Reached := by
  obtain ⟨s, tr, hrun⟩ := h
  exact ⟨s, _, hrun.append (.cons hedit he .nil)⟩

theorem Reached.allChars (h : b.Reached) : b.AllChars (· ≠ '\n') := by
  obtain ⟨s, tr, hrun⟩ := h
  refine hrun.invariantTrace (P := fun _ (b : TextBuffer) => b.AllChars (· ≠ '\n')) ?_ [] (fromString_allChars s)
  intro _ b e _ b' hb hedit he
  refine hb.edit (fun pos ch hch => ?_) hedit
  rintro rfl
  exact he pos hch

theorem Reached.reopened (h : b.Reached) : fromString b.asString = b ↔ KeepsLines b.lines := by
  have hlines : ∀ l ∈ b.lines, '\n' ∉ l := fun l hl hmem => h.allChars l hl '\n' hmem rfl
  rw [fromString_asString]
  exact and_iff_right hlines

end TextBuffer

theorem EditorCore.buffer_reached {tr core}
    (hrun : machine.Run (fun _ call _ => ∀ key, call = .key key → key.IsInput) new tr core) : core.buffer.Reached := by
  have hnew : TextBuffer.new.Reached := ⟨[], [], .nil⟩
  suffices core.Every fun s => s.buffer.Reached from this.1
  refine hrun.invariantTrace (P := fun _ core => core.Every fun s => s.buffer.Reached) ?_ [] ⟨hnew, by simp [new]⟩
  intro _ core call _ core' hreached hstep hinput
  cases call with
  | key key =>
    obtain ⟨⟨_, _⟩, happly, ⟨⟩⟩ := Option.map_eq_some_iff.mp hstep
    refine (applyKey_effect happly).every hreached fun hwrites _ => ?_
    rcases hwrites with heq | ⟨edit, changed, hedit, htypes⟩
    · exact (show core'.snapshot.buffer = core.snapshot.buffer from heq) ▸ hreached.1
    · refine hreached.1.edit (fun pos he => ?_) hedit
      have := ((hinput key rfl).types (htypes pos '\n' he)).1
      simp at this
  | loadContent content =>
    cases hstep
    exact every_loadContent ⟨content, [], .nil⟩
  | markSaved =>
    cases hstep
    exact hreached

end PandaGen.Editor

namespace PandaGen.Vi.TextBuffer

open Lib

variable {b : TextBuffer}

def Edit.shared : Edit → Editor.TextBuffer.Edit
  | .insertChar pos ch => .insertChar pos ch
  | .insertNewline pos => .insertNewline pos
  | .deleteChar pos => .deleteChar pos
  | .backspace pos => .backspace pos

theorem edit_eq (b : TextBuffer) (e : Edit) :
    b.edit e = (b.shared.edit e.shared).map fun (changed, shared) => (changed, ⟨shared⟩) := by
  cases e with
  | backspace pos => simp only [edit, backspace, Edit.shared, Editor.TextBuffer.edit, Option.map_map]; rfl
  | _ => rfl

theorem Reached.shared (h : b.Reached) : b.shared.Reached := by
  obtain ⟨s, tr, hrun⟩ := h
  refine ⟨s, _, hrun.project (v := TextBuffer.shared) (f := fun _ e changed => [(e.shared, changed)]) ?_⟩
  intro b e changed b' hedit hplain
  obtain ⟨⟨_, _⟩, hshared, ⟨⟩⟩ := Option.map_eq_some_iff.mp ((edit_eq b e).symm.trans hedit)
  refine .cons hshared (fun pos he => ?_) .nil
  cases e with
  | insertChar pos' ch =>
    cases he
    exact hplain pos rfl
  | _ => cases he

theorem asString_fromString {s} : (fromString s).asString = s ↔ Editor.TextBuffer.KeepsText s :=
  Editor.TextBuffer.asString_fromString

theorem Reached.reopened (h : b.Reached) : fromString b.asString = b ↔ Editor.TextBuffer.KeepsLines b.lines := by
  have hshared : fromString b.asString = b ↔ Editor.TextBuffer.fromString b.shared.asString = b.shared := by
    cases b
    simp only [fromString, asString, mk.injEq]
  rw [hshared]
  exact h.shared.reopened

end PandaGen.Vi.TextBuffer

namespace PandaGen.Editor

open Lib TextBuffer

/-- Opening and saving gives a text back exactly where it does not end with a newline and has no carriage return
before one. Saving and opening gives the lines of an editor back exactly where the last of several is not empty and
none before it ends with a carriage return. The vi editor has the same limits. -/
theorem open_and_save_exactly (s : Text) {tr : List (EditorCore.Call × Option CoreOutcome)} {core : EditorCore}
    (hrun : EditorCore.machine.Run (fun _ call _ => ∀ key, call = .key key → key.IsInput) EditorCore.new tr core)
    {b : Vi.TextBuffer} (hb : b.Reached) :
    ((fromString s).asString = s ↔ s.getLast? ≠ some '\n' ∧ ¬ ['\r', '\n'] <:+: s) ∧
    (fromString core.buffer.asString = core.buffer ↔
      (core.buffer.lines = [[]] ∨ core.buffer.lines.getLast? ≠ some []) ∧
        ∀ l ∈ core.buffer.lines.dropLast, l.getLast? ≠ some '\r') ∧
    ((Vi.TextBuffer.fromString s).asString = s ↔ s.getLast? ≠ some '\n' ∧ ¬ ['\r', '\n'] <:+: s) ∧
    (Vi.TextBuffer.fromString b.asString = b ↔
      (b.lines = [[]] ∨ b.lines.getLast? ≠ some []) ∧ ∀ l ∈ b.lines.dropLast, l.getLast? ≠ some '\r') :=
  ⟨TextBuffer.asString_fromString, (EditorCore.buffer_reached hrun).reopened, Vi.TextBuffer.asString_fromString,
    hb.reopened⟩

theorem two_lines_reopened :
    ∃ core, EditorCore.machine.Run (fun _ call _ => ∀ key, call = .key key → key.IsInput) EditorCore.new
        [(.loadContent ['a', '\n', 'b'], none), (.key .x, some .changed)] core ∧
      core.buffer.lines = [[], ['b']] ∧ fromString core.buffer.asString = core.buffer := by
  have hx : ∀ key, EditorCore.Call.key .x = .key key → key.IsInput := by
    rintro _ ⟨⟩
    exact .inl ⟨0x78, rfl⟩
  have hrun : EditorCore.machine.Run (fun _ call _ => ∀ key, call = .key key → key.IsInput) EditorCore.new
      [(.loadContent ['a', '\n', 'b'], none), (.key .x, some .changed)] _ :=
    .cons rfl nofun (.cons rfl hx .nil)
  have hvi : (Vi.TextBuffer.fromString ['a']).Reached := ⟨['a'], [], .nil⟩
  exact ⟨_, hrun, rfl, (open_and_save_exactly [] hrun hvi).2.1.mpr ⟨.inr (by decide), by decide⟩⟩

/-- A final newline is lost by opening and saving, and an empty last line by saving and opening. -/
theorem final_newline_lost : (fromString ['a', '\n']).asString = ['a'] ∧
    (∃ core, EditorCore.machine.Run (fun _ call _ => ∀ key, call = .key key → key.IsInput) EditorCore.new
        [(.loadContent ['a'], none), (.key .a, some .changed), (.key .enter, some .changed)] core ∧
      core.buffer.lines = [['a'], []] ∧ (fromString core.buffer.asString).lines = [['a']]) ∧
    (Vi.TextBuffer.fromString ['a', '\n']).asString = ['a'] := by
  refine ⟨rfl, ⟨_, .cons rfl nofun (.cons rfl ?_ (.cons rfl ?_ .nil)), rfl, rfl⟩, rfl⟩
  · rintro _ ⟨⟩
    exact .inl ⟨0x61, rfl⟩
  · rintro _ ⟨⟩
    exact .inl ⟨0x0a, rfl⟩

end PandaGen.Editor
