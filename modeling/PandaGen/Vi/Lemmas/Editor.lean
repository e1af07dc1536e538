import PandaGen.Vi.Editor

/-!
# What the vi editor does with a key

A key changes the state of the editor only, unless it runs a command.
-/

namespace PandaGen.Vi

open Lib Input Proc Option List EditorState

namespace EditorState

def history (s : EditorState) : List EditorSnapshot := s.undoStack ++ s.redoStack

def Edits (s s' : EditorState) : Prop := ∀ snap ∈ s'.history, snap ∈ s.history ∨ snap = s.snapshot

theorem Edits.of_stacks {s s' t : EditorState} (h : s.Edits t) (hundo : s'.undoStack = t.undoStack)
    (hredo : s'.redoStack = t.redoStack) : s.Edits s' := by
  rw [Edits, history, hundo, hredo]
  exact h

variable (s : EditorState)

theorem Edits.refl : s.Edits s := fun _ h => .inl h

theorem saveUndoSnapshot_edits : s.Edits s.saveUndoSnapshot := by
  intro snap hsnap
  have hpushed : snap ∈ s.undoStack ++ [s.snapshot] := by
    simp only [history, saveUndoSnapshot, append_nil] at hsnap
    split at hsnap
    · exact mem_of_mem_drop hsnap
    · exact hsnap
  simp only [mem_append, mem_singleton] at hpushed
  exact hpushed.imp (mem_append_left _) id

theorem undo_edits : s.Edits s.undo.2 := by
  unfold undo
  split
  · intro snap hsnap
    simp only [history, mem_append, mem_singleton] at hsnap ⊢
    rcases hsnap with h | h | h
    · exact .inl (.inl (mem_of_mem_dropLast h))
    · exact .inl (.inr h)
    · exact .inr h
  · exact .refl s

theorem redo_edits : s.Edits s.redo.2 := by
  unfold redo
  split
  · intro snap hsnap
    simp only [history, mem_append, mem_singleton] at hsnap ⊢
    rcases hsnap with (h | h) | h
    · exact .inl (.inl h)
    · exact .inr h
    · exact .inl (.inr (mem_of_mem_dropLast h))
  · exact .refl s

theorem undo_buffer : s.undo.2.buffer = s.buffer ∨ ∃ snap ∈ s.history, s.undo.2.buffer = snap.buffer := by
  unfold undo
  split
  · rename_i snap hlast
    exact .inr ⟨snap, mem_append_left _ (mem_of_getLast? hlast), rfl⟩
  · exact .inl rfl

theorem redo_buffer : s.redo.2.buffer = s.buffer ∨ ∃ snap ∈ s.history, s.redo.2.buffer = snap.buffer := by
  unfold redo
  split
  · rename_i snap hlast
    exact .inr ⟨snap, mem_append_right _ (mem_of_getLast? hlast), rfl⟩
  · exact .inl rfl

structure Same (s s' : EditorState) : Prop where
  undoStack : s'.undoStack = s.undoStack
  redoStack : s'.redoStack = s.redoStack

theorem Same.refl : s.Same s := ⟨rfl, rfl⟩

theorem Same.edits {s s' : EditorState} (h : s.Same s') : s.Edits s' := (Edits.refl s).of_stacks h.1 h.2

theorem clampCursorCol_same : s.Same s.clampCursorCol := by
  simp only [clampCursorCol]
  split <;> exact ⟨rfl, rfl⟩

theorem moveCursorUp_same : s.Same s.moveCursorUp := by
  unfold moveCursorUp
  split
  · exact ⟨(clampCursorCol_same _).1, (clampCursorCol_same _).2⟩
  · exact .refl s

theorem moveCursorDown_same : s.Same s.moveCursorDown := by
  unfold moveCursorDown
  split
  · exact ⟨(clampCursorCol_same _).1, (clampCursorCol_same _).2⟩
  · exact .refl s

theorem moveCursorLeft_same : s.Same s.moveCursorLeft := by
  unfold moveCursorLeft
  split <;> exact ⟨rfl, rfl⟩

theorem moveCursorRight_same : s.Same s.moveCursorRight := by
  unfold moveCursorRight
  split <;> exact ⟨rfl, rfl⟩

theorem findNext_same {s s' : EditorState} {found} (h : s.findNext = some (found, s')) : s.Same s' := by
  simp only [findNext] at h
  split at h
  · cases h
    split <;> exact ⟨rfl, rfl⟩
  · split at h
    · cases h
      split <;> exact ⟨rfl, rfl⟩
    · obtain ⟨pos, -, hpos⟩ := map_eq_some_iff.mp h
      cases pos <;> cases hpos <;> split <;> exact ⟨rfl, rfl⟩

end EditorState

namespace Editor

theorem handleNormalMode_edits {event} {s s' : EditorState} (h : handleNormalMode event s = some s') : s.Edits s' := by
  obtain ⟨code, modifiers, _⟩ := event
  simp only [handleNormalMode] at h
  generalize modifiers.isEmpty = plain at h
  cases code with
  | r =>
    have hredo := s.redo_edits
    dsimp only at h
    split at h
    · split at h <;> rename_i hs <;> rw [hs] at hredo <;> exact some.inj h ▸ hredo.of_stacks rfl rfl
    · exact some.inj h ▸ .refl s
  | semicolon =>
    dsimp only at h
    split at h
    · exact some.inj h ▸ (EditorState.Edits.refl s).of_stacks rfl rfl
    · exact some.inj h ▸ .refl s
  | h | left => cases plain <;> cases h <;> [exact .refl s; exact s.moveCursorLeft_same.edits]
  | j | down => cases plain <;> cases h <;> [exact .refl s; exact s.moveCursorDown_same.edits]
  | k | up => cases plain <;> cases h <;> [exact .refl s; exact s.moveCursorUp_same.edits]
  | l | right => cases plain <;> cases h <;> [exact .refl s; exact s.moveCursorRight_same.edits]
  | i => cases plain <;> cases h <;> [exact .refl s; exact s.saveUndoSnapshot_edits.of_stacks rfl rfl]
  | slash => cases plain <;> cases h <;> [exact .refl s; exact (EditorState.Edits.refl s).of_stacks rfl rfl]
  | x =>
    cases plain with
    | false => exact some.inj h ▸ .refl s
    | true =>
      obtain ⟨_, -, rfl⟩ := map_eq_some_iff.mp h
      exact s.saveUndoSnapshot_edits.of_stacks rfl rfl
  | u =>
    cases plain with
    | false => exact some.inj h ▸ .refl s
    | true =>
      have hundo := s.undo_edits
      dsimp only at h
      split at h <;> rename_i hs <;> rw [hs] at hundo <;> exact some.inj h ▸ hundo.of_stacks rfl rfl
  | n =>
    cases plain with
    | false => exact some.inj h ▸ .refl s
    | true =>
      obtain ⟨_, hnext, rfl⟩ := map_eq_some_iff.mp h
      exact (findNext_same hnext).edits.of_stacks rfl rfl
  | _ => exact some.inj h ▸ .refl s

theorem handleInsertMode_same {event s s'} (h : handleInsertMode event s = some s') : s.Same s' := by
  unfold handleInsertMode at h
  split at h
  · exact some.inj h ▸ ⟨rfl, rfl⟩
  · obtain ⟨⟨_ | _, _⟩, -, rfl⟩ := map_eq_some_iff.mp h <;> exact ⟨rfl, rfl⟩
  · obtain ⟨⟨_ | _, _⟩, -, rfl⟩ := map_eq_some_iff.mp h <;> exact ⟨rfl, rfl⟩
  · split at h
    · obtain ⟨⟨_ | _, _⟩, -, rfl⟩ := map_eq_some_iff.mp h <;> exact ⟨rfl, rfl⟩
    · exact some.inj h ▸ .refl s

theorem handleSearchMode_same {event} {s s' : EditorState} (h : handleSearchMode event s = some s') : s.Same s' := by
  unfold handleSearchMode at h
  split at h
  · exact some.inj h ▸ ⟨rfl, rfl⟩
  · obtain ⟨_, hnext, rfl⟩ := map_eq_some_iff.mp h
    exact ⟨(findNext_same hnext).1, (findNext_same hnext).2⟩
  · exact some.inj h ▸ ⟨rfl, rfl⟩
  · split at h
    · exact some.inj h ▸ ⟨rfl, rfl⟩
    · exact some.inj h ▸ .refl s

variable {σ : Type} {e : Editor σ}

theorem post_computed {f Q} : (computed f).Post e Q ↔ match f e.state with
      | some s => Q (.ok .continue) { e with state := s }
      | none => Q (.error .panic) e := by
  unfold computed
  rw [post_get_bind]
  cases f e.state <;> exact Iff.rfl

theorem post_onIo_bind {α β : Type} {io} {m : Proc σ IoError α} {f}
    {Q : Except (Fault EditorError) β → Editor σ → Prop} : (onIo io m >>= f).Post e Q ↔
      m.Post io fun r io' => match r with
        | .ok a => (f (.ok a)).Post { e with io := some io' } Q
        | .error (.err err) => (f (.error err)).Post { e with io := some io' } Q
        | .error .panic => Q (.error .panic) { e with io := some io' } := by
  rw [post_bind, onIo, post_zoom, post_attempt]
  rw [Post, Post]
  rcases m.exec io with ⟨⟨_ | _⟩ | _, _⟩ <;> exact Iff.rfl

end Editor

end PandaGen.Vi
