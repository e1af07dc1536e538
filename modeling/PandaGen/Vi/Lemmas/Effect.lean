import PandaGen.Vi.Lemmas.Editor

/-!
# What a call does to the vi editor
-/

namespace PandaGen.Vi.Editor

open Lib Input Proc

variable {σ : Type} [EditorIo σ] {e : Editor σ}

inductive Served (text : Text) (io : σ) : σ → Prop
  | opened (options) : Served text io ((EditorIo.open options).exec io).2
  | saved (handle) : Served text io ((EditorIo.save handle text).exec io).2
  | savedAs (path) : Served text io ((EditorIo.saveAs path text).exec io).2

/-- What a call does to the editor: it uses its handler at most once, and takes no snapshot but of the text before. -/
structure Effect (e e' : Editor σ) : Prop where
  edits : e.state.Edits e'.state
  io : e'.io = e.io ∨ ∃ io io', e.io = some io ∧ e'.io = some io' ∧ Served e.state.buffer.asString io io'

theorem Effect.of_edits {s} (h : e.state.Edits s) : Effect e { e with state := s } :=
  ⟨h, .inl rfl⟩

theorem Effect.refl (e : Editor σ) : Effect e e := of_edits (.refl e.state)

theorem Effect.of_same {s} (h : e.state.Same s) : Effect e { e with state := s } := of_edits h.edits

theorem Effect.onIo_bind {α β : Type} {io} {m : Proc σ IoError α} {f : Except IoError α → Edit σ β}
    (hio : e.io = some io) (hserved : Served e.state.buffer.asString io (m.exec io).2)
    (hf : ∀ r io', (f r).Post { e with io := some io' } fun _ e' =>
      e.state.Same e'.state ∧ e'.io = some io') :
    (onIo io m >>= f).Post e fun _ e' => Effect e e' := by
  rw [post_onIo_bind, Post]
  split
  · exact (hf _ _).mono fun _ _ h => ⟨h.1.edits, .inr ⟨io, _, hio, h.2, hserved⟩⟩
  · exact (hf _ _).mono fun _ _ h => ⟨h.1.edits, .inr ⟨io, _, hio, h.2, hserved⟩⟩
  · exact ⟨.refl e.state, .inr ⟨io, _, hio, rfl, hserved⟩⟩

theorem openWith_effect (options) : (openWith options).Post e fun _ e' => Effect e e' := by
  unfold openWith
  rw [post_get_bind, post_okOr_bind]
  split
  · rename_i io hio
    refine Effect.onIo_bind hio (.opened options) fun r io' => ?_
    rcases r with (_ | _ | _ | _) | result
    · cases options.path <;> exact ⟨⟨rfl, rfl⟩, rfl⟩
    all_goals exact ⟨⟨rfl, rfl⟩, rfl⟩
  · exact .refl e

theorem saveDocument_effect (drawn) : (saveDocument drawn).Post e fun _ e' => Effect e e' := by
  unfold saveDocument
  rw [post_get_bind]
  split
  · rename_i io handle hio _
    refine Effect.onIo_bind hio (.saved handle) fun r io' => ?_
    cases r <;> exact ⟨⟨rfl, rfl⟩, rfl⟩
  all_goals exact .of_same ⟨rfl, rfl⟩

theorem saveDocumentAs_effect (path drawn) : (saveDocumentAs path drawn).Post e fun _ e' => Effect e e' := by
  unfold saveDocumentAs
  rw [post_get_bind, post_okOr_bind]
  split
  · rename_i io hio
    refine Effect.onIo_bind hio (.savedAs path) fun r io' => ?_
    cases r <;> exact ⟨⟨rfl, rfl⟩, rfl⟩
  · exact .refl e

theorem executeCommand_effect (cmdStr drawn) : (executeCommand cmdStr drawn).Post e fun _ e' => Effect e e' := by
  unfold executeCommand
  rw [post_ofExcept_bind]
  split
  · rename_i command _
    cases command with
    | write | writeQuit => exact Post.bind (saveDocument_effect drawn) (fun _ _ h => h) fun _ _ h => h
    | writeAs path => exact Post.bind (saveDocumentAs_effect path drawn) (fun _ _ h => h) fun _ _ h => h
    | edit path force =>
      rw [post_get_bind, post_ite]
      split
      · exact .of_same ⟨rfl, rfl⟩
      · exact Post.bind (openWith_effect _) (fun _ _ h => h) fun _ _ h => h
    | quit =>
      rw [post_get_bind, post_ite]
      split
      · exact .of_same ⟨rfl, rfl⟩
      · exact .refl e
    | forceQuit => exact .refl e
  · exact .refl e

theorem handleCommandMode_effect (event drawn) : (handleCommandMode event drawn).Post e fun _ e' => Effect e e' := by
  unfold handleCommandMode
  split
  · exact .of_same ⟨rfl, rfl⟩
  · have h := executeCommand_effect (e := { e with
      state := { e.state with commandBuffer := [] }.setMode .normal }) e.state.commandBuffer drawn
    exact ⟨h.edits, h.io⟩
  · exact .of_same ⟨rfl, rfl⟩
  · split
    · exact .of_same ⟨rfl, rfl⟩
    · exact .refl e

theorem computed_effect {f} (hf : ∀ s, f e.state = some s → e.state.Edits s) :
    (computed f).Post e fun _ e' => Effect e e' := by
  rw [post_computed]
  split
  · exact .of_edits (hf _ ‹_›)
  · exact .refl e

theorem processInput_effect (event drawn) : (processInput event drawn).Post e fun _ e' => Effect e e' := by
  obtain ⟨event⟩ := event
  unfold processInput
  rw [post_ite]
  split
  · exact .refl e
  · rw [post_get_bind]
    split
    · exact computed_effect fun _ => handleNormalMode_edits
    · exact computed_effect fun _ hs => (handleInsertMode_same hs).edits
    · exact handleCommandMode_effect event drawn
    · exact computed_effect fun _ hs => (handleSearchMode_same hs).edits

end PandaGen.Vi.Editor
