import PandaGen.Vi.Lemmas.Effect

/-!
# Undo and the documents
-/

namespace PandaGen.Vi

open Lib Input Proc List

structure Recorded (σ : Type) where
  io : σ
  written : List Text

namespace Recorded

variable {σ α : Type} [EditorIo σ]

def inner (m : Proc σ IoError α) : Proc (Recorded σ) IoError α := m.zoom io fun io self => { self with io }

def record (content : Text) : Proc (Recorded σ) IoError Unit :=
  modify fun self => { self with written := self.written ++ [content] }

instance : EditorIo (Recorded σ) where
  «open» options := inner (EditorIo.open options)
  save handle content := do
    record content
    inner (EditorIo.save handle content)
  saveAs path content := do
    record content
    inner (EditorIo.saveAs path content)

end Recorded

namespace Editor

variable {σ : Type} {e : Editor (Recorded σ)} {Shown : TextBuffer → Prop}

structure Within (Shown : TextBuffer → Prop) (e : Editor (Recorded σ)) : Prop where
  history : ∀ snap ∈ e.state.history, Shown snap.buffer
  written : ∀ io ∈ e.io, ∀ text ∈ io.written, ∃ b, Shown b ∧ b.asString = text

theorem Within.mono {Shown'} (h : Within Shown e) (hshown : ∀ b, Shown b → Shown' b) : Within Shown' e where
  history snap hsnap := hshown _ (h.history snap hsnap)
  written io hio text htext := (h.written io hio text htext).imp fun b hb => ⟨hshown b hb.1, hb.2⟩

variable [EditorIo σ]

theorem Within.of_effect {e'} (h : Within Shown e) (hshown : Shown e.state.buffer) (heffect : Effect e e') :
    Within Shown e' where
  history snap hsnap := (heffect.edits snap hsnap).elim (h.history snap) fun heq => heq ▸ hshown
  written io' hio' text htext := by
    rcases heffect.io with hsame | ⟨io, _, hio, hserved, hcall⟩
    · exact h.written io' (hsame ▸ hio') text htext
    · obtain rfl := Option.some.inj (hserved.symm.trans hio')
      have hmem : text ∈ io.written ∨ text = e.state.buffer.asString := by
        cases hcall with
        | opened => exact .inl htext
        | saved | savedAs => exact (mem_append.mp htext).imp_right mem_singleton.mp
      rcases hmem with hold | rfl
      · exact h.written io hio text hold
      · exact ⟨e.state.buffer, hshown, rfl⟩

theorem perform_within (h : Within Shown e) (hshown : Shown e.state.buffer) (call) :
    (perform call).Post e fun _ e' => Within Shown e' := by
  have hdone : (perform call).Post e fun _ e' => Effect e e' := by
    cases call with
    | newDocument => exact ⟨nofun, .inl rfl⟩
    | loadDocument => exact ⟨.refl e.state, .inl rfl⟩
    | openWith options => exact openWith_effect options
    | processInput event drawn => exact Post.bind (processInput_effect event drawn) (fun _ _ h => h) fun _ _ h => h
    | saveCurrentDocument drawn => exact Post.bind (saveDocument_effect drawn) (fun _ _ h => h) fun _ _ h => h
  exact hdone.mono fun _ _ => h.of_effect hshown

/-! ## Runs -/

def Shows (e : Editor σ) (tr : List (Call × Except EditorError Unit)) (b : TextBuffer) : Prop :=
  ∃ tr' e', tr' <+: tr ∧ machine.FreeRun e tr' e' ∧ e'.state.buffer = b

def recorded (e : Editor σ) : Editor (Recorded σ) := { e with io := e.io.map fun io => ⟨io, []⟩ }

theorem within_run {e0 tr}
    (h0 : Within (Shows e0 []) e0) (hrun : machine.FreeRun e0 tr e) : Within (Shows e0 tr) e := by
  refine hrun.invariantReached (P := fun tr e => Within (Shows e0 tr) e) ?_ h0
  intro tr e call answer e' hreached hwithin hstep _
  have hgrown : Within (Shows e0 (tr ++ [(call, answer)])) e := hwithin.mono fun b ⟨tr0, e1, hpre, hrun⟩ =>
    ⟨tr0, e1, hpre.trans (prefix_append _ _), hrun⟩
  have hshown : Shows e0 (tr ++ [(call, answer)]) e.state.buffer := ⟨tr, e, prefix_append _ _, hreached, rfl⟩
  exact (perform_within hgrown hshown call).of_call hstep

theorem shows_undo_redo {e0 tr} (h : Within (Shows e0 tr) e) (hrun : machine.FreeRun e0 tr e) :
    Shows e0 tr e.state.undo.2.buffer ∧ Shows e0 tr e.state.redo.2.buffer := by
  have hnow : Shows e0 tr e.state.buffer := ⟨tr, e, prefix_rfl, hrun, rfl⟩
  constructor
  · rcases e.state.undo_buffer with heq | ⟨snap, hsnap, heq⟩
    · rwa [heq]
    · exact heq ▸ h.history snap hsnap
  · rcases e.state.redo_buffer with heq | ⟨snap, hsnap, heq⟩
    · rwa [heq]
    · exact heq ▸ h.history snap hsnap

/-! ## Two documents -/

namespace TwoDocuments

def press (code : KeyCode) : Call := .processInput (.key (.pressed code .none)) 0

def stored (n : Nat) : DocumentHandle := ⟨⟨n⟩, ⟨0⟩, none, false⟩

def start : Editor StorageEditorIo := Editor.new.setIo ⟨.new, none, none, fun _ => 0, 0⟩

def typed : List Call := [press .i, press .b, press .escape]

def first : List Call := .loadDocument ['a'] (stored 1) :: typed

def second : List Call := [press .u, .saveCurrentDocument 0]

end TwoDocuments

/-! ## Loads -/

/-- After a load into empty stacks, or into stacks that hold the loaded text only, `undo` and `redo` bring back texts
that were shown since the load, and only such texts are written. -/
theorem undo_stays_in_document {e : Editor σ} {e' : Editor (Recorded σ)} {content : Text} {handle : DocumentHandle}
    {tr : List (Call × Except EditorError Unit)} (hstacks : ∀ snap ∈ e.state.history, snap.buffer = .fromString content)
    (hrun : machine.FreeRun (e.loadDocument content handle).recorded tr e') :
    (Shows (e.loadDocument content handle).recorded tr e'.state.undo.2.buffer ∧
      Shows (e.loadDocument content handle).recorded tr e'.state.redo.2.buffer) ∧
    ∀ io ∈ e'.io, ∀ text ∈ io.written, ∃ b,
      Shows (e.loadDocument content handle).recorded tr b ∧ b.asString = text := by
  have hloaded : Within (Shows (e.loadDocument content handle).recorded []) (e.loadDocument content handle).recorded :=
    { history := fun snap hsnap => ⟨[], _, List.prefix_rfl, .nil, (hstacks snap hsnap).symm⟩
      written := fun io hio => by
        obtain ⟨_, -, rfl⟩ := Option.map_eq_some_iff.mp hio
        exact nofun }
  have hwithin := within_run hloaded hrun
  exact ⟨shows_undo_redo hwithin hrun, hwithin.written⟩

open TwoDocuments in
theorem undo_stays_in_document_start : ∃ tr e',
    machine.FreeRun (start.loadDocument ['c'] (stored 2)).recorded tr e' ∧
    e'.state.buffer.asString = ['b', 'c'] ∧
    Shows (start.loadDocument ['c'] (stored 2)).recorded tr e'.state.undo.2.buffer :=
  have hrun := Machine.exec_free
    (show machine.exec (fun _ _ _ => true) (start.loadDocument ['c'] (stored 2)).recorded typed = some _ from rfl)
  ⟨_, _, hrun, rfl, (undo_stays_in_document (fun _ h => absurd h List.not_mem_nil) hrun).1.1⟩

open TwoDocuments in
theorem undo_crosses_load : ∃ tr e tr' e',
    machine.FreeRun start tr e ∧ e.state.buffer.asString = ['b', 'a'] ∧
    machine.FreeRun (e.loadDocument ['c'] (stored 2)).recorded tr' e' ∧
    e'.io.map (·.written) = some [['a']] ∧ e'.document.map (·.objectId) = some ⟨2⟩ :=
  ⟨_, _, _, _,
    Machine.exec_free (show machine.exec (fun _ _ _ => true) start first = some _ from rfl), rfl,
    Machine.exec_free (show machine.exec (fun _ _ _ => true) _ second = some _ from rfl), rfl,
    rfl⟩

end Editor

end PandaGen.Vi
