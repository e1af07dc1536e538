import PandaGen.Workspace.Lemmas.Steps

/-!
# The steps of an input event

A key binding, a command or a key in a component is made of the steps of the workspace as well.
-/

namespace PandaGen.Workspace.WorkspaceManager

open Lib Input View Fs Vi Proc Nat ComponentInstance Post Editor Quiet Option
open Kernel (ExitReason)

variable {σ L R : Type} {env : Services σ L R} {s s' : WorkspaceManager σ L R}
  {G : WorkspaceManager σ L R → Move → Prop}

abbrev StepsFrom {α : Type} (env : Services σ L R) (G : WorkspaceManager σ L R → Move → Prop)
    (s : WorkspaceManager σ L R) (m : Work σ L R α) : Prop :=
  m.Post s fun _ s' => Steps env.toSurroundings G s s'

abbrev Stepwise {α : Type} (env : Services σ L R) (G : WorkspaceManager σ L R → Move → Prop)
    (m : Work σ L R α) : Prop :=
  m.Relates (Steps env.toSurroundings G)

/-! ## The components that a call names -/

section

variable (env) (s)

def commandMoves : WorkspaceCommand → List Move
  | .focus c => [.focus c]
  | .close c => [.terminate c]
  | _ => []

def quitMoves : List Move := (s.listComponents env.toSurroundings).map (.terminate ·.id)

/-- A CLI runs the command that the key completes, and a file picker may close itself. -/
def deliverMoves (event : InputEvent) (c : ComponentId) : List Move :=
  match s.componentInstances[c]? with
  | some (.cli console) =>
    match console.processInput event with
    | some (some text, _) => ((env.parseCommand text.trim).toOption.map commandMoves).getD []
    | _ => []
  | some (.filePicker _) => [.terminate c]
  | _ => []

def routeMoves (event : InputEvent) : List Move :=
  match event with
  | .key keyEvent =>
    match getAction keyEvent with
    | some .quit => s.quitMoves env
    | _ => ((s.getFocusedComponent env.toSurroundings).map (s.deliverMoves env event)).getD []

/-- What a call focuses or terminates by name. What else it focuses runs. -/
def moves : Call σ → List Move
  | .terminateComponent c _ => [.terminate c]
  | .focusComponent c => [.focus c]
  | .routeInput event => s.routeMoves env event
  | _ => []

end

/-! ## Commands -/

theorem onServices_steps (f) : Stepwise env G (onServices f) :=
  fun _ => steps ⟨rfl, rfl, rfl, rfl, rfl, rfl, le_refl _, le_refl _⟩

theorem reported_steps {α : Type} {failed} {ok : α → Work σ L R CommandResult} {m : Work σ L R α}
    (hm : StepsFrom env G s m) (hok : ∀ a, Stepwise env G (ok a)) : StepsFrom env G s (reported failed ok m) := by
  refine hm.attempt.then fun r => ?_
  split
  · exact hok _
  · exact relates_pure _

theorem focusAnswer_steps : Stepwise env G (focusAnswer env) := by
  refine relates_get.bind fun s => ?_
  split <;> exact relates_pure _

theorem takeTimestamp_steps : Stepwise env G (takeTimestamp) :=
  fun s => (quiet_takeTimestamp s).steps

theorem newUuid_steps : Stepwise env G (newUuid env.toSurroundings) := fun s => (draw s 1).steps

theorem lastAction_steps {α : Type} (msg) (a : α) : Stepwise env G (do lastAction env msg; return a) :=
  (onServices_steps _).bind fun _ => relates_pure a

theorem terminateAll_steps [Lenient G] {componentIds} (h : ∀ c ∈ componentIds, G s (.terminate c)) (reason) :
    StepsFrom env G s (terminateAll reason componentIds) := by
  induction componentIds generalizing s with
  | nil => exact .refl
  | cons c rest ih =>
    rw [StepsFrom, terminateAll, post_bind, post_attempt, terminateComponent_post]
    split
    · rename_i component hcomponent
      refine mono (ih fun a ha => Lenient.terminated reason hcomponent (h a (.tail _ ha))) fun _ _ hsteps => ?_
      exact hsteps.head (.terminate (h c (.head _)) hcomponent)
    · exact ih fun a ha => h a (.tail _ ha)

theorem succeeded_steps {m} (hm : StepsFrom env G s m) : StepsFrom env G s (succeeded m) := by
  refine hm.attempt.then fun r => ?_
  split <;> exact relates_pure _

/-! ## Instances -/

theorem setInstance_steps (c inst) : Stepwise env G (setInstance c inst) := fun _ => .single .update

theorem showConsole_steps (c console timestamp statusLabel wrap) :
    Stepwise env G (showConsole c console timestamp statusLabel wrap) := by
  intro s
  rw [showConsole, publishFor, post_bind, post_get_bind]
  cases s.components[c]?.bind (·.views) <;> exact .single .update

theorem showEditor_steps (c e timestamp) : Stepwise env G (showEditor c e timestamp) := fun _ => .single .update

theorem showPicker_steps (c picker timestamp) : Stepwise env G (showPicker c picker timestamp) := by
  intro s
  rw [showPicker, publishPicker, post_bind, post_get_bind]
  cases s.components[c]?.bind (·.views) <;> exact .single .update

variable (c : ComponentId)

theorem appendCliOutput_steps (lines) : Stepwise env G (appendCliOutput c lines) := by
  refine takeTimestamp_steps.bind fun timestamp => relates_get.bind fun s => ?_
  split
  · exact showConsole_steps _ _ _ _ _
  · exact relates_pure ()

theorem executeCustomComponentCommand_steps (command) : Stepwise env G (executeCustomComponentCommand c command) := by
  unfold executeCustomComponentCommand
  dsimp only
  split
  · exact relates_pure ()
  · refine takeTimestamp_steps.bind fun timestamp => relates_get.bind fun s => ?_
    split
    · exact showConsole_steps _ _ _ _ _
    · exact relates_pure ()

theorem executePipelineComponentCommand_steps (command) :
    Stepwise env G (executePipelineComponentCommand env c command) := by
  unfold executePipelineComponentCommand
  dsimp only
  split
  · exact relates_pure ()
  · refine takeTimestamp_steps.bind fun timestamp => relates_get.bind fun s => ?_
    split
    · exact showConsole_steps _ _ _ _ _
    · exact relates_pure ()

theorem showConsole_still (console' timestamp statusLabel wrap) :
    (showConsole c console' timestamp statusLabel wrap : Work σ L R Unit).Post s fun _ s' => Still s s' := by
  rw [showConsole, publishFor, post_bind, post_get_bind]
  cases s.components[c]?.bind (·.views) <;> exact ⟨rfl, rfl⟩

theorem showPicker_still (picker timestamp) :
    (showPicker c picker timestamp : Work σ L R Unit).Post s fun _ s' => Still s s' := by
  rw [showPicker, publishPicker, post_bind, post_get_bind]
  cases s.components[c]?.bind (·.views) <;> exact ⟨rfl, rfl⟩

theorem deliverToConsole_steps {c console event execute}
    (hexecute : ∀ s' command console', console.processInput event = some (some command, console') → Still s s' →
      StepsFrom env G s' (execute command)) (timestamp statusLabel wrap) :
    StepsFrom env G s (deliverToConsole c console event timestamp statusLabel wrap execute) := by
  rw [StepsFrom, deliverToConsole, post_okOrPanic_bind]
  split
  · rename_i pending hprocess
    obtain ⟨command, console'⟩ := pending
    refine bind (P := fun _ s' => Steps env.toSurroundings G s s' ∧ Still s s')
      ⟨showConsole_steps _ _ _ _ _ s, showConsole_still ..⟩ (fun _ _ h => h.1) fun _ s1 h => ?_
    cases command with
    | some command => exact mono (hexecute s1 command console' hprocess h.2) fun _ _ h' => h.1.trans h'
    | none => exact h.1
  · exact .refl

/-! ## What an event that no key binding consumes leaves -/

/-- The focus and the components stay. Only an editor may be another one. -/
structure Held (s s' : WorkspaceManager σ L R) : Prop extends Still s s' where
  instances : ∀ (c : ComponentId) inst, s'.componentInstances[c]? = some inst →
    s.componentInstances[c]? = some inst ∨ ∃ e, inst = .editor e

instance : Std.Refl (Held (σ := σ) (L := L) (R := R)) := ⟨fun _ => ⟨⟨rfl, rfl⟩, fun _ _ => .inl⟩⟩

instance : Trans (Held (σ := σ) (L := L) (R := R)) Held Held where
  trans h h' := by
    refine ⟨⟨h'.components.trans h.components, h'.focusManager.trans h.focusManager⟩, fun c inst hinst => ?_⟩
    rcases h'.instances c inst hinst with hinst | heditor
    · exact h.instances c inst hinst
    · exact .inr heditor

theorem succeeded_held {m} (h : m.Post s fun r s' => ∀ e, r = .error e → Held s s') :
    (succeeded m).Post s fun r s' => r = .ok false → Held s s' := by
  rw [succeeded, post_bind, post_attempt]
  refine mono h fun r s' hr => ?_
  rcases r with (e | _) | _
  · exact fun _ => hr _ rfl
  · exact nofun
  · exact nofun

theorem focusComponent_held :
    (focusComponent c : Work σ L R Unit).Post s fun r s' => ∀ e, r = .error e → Held s s' := by
  rw [focusComponent_post]
  split
  · exact nofun
  · exact fun _ _ => Std.Refl.refl s

theorem cycleFocusInOrder_held (ordered forward) :
    (cycleFocusInOrder env.toSurroundings ordered forward).Post s fun r s' => ∀ e, r = .error e → Held s s' := by
  rw [cycleFocusInOrder, post_get_bind, post_okOr_bind]
  split
  · exact focusComponent_held _
  · exact fun _ _ => Std.Refl.refl s

theorem focusAmong_held (pick) : (focusAmong env pick).Post s fun r s' => r = .ok false → Held s s' := by
  rw [focusAmong, post_get_bind]
  split
  · exact succeeded_held (focusComponent_held _)
  · exact fun _ => Std.Refl.refl s

theorem Quiet.held (h : Quiet s s') : Held s s' :=
  ⟨⟨h.components, h.focusManager⟩, fun _ _ hinst => .inl (h.componentInstances ▸ hinst)⟩

theorem lastAction_held (msg result) : (do lastAction env msg; return result : Work σ L R Bool).Relates Held :=
  fun _ => ⟨⟨rfl, rfl⟩, fun _ _ => .inl⟩

theorem Held.deliverMoves (h : Held s s') {event c move} (hmove : move ∈ s'.deliverMoves env event c) :
    move ∈ s.deliverMoves env event c := by
  cases hinst : s'.componentInstances[c]? with
  | none => simp [WorkspaceManager.deliverMoves, hinst] at hmove
  | some inst =>
    rw [WorkspaceManager.deliverMoves, hinst] at hmove
    rcases h.instances c inst hinst with hsame | ⟨e, rfl⟩
    · rw [WorkspaceManager.deliverMoves, hsame]
      exact hmove
    · cases hmove

theorem Still.getFocusedComponent (h : Still s s') :
    s'.getFocusedComponent env.toSurroundings = s.getFocusedComponent env.toSurroundings := by
  simp only [WorkspaceManager.getFocusedComponent, componentOf, listComponents, h.components, h.focusManager]

theorem Held.editor (e viewHost) :
    Held s { s with viewHost, componentInstances := s.componentInstances.insert c (.editor e) } := by
  refine ⟨⟨rfl, rfl⟩, fun a inst hinst => ?_⟩
  rw [BTreeMap.getElem?_insert] at hinst
  split at hinst
  · cases hinst
    exact .inr ⟨e, rfl⟩
  · exact .inl hinst

theorem post_executed {α : Type} {m : Work σ L R α} {n : Work σ L R Unit} {P : WorkspaceManager σ L R → Prop} :
    (do let _ ← m; n; return true : Work σ L R Bool).Post s fun r s' => r = .ok false → P s' :=
  bind (P := fun _ _ => True) trivial (fun _ _ _ => nofun) fun _ _ _ =>
    bind (P := fun _ _ => True) trivial (fun _ _ _ => nofun) fun _ _ _ => nofun

/-! ## Actions -/

theorem focusAmong_steps [Lenient G] {pick} (hpick : ∀ ids c, pick ids = some c → c ∈ ids) :
    Stepwise env G (focusAmong env pick) := by
  intro s
  rw [focusAmong, post_get_bind]
  split
  · exact succeeded_steps (focusComponent_steps (Lenient.live (live_of_mem_visible (hpick _ _ ‹_›))))
  · exact .refl

theorem live_of_findRunningComponentOfType {componentType c}
    (h : s.findRunningComponentOfType env componentType = some c) : s.Live c := by
  obtain ⟨x, hx, hid⟩ := List.mem_map.mp (List.mem_mergeSort.mp (List.mem_of_mem_head? h))
  obtain ⟨hlisted, hrunning⟩ := List.mem_filter.mp hx
  obtain ⟨a, ha⟩ := mem_listComponents.mp hlisted
  exact ⟨a, x, ha, .inr hid, (of_decide_eq_true hrunning).1⟩

variable [EditorIo σ]

theorem saveEditor_steps (e timestamp) : Stepwise env G (saveEditor env c e timestamp) := by
  refine newUuid_steps.bind fun drawn => ?_
  split
  · exact relates_throw _
  · exact (setInstance_steps c _).bind fun _ => lastAction_steps _ _
  · exact (showEditor_steps c _ timestamp).bind fun _ => lastAction_steps _ _

theorem saveFocused_steps : Stepwise env G (saveFocused env) := by
  refine relates_get.bind fun s => ?_
  split
  · exact lastAction_steps _ _
  · refine relates_get.bind fun s => ?_
    split
    · exact lastAction_steps _ _
    · refine takeTimestamp_steps.bind fun timestamp => relates_get.bind fun s => ?_
      split
      · exact lastAction_steps _ _
      · exact saveEditor_steps _ _ timestamp
      · exact lastAction_steps _ _

theorem deliverToEditor_steps (e event timestamp) : Stepwise env G (deliverToEditor env c e event timestamp) := by
  refine newUuid_steps.bind fun drawn => ?_
  split
  · exact relates_throw _
  · exact setInstance_steps c _
  · exact showEditor_steps c _ timestamp

section

variable [Lenient G]

theorem cmdOpen_steps (componentType args) : Stepwise env G (cmdOpen env componentType args) := by
  unfold cmdOpen
  split
  · exact relates_pure _
  · refine relates_get.bind fun s s => reported_steps (launchComponent_steps _ s) fun c => ?_
    split
    · split
      · exact (onServices_steps _).bind fun _ => relates_pure _
      · exact relates_pure _
    · exact relates_pure _

theorem executeCommandInner_steps {command} (h : ∀ move ∈ commandMoves command, G s move) :
    StepsFrom env G s (executeCommandInner env command) := by
  cases command with
  | «open» componentType args => exact cmdOpen_steps componentType args s
  | list | getFocus => exact .refl
  | focus c => exact reported_steps (focusComponent_steps (h _ (.head _))) fun _ => relates_pure _
  | focusNext => exact reported_steps (cycle_steps true s) fun _ => focusAnswer_steps
  | focusPrev => exact reported_steps (cycle_steps false s) fun _ => focusAnswer_steps
  | close c => exact reported_steps (terminateComponent_steps (h _ (.head _)) _) fun _ => relates_pure _
  | status c =>
    rw [StepsFrom, executeCommandInner, post_get_bind]
    split <;> exact .refl
  | openFilePicker =>
    refine (launchComponent_steps _ s).attempt.then fun r => ?_
    split <;> exact relates_pure _
  | service command => exact steps ⟨rfl, rfl, rfl, rfl, rfl, rfl, le_refl _, le_refl _⟩

theorem executeCommand_steps {command} (h : ∀ move ∈ commandMoves command, G s move) :
    StepsFrom env G s (executeCommand env command) :=
  (executeCommandInner_steps h).then fun _ => (onServices_steps _).bind fun _ => relates_pure _

theorem commandLine_steps : (commandLine env).Post s fun r s' =>
    Steps env.toSurroundings G s s' ∧ ∀ c, r = .ok (some c) → s'.Live c := by
  rw [commandLine, post_get_bind]
  split
  · refine ⟨.refl, ?_⟩
    rintro c ⟨⟩
    exact live_of_findRunningComponentOfType ‹_›
  · rw [post_bind, post_attempt]
    refine mono (Q := fun r s' => Steps env.toSurroundings G s s' ∧ ∀ c, r = .ok c → s'.Live c)
      ⟨launchComponent_steps _ s, launchComponent_live _⟩ fun r s' hr => ?_
    rcases r with (e | _) | a
    · exact ⟨hr.1, fun _ hc => by cases hc⟩
    · exact ⟨hr.1, fun _ hc => by cases hc⟩
    · refine ⟨hr.1, ?_⟩
      rintro c ⟨⟩
      exact hr.2 a rfl

theorem enterCommandMode_steps : Stepwise env G (enterCommandMode env) := by
  refine relates_get.bind fun s s => ?_
  dsimp only
  split
  · exact lastAction_steps _ _ s
  · refine bind commandLine_steps (fun _ _ h => h.1) fun cli s1 h => ?_
    split
    · exact mono (lastAction_steps _ _ s1) fun _ _ h' => h.1.trans h'
    · have hfocus : StepsFrom env G s1 (tryFocus _) := tryFocus_post.mpr (tryFocused_steps (Lenient.live (h.2 _ rfl)))
      refine mono (hfocus.then fun _ => (appendCliOutput_steps _ _).bind fun _ => lastAction_steps _ _) fun _ _ h' => ?_
      exact h.1.trans h'

theorem executeAction_steps {action} (h : action = .quit → ∀ move ∈ s.quitMoves env, G s move) :
    StepsFrom env G s (executeAction env action) := by
  cases action with
  | switchTile =>
    rw [StepsFrom, executeAction, post_get_bind]
    split
    · exact succeeded_steps (cycleTiles_steps true s)
    · exact succeeded_steps (cycle_steps true s)
  | focusTop => exact focusAmong_steps (fun _ _ => List.mem_of_mem_head?) s
  | focusBottom => exact focusAmong_steps (fun _ _ => List.mem_of_getLast?) s
  | save => exact saveFocused_steps s
  | quit =>
    rw [StepsFrom, executeAction, post_get_bind]
    have hmoves : ∀ c ∈ (s.listComponents env.toSurroundings).map (·.id), G s (.terminate c) := by
      simpa [quitMoves] using h rfl
    exact (terminateAll_steps hmoves _).then fun _ => lastAction_steps _ _
  | commandMode => exact enterCommandMode_steps s
  | custom _ => exact .refl

end

theorem saveEditor_held (e timestamp) : (saveEditor env c e timestamp).Relates Held := by
  refine Relates.bind (fun _ => ⟨⟨rfl, rfl⟩, fun _ _ => .inl⟩) fun drawn => ?_
  split
  · exact relates_throw _
  · exact Relates.bind (fun s => Held.editor c _ s.viewHost) fun _ => lastAction_held _ _
  · exact Relates.bind (fun _ => Held.editor c _ _) fun _ => lastAction_held _ _

theorem saveFocused_held : (saveFocused env).Relates Held := by
  refine relates_get.bind fun s => ?_
  split
  · exact lastAction_held _ _
  · refine relates_get.bind fun s => ?_
    split
    · exact lastAction_held _ _
    · refine Relates.bind (fun _ => ⟨⟨rfl, rfl⟩, fun _ _ => .inl⟩) fun timestamp => relates_get.bind fun s => ?_
      split
      · exact lastAction_held _ _
      · exact saveEditor_held _ _ _
      · exact lastAction_held _ _

theorem commandLine_held : (commandLine env).Post s fun r s' => r = .ok none → Held s s' := by
  rw [commandLine, post_get_bind]
  split
  · exact nofun
  · rw [post_bind, post_attempt]
    refine mono (launchComponent_post _) fun r s' hr => ?_
    rcases r with (e | _) | _
    · exact fun _ => hr.held
    · exact nofun
    · exact nofun

theorem enterCommandMode_held : (enterCommandMode env).Post s fun r s' => r = .ok false → Held s s' := by
  rw [enterCommandMode, post_get_bind]
  dsimp only
  split
  · exact mono (lastAction_held _ _ s) fun _ _ h _ => h
  · refine bind commandLine_held (fun _ _ _ => nofun) fun cli s1 hcli => ?_
    split
    · exact mono (lastAction_held _ _ s1) fun _ _ h _ => Trans.trans (hcli rfl) h
    · exact bind (P := fun _ _ => True) trivial (fun _ _ _ => nofun) fun _ _ _ => post_executed

theorem executeAction_held (action) : (executeAction env action).Post s fun r s' => r = .ok false → Held s s' := by
  cases action with
  | switchTile =>
    rw [executeAction, post_get_bind]
    split <;> exact succeeded_held (cycleFocusInOrder_held _ _)
  | focusTop | focusBottom => exact focusAmong_held _
  | save => exact mono (saveFocused_held s) fun _ _ h _ => h
  | quit =>
    exact post_executed
  | commandMode => exact enterCommandMode_held
  | custom _ => exact fun _ => Std.Refl.refl s

theorem consume_held (keyEvent) : (consume env (.key keyEvent)).Post s fun r s' =>
    r = .ok false → Held s s' ∧ getAction keyEvent ≠ some .quit := by
  rw [consume]
  cases getAction keyEvent with
  | none => exact fun _ => ⟨Std.Refl.refl s, by simp⟩
  | some action =>
    by_cases hquit : action = .quit
    · subst hquit
      exact post_executed
    · exact mono (executeAction_held action) fun _ _ h hr => ⟨h hr, by simpa using hquit⟩

/-! ## Routing -/

variable [Lenient G]

theorem deliverToPicker_steps {c} (h : G s (.terminate c)) (picker event timestamp) :
    StepsFrom env G s (deliverToPicker env c picker event timestamp) := by
  rw [StepsFrom, deliverToPicker, post_get_bind]
  refine bind (P := fun _ s' => Steps env.toSurroundings G s s' ∧ Still s s')
    ⟨showPicker_steps _ _ _ s, showPicker_still ..⟩ (fun _ _ h => h.1) fun _ s1 h1 => ?_
  have hterminate : StepsFrom env G s1 ((terminateComponent c .normal).attempt : Work σ L R _) :=
    (terminateComponent_steps (Lenient.frame h1.2 h) .normal).attempt
  split
  · refine mono (hterminate.then fun _ => Relates.bind (fun s => executeCommand_steps ?_) fun _ => relates_pure ())
      fun _ _ h' => h1.1.trans h'
    simp [commandMoves]
  · exact mono (hterminate.then fun _ => relates_pure ()) fun _ _ h' => h1.1.trans h'
  · exact h1.1

theorem executeCliComponentCommand_steps {command}
    (h : ∀ parsed, env.parseCommand command.trim = .ok parsed → ∀ move ∈ commandMoves parsed, G s move) :
    StepsFrom env G s (executeCliComponentCommand env c command) := by
  rw [StepsFrom, executeCliComponentCommand]
  dsimp only
  split
  · exact .refl
  · split
    · exact (executeCommand_steps (h _ ‹_›)).then fun _ => appendCliOutput_steps _ _
    · exact appendCliOutput_steps _ _ s

theorem deliver_steps {event c} (h : ∀ move ∈ s.deliverMoves env event c, G s move) (timestamp) :
    StepsFrom env G s (deliver env c event timestamp) := by
  rw [StepsFrom, deliver, post_get_bind]
  split
  · exact deliverToEditor_steps c _ event timestamp s
  · rename_i hinst
    refine deliverToConsole_steps (fun s' command console' hprocess hstill => ?_) timestamp _ _
    refine executeCliComponentCommand_steps c fun parsed hparsed move hmove => Lenient.frame hstill (h move ?_)
    simpa [deliverMoves, hinst, hprocess, hparsed, Except.toOption] using hmove
  · rename_i hinst
    exact deliverToPicker_steps (h _ (by simp [deliverMoves, hinst])) _ event timestamp
  · exact deliverToConsole_steps (fun s' _ _ _ _ => executeCustomComponentCommand_steps c _ s') timestamp _ _
  · exact deliverToConsole_steps (fun s' _ _ _ _ => executePipelineComponentCommand_steps c _ s') timestamp _ _
  · exact .refl

theorem consume_steps {event} (h : ∀ move ∈ s.routeMoves env event, G s move) :
    StepsFrom env G s (consume env event) := by
  cases event with
  | key keyEvent =>
    rw [StepsFrom, consume]
    split
    · rename_i action haction
      refine executeAction_steps fun hquit move hmove => h move ?_
      rw [routeMoves, haction, hquit]
      exact hmove
    · exact .refl

theorem routeInput_steps {event} (h : ∀ move ∈ s.routeMoves env event, G s move) :
    StepsFrom env G s (routeInput env event) := by
  cases event with
  | key keyEvent =>
    refine bind (P := fun r s' => Steps env.toSurroundings G s s' ∧ (r = .ok false → Held s s' ∧ _))
      ⟨consume_steps h, consume_held keyEvent⟩ (fun _ _ h => h.1) fun consumed s1 h1 => ?_
    cases consumed with
    | true => exact h1.1
    | false =>
      obtain ⟨hheld, hquit⟩ := h1.2 rfl
      rw [if_neg Bool.false_ne_true, routeToFocused, post_get_bind, hheld.getFocusedComponent]
      split
      · exact h1.1
      · rename_i c hc
        refine bind (P := fun _ s' => Quiet s1 s') (quiet_takeTimestamp s1)
          (fun _ _ h' => h1.1.trans h'.steps) fun timestamp s2 hquiet => ?_
        have hheld2 : Held s s2 := Trans.trans hheld hquiet.held
        have hdeliver : ∀ move ∈ s2.deliverMoves env (.key keyEvent) c, G s2 move := by
          refine fun move hmove => Lenient.frame hheld2.toStill (h move ?_)
          rw [routeMoves, hc]
          split
          · exact absurd ‹_› hquit
          · exact hheld2.deliverMoves hmove
        exact mono ((deliver_steps hdeliver timestamp).then fun _ => relates_pure _) fun _ _ h' =>
          (h1.1.trans hquiet.steps).trans h'

theorem perform_steps {call} (h : ∀ move ∈ s.moves env call, G s move) : StepsFrom env G s (perform env call) := by
  cases call with
  | launchComponent config => exact (launchComponent_steps config).map some s
  | terminateComponent c reason => exact (terminateComponent_steps (h _ (.head _)) reason).then fun _ => relates_pure _
  | focusComponent c => exact (focusComponent_steps (h _ (.head _))).then fun _ => relates_pure _
  | focusNext => exact (cycle_steps true s).then fun _ => relates_pure _
  | focusPrevious => exact (cycle_steps false s).then fun _ => relates_pure _
  | focusNextTile => exact (cycleTiles_steps true s).then fun _ => relates_pure _
  | focusPreviousTile => exact (cycleTiles_steps false s).then fun _ => relates_pure _
  | focusNextTab => exact (focusNextTab_steps s).then fun _ => relates_pure _
  | focusPreviousTab => exact (focusPreviousTab_steps s).then fun _ => relates_pure _
  | splitFocusedTile axis => exact (splitFocusedTile_steps axis s).then fun _ => relates_pure _
  | routeInput event => exact routeInput_steps h
  | setEditorIoContext context => exact steps ⟨rfl, rfl, rfl, rfl, rfl, rfl, le_refl _, le_refl _⟩

/-- The steps of a run whose calls name only what `G` lets through. -/
theorem guarded_steps {P tr} (hP : ∀ s call result, P s call result → ∀ move ∈ s.moves env call, G s move)
    (hrun : (machine env).Run P s tr s') : Steps env.toSurroundings G s s' := by
  induction hrun with
  | nil => exact .refl
  | cons hcall hguard _ ih => exact ((perform_steps (hP _ _ _ hguard)).of_call hcall).trans ih

theorem run_steps {P tr} (hrun : (machine env).Run P s tr s') : Steps env.toSurroundings Free s s' :=
  guarded_steps (fun _ _ _ _ _ _ => trivial) hrun

end PandaGen.Workspace.WorkspaceManager
