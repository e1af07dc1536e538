import PandaGen.Workspace.Lemmas.FocusHistory

/-!
# Input for running components
-/

namespace PandaGen.Workspace.WorkspaceManager

open Lib Input Vi View Fs Proc Post

/-! ## The components on the focus stack -/

section

variable {σ L R : Type} {env : Surroundings L} {s s' : WorkspaceManager σ L R} {c : ComponentId}

def subscriptionOf (s : WorkspaceManager σ L R) (c : ComponentId) : Option InputSubscriptionCap :=
  s.components[c]?.bind (·.subscription)

/-- How often the subscription of a component is on the focus stack. -/
def timesStacked (s : WorkspaceManager σ L R) (c : ComponentId) : Nat :=
  s.focusManager.focusStack.countP fun sub => (s.subscriptionOf c).map (·.id) = some sub.id

/-- A component is focused only while it runs, and terminated only while it is on the focus stack at most once. -/
def Orderly (s : WorkspaceManager σ L R) : Move → Prop
  | .focus c => s.Running c
  | .terminate c => s.timesStacked c ≤ 1

instance (s : WorkspaceManager σ L R) : DecidablePred (Orderly s)
  | .focus c => inferInstanceAs (Decidable (s.Running c))
  | .terminate c => inferInstanceAs (Decidable (s.timesStacked c ≤ 1))

def Tidy (s : WorkspaceManager σ L R) : Move → Prop
  | .focus c => s.Live c
  | .terminate c => s.timesStacked c ≤ 1

theorem Orderly.tidy {move} (h : Orderly s move) : Tidy s move := by
  cases move with
  | focus c =>
    obtain ⟨component, hcomponent, hrunning⟩ := h
    exact ⟨c, component, hcomponent, .inl rfl, hrunning⟩
  | terminate c => exact h

theorem focusStack_terminated (component : ComponentInfo) (a reason) :
    (s.terminated component a reason).focusManager.focusStack = component.subscription.elim s.focusManager.focusStack
      fun sub => s.focusManager.focusStack.eraseP fun entry => entry.id = sub.id := by
  simp only [WorkspaceManager.terminated]
  cases component.subscription with
  | none => rfl
  | some sub => exact FocusManager.focusStack_removeSubscription

theorem focusStack_terminated_sublist (component : ComponentInfo) (a reason) :
    (s.terminated component a reason).focusManager.focusStack.Sublist s.focusManager.focusStack := by
  rw [focusStack_terminated]
  cases component.subscription with
  | none => exact .refl _
  | some sub => exact List.eraseP_sublist

theorem subscriptionOf_terminated {a component} (ha : s.components[a]? = some component) (reason) :
    (s.terminated component a reason).subscriptionOf c = s.subscriptionOf c := by
  simp only [subscriptionOf, WorkspaceManager.terminated, BTreeMap.getElem?_insert]
  split
  · rename_i heq
    rw [← heq, ha]
    rfl
  · rfl

instance : Lenient (Tidy (σ := σ) (L := L) (R := R)) where
  live h := h
  frame {s s' move} hstill h := by
    cases move with
    | focus c => simpa [Tidy, Live, hstill.components] using h
    | terminate c => simpa [Tidy, timesStacked, subscriptionOf, hstill.components, hstill.focusManager] using h
  terminated {s a c component} reason ha h := by
    have hle : (s.terminated component a reason).timesStacked c ≤ s.timesStacked c := by
      rw [timesStacked, subscriptionOf_terminated ha reason]
      exact (focusStack_terminated_sublist component a reason).countP_le
    exact hle.trans h

def Attended (s : WorkspaceManager σ L R) : Prop :=
  ∀ sub ∈ s.focusManager.focusStack, ∃ c, s.Subscribes sub c ∧ s.Running c

theorem two_le_countP {α : Type} {p : α → Bool} {a : α} {l : List α} (hmem : a ∈ l.eraseP p) (ha : p a = true) :
    2 ≤ l.countP p := by
  obtain ⟨b, before, after, hbefore, hb, rfl, herase⟩ := List.exists_of_eraseP (List.eraseP_sublist.subset hmem) ha
  rw [herase] at hmem
  have hafter : a ∈ after := (List.mem_append.mp hmem).resolve_left fun hmem => hbefore a hmem ha
  have hpos := List.countP_pos_iff.mpr ⟨a, hafter, ha⟩
  rw [List.countP_append, List.countP_cons_of_pos hb]
  omega

/-- A component that is on the stack once is not on it after its termination. -/
theorem Attended.terminated (h : Attended s) {a component} (ha : s.components[a]? = some component)
    (hcount : s.timesStacked a ≤ 1) (reason) : Attended (s.terminated component a reason) := by
  intro sub hmem
  obtain ⟨c, hc, hrunning⟩ := h sub ((focusStack_terminated_sublist component a reason).subset hmem)
  refine ⟨c, subscribes_terminated ha reason hc, running_terminated.mpr ⟨hrunning, ?_⟩⟩
  rintro rfl
  obtain ⟨x, hx, hsub⟩ := hc
  rw [ha] at hx
  cases hx
  rw [focusStack_terminated, hsub, Option.elim_some] at hmem
  have htwo := two_le_countP hmem (by simp)
  have htimes : s.timesStacked c = s.focusManager.focusStack.countP fun entry => entry.id = sub.id := by
    simp [timesStacked, subscriptionOf, ha, hsub, eq_comm]
  omega

theorem Attended.step (h : Attended s) (hknown : Known env s) (hstep : Step env Tidy s s') (hids : Distinct env s') :
    Attended s' := by
  cases hstep with
  | quiet hquiet =>
    intro sub hmem
    rw [hquiet.focusManager] at hmem
    obtain ⟨c, hc, hrunning⟩ := h sub hmem
    exact ⟨c, by rwa [Subscribes, hquiet.components], hquiet.running.mpr hrunning⟩
  | @focus c sub hlive hsub =>
    intro sub' hmem
    simp only [focused, FocusManager.focusStack_requestFocus] at hmem
    split at hmem
    · exact h sub' hmem
    · rcases List.mem_cons.mp hmem with rfl | hmem
      · exact ⟨c, subscribes_of_focusSubscription hsub, hknown.running hlive⟩
      · exact h sub' hmem
  | layout _ => exact h
  | @launch s1 component inst timestamp hmade =>
    intro sub hmem
    obtain ⟨c, hc, hrunning⟩ := h sub (hmade.quiet.focusManager ▸ hmem)
    refine ⟨c, hknown.subscribes_installed hmade hids hc, (running_installed hmade.running).mpr (.inl ?_)⟩
    exact hmade.quiet.running.mpr hrunning
  | update => exact h
  | terminate hcount ha => exact h.terminated ha hcount _

structure Watched (env : Surroundings L) (s : WorkspaceManager σ L R) : Prop where
  known : Known env s
  attended : Attended s

theorem Watched.step (h : Watched env s) (hstep : Step env Tidy s s') (hids : Distinct env s') : Watched env s' :=
  ⟨h.known.step hstep hids, h.attended.step h.known hstep hids⟩

theorem Watched.running (h : Watched env s) (hc : s.getFocusedComponent env = some c) : s.Running c := by
  rw [getFocusedComponent, FocusManager.currentFocus] at hc
  obtain ⟨sub, hsub, hc⟩ := Option.bind_eq_some_iff.mp hc
  obtain ⟨a, ha, hrunning⟩ := h.attended sub (List.mem_of_mem_head? hsub)
  rw [componentOf_eq ha (fun _ _ hx => (h.known.entry hx).id) fun _ _ hx => (h.known.subscribes_iff hx ha).mp] at hc
  cases hc
  exact hrunning

end

variable {σ L R : Type} [EditorIo σ] {env : Services σ L R}

theorem routeInput_focused {s s' : WorkspaceManager σ L R} {event c}
    (h : (routeInput env event).call s = some (.ok (some c), s')) :
    s.getFocusedComponent env.toSurroundings = some c := by
  have hpost : (routeInput env event).Post s fun r _ =>
      ∀ c, r = .ok (some c) → s.getFocusedComponent env.toSurroundings = some c := by
    cases event with
    | key keyEvent =>
      refine bind (consume_held keyEvent) (fun _ _ _ _ h => by cases h) fun consumed s1 hheld => ?_
      cases consumed with
      | true => rintro _ ⟨⟩
      | false =>
        rw [if_neg Bool.false_ne_true, routeToFocused, post_get_bind, (hheld rfl).1.getFocusedComponent]
        split
        · rintro _ ⟨⟩
        · rename_i a ha
          refine bind (P := fun _ _ => True) trivial (fun _ _ _ _ h => by cases h) fun _ _ _ => ?_
          refine bind (P := fun _ _ => True) trivial (fun _ _ _ _ h => by cases h) fun _ _ _ c hc => ?_
          cases hc
          exact ha
  exact hpost.of_call h c rfl

/-- If a call names only running components for a focus, and for a termination none that is on the focus stack twice,
then input goes to running components. -/
theorem input_to_running {s₀ s : WorkspaceManager σ L R} (h₀ : s₀.Initial)
    {tr : List (Call σ × Except WorkspaceError (Option ComponentId))}
    (hrun : (machine env).Run (fun s call _ => ∀ move ∈ s.moves env call, Orderly s move) s₀ tr s)
    (hids : Set.InjOn env.ids (Set.Iio s.drawn)) :
    (∀ c, s.getFocusedComponent env.toSurroundings = some c → s.Running c) ∧
      ∀ event c s', (routeInput env event).call s = some (.ok (some c), s') → s.Running c := by
  have hinitial : Watched env.toSurroundings s₀ := by
    refine ⟨h₀.sound.known, ?_⟩
    obtain ⟨workspaceIdentity, services, policy, rfl⟩ := h₀
    simp [Attended, WorkspaceManager.new, FocusManager.new]
  have hwatched : Watched env.toSurroundings s := Steps.invariant (fun _ _ h => h.step)
    (guarded_steps (fun _ _ _ h move hmove => (h move hmove).tidy) hrun) hinitial hids
  exact ⟨fun c => hwatched.running, fun event c s' hcall => hwatched.running (routeInput_focused hcall)⟩

namespace Plain

/-- Every command line closes the second component. -/
def closing : Services StorageEditorIo Unit Unit := { idle with parseCommand := fun _ => .ok (.close ⟨13⟩) }

end Plain

open Plain in
theorem input_to_running_closed : ∃ tr s,
    (machine closing).Run (fun s call _ => ∀ move ∈ s.moves closing call, Orderly s move) start tr s ∧
    s.Terminated ⟨13⟩ ∧ s.getFocusedComponent closing.toSurroundings = some ⟨1⟩ ∧ s.Running ⟨1⟩ := by
  have hcalls : ∃ tr s,
      (machine closing).Run (fun s call _ => ∀ move ∈ s.moves closing call, Orderly s move) start tr s ∧
      s.auditTrail = [.componentLaunched ⟨1⟩ .cli ⟨0⟩ 0, .componentFocused ⟨1⟩ 2,
        .componentLaunched ⟨13⟩ .editor ⟨12⟩ 3, .componentFocused ⟨13⟩ 5, .componentFocused ⟨1⟩ 6,
        .componentFocused ⟨1⟩ 7, .componentTerminated ⟨13⟩ .normal 10] ∧
      s.drawn = 24 ∧ s.getFocusedComponent closing.toSurroundings = some ⟨1⟩ :=
    ⟨_, _, Machine.exec_guarded (show (machine closing).exec
      (fun s call _ => decide (∀ move ∈ s.moves closing call, Orderly s move)) start
      [launch .cli, launch .editor, .focusPrevious, .splitFocusedTile .vertical,
        .routeInput (.key ⟨.x, .none, .pressed⟩), .routeInput (.key ⟨.enter, .none, .pressed⟩)] = some _ from rfl),
      rfl, rfl, rfl⟩
  obtain ⟨tr, s, hrun, htrail, hdrawn, hfocused⟩ := hcalls
  have hrunning := (input_to_running start_initial hrun (distinct (by rw [hdrawn]; decide))).1 _ hfocused
  exact ⟨tr, s, hrun, by simp [Terminated, htrail], hfocused, hrunning⟩

open Plain in
/-- The first component is focused again before both are terminated. It gets the focus back, and the next key. -/
theorem terminated_component_focused : ∃ tr s s', (machine idle).FreeRun start tr s ∧
    s.Terminated ⟨1⟩ ∧ ¬ s.Running ⟨1⟩ ∧ s.getFocusedComponent idle.toSurroundings = some ⟨1⟩ ∧
    (routeInput idle (.key ⟨.a, .none, .pressed⟩)).call s = some (.ok (some ⟨1⟩), s') := by
  have hcalls : ∃ tr s s', (machine idle).FreeRun start tr s ∧
      s.auditTrail = [.componentLaunched ⟨1⟩ .cli ⟨0⟩ 0, .componentFocused ⟨1⟩ 2,
        .componentLaunched ⟨13⟩ .cli ⟨12⟩ 3, .componentFocused ⟨13⟩ 5, .componentFocused ⟨1⟩ 6,
        .componentTerminated ⟨1⟩ .normal 7, .componentTerminated ⟨13⟩ .normal 8] ∧
      (s.components[(⟨1⟩ : ComponentId)]?.map fun component => component.state) = some .exited ∧
      s.getFocusedComponent idle.toSurroundings = some ⟨1⟩ ∧
      (routeInput idle (.key ⟨.a, .none, .pressed⟩)).call s = some (.ok (some ⟨1⟩), s') :=
    ⟨_, _, _, Machine.exec_free (show (machine idle).exec (fun _ _ _ => true) start
      [launch .cli, launch .cli, .focusComponent ⟨1⟩, .terminateComponent ⟨1⟩ .normal,
        .terminateComponent ⟨13⟩ .normal] = some _ from rfl), rfl, rfl, rfl, rfl⟩
  obtain ⟨tr, s, s', hrun, htrail, hstate, hfocused, hroute⟩ := hcalls
  refine ⟨tr, s, s', hrun, by simp [Terminated, htrail], ?_, hfocused, hroute⟩
  rintro ⟨component, hcomponent, hrunning⟩
  rw [hcomponent, Option.map_some, hrunning] at hstate
  cases hstate

/-- The audit trail alone tells which components run and which of them has the focus. -/
theorem audit_trail_replays {s₀ s : WorkspaceManager σ L R} (h₀ : s₀.Initial) {tr}
    (hrun : (machine env).FreeRun s₀ tr s) (hids : Set.InjOn env.ids (Set.Iio s.drawn)) :
    s.getFocusedComponent env.toSurroundings = (focusHistory s.auditTrail).head? ∧
      ∀ c, (s.components[c]?.isSome ↔ s.Launched c) ∧ (s.Running c ↔ s.Launched c ∧ ¬ s.Terminated c) := by
  have hsound : SoundFocus env.toSurroundings s :=
    Steps.invariant (fun _ _ h => h.step) (run_steps hrun) h₀.soundFocus hids
  refine ⟨hsound.stacked.getFocusedComponent hsound.known, fun c => ⟨?_, hsound.recorded.running c⟩⟩
  exact (hsound.recorded.launched c).symm

open Plain in
theorem audit_trail_replays_twice : ∃ tr s, (machine idle).FreeRun start tr s ∧
    focusHistory s.auditTrail = [⟨1⟩] ∧ s.getFocusedComponent idle.toSurroundings = some ⟨1⟩ := by
  have hrun := Machine.exec_free (show (machine idle).exec (fun _ _ _ => true) start
    [launch .cli, launch .cli, .terminateComponent ⟨13⟩ .normal] = some _ from rfl)
  exact ⟨_, _, hrun, rfl, (audit_trail_replays start_initial hrun (distinct (by decide))).1⟩

end PandaGen.Workspace.WorkspaceManager
