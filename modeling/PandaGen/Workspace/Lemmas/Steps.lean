import PandaGen.Workspace.Lemmas.Layout
import PandaGen.Workspace.Input
import Mathlib.Logic.Relation

/-!
# The steps of the workspace

Every call of the workspace manager is made of a few kinds of steps.
-/

namespace PandaGen.Workspace.WorkspaceManager

open Lib Input View Fs Vi Proc Nat Post ViewHost ComponentInstance
open Kernel (IdentityKind IdentityMetadata TrustDomain ResourceBudget ExitReason)

variable {c : ComponentId} {component : ComponentInfo}

variable {σ L R : Type} (env : Surroundings L)

def Fresh (s s' : WorkspaceManager σ L R) (id : Uuid) : Prop := ∃ k, s.drawn ≤ k ∧ k < s'.drawn ∧ id = env.ids k

/-- Nothing that a component has changes. -/
structure Quiet (s s' : WorkspaceManager σ L R) : Prop where
  components : s'.components = s.components
  componentInstances : s'.componentInstances = s.componentInstances
  focusManager : s'.focusManager = s.focusManager
  auditTrail : s'.auditTrail = s.auditTrail
  windowLayout : s'.windowLayout = s.windowLayout
  policy : s'.policy = s.policy
  drawn : s.drawn ≤ s'.drawn
  nextTimestamp : s.nextTimestamp ≤ s'.nextTimestamp

structure Made (s s' : WorkspaceManager σ L R) (component : ComponentInfo) : Prop where
  quiet : Quiet s s'
  id : Fresh env s s' component.id.uuid
  running : component.state = .running
  focusable : component.focusable = component.subscription.isSome
  subscription : ∀ sub, component.subscription = some sub → s.nextTimestamp ≤ sub.id ∧ sub.id < s'.nextTimestamp

inductive Move where
  | focus (c : ComponentId)
  | terminate (c : ComponentId)

variable (G : WorkspaceManager σ L R → Move → Prop)

/-- Only the components that `G` lets through are focused and terminated. -/
inductive Step (s : WorkspaceManager σ L R) : WorkspaceManager σ L R → Prop
  | quiet {s'} : Quiet s s' → Step s s'
  | focus {c sub} : G s (.focus c) → s.focusSubscription c = .ok sub → Step s (s.focused c sub)
  | layout {f : WindowLayoutState → WindowLayoutState} :
      (∀ l : WindowLayoutState, l.WellFormed → (f l).WellFormed ∧ (f l).components.Perm l.components) →
      Step s { s with windowLayout := f s.windowLayout }
  | launch {s' component inst timestamp} : Made env s s' component → Step s (s'.installed component inst timestamp)
  | update {c inst viewHost} : Step s { s with viewHost, componentInstances := s.componentInstances.insert c inst }
  | terminate {c component reason} : G s (.terminate c) → s.components[c]? = some component →
      Step s (s.terminated component c reason)

abbrev Steps : WorkspaceManager σ L R → WorkspaceManager σ L R → Prop := Relation.ReflTransGen (Step env G)

/-- The workspace finds `c` running, under its key or in what it lists. -/
def Live (s : WorkspaceManager σ L R) (c : ComponentId) : Prop :=
  ∃ (a : ComponentId) (component : ComponentInfo), s.components[a]? = some component ∧ (a = c ∨ component.id = c) ∧
    component.state = .running

structure Still (s s' : WorkspaceManager σ L R) : Prop where
  components : s'.components = s.components
  focusManager : s'.focusManager = s.focusManager

class Lenient : Prop where
  live : ∀ {s c}, Live s c → G s (.focus c)
  frame : ∀ {s s' : WorkspaceManager σ L R} {move}, Still s s' → G s move → G s' move
  terminated : ∀ {s : WorkspaceManager σ L R} {a c : ComponentId} {component} (reason),
    s.components[a]? = some component →
    G s (.terminate c) → G (s.terminated component a reason) (.terminate c)

def Free (_ : WorkspaceManager σ L R) (_ : Move) : Prop := True

instance : Lenient (Free (σ := σ) (L := L) (R := R)) := ⟨fun _ => trivial, fun _ _ => trivial, fun _ _ _ => trivial⟩

instance : Std.Refl (Quiet (σ := σ) (L := L) (R := R)) :=
  ⟨fun _ => ⟨rfl, rfl, rfl, rfl, rfl, rfl, Nat.le_refl _, Nat.le_refl _⟩⟩

variable {env G} {s s' s'' : WorkspaceManager σ L R}
  {Q : Except (Fault WorkspaceError) Unit → WorkspaceManager σ L R → Prop}

theorem Quiet.trans (h : Quiet s s') (h' : Quiet s' s'') : Quiet s s'' where
  components := h'.components.trans h.components
  componentInstances := h'.componentInstances.trans h.componentInstances
  focusManager := h'.focusManager.trans h.focusManager
  auditTrail := h'.auditTrail.trans h.auditTrail
  windowLayout := h'.windowLayout.trans h.windowLayout
  policy := h'.policy.trans h.policy
  drawn := h.drawn.trans h'.drawn
  nextTimestamp := h.nextTimestamp.trans h'.nextTimestamp

instance : Trans (Quiet (σ := σ) (L := L) (R := R)) Quiet Quiet := ⟨Quiet.trans⟩

theorem Quiet.draw (s : WorkspaceManager σ L R) (n : Nat) : Quiet s { s with drawn := s.drawn + n } :=
  ⟨rfl, rfl, rfl, rfl, rfl, rfl, le_add_right _ _, le_refl _⟩

theorem Quiet.of_views (s : WorkspaceManager σ L R) (viewHost viewSubscriptions) :
    Quiet s { s with viewHost, viewSubscriptions } :=
  ⟨rfl, rfl, rfl, rfl, rfl, rfl, le_refl _, le_refl _⟩

theorem Quiet.steps (h : Quiet s s') : Steps env G s s' := .single (.quiet h)

/-! ## Focus -/

theorem focusComponent_post : (focusComponent c).Post s Q ↔ match s.focusSubscription c with
      | .ok sub => Q (.ok ()) (s.focused c sub)
      | .error e => Q (.error (.err e)) s := by
  rw [focusComponent, post_get_bind, post_ofExcept_bind]
  cases s.focusSubscription c <;> exact Iff.rfl

def tryFocused (s : WorkspaceManager σ L R) (c : ComponentId) : WorkspaceManager σ L R :=
  match s.focusSubscription c with
  | .ok sub => s.focused c sub
  | .error _ => s

theorem drawn_tryFocused : (s.tryFocused c).drawn = s.drawn := by
  unfold tryFocused
  split <;> rfl

theorem components_tryFocused : (s.tryFocused c).components = s.components := by
  unfold tryFocused
  split <;> rfl

theorem tryFocus_post : (tryFocus c).Post s Q ↔ Q (.ok ()) (s.tryFocused c) := by
  rw [tryFocus, post_bind, post_attempt, focusComponent_post, tryFocused]
  cases s.focusSubscription c <;> exact Iff.rfl

theorem tryFocused_steps (h : G s (.focus c)) : Steps env G s (s.tryFocused c) := by
  unfold tryFocused
  split
  · exact .single (.focus h ‹_›)
  · exact .refl

theorem focusComponent_steps (h : G s (.focus c)) :
    (focusComponent c : Work σ L R Unit).Post s fun _ s' => Steps env G s s' := by
  rw [focusComponent_post]
  split
  · exact .single (.focus h ‹_›)
  · exact .refl

theorem mem_of_cycleTarget {ordered forward} (h : s.cycleTarget env ordered forward = some c) : c ∈ ordered := by
  unfold cycleTarget at h
  split at h
  · dsimp only at h
    split at h
    · exact List.mem_of_getElem? h
    · split at h
      · exact List.mem_of_getLast? h
      · exact List.mem_of_getElem? h
  · split at h
    · exact List.mem_of_mem_head? h
    · exact List.mem_of_getLast? h

theorem isFocusableRunningComponent_iff : s.isFocusableRunningComponent c = true ↔
    ∃ component, s.components[c]? = some component ∧ component.state = .running ∧ component.focusable = true := by
  rw [isFocusableRunningComponent]
  cases s.components[c]? with
  | none => simp
  | some component => simp [ComponentInfo.isRunning]

theorem mem_listComponents {x} : x ∈ s.listComponents env ↔ ∃ c : ComponentId, s.components[c]? = some x := by
  simp [listComponents, HashOrder.mem_order, Std.ExtTreeMap.mem_toList_iff_getElem?_eq_some]

theorem live_of_isFocusableRunningComponent (h : s.isFocusableRunningComponent c = true) : s.Live c := by
  obtain ⟨component, hcomponent, hrunning, -⟩ := isFocusableRunningComponent_iff.mp h
  exact ⟨c, component, hcomponent, .inl rfl, hrunning⟩

theorem live_of_mem_ordered (h : c ∈ s.orderedFocusableComponents env) : s.Live c := by
  rcases List.mem_append.mp h with h | h
  · exact live_of_isFocusableRunningComponent (List.mem_filter.mp (List.mem_eraseDups.mp h)).2
  · obtain ⟨x, hx, hid⟩ := List.mem_map.mp (List.mem_filter.mp (List.mem_mergeSort.mp h)).1
    obtain ⟨hlisted, hrunning⟩ := List.mem_filter.mp hx
    obtain ⟨a, ha⟩ := mem_listComponents.mp hlisted
    simp only [ComponentInfo.isRunning, Bool.and_eq_true, decide_eq_true_eq] at hrunning
    exact ⟨a, x, ha, .inr hid, hrunning.1⟩

theorem live_of_mem_visible (h : c ∈ s.orderedVisibleFocusableComponents env) : s.Live c := by
  simp only [orderedVisibleFocusableComponents] at h
  split at h
  · exact live_of_mem_ordered h
  · exact live_of_isFocusableRunningComponent (List.mem_filter.mp (List.mem_eraseDups.mp h)).2

theorem live_of_focusCandidate (h : s.focusCandidate = some c) : s.Live c :=
  live_of_isFocusableRunningComponent (Option.filter_eq_some_iff.mp h).2

theorem onLayout_steps {f}
    (hf : ∀ l : WindowLayoutState, l.WellFormed → (f l).WellFormed ∧ (f l).components.Perm l.components) :
    (onLayout f : Work σ L R Unit).Relates (Steps env G) :=
  fun _ => .single (.layout hf)

section

variable [Lenient G]

theorem cycleFocusInOrder_steps {ordered : WorkspaceManager σ L R → List ComponentId}
    (hordered : ∀ s, ∀ c ∈ ordered s, s.Live c) (forward : Bool) :
    (cycleFocusInOrder env ordered forward).Relates (Steps env G) := by
  intro s
  rw [cycleFocusInOrder, post_get_bind, post_okOr_bind]
  split
  · exact focusComponent_steps (Lenient.live (hordered s _ (mem_of_cycleTarget ‹_›)))
  · exact .refl

theorem cycle_steps (forward) :
    (cycleFocusInOrder env (orderedFocusableComponents env) forward : Work σ L R Unit).Relates (Steps env G) :=
  cycleFocusInOrder_steps (fun _ _ => live_of_mem_ordered) forward

theorem cycleTiles_steps (forward) :
    (cycleFocusInOrder env (orderedVisibleFocusableComponents env) forward : Work σ L R Unit).Relates (Steps env G) :=
  cycleFocusInOrder_steps (fun _ _ => live_of_mem_visible) forward

/-- What a tab or a tile that becomes active may focus. -/
theorem candidate_steps {cycle : Work σ L R Unit} {focus : ComponentId → Work σ L R Unit}
    (hcycle : cycle.Relates (Steps env G))
    (hfocus : ∀ s c, G s (.focus c) → (focus c).Post s fun _ s' => Steps env G s s') :
    (do match (← get).focusCandidate with
      | some c => focus c
      | none => cycle : Work σ L R Unit).Relates (Steps env G) := by
  intro s
  rw [post_get_bind]
  split
  · exact hfocus s _ (Lenient.live (live_of_focusCandidate ‹_›))
  · exact hcycle s

theorem focusNextTab_steps : (focusNextTab env : Work σ L R Unit).Relates (Steps env G) :=
  (onLayout_steps fun _ => WindowLayoutState.WellFormed.focusNextTab).bind fun _ =>
    candidate_steps (cycle_steps true) fun _ _ => focusComponent_steps

theorem focusPreviousTab_steps : (focusPreviousTab env : Work σ L R Unit).Relates (Steps env G) :=
  (onLayout_steps fun _ => WindowLayoutState.WellFormed.focusPreviousTab).bind fun _ =>
    candidate_steps (cycle_steps false) fun _ _ => focusComponent_steps

theorem splitFocusedTile_steps (axis) : (splitFocusedTile axis : Work σ L R Unit).Relates (Steps env G) :=
  (onLayout_steps fun _ h => h.splitFocusedTile axis).bind fun _ =>
    candidate_steps (relates_pure ()) fun _ _ h => tryFocus_post.mpr (tryFocused_steps h)

end

theorem terminateComponent_post {reason} : (terminateComponent c reason).Post s Q ↔ match s.components[c]? with
      | some component => Q (.ok ()) (s.terminated component c reason)
      | none => Q (.error (.err (.componentNotFound c))) s := by
  rw [terminateComponent, post_get_bind, post_okOr_bind]
  cases s.components[c]? <;> exact Iff.rfl

theorem terminateComponent_steps (h : G s (.terminate c)) (reason) :
    (terminateComponent c reason : Work σ L R Unit).Post s fun _ s' => Steps env G s s' := by
  rw [terminateComponent_post]
  split
  · exact .single (.terminate h ‹_›)
  · exact .refl

/-! ## Launch -/

theorem post_newUuid {Q} : (newUuid env).Post s Q ↔ Q (.ok (env.ids s.drawn)) { s with drawn := s.drawn + 1 } := Iff.rfl

theorem quiet_newUuid : (newUuid env : Work σ L R Uuid).Relates Quiet := fun s => Quiet.draw s 1

theorem quiet_takeTimestamp : (takeTimestamp : Work σ L R Nat).Relates Quiet :=
  fun _ => ⟨rfl, rfl, rfl, rfl, rfl, rfl, le_refl _, le_succ _⟩

theorem quiet_newIdentity (kind trustDomain name timestamp budget) :
    (newIdentity env kind trustDomain name timestamp budget : Work σ L R IdentityMetadata).Relates Quiet :=
  quiet_newUuid.bind fun _ => relates_get.bind fun _ => relates_pure _

theorem quiet_openView (kind title what componentTaskId workspaceTaskId) :
    (openView env kind title what componentTaskId workspaceTaskId : Work σ L R ViewHandleCap).Relates Quiet := by
  refine quiet_newUuid.bind fun _ => quiet_newUuid.bind fun _ s => ?_
  rw [post_get_bind]
  simp only [post_bind (m := set _), post_bind (m := newUuid env), post_set, post_newUuid]
  rw [post_get_bind, post_ofExcept_bind]
  split <;> exact ⟨rfl, rfl, rfl, rfl, rfl, rfl, le_succ _, le_refl _⟩

theorem subscriptionFor_post (focusable) : (subscriptionFor env focusable : Work σ L R _).Post s fun r s' =>
      ∃ subscription, r = .ok subscription ∧ Quiet s s' ∧ focusable = subscription.isSome ∧
        ∀ sub, subscription = some sub → s.nextTimestamp ≤ sub.id ∧ sub.id < s'.nextTimestamp := by
  cases focusable with
  | false => exact ⟨none, rfl, Std.Refl.refl s, rfl, nofun⟩
  | true =>
    refine ⟨some ⟨s.nextTimestamp, ⟨env.ids s.drawn⟩, ⟨env.ids (s.drawn + 1)⟩⟩, rfl, ?_, rfl, ?_⟩
    · exact ⟨rfl, rfl, rfl, rfl, rfl, rfl, le_add_right s.drawn 2, le_succ _⟩
    · rintro sub ⟨⟩
      exact ⟨le_refl _, lt_succ_self _⟩

variable (config : LaunchConfig)

theorem newComponent_post (identity) : (newComponent env config identity : Work σ L R _).Post s fun r s' =>
      match r with
      | .ok (component, _) => Made env s s' component ∧ component.focusable = config.focusable
      | .error _ => Quiet s s' := by
  unfold newComponent
  rw [post_bind, post_newUuid]
  refine bind (subscriptionFor_post config.focusable) (by simp) fun subscription s1 hsub => ?_
  obtain ⟨_, ⟨⟩, hquiet1, hfocusable, hsub⟩ := hsub
  rw [post_bind, post_newUuid]
  dsimp only
  rw [post_bind, post_newUuid]
  have hdrawn : s.drawn + 1 ≤ s1.drawn := hquiet1.drawn
  replace hquiet1 := ((Quiet.draw s 1).trans hquiet1).trans (Quiet.draw s1 2)
  refine bind (quiet_openView _ _ _ _ _ _) (fun _ _ h => hquiet1.trans h) fun mainView s2 hquiet2 => ?_
  refine bind (quiet_openView _ _ _ _ _ _) (fun _ _ h => (hquiet1.trans hquiet2).trans h)
    fun statusView s3 hquiet3 => ?_
  have hopened := Quiet.trans hquiet2 hquiet3
  have hdrawn3 := hopened.drawn
  have htime3 := hopened.nextTimestamp
  dsimp only at hdrawn3 htime3
  rw [post_pure]
  refine ⟨⟨hquiet1.trans hopened, ⟨s.drawn, le_refl _, by omega, rfl⟩, rfl, hfocusable, fun sub hsome => ?_⟩, rfl⟩
  have := hsub sub hsome
  dsimp only at this
  omega

theorem Made.after (h : Made env s' s'' component) (hquiet : Quiet s s') : Made env s s'' component :=
  { h with
    quiet := hquiet.trans h.quiet
    id := by
      obtain ⟨k, hk, hid⟩ := h.id
      exact ⟨k, hquiet.drawn.trans hk, hid⟩
    subscription := fun sub hsub => ⟨hquiet.nextTimestamp.trans (h.subscription sub hsub).1,
      (h.subscription sub hsub).2⟩ }

variable [EditorIo σ]

theorem newInstance_post (views timestamp) : (newInstance env component views timestamp).Post s fun _ s' =>
    ∃ viewHost, s' = { s with viewHost } := by
  unfold newInstance
  split
  · rw [post_get_bind, post_okOrPanic_bind]
    split <;> exact ⟨_, rfl⟩
  · exact ⟨_, rfl⟩
  · rw [post_get_bind, post_okOrPanic_bind]
    split <;> exact ⟨_, rfl⟩
  · exact ⟨_, rfl⟩
  · exact ⟨_, rfl⟩

/-- A launch prepares a component, installs it and gives it the focus. If it fails, nothing changes. -/
theorem launchComponent_post : (launchComponent env config : Work σ L R ComponentId).Post s fun r s' =>
      match r with
      | .ok c => ∃ s1 component inst timestamp, Made env s s1 component ∧ component.id = c ∧
          component.focusable = config.focusable ∧
          s' = if config.focusable then (s1.installed component inst timestamp).tryFocused c
            else s1.installed component inst timestamp
      | .error _ => Quiet s s' := by
  unfold launchComponent
  rw [post_get_bind, post_ofExcept_bind]
  split
  swap
  · exact Std.Refl.refl s
  refine bind (quiet_takeTimestamp s) (fun _ _ h => h) fun timestamp s1 hquiet1 => ?_
  refine bind (quiet_newIdentity _ _ _ _ _ s1) (fun _ _ h => Quiet.trans hquiet1 h) fun identity s2 hquiet2 => ?_
  have hquiet := Quiet.trans hquiet1 hquiet2
  rw [post_get_bind]
  split
  · exact hquiet
  refine bind (newComponent_post config identity) (fun _ _ h => hquiet.trans h) fun made s3 hmade => ?_
  obtain ⟨component, views⟩ := made
  obtain ⟨hmade, hfocusable⟩ := hmade
  refine bind (newInstance_post views timestamp) ?_ ?_
  · rintro e s4 ⟨viewHost, rfl⟩
    exact (hmade.after hquiet).quiet.trans (.of_views ..)
  · rintro inst s4 ⟨viewHost, rfl⟩
    have hprepared : Made env s { s3 with viewHost } component :=
      { hmade.after hquiet with quiet := (hmade.after hquiet).quiet.trans (.of_views ..) }
    rw [post_bind, post_modify]
    dsimp only
    split
    · rw [post_bind, tryFocus_post]
      exact ⟨_, component, inst, timestamp, hprepared, rfl, hfocusable, rfl⟩
    · exact ⟨_, component, inst, timestamp, hprepared, rfl, hfocusable, rfl⟩

theorem launchComponent_live :
    (launchComponent env config : Work σ L R ComponentId).Post s fun r s' => ∀ c, r = .ok c → s'.Live c := by
  refine mono (launchComponent_post config) fun r s' h => ?_
  rintro c rfl
  obtain ⟨s1, component, inst, timestamp, hmade, hid, -, rfl⟩ := h
  refine ⟨component.id, component, ?_, .inr hid, hmade.running⟩
  split
  · rw [components_tryFocused]
    simp [installed]
  · simp [installed]

theorem launchComponent_steps [Lenient G] :
    (launchComponent env config : Work σ L R ComponentId).Relates (Steps env G) := by
  intro s
  refine mono (launchComponent_post config) fun r s' h => ?_
  cases r with
  | error e => exact h.steps
  | ok c =>
    obtain ⟨s1, component, inst, timestamp, hmade, hid, -, rfl⟩ := h
    have hstep : Steps env G s (s1.installed component inst timestamp) := .single (.launch hmade)
    split
    · refine hstep.trans (tryFocused_steps (Lenient.live ⟨component.id, component, ?_, .inr hid, hmade.running⟩))
      simp [installed]
    · exact hstep

end PandaGen.Workspace.WorkspaceManager
