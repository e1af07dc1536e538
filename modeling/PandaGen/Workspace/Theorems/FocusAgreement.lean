import PandaGen.Workspace.Lemmas.FocusHistory

/-!
# The focus of the layout
-/

namespace PandaGen.Workspace.WorkspaceManager

open Lib Input Vi Proc Option List WindowLayoutState
open Kernel (ExitReason)

variable {σ L R : Type} {env : Surroundings L} {s s' : WorkspaceManager σ L R} {c : ComponentId}

/-- There is no policy, and every component can be focused. -/
structure Open (env : Surroundings L) (s : WorkspaceManager σ L R) : Prop extends SoundFocus env s where
  distinct : Distinct env s
  policy : s.policy = none
  focusable : ∀ (c : ComponentId) (component : ComponentInfo), s.components[c]? = some component →
    component.focusable = true

section

variable (h : Open env s)
include h

theorem Open.quiet (hquiet : Quiet s s') (hids : Distinct env s') : Open env s' :=
  ⟨h.toSoundFocus.step (G := Free) (.quiet hquiet) hids, hids, hquiet.policy.trans h.policy,
    hquiet.components ▸ h.focusable⟩

theorem Open.focused {sub} (hsub : s.focusSubscription c = .ok sub) : Open env (s.focused c sub) :=
  ⟨h.toSoundFocus.step (G := Free) (.focus trivial hsub) h.distinct, h.distinct, h.policy, h.focusable⟩

theorem Open.layout {f : WindowLayoutState → WindowLayoutState}
    (hf : ∀ l : WindowLayoutState, l.WellFormed → (f l).WellFormed ∧ (f l).components.Perm l.components) :
    Open env { s with windowLayout := f s.windowLayout } :=
  ⟨h.toSoundFocus.step (G := Free) (.layout hf) h.distinct, h.distinct, h.policy, h.focusable⟩

theorem Open.terminated {component} (hc : s.components[c]? = some component) (reason) :
    Open env (s.terminated component c reason) := by
  refine ⟨h.toSoundFocus.step (G := Free) (.terminate trivial hc) h.distinct, h.distinct, h.policy, fun a x hx => ?_⟩
  simp only [WorkspaceManager.terminated, BTreeMap.getElem?_insert] at hx
  split at hx
  · cases hx
    exact h.focusable c component hc
  · exact h.focusable a x hx

theorem Open.launch {component} (hmade : Made env s s' component)
    (hids : Distinct env s') (hfocusable : component.focusable = true) (inst timestamp) :
    Open env (s'.installed component inst timestamp) := by
  refine ⟨h.toSoundFocus.step (G := Free) (.launch hmade) hids, hids, hmade.quiet.policy.trans h.policy,
    fun a x hx => ?_⟩
  simp only [installed, BTreeMap.getElem?_insert, hmade.quiet.components] at hx
  split at hx
  · cases hx
    exact hfocusable
  · exact h.focusable a x hx

theorem Open.focusSubscription (hc : s.Running c) : ∃ sub, s.focusSubscription c = .ok sub := by
  obtain ⟨component, hcomponent, -⟩ := hc
  obtain ⟨sub, -, hsub⟩ := focusSubscription_ok hcomponent (h.known.entry hcomponent).focusable
    (h.focusable c component hcomponent) h.policy
  exact ⟨sub, hsub⟩

/-! ## Focus -/

def Agrees (env : Surroundings L) (s : WorkspaceManager σ L R) : Prop :=
  ∀ a, s.windowLayout.focusedActiveComponent = some a → s.getFocusedComponent env = some a

structure Agreeing (env : Surroundings L) (s : WorkspaceManager σ L R) : Prop extends Open env s where
  agrees : Agrees env s

theorem Open.agreeing_focused (hc : s.Running c) {sub} (hsub : s.focusSubscription c = .ok sub) :
    Agreeing env (s.focused c sub) := by
  have hopen := h.focused hsub
  refine ⟨hopen, fun a ha => ?_⟩
  obtain ⟨l, hl⟩ := isSome_iff_exists.mp
    (setFocusedComponent_isSome.mpr ((h.tabbed.tabs c).mpr hc))
  have hlayout : (s.focused c sub).windowLayout = l := by rw [WorkspaceManager.focused, hl, getD_some]
  rw [hlayout, setFocusedComponent_active hl] at ha
  cases ha
  exact hopen.getFocusedComponent_focused

theorem Open.focusComponent (hc : s.Running c) :
    (focusComponent c : Work σ L R Unit).Post s fun _ s' => Agreeing env s' := by
  obtain ⟨sub, hsub⟩ := h.focusSubscription hc
  rw [focusComponent_post, hsub]
  exact h.agreeing_focused hc hsub

theorem Open.isFocusableRunningComponent (hc : s.Running c) : s.isFocusableRunningComponent c = true := by
  obtain ⟨component, hcomponent, hrunning⟩ := hc
  exact isFocusableRunningComponent_iff.mpr ⟨component, hcomponent, hrunning, h.focusable c component hcomponent⟩

/-! ## Cycling -/

theorem Open.running_of_mem_ordered (hc : c ∈ s.orderedFocusableComponents env) : s.Running c :=
  h.known.running (live_of_mem_ordered hc)

theorem Open.running_of_mem_visible (hc : c ∈ s.orderedVisibleFocusableComponents env) : s.Running c :=
  h.known.running (live_of_mem_visible hc)

omit h in
theorem Agreeing.cycleFocusInOrder (h : Agreeing env s) {ordered} (hordered : ∀ c ∈ ordered s, s.Running c)
    (forward) : (cycleFocusInOrder env ordered forward).Post s fun _ s' => Agreeing env s' := by
  rw [WorkspaceManager.cycleFocusInOrder, post_get_bind, post_okOr_bind]
  split
  · rename_i target htarget
    exact h.toOpen.focusComponent (hordered target (mem_of_cycleTarget htarget))
  · exact h

theorem Open.agreeing_of_no_candidate (hnone : s.focusCandidate = none) : Agreeing env s := by
  refine ⟨h, fun a ha => ?_⟩
  have hrunning := (h.tabbed.tabs a).mp (mem_components_of_active ha)
  rw [focusCandidate, ha, filter_some, if_pos (h.isFocusableRunningComponent hrunning)] at hnone
  cases hnone

omit h in
theorem running_of_focusCandidate (h : s.focusCandidate = some c) : s.Running c :=
  running_of_isFocusableRunningComponent (filter_eq_some_iff.mp h).2

theorem Open.focusNextTab : (focusNextTab env).Post s fun _ s' => Agreeing env s' := by
  have hopen := h.layout fun _ => WindowLayoutState.WellFormed.focusNextTab
  rw [WorkspaceManager.focusNextTab, post_bind, onLayout, post_modify]
  dsimp only
  rw [post_get_bind]
  split
  · exact hopen.focusComponent (running_of_focusCandidate ‹_›)
  · have hagreeing := hopen.agreeing_of_no_candidate ‹_›
    exact hagreeing.cycleFocusInOrder (fun _ => hopen.running_of_mem_ordered) true

theorem Open.focusPreviousTab : (focusPreviousTab env).Post s fun _ s' => Agreeing env s' := by
  have hopen := h.layout fun _ => WindowLayoutState.WellFormed.focusPreviousTab
  rw [WorkspaceManager.focusPreviousTab, post_bind, onLayout, post_modify]
  dsimp only
  rw [post_get_bind]
  split
  · exact hopen.focusComponent (running_of_focusCandidate ‹_›)
  · have hagreeing := hopen.agreeing_of_no_candidate ‹_›
    exact hagreeing.cycleFocusInOrder (fun _ => hopen.running_of_mem_ordered) false

theorem Open.agreeing_tryFocused (hc : s.Running c) : Agreeing env (s.tryFocused c) := by
  obtain ⟨sub, hsub⟩ := h.focusSubscription hc
  rw [tryFocused, hsub]
  exact h.agreeing_focused hc hsub

theorem Open.splitFocusedTile (axis) :
    (splitFocusedTile axis : Work σ L R Unit).Post s fun _ s' => Agreeing env s' := by
  have hopen := h.layout fun _ hl => hl.splitFocusedTile axis
  rw [WorkspaceManager.splitFocusedTile, post_bind, onLayout, post_modify]
  dsimp only
  rw [post_get_bind]
  split
  · rw [tryFocus_post]
    exact hopen.agreeing_tryFocused (running_of_focusCandidate ‹_›)
  · exact hopen.agreeing_of_no_candidate ‹_›

/-! ## Launch and termination -/

end

theorem Agreeing.quiet (h : Agreeing env s) (hquiet : Quiet s s') (hids : Distinct env s') : Agreeing env s' := by
  have hopen := h.toOpen.quiet hquiet hids
  refine ⟨hopen, fun a ha => ?_⟩
  rw [hquiet.windowLayout] at ha
  have hfocused := h.agrees a ha
  rwa [h.stacked.getFocusedComponent h.known, ← hquiet.auditTrail,
    ← hopen.stacked.getFocusedComponent hopen.known] at hfocused

theorem Agreeing.launchComponent [EditorIo σ] (h : Agreeing env s) {config} (hfocusable : config.focusable = true) :
    (launchComponent env config).Post s fun _ s' => Distinct env s' → Agreeing env s' := by
  refine Post.mono (launchComponent_post config) fun r s' hr hids => ?_
  cases r with
  | error e => exact h.quiet hr hids
  | ok a =>
    obtain ⟨s1, component, inst, timestamp, hmade, rfl, hcomponent, rfl⟩ := hr
    rw [if_pos hfocusable] at hids ⊢
    rw [Distinct, drawn_tryFocused] at hids
    have hopen := h.toOpen.launch hmade hids (hcomponent.trans hfocusable) inst timestamp
    refine hopen.agreeing_tryFocused ⟨component, ?_, hmade.running⟩
    simp [installed]

/-- The termination of another component changes neither, if it leaves a tab in every tile up to the focused one. -/
theorem Agreeing.terminated_focus (h : Agreeing env s) {component} (hc : s.components[c]? = some component)
    (hother : s.getFocusedComponent env ≠ some c) (hkeeps : s.windowLayout.KeepsTiles c) (reason) :
    (s.terminated component c reason).getFocusedComponent env = s.getFocusedComponent env ∧
      (s.terminated component c reason).windowLayout.focusedActiveComponent =
        s.windowLayout.focusedActiveComponent := by
  obtain ⟨a, ha⟩ := h.tabbed.layout.active_of_keepsTiles hkeeps
  have hfocused := h.agrees a ha
  have hne : a ≠ c := by
    rintro rfl
    exact hother hfocused
  have hopen := h.toOpen.terminated hc reason
  constructor
  · have htrail : focusHistory (s.terminated component c reason).auditTrail = (focusHistory s.auditTrail).erase c :=
      focusHistory_concat _ _
    rw [hopen.stacked.getFocusedComponent hopen.known, htrail, hfocused]
    rw [h.stacked.getFocusedComponent h.known] at hfocused
    obtain ⟨rest, hrest⟩ := head?_eq_some_iff.mp hfocused
    rw [hrest, erase_cons_tail (by simpa using hne), head?_cons]
  · rw [ha]
    exact h.tabbed.layout.removeComponent_active hkeeps ha hne

/-- The component below the focused one on the focus stack. -/
def refocused (env : Surroundings L) (s : WorkspaceManager σ L R) : Option ComponentId :=
  s.focusManager.focusStack.tail.head?.bind fun sub => s.componentOf env sub.id

/-- The termination of the focused component gives the focus to the tab that the layout then shows; that of another one
leaves a tab in every tile up to the focused one. -/
def SparesFocus (env : Surroundings L) (s : WorkspaceManager σ L R) (c : ComponentId) : Prop :=
  if s.getFocusedComponent env = some c then
    (s.windowLayout.removeComponent c).focusedActiveComponent ∈ [none, s.refocused env]
  else s.windowLayout.KeepsTiles c

instance (env : Surroundings L) (s : WorkspaceManager σ L R) (c) : Decidable (SparesFocus env s c) :=
  inferInstanceAs (Decidable (if s.getFocusedComponent env = some c then _ else _))

theorem Agreeing.terminated (h : Agreeing env s) {component} (hc : s.components[c]? = some component)
    (hspares : SparesFocus env s c) (reason) : Agreeing env (s.terminated component c reason) := by
  have hopen := h.toOpen.terminated hc reason
  refine ⟨hopen, fun a ha => ?_⟩
  rw [SparesFocus] at hspares
  split at hspares
  · rename_i hfocused
    have htrail : focusHistory (s.terminated component c reason).auditTrail = (focusHistory s.auditTrail).erase c :=
      focusHistory_concat _ _
    have hbelow : s.refocused env = (focusHistory s.auditTrail).tail.head? :=
      h.known.componentOf_head (by simpa using forall₂_drop 1 h.stacked)
    rw [h.stacked.getFocusedComponent h.known] at hfocused
    obtain ⟨rest, hrest⟩ := head?_eq_some_iff.mp hfocused
    rw [hopen.stacked.getFocusedComponent hopen.known, htrail, hrest, erase_cons_head]
    rw [hrest, tail_cons] at hbelow
    rw [← hbelow]
    have hshown : (s.windowLayout.removeComponent c).focusedActiveComponent = some a := ha
    rw [hshown] at hspares
    simpa [eq_comm] using hspares
  · obtain ⟨hfocus, hactive⟩ := h.terminated_focus hc ‹_› hspares reason
    rw [hfocus]
    exact h.agrees a (hactive ▸ ha)

/-! ## Runs -/

variable {env : Services σ L R}

/-- Only what can be focused is launched, only what is running is focused, and a termination does not part the two
focuses. -/
def Harmless (env : Services σ L R) (s : WorkspaceManager σ L R) :
    Call σ → Except WorkspaceError (Option ComponentId) → Prop
  | .launchComponent config, _ => config.focusable = true
  | .terminateComponent c _, _ => SparesFocus env.toSurroundings s c
  | .focusComponent c, _ => s.Running c
  | .routeInput _, _ => False
  | _, _ => True

instance (env : Services σ L R) (s : WorkspaceManager σ L R) (result : Except WorkspaceError (Option ComponentId)) :
    ∀ call : Call σ, Decidable (Harmless env s call result)
  | .launchComponent config => inferInstanceAs (Decidable (config.focusable = true))
  | .terminateComponent c _ => inferInstanceAs (Decidable (SparesFocus env.toSurroundings s c))
  | .focusComponent c => inferInstanceAs (Decidable (s.Running c))
  | .routeInput _ => inferInstanceAs (Decidable False)
  | .focusNext | .focusPrevious | .focusNextTile | .focusPreviousTile | .focusNextTab | .focusPreviousTab
  | .splitFocusedTile _ | .setEditorIoContext _ => inferInstanceAs (Decidable True)

variable [EditorIo σ]

theorem Agreeing.perform (h : Agreeing env.toSurroundings s) {call result} (hharmless : Harmless env s call result) :
    (perform env call).Post s fun _ s' => Distinct env.toSurroundings s' → Agreeing env.toSurroundings s' := by
  have hunit {m : Work σ L R Unit} (hm : m.Post s fun _ s' => Agreeing env.toSurroundings s') :
      (m >>= fun _ => pure none : Work σ L R (Option ComponentId)).Post s fun _ s' =>
        Distinct env.toSurroundings s' → Agreeing env.toSurroundings s' :=
    Post.bind hm (fun _ _ hs' _ => hs') fun _ _ hs' _ => hs'
  have hcycle (forward : Bool) := h.cycleFocusInOrder (fun _ => h.running_of_mem_ordered) forward
  have hcycleTiles (forward : Bool) := h.cycleFocusInOrder (fun _ => h.running_of_mem_visible) forward
  cases call with
  | launchComponent config =>
    exact post_map.mpr (Post.mono (h.launchComponent hharmless) fun r _ hs' => by cases r <;> exact hs')
  | terminateComponent c reason =>
    refine hunit ?_
    rw [terminateComponent_post]
    split
    · exact h.terminated ‹_› hharmless reason
    · exact h
  | focusComponent c => exact hunit (h.toOpen.focusComponent hharmless)
  | focusNext => exact hunit (hcycle true)
  | focusPrevious => exact hunit (hcycle false)
  | focusNextTile => exact hunit (hcycleTiles true)
  | focusPreviousTile => exact hunit (hcycleTiles false)
  | focusNextTab => exact hunit h.toOpen.focusNextTab
  | focusPreviousTab => exact hunit h.toOpen.focusPreviousTab
  | splitFocusedTile axis => exact hunit (h.toOpen.splitFocusedTile axis)
  | routeInput event => exact hharmless.elim
  | setEditorIoContext context =>
    exact h.quiet ⟨rfl, rfl, rfl, rfl, rfl, rfl, Nat.le_refl _, Nat.le_refl _⟩

end PandaGen.Workspace.WorkspaceManager
