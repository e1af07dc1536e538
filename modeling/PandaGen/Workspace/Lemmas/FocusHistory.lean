import PandaGen.Workspace.Lemmas.Registry

/-!
# The focus as the audit trail tells it

The components on the focus stack can be read off the audit trail.
-/

namespace PandaGen.Workspace

open Lib Input View Vi Option List FocusManager
open Kernel (ExitReason)

/-! ## The focus stack -/

namespace FocusManager

variable {self : FocusManager} {cap : InputSubscriptionCap}

theorem removeSubscription_of_mem (h : ∃ c ∈ self.focusStack, c.id = cap.id) : self.removeSubscription cap =
      (.ok (), self.released cap.id (self.focusStack.eraseP fun c => c.id = cap.id)) := by
  have hsome : (self.focusStack.findIdx? fun c => decide (c.id = cap.id)).isSome := by
    simpa [List.findIdx?_isSome] using h
  obtain ⟨pos, hpos⟩ := Option.isSome_iff_exists.mp hsome
  rw [removeSubscription, hpos, List.eraseP_eq_eraseIdx, hpos]

theorem mem_of_removeSubscription_ok (h : (self.removeSubscription cap).1 = .ok ()) :
    ∃ c ∈ self.focusStack, c.id = cap.id := by
  unfold removeSubscription at h
  split at h
  · cases h
  · rename_i pos hpos
    have hsome := Option.isSome_of_eq_some hpos
    simpa [List.findIdx?_isSome] using hsome

theorem removeSubscription_of_not_mem (h : ¬ ∃ c ∈ self.focusStack, c.id = cap.id) :
    self.removeSubscription cap = (.error .subscriptionNotFound, self) := by
  have hnone : (self.focusStack.findIdx? fun c => decide (c.id = cap.id)) = none := by
    simpa [List.findIdx?_eq_none_iff] using h
  rw [removeSubscription, hnone]

theorem focusStack_removeSubscription :
    (self.removeSubscription cap).2.focusStack = self.focusStack.eraseP fun c => c.id = cap.id := by
  by_cases hmem : ∃ c ∈ self.focusStack, c.id = cap.id
  · rw [removeSubscription_of_mem hmem]
    rfl
  · rw [removeSubscription_of_not_mem hmem, List.eraseP_of_forall_not]
    simpa using hmem

theorem focusStack_requestFocus : (self.requestFocus cap).2.focusStack =
      if self.focusStack.head?.map (·.id) = some cap.id then self.focusStack else cap :: self.focusStack := by
  simp only [requestFocus]
  cases hstack : self.focusStack with
  | nil => rfl
  | cons current rest =>
    by_cases hid : current.id = cap.id <;> simp [hid]

end FocusManager

namespace WorkspaceManager

variable {c : ComponentId} {sub : InputSubscriptionCap}

def focusStep (stack : List ComponentId) : WorkspaceEvent → List ComponentId
  | .componentLaunched .. => stack
  | .componentFocused c _ => if stack.head? = some c then stack else c :: stack
  | .componentTerminated c _ _ => stack.erase c

def focusHistory (trail : List WorkspaceEvent) : List ComponentId := trail.foldl focusStep []

theorem focusHistory_concat (trail event) : focusHistory (trail ++ [event]) = focusStep (focusHistory trail) event := by
  simp [focusHistory]

variable {σ L R : Type} {env : Surroundings L} {s s' : WorkspaceManager σ L R}
  {G : WorkspaceManager σ L R → Move → Prop}

/-! ## The stack -/

def Subscribes (s : WorkspaceManager σ L R) (sub : InputSubscriptionCap) (c : ComponentId) : Prop :=
  ∃ component, s.components[c]? = some component ∧ component.subscription = some sub

def Stacked (s : WorkspaceManager σ L R) : Prop :=
  Forall₂ s.Subscribes s.focusManager.focusStack (focusHistory s.auditTrail)

theorem Registered.subscribes_iff (h : Known env s) {sub' c'} (hc : s.Subscribes sub c) (hc' : s.Subscribes sub' c') :
    sub.id = sub'.id ↔ c = c' := by
  obtain ⟨component, hcomponent, hsub⟩ := hc
  obtain ⟨component', hcomponent', hsub'⟩ := hc'
  constructor
  · intro hid
    by_contra hne
    exact (h.separate hcomponent hcomponent' hne) sub sub' hsub hsub' hid
  · rintro rfl
    rw [hcomponent] at hcomponent'
    cases hcomponent'
    rw [hsub] at hsub'
    cases hsub'
    rfl

theorem Stacked.mono (h : Stacked s) (hstack : s'.focusManager = s.focusManager)
    (htrail : focusHistory s'.auditTrail = focusHistory s.auditTrail)
    (hsubscribes : ∀ sub c, s.Subscribes sub c → s'.Subscribes sub c) : Stacked s' := by
  rw [Stacked, hstack, htrail]
  exact h.imp hsubscribes

theorem focusSubscription_ok {component} (hc : s.components[c]? = some component)
    (hsome : component.focusable = component.subscription.isSome) (hfocusable : component.focusable = true)
    (hpolicy : s.policy = none) : ∃ sub, component.subscription = some sub ∧ s.focusSubscription c = .ok sub := by
  obtain ⟨sub, hsub⟩ := isSome_iff_exists.mp (hsome.symm.trans hfocusable)
  exact ⟨sub, hsub, by simp [focusSubscription, hc, hfocusable, hsub, denial, hpolicy]⟩

theorem subscribes_of_focusSubscription (h : s.focusSubscription c = .ok sub) : s.Subscribes sub c := by
  unfold focusSubscription at h
  split at h
  · cases h
  · rename_i component hcomponent
    split at h
    · cases h
    · split at h
      · cases h
      · rename_i subscription hsub
        split at h
        · cases h
        · cases h
          exact ⟨component, hcomponent, hsub⟩

theorem Registered.head_iff (h : Known env s) (hc : s.Subscribes sub c) {stack history}
    (hstack : Forall₂ s.Subscribes stack history) : stack.head?.map (·.id) = some sub.id ↔ history.head? = some c := by
  cases hstack with
  | nil => simp
  | cons hfirst _ => simpa using h.subscribes_iff hfirst hc

theorem Stacked.focused (h : Stacked s) (hknown : Known env s)
    (hsub : s.focusSubscription c = .ok sub) : Stacked (s.focused c sub) := by
  have hc := subscribes_of_focusSubscription hsub
  simp only [Stacked, WorkspaceManager.focused, focusStack_requestFocus, focusHistory_concat, focusStep,
    hknown.head_iff hc h]
  split
  · exact h
  · exact .cons hc h

theorem forall₂_erase {Q : InputSubscriptionCap → ComponentId → Prop} {p}
    (hp : ∀ sub a, Q sub a → (p sub = true ↔ a = c)) {stack history} (h : Forall₂ Q stack history) :
    Forall₂ Q (stack.eraseP p) (history.erase c) := by
  induction h with
  | nil => exact .nil
  | @cons sub a stack history hfirst hrest ih =>
    by_cases ha : a = c
    · rw [eraseP_cons_of_pos ((hp sub a hfirst).mpr ha), ha, erase_cons_head]
      exact hrest
    · rw [eraseP_cons_of_neg (by rwa [hp sub a hfirst]), erase_cons_tail (by simpa using ha)]
      exact .cons hfirst ih

theorem subscribes_terminated {a component} (ha : s.components[a]? = some component) (reason)
    (hc : s.Subscribes sub c) : (s.terminated component a reason).Subscribes sub c := by
  obtain ⟨x, hx, hsub⟩ := hc
  simp only [Subscribes, WorkspaceManager.terminated, BTreeMap.getElem?_insert]
  split
  · rename_i heq
    rw [← heq, ha] at hx
    cases hx
    exact ⟨_, rfl, hsub⟩
  · exact ⟨x, hx, hsub⟩

theorem Stacked.terminated (h : Stacked s) (hknown : Known env s) {a component}
    (ha : s.components[a]? = some component) (reason) : Stacked (s.terminated component a reason) := by
  have hstack : Forall₂ s.Subscribes (s.terminated component a reason).focusManager.focusStack
      ((focusHistory s.auditTrail).erase a) := by
    simp only [WorkspaceManager.terminated]
    cases hsub : component.subscription with
    | none =>
      have hkept : s.focusManager.focusStack = s.focusManager.focusStack.eraseP fun _ => false := by
        rw [eraseP_of_forall_not (by simp)]
      rw [elim_none, hkept]
      refine forall₂_erase (fun sub c hc => ?_) h
      obtain ⟨x, hx, hsome⟩ := hc
      simp only [Bool.false_eq_true, false_iff]
      rintro rfl
      rw [ha] at hx
      cases hx
      rw [hsub] at hsome
      cases hsome
    | some sub =>
      rw [elim_some, focusStack_removeSubscription]
      refine forall₂_erase (fun sub' c hc => ?_) h
      rw [decide_eq_true_iff]
      exact hknown.subscribes_iff hc ⟨component, ha, hsub⟩
  have htrail : focusHistory (s.terminated component a reason).auditTrail = (focusHistory s.auditTrail).erase a :=
    focusHistory_concat _ _
  rw [Stacked, htrail]
  exact hstack.imp fun _ _ => subscribes_terminated ha reason

theorem Registered.subscribes_installed (h : Known env s) {component inst timestamp}
    (hmade : Made env s s' component) (hids : Distinct env s') (hc : s.Subscribes sub c) :
    (s'.installed component inst timestamp).Subscribes sub c := by
  obtain ⟨x, hx, hsub⟩ := hc
  refine ⟨x, ?_, hsub⟩
  simp only [installed, BTreeMap.getElem?_insert, hmade.quiet.components]
  rw [if_neg, hx]
  rintro rfl
  rw [h.not_mem hmade hids] at hx
  cases hx

theorem Stacked.step (h : Stacked s) (hknown : Known env s) (hstep : Step env G s s') (hids : Distinct env s') :
    Stacked s' := by
  cases hstep with
  | quiet hquiet =>
    refine h.mono hquiet.focusManager (by rw [hquiet.auditTrail]) ?_
    simp [Subscribes, hquiet.components]
  | focus _ hsub => exact h.focused hknown hsub
  | layout _ => exact h
  | @launch s1 component inst timestamp hmade =>
    refine h.mono hmade.quiet.focusManager ?_ fun _ _ => hknown.subscribes_installed hmade hids
    rw [installed, focusHistory_concat, hmade.quiet.auditTrail]
    rfl
  | update => exact h
  | terminate _ ha => exact h.terminated hknown ha _

theorem componentOf_eq (hc : s.Subscribes sub c) (hids : ∀ (a : ComponentId) x, s.components[a]? = some x → x.id = a)
    (hunique : ∀ sub' a, s.Subscribes sub' a → sub'.id = sub.id → a = c) : s.componentOf env sub.id = some c := by
  rw [componentOf]
  cases hfind : (s.listComponents env).find? fun x => decide (x.subscription.map (·.id) = some sub.id) with
  | none =>
    obtain ⟨component, hcomponent, hsub⟩ := hc
    have := find?_eq_none.mp hfind component (mem_listComponents.mpr ⟨c, hcomponent⟩)
    simp [hsub] at this
  | some x =>
    obtain ⟨a, ha⟩ := mem_listComponents.mp (mem_of_find?_eq_some hfind)
    have hx := find?_some hfind
    obtain ⟨sub', hsub', hid⟩ := map_eq_some_iff.mp (of_decide_eq_true hx)
    rw [map_some, hids a x ha, hunique sub' a ⟨x, ha, hsub'⟩ hid]

theorem Registered.componentOf_head (hknown : Known env s) {stack history} (h : Forall₂ s.Subscribes stack history) :
    (stack.head?.bind fun sub => s.componentOf env sub.id) = history.head? := by
  cases h with
  | nil => rfl
  | cons hfirst _ =>
    exact componentOf_eq hfirst (fun _ _ ha => (hknown.entry ha).id) fun _ _ ha => (hknown.subscribes_iff ha hfirst).mp

theorem Stacked.getFocusedComponent (h : Stacked s) (hknown : Known env s) :
    s.getFocusedComponent env = (focusHistory s.auditTrail).head? :=
  hknown.componentOf_head h

/-! ## Runs -/

structure SoundFocus (env : Surroundings L) (s : WorkspaceManager σ L R) : Prop extends Sound env s where
  stacked : Stacked s

theorem Initial.soundFocus (h : Initial s) : SoundFocus env s := by
  refine ⟨h.sound, ?_⟩
  obtain ⟨workspaceIdentity, services, policy, rfl⟩ := h
  exact .nil

theorem SoundFocus.step (h : SoundFocus env s) (hstep : Step env G s s') (hids : Distinct env s') : SoundFocus env s' :=
  ⟨h.toSound.step hstep hids, h.stacked.step h.known hstep hids⟩

theorem SoundFocus.getFocusedComponent_focused (h : SoundFocus env (s.focused c sub)) :
    (s.focused c sub).getFocusedComponent env = some c := by
  rw [h.stacked.getFocusedComponent h.known, WorkspaceManager.focused, focusHistory_concat, focusStep]
  split
  · assumption
  · rfl

theorem eraseDups_of_nodup {ids : List ComponentId} (h : ids.Nodup) : ids.eraseDups = ids := by
  induction ids with
  | nil => rfl
  | cons a ids ih =>
    obtain ⟨hnot, hnodup⟩ := nodup_cons.mp h
    have hfilter : ids.filter (fun b => !b == a) = ids := by
      refine filter_eq_self.mpr fun b hb => ?_
      simpa using ne_of_mem_of_not_mem hb hnot
    rw [eraseDups_cons, hfilter, ih hnodup]

theorem orderedFocusableComponents_eq (h : Sound env s) : s.orderedFocusableComponents env =
    s.windowLayout.components.filter s.isFocusableRunningComponent := by
  have hnodup := h.tabbed.layout.nodup.filter s.isFocusableRunningComponent
  have hremaining : (((s.listComponents env).filter fun x => x.isRunning && x.focusable).map (·.id)).filter
      (· ∉ s.windowLayout.components.filter s.isFocusableRunningComponent) = [] := by
    refine filter_eq_nil_iff.mpr fun a ha => ?_
    obtain ⟨x, hx, rfl⟩ := mem_map.mp ha
    obtain ⟨hlisted, hx⟩ := mem_filter.mp hx
    obtain ⟨a, ha⟩ := mem_listComponents.mp hlisted
    obtain rfl := (h.known.entry ha).id
    have hrunning : s.isFocusableRunningComponent x.id = true := by simp [isFocusableRunningComponent, ha, hx]
    simp [h.tabbed.tabs, hrunning, running_of_isFocusableRunningComponent hrunning]
  rw [orderedFocusableComponents]
  change (filter _ s.windowLayout.components).eraseDups ++
    mergeSort (filter (· ∉ (filter _ s.windowLayout.components).eraseDups) _) _ = _
  rw [eraseDups_of_nodup hnodup, hremaining, mergeSort_nil, append_nil]

end WorkspaceManager

end PandaGen.Workspace
