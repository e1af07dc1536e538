import PandaGen.Workspace.Lemmas.Input
import Mathlib.Data.Set.Function

/-!
# The components of a workspace

As long as the identifiers that are drawn differ, every component has its own subscription and its own views.
-/

namespace PandaGen.Workspace

open Lib Input View Vi BTreeMap Nat WindowLayoutState
open Kernel (ExitReason)

namespace WorkspaceManager

variable {timestamp : Nat} {a : ComponentId} {reason : ExitReason}

variable {σ L R : Type} {env : Surroundings L} {s s' : WorkspaceManager σ L R}
  {G : WorkspaceManager σ L R → Move → Prop}

def Distinct (env : Surroundings L) (s : WorkspaceManager σ L R) : Prop := Set.InjOn env.ids (Set.Iio s.drawn)

theorem Step.drawn_le (h : Step env G s s') : s.drawn ≤ s'.drawn := by
  cases h with
  | quiet h => exact h.drawn
  | launch h => exact h.quiet.drawn
  | _ => exact le_refl _

theorem Distinct.mono (h : Distinct env s') (hdrawn : s.drawn ≤ s'.drawn) : Distinct env s :=
  Set.InjOn.mono (Set.Iio_subset_Iio hdrawn) h

theorem Distinct.not_fresh (h : Distinct env s') {id} (hfresh : Fresh env s s' id) :
    ¬ ∃ k < s.drawn, id = env.ids k := by
  rintro ⟨k, hk, hid⟩
  obtain ⟨j, hj, hj', hid'⟩ := hfresh
  have hkj : k = j := h (Set.mem_Iio.mpr (by omega)) (Set.mem_Iio.mpr hj') (hid.symm.trans hid')
  omega

/-! ## Identifiers -/

structure Entry (env : Surroundings L) (drawn nextTimestamp : Nat) (c : ComponentId) (component : ComponentInfo) :
    Prop where
  id : component.id = c
  idDrawn : ∃ k < drawn, c.uuid = env.ids k
  focusable : component.focusable = component.subscription.isSome
  subscription : ∀ sub, component.subscription = some sub → sub.id < nextTimestamp

def Separate (x y : ComponentInfo) : Prop :=
  ∀ sub sub', x.subscription = some sub → y.subscription = some sub' → sub.id ≠ sub'.id

structure Alike (x y : ComponentInfo) : Prop where
  id : y.id = x.id
  focusable : y.focusable = x.focusable
  subscription : y.subscription = x.subscription

structure Registered (env : Surroundings L) (components : BTreeMap ComponentId ComponentInfo)
    (drawn nextTimestamp : Nat) : Prop where
  entry {c : ComponentId} {component : ComponentInfo} :
    components[c]? = some component → Entry env drawn nextTimestamp c component
  separate {c c' : ComponentId} {component component' : ComponentInfo} :
    components[c]? = some component → components[c']? = some component' → c ≠ c' → Separate component component'

variable {components : BTreeMap ComponentId ComponentInfo} {drawn drawn' nextTimestamp nextTimestamp' : Nat}
  {c : ComponentId} {component component' x y x' y' : ComponentInfo}

theorem Entry.mono (h : Entry env drawn nextTimestamp c component) (hdrawn : drawn ≤ drawn')
    (htime : nextTimestamp ≤ nextTimestamp') : Entry env drawn' nextTimestamp' c component :=
  { h with
    idDrawn := h.idDrawn.imp fun _ hk => ⟨hk.1.trans_le hdrawn, hk.2⟩
    subscription := fun sub hsub => (h.subscription sub hsub).trans_le htime }

theorem Entry.alike (h : Entry env drawn nextTimestamp c component) (halike : Alike component component') :
    Entry env drawn nextTimestamp c component' where
  id := halike.id.trans h.id
  idDrawn := h.idDrawn
  focusable := by rw [halike.focusable, halike.subscription, h.focusable]
  subscription := by rw [halike.subscription]; exact h.subscription

theorem Separate.symm (h : Separate x y) : Separate y x :=
  fun sub sub' hsub hsub' heq => h sub' sub hsub' hsub heq.symm

theorem Separate.alike (h : Separate x y) (hx : Alike x x') (hy : Alike y y') : Separate x' y' := by
  rw [Separate, hx.subscription, hy.subscription]
  exact h

theorem Registered.mono (h : Registered env components drawn nextTimestamp) (hdrawn : drawn ≤ drawn')
    (htime : nextTimestamp ≤ nextTimestamp') : Registered env components drawn' nextTimestamp' :=
  ⟨fun hc => (h.entry hc).mono hdrawn htime, h.separate⟩

theorem Registered.change (h : Registered env components drawn nextTimestamp) (hc : components[c]? = some component)
    (halike : Alike component component') : Registered env (components.insert c component') drawn nextTimestamp := by
  have hlookup {a : ComponentId} {x : ComponentInfo} (ha : (components.insert c component')[a]? = some x) :
      ∃ y, components[a]? = some y ∧ Alike y x := by
    rw [getElem?_insert] at ha
    split at ha
    · rename_i heq
      cases ha
      exact ⟨component, heq ▸ hc, halike⟩
    · exact ⟨x, ha, rfl, rfl, rfl⟩
  constructor
  · intro a x ha
    obtain ⟨y, hy, hyx⟩ := hlookup ha
    exact (h.entry hy).alike hyx
  · intro a a' x x' ha ha' hne
    obtain ⟨y, hy, hyx⟩ := hlookup ha
    obtain ⟨y', hy', hyx'⟩ := hlookup ha'
    exact (h.separate hy hy' hne).alike hyx hyx'

theorem Registered.launch (h : Registered env s.components s.drawn s.nextTimestamp) (hmade : Made env s s' component) :
    Registered env (s.components.insert component.id component) s'.drawn s'.nextTimestamp := by
  have hentry : Entry env s'.drawn s'.nextTimestamp component.id component := by
    refine ⟨rfl, ?_, hmade.focusable, fun sub hsub => (hmade.subscription sub hsub).2⟩
    obtain ⟨k, -, hk, hid⟩ := hmade.id
    exact ⟨k, hk, hid⟩
  have hseparate {a : ComponentId} {x : ComponentInfo} (ha : s.components[a]? = some x) : Separate component x := by
    intro sub sub' hsub hsub'
    have hnew := (hmade.subscription sub hsub).1
    have hold := (h.entry ha).subscription sub' hsub'
    omega
  have hlookup {a : ComponentId} {x : ComponentInfo} (ha : (s.components.insert component.id component)[a]? = some x) :
      component.id = a ∧ x = component ∨ s.components[a]? = some x := by
    rw [getElem?_insert] at ha
    split at ha
    · exact .inl ⟨‹_›, (Option.some.inj ha).symm⟩
    · exact .inr ha
  constructor
  · intro a x ha
    rcases hlookup ha with ⟨rfl, rfl⟩ | ha
    · exact hentry
    · exact (h.entry ha).mono hmade.quiet.drawn hmade.quiet.nextTimestamp
  · intro a a' x x' ha ha' hne
    rcases hlookup ha with ⟨rfl, rfl⟩ | hx <;> rcases hlookup ha' with ⟨rfl, rfl⟩ | hx'
    · exact absurd rfl hne
    · exact hseparate hx'
    · exact (hseparate hx).symm
    · exact h.separate hx hx' hne

abbrev Known (env : Surroundings L) (s : WorkspaceManager σ L R) : Prop :=
  Registered env s.components s.drawn s.nextTimestamp

theorem Registered.not_mem (h : Known env s) (hmade : Made env s s' component) (hids : Distinct env s') :
    s.components[component.id]? = none := by
  rw [Option.eq_none_iff_forall_not_mem]
  intro x hx
  exact hids.not_fresh hmade.id (h.entry hx).idDrawn

theorem Registered.step (h : Known env s) (hstep : Step env G s s') (hids : Distinct env s') : Known env s' := by
  cases hstep with
  | quiet hquiet =>
    rw [Known, hquiet.components]
    exact h.mono hquiet.drawn hquiet.nextTimestamp
  | focus _ _ => exact h.mono (le_refl _) (le_succ _)
  | layout _ => exact h
  | launch hmade =>
    have hlaunch := h.launch hmade
    rw [← hmade.quiet.components] at hlaunch
    exact hlaunch
  | update => exact h
  | terminate _ hc => exact (h.mono (le_refl _) (le_succ _)).change hc ⟨rfl, rfl, rfl⟩

/-! ## The audit trail -/

def Launched (s : WorkspaceManager σ L R) (c : ComponentId) : Prop :=
  ∃ componentType executionId timestamp,
    WorkspaceEvent.componentLaunched c componentType executionId timestamp ∈ s.auditTrail

def Terminated (s : WorkspaceManager σ L R) (c : ComponentId) : Prop :=
  ∃ reason timestamp, WorkspaceEvent.componentTerminated c reason timestamp ∈ s.auditTrail

def Running (s : WorkspaceManager σ L R) (c : ComponentId) : Prop :=
  ∃ component, s.components[c]? = some component ∧ component.state = .running

theorem running_of_isFocusableRunningComponent (h : s.isFocusableRunningComponent c = true) : s.Running c := by
  obtain ⟨component, hcomponent, hstate, -⟩ := isFocusableRunningComponent_iff.mp h
  exact ⟨component, hcomponent, hstate⟩

theorem Registered.running (h : Known env s) (hlive : s.Live c) : s.Running c := by
  obtain ⟨a, component, ha, hid, hrunning⟩ := hlive
  rw [(h.entry ha).id, or_self] at hid
  exact ⟨component, hid ▸ ha, hrunning⟩

instance (s : WorkspaceManager σ L R) (c : ComponentId) : Decidable (s.Running c) :=
  decidable_of_iff (s.components[c]?.any (·.state = .running) = true) (by simp [Running, Option.any_eq_true])

structure Recorded (s : WorkspaceManager σ L R) : Prop where
  launched : ∀ c, s.Launched c ↔ s.components[c]?.isSome
  terminated : ∀ c, s.Terminated c → s.Launched c
  running : ∀ c, s.Running c ↔ s.Launched c ∧ ¬ s.Terminated c

theorem Quiet.launched (h : Quiet s s') : s'.Launched c ↔ s.Launched c := by rw [Launched, Launched, h.auditTrail]

theorem Quiet.terminated (h : Quiet s s') : s'.Terminated c ↔ s.Terminated c := by
  rw [Terminated, Terminated, h.auditTrail]

theorem Quiet.running (h : Quiet s s') : s'.Running c ↔ s.Running c := by rw [Running, Running, h.components]

theorem launched_installed {inst} :
    (s.installed component inst timestamp).Launched c ↔ s.Launched c ∨ c = component.id := by
  simp [Launched, installed, exists_or]

theorem terminated_installed {inst} : (s.installed component inst timestamp).Terminated c ↔ s.Terminated c := by
  simp [Terminated, installed]

theorem launched_focused {sub} : (s.focused a sub).Launched c ↔ s.Launched c := by
  simp [Launched, focused]

theorem terminated_focused {sub} : (s.focused a sub).Terminated c ↔ s.Terminated c := by
  simp [Terminated, focused]

theorem launched_terminated : (s.terminated component a reason).Launched c ↔ s.Launched c := by
  simp [Launched, terminated]

theorem terminated_terminated : (s.terminated component a reason).Terminated c ↔ s.Terminated c ∨ c = a := by
  simp [Terminated, terminated, exists_or]

theorem stateAfter_ne_running (reason) : stateAfter reason ≠ .running := by
  cases reason <;> simp [stateAfter]

theorem running_terminated : (s.terminated component a reason).Running c ↔ s.Running c ∧ c ≠ a := by
  simp only [Running, terminated, getElem?_insert]
  by_cases hca : a = c
  · simp [hca, stateAfter_ne_running]
  · simp [hca, Ne.symm hca]

theorem running_installed {inst} (hrunning : component.state = .running) :
    (s.installed component inst timestamp).Running c ↔ s.Running c ∨ c = component.id := by
  simp only [Running, installed, getElem?_insert]
  by_cases hca : component.id = c
  · simp [hca, hrunning]
  · simp [hca, Ne.symm hca]

theorem Recorded.step (h : Recorded s) (hknown : Known env s) (hstep : Step env G s s') (hids : Distinct env s') :
    Recorded s' := by
  cases hstep with
  | quiet hquiet =>
    refine ⟨fun c => ?_, fun c => ?_, fun c => ?_⟩
    · rw [hquiet.launched, hquiet.components]
      exact h.launched c
    · rw [hquiet.launched, hquiet.terminated]
      exact h.terminated c
    · rw [hquiet.running, hquiet.launched, hquiet.terminated]
      exact h.running c
  | focus _ _ =>
    refine ⟨fun c => ?_, fun c => ?_, fun c => ?_⟩
    · rw [launched_focused]
      exact h.launched c
    · rw [launched_focused, terminated_focused]
      exact h.terminated c
    · rw [launched_focused, terminated_focused]
      exact h.running c
  | layout _ | update => exact { h with }
  | @launch s1 component inst timestamp hmade =>
    have hnew := hknown.not_mem hmade hids
    have hnone : ¬ s.Launched component.id := by simp [h.launched, hnew]
    have hquiet := hmade.quiet
    refine ⟨fun c => ?_, fun c => ?_, fun c => ?_⟩
    · rw [launched_installed, hquiet.launched, h.launched]
      simp only [installed, getElem?_insert, hquiet.components]
      by_cases hc : component.id = c
      · simp [hc]
      · simp [hc, Ne.symm hc]
    · rw [launched_installed, terminated_installed, hquiet.launched, hquiet.terminated]
      exact fun hc => .inl (h.terminated c hc)
    · rw [running_installed hmade.running, launched_installed, terminated_installed, hquiet.running, hquiet.launched,
        hquiet.terminated, h.running]
      constructor
      · rintro (⟨hlaunched, hterminated⟩ | rfl)
        · exact ⟨.inl hlaunched, hterminated⟩
        · exact ⟨.inr rfl, fun hterminated => hnone (h.terminated _ hterminated)⟩
      · rintro ⟨hlaunched | rfl, hterminated⟩
        · exact .inl ⟨hlaunched, hterminated⟩
        · exact .inr rfl
  | @terminate a component reason _ ha =>
    refine ⟨fun c => ?_, fun c => ?_, fun c => ?_⟩
    · rw [launched_terminated, h.launched]
      simp only [WorkspaceManager.terminated, getElem?_insert]
      by_cases hc : a = c
      · simp [← hc, ha]
      · simp [hc]
    · rw [launched_terminated, terminated_terminated]
      rintro (hc | rfl)
      · exact h.terminated c hc
      · simp [h.launched, ha]
    · rw [running_terminated, launched_terminated, terminated_terminated, h.running]
      simp [and_assoc]

/-! ## Tabs -/

structure Tabbed (s : WorkspaceManager σ L R) : Prop where
  layout : s.windowLayout.WellFormed
  tabs : ∀ c, c ∈ s.windowLayout.components ↔ s.Running c

theorem Tabbed.focused (h : Tabbed s) (a sub) : Tabbed (s.focused a sub) := by
  have hlayout : ((s.windowLayout.setFocusedComponent a).getD s.windowLayout).WellFormed ∧
      ((s.windowLayout.setFocusedComponent a).getD s.windowLayout).components.Perm s.windowLayout.components := by
    cases hset : s.windowLayout.setFocusedComponent a with
    | none => exact ⟨h.layout, .refl _⟩
    | some l => exact h.layout.setFocusedComponent hset
  exact ⟨hlayout.1, fun c => hlayout.2.mem_iff.trans (h.tabs c)⟩

theorem Tabbed.step (h : Tabbed s) (hknown : Known env s) (hstep : Step env G s s') (hids : Distinct env s') :
    Tabbed s' := by
  cases hstep with
  | quiet hquiet =>
    refine ⟨hquiet.windowLayout ▸ h.layout, fun c => ?_⟩
    rw [hquiet.windowLayout, hquiet.running]
    exact h.tabs c
  | focus _ _ => exact h.focused _ _
  | layout hf =>
    obtain ⟨hlayout, hperm⟩ := hf _ h.layout
    exact ⟨hlayout, fun c => hperm.mem_iff.trans (h.tabs c)⟩
  | @launch s1 component inst timestamp hmade =>
    have hnew : component.id ∉ s.windowLayout.components := by
      rw [h.tabs, Running, hknown.not_mem hmade hids]
      simp
    obtain ⟨hlayout, hperm⟩ := addComponentTab_of_not_mem h.layout hnew
    rw [← hmade.quiet.windowLayout] at hlayout hperm
    refine ⟨hlayout, fun c => ?_⟩
    rw [running_installed hmade.running, hmade.quiet.running, ← h.tabs, ← hmade.quiet.windowLayout]
    refine hperm.mem_iff.trans ?_
    rw [List.mem_cons, or_comm]
  | update => exact ⟨h.layout, h.tabs⟩
  | @terminate a component reason _ ha =>
    obtain ⟨hlayout, hcomponents⟩ := h.layout.removeComponent a
    refine ⟨hlayout, fun c => ?_⟩
    rw [running_terminated, ← h.tabs]
    simp only [terminated]
    rw [hcomponents]
    simp

/-! ## Runs -/

def Initial (s : WorkspaceManager σ L R) : Prop :=
  ∃ workspaceIdentity services policy, s = { new workspaceIdentity services with policy }

structure Sound (env : Surroundings L) (s : WorkspaceManager σ L R) : Prop where
  known : Known env s
  recorded : Recorded s
  tabbed : Tabbed s

theorem Initial.sound (h : Initial s) : Sound env s := by
  obtain ⟨workspaceIdentity, services, policy, rfl⟩ := h
  refine ⟨⟨?_, ?_⟩, ⟨?_, ?_, ?_⟩, wellFormed_new, ?_⟩
  · simp [new]
  · simp [new]
  · simp [new, Launched]
  · simp [new, Terminated]
  · simp [new, Launched, Running]
  · simp [new, Running, WindowLayoutState.components, WindowLayoutState.new, WindowTileState.new]

theorem Sound.step (h : Sound env s) (hstep : Step env G s s') (hids : Distinct env s') : Sound env s' :=
  ⟨h.known.step hstep hids, h.recorded.step h.known hstep hids, h.tabbed.step h.known hstep hids⟩

theorem Steps.drawn_le (h : Steps env G s s') : s.drawn ≤ s'.drawn := by
  induction h with
  | refl => exact le_refl _
  | tail _ hlast ih => exact ih.trans hlast.drawn_le

theorem Steps.invariant {I : WorkspaceManager σ L R → Prop}
    (hstep : ∀ s s', I s → Step env G s s' → Distinct env s' → I s') (hsteps : Steps env G s s') (h : I s)
    (hids : Distinct env s') : I s' := by
  induction hsteps with
  | refl => exact h
  | tail _ hlast ih => exact hstep _ _ (ih (hids.mono hlast.drawn_le)) hlast hids

theorem Sound.steps (h : Sound env s) (hsteps : Steps env G s s') (hids : Distinct env s') : Sound env s' :=
  Steps.invariant (fun _ _ h => h.step) hsteps h hids

/-! ## A workspace without services -/

namespace Plain

def idle : Services StorageEditorIo Unit Unit where
  ids k := BitVec.ofNat 128 k
  order := .listed
  newPipeline := ()
  parseCommand _ := .error (.invalidCommand "")
  runCommand _ state := (.success "", state)
  runPipelineCommand runtime _ := ([], runtime)
  commandPalettePreview _ := ([], 0, 0)
  setLastAction services _ := services
  addFile services _ := services
  track services _ _ := services

def start : WorkspaceManager StorageEditorIo Unit Unit := new (.new ⟨0⟩ .service .core "workspace" 0) ()

theorem start_initial : start.Initial := ⟨_, _, none, rfl⟩

def launch (componentType : ComponentType) : Call StorageEditorIo :=
  .launchComponent (.new componentType "c" .component .user)

theorem distinct {n} (hn : n ≤ 2 ^ 128) : Set.InjOn idle.ids (Set.Iio n) := by
  intro j hj k hk heq
  have hmod : j % 2 ^ 128 = k % 2 ^ 128 := by simpa [idle] using congrArg BitVec.toNat heq
  rwa [mod_eq_of_lt (hj.trans_le hn), mod_eq_of_lt (hk.trans_le hn)] at hmod

end Plain

end WorkspaceManager

end PandaGen.Workspace
