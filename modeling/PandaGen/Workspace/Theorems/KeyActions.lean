import PandaGen.Workspace.KeyBindings
import PandaGen.Workspace.Lemmas.Registry

/-!
# One action for each press of a key

A binding is looked up for every key event, whatever the state of the key is.
-/

namespace PandaGen.Workspace.KeyBindingProfile

open List Lib Input Vi KeyCombo
open WorkspaceManager (Work executeAction routeToFocused)

variable {σ L R : Type} [EditorIo σ] {env : Services σ L R} {profile : KeyBindingProfile} {r r' : Routed σ L R}

/-! ## What is executed -/

def handle (env : Services σ L R) (event : KeyEvent) (action : Option Action) : Work σ L R (Option ComponentId) := do
  if ← action.elim (pure false) (executeAction env) then return none
  else routeToFocused env (.key event)

theorem routeInput_exec (event) : (profile.routeInput env event).exec r =
    let (answer, manager) := (handle env event (profile.getAction event)).exec r.manager
    (answer, ⟨manager, r.executed ++ ((profile.getAction event).map (event, ·)).toList⟩) := by
  rw [routeInput, consume]
  cases profile.getAction event with
  | none =>
    change (onManager (routeToFocused env (.key event))).exec r = _
    simp
    rfl
  | some action =>
    have hexecute : (execute env event action).exec r = (((executeAction env action).exec r.manager).1,
        ⟨((executeAction env action).exec r.manager).2, r.executed ++ [(event, action)]⟩) := rfl
    rw [handle, Proc.exec_bind, Proc.exec_bind, hexecute, Option.elim_some]
    rcases (executeAction env action).exec r.manager with ⟨_ | ⟨_ | _⟩, manager⟩ <;> rfl

theorem getAction_defaultProfile (event) : defaultProfile.getAction event = Workspace.getAction event := by
  simp only [getAction, defaultProfile, bind, new, Function.update_apply, fromEvent, KeyCombo.mk.injEq,
    Workspace.getAction]
  split_ifs <;> simp_all

/-- With the default profile it is `route_input` of the workspace. -/
theorem routeInput_defaultProfile (event) : (defaultProfile.routeInput env event).exec r =
    let (answer, manager) := (WorkspaceManager.routeInput env (.key event)).exec r.manager
    (answer, ⟨manager, r.executed ++ ((Workspace.getAction event).map (event, ·)).toList⟩) := by
  have hhandle : WorkspaceManager.routeInput env (.key event) = handle env event (Workspace.getAction event) := by
    rw [WorkspaceManager.routeInput, WorkspaceManager.consume, handle]
    cases Workspace.getAction event <;> rfl
  rw [routeInput_exec, getAction_defaultProfile, hhandle]

def noted (profile : KeyBindingProfile) (events : List KeyEvent) : List (KeyEvent × Action) :=
  events.filterMap fun event => (profile.getAction event).map (event, ·)

theorem executed_eq_noted {tr} (hrun : (profile.machine env).FreeRun r tr r') :
    r'.executed = r.executed ++ profile.noted (tr.map Prod.fst) := by
  induction hrun with
  | nil => simp [noted]
  | @cons r event answer r1 tr r' hstep _ _ ih =>
    have hpost : (profile.routeInput env event).Post r fun _ r' =>
        r'.executed = r.executed ++ ((profile.getAction event).map (event, ·)).toList := by
      rw [Proc.Post, routeInput_exec]
    rw [ih, hpost.of_call hstep, append_assoc, map_cons]
    cases h : profile.getAction event <;> simp [noted, h]

/-! ## Executions and presses -/

def presses (events : List KeyEvent) (combo : KeyCombo) : Nat :=
  (events.filter (·.isPressed)).countP fun event => KeyCombo.fromEvent event = combo

def executions (executed : List (KeyEvent × Action)) (combo : KeyCombo) : Nat :=
  executed.countP fun x => KeyCombo.fromEvent x.1 = combo

/-- No combination has led to more executions than presses, and none was executed for a release. -/
structure OncePerPress (events : List KeyEvent) (executed : List (KeyEvent × Action)) : Prop where
  once (combo) : executions executed combo ≤ presses events combo
  released : ∀ x ∈ executed, x.1.state ≠ .released

theorem executions_noted {events combo} (h : profile.bindings combo ≠ none) :
    executions (profile.noted events) combo = events.countP fun event => fromEvent event = combo := by
  induction events with
  | nil => rfl
  | cons event events ih =>
    by_cases heq : fromEvent event = combo
    · obtain ⟨action, haction⟩ := Option.ne_none_iff_exists'.mp h
      simpa [noted, getAction, heq, haction, executions] using ih
    · cases haction : profile.getAction event with
      | none => simpa [noted, haction, heq] using ih
      | some action => simpa [noted, haction, heq, executions] using ih

theorem mem_noted {events x} (h : x ∈ profile.noted events) : x.1 ∈ events ∧ profile.getAction x.1 = some x.2 := by
  obtain ⟨event, hmem, heq⟩ := mem_filterMap.mp h
  obtain ⟨action, haction, rfl⟩ := Option.map_eq_some_iff.mp heq
  exact ⟨hmem, haction⟩

/-- Where a bound key is only pressed, the executions of its combination are presses. -/
theorem oncePerPress_noted (events) : OncePerPress events (profile.noted events) ↔
    ∀ event ∈ events, profile.getAction event ≠ none → event.isPressed := by
  constructor
  · intro h event hmem hbound
    have honce := h.once (.fromEvent event)
    rw [executions_noted hbound, countP_eq_countP_filter_add _ _ KeyEvent.isPressed] at honce
    have hzero := countP_eq_zero.mp (Nat.le_zero.mp (Nat.add_le_add_iff_left.mp honce))
    by_contra hpressed
    simpa using hzero event (mem_filter.mpr ⟨hmem, by simpa using hpressed⟩)
  · intro h
    refine ⟨fun combo => ?_, fun x hx hreleased => ?_⟩
    · by_cases hbound : profile.bindings combo = none
      · have hzero : executions (profile.noted events) combo = 0 := by
          refine countP_eq_zero.mpr fun x hx heq => ?_
          have haction := (mem_noted hx).2
          rw [getAction, of_decide_eq_true heq, hbound] at haction
          cases haction
        omega
      · rw [executions_noted hbound, presses, countP_filter]
        refine (countP_congr fun event hmem => ?_).le
        have hpressed := h event hmem
        simp
        rintro rfl
        exact hpressed hbound
    · have hpressed := h x.1 (mem_noted hx).1 (by simp [(mem_noted hx).2])
      simp [KeyEvent.isPressed, hreleased] at hpressed

/-! ## Runs -/

/-- A combination is executed at most once for each press, and not for a release, exactly if the keys of the bound
combinations are only pressed. -/
theorem once_per_press_iff {s : WorkspaceManager σ L R} {tr}
    (hrun : (profile.machine env).FreeRun ⟨s, []⟩ tr r) : OncePerPress (tr.map Prod.fst) r.executed ↔
      ∀ event ∈ tr.map Prod.fst, profile.getAction event ≠ none → event.isPressed := by
  rw [executed_eq_noted hrun]
  exact oncePerPress_noted _

open WorkspaceManager.Plain

def ctrlS (state : KeyState) : KeyEvent := ⟨.s, .ctrl, state⟩

def altTab (state : KeyState) : KeyEvent := ⟨.tab, .alt, state⟩

def switchesAndSave : List KeyEvent := [altTab .pressed, ⟨.x, .none, .released⟩, altTab .pressed, ctrlS .pressed]

/-- The tile is switched twice and the text is saved. The release in between is of a key that is not bound. -/
theorem once_per_press_iff_pressed : ∃ tr s tr' r,
    (WorkspaceManager.machine idle).FreeRun start tr s ∧ s.components.toList.length = 2 ∧
    (defaultProfile.machine idle).FreeRun ⟨s, []⟩ tr' r ∧ tr'.map Prod.fst = switchesAndSave ∧
    r.executed = [(altTab .pressed, .switchTile), (altTab .pressed, .switchTile), (ctrlS .pressed, .save)] ∧
    OncePerPress switchesAndSave r.executed := by
  obtain ⟨tr, s, tr', r, hrun, hsize, hrun', hevents, hexecuted⟩ : ∃ tr s tr' r,
      (WorkspaceManager.machine idle).FreeRun start tr s ∧ s.components.toList.length = 2 ∧
      (defaultProfile.machine idle).FreeRun ⟨s, []⟩ tr' r ∧ tr'.map Prod.fst = switchesAndSave ∧
      r.executed = [(altTab .pressed, .switchTile), (altTab .pressed, .switchTile), (ctrlS .pressed, .save)] :=
    ⟨_, _, _, _, Machine.exec_free (show (WorkspaceManager.machine idle).exec (fun _ _ _ => true) start
      [launch .cli, launch .cli, .splitFocusedTile .vertical] = some _ from rfl), rfl,
      Machine.exec_free (show (defaultProfile.machine idle).exec (fun _ _ _ => true) ⟨_, []⟩ switchesAndSave = some _
        from rfl), rfl, rfl⟩
  refine ⟨tr, s, tr', r, hrun, hsize, hrun', hevents, hexecuted, ?_⟩
  rw [← hevents, once_per_press_iff hrun', hevents]
  decide

/-- The key is released, and the focus goes back to the tile that had it. -/
theorem release_switches_back : ∃ tr s tr' r, (WorkspaceManager.machine idle).FreeRun start tr s ∧
    (defaultProfile.machine idle).FreeRun ⟨s, []⟩ tr' r ∧
    tr'.map Prod.fst = [altTab .pressed, altTab .released] ∧
    r.executed = [(altTab .pressed, .switchTile), (altTab .released, .switchTile)] ∧
    s.getFocusedComponent idle.toSurroundings = some ⟨13⟩ ∧
    r.manager.getFocusedComponent idle.toSurroundings = some ⟨13⟩ ∧
    ¬ OncePerPress [altTab .pressed, altTab .released] r.executed := by
  refine ⟨_, _, _, _, Machine.exec_free (show (WorkspaceManager.machine idle).exec (fun _ _ _ => true) start
    [launch .cli, launch .cli, .splitFocusedTile .vertical] = some _ from rfl),
    Machine.exec_free (show (defaultProfile.machine idle).exec (fun _ _ _ => true) ⟨_, []⟩
      [altTab .pressed, altTab .released] = some _ from rfl), rfl, rfl, rfl, rfl, fun h => ?_⟩
  exact h.released (altTab .released, .switchTile) (by simp) rfl

end PandaGen.Workspace.KeyBindingProfile
