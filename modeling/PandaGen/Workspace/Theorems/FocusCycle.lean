import PandaGen.Workspace.Lemmas.FocusHistory
import Mathlib.Data.List.Rotate

/-!
# Cycling through the components

Every running component has a tab, so the components are visited in the order of the tabs. A focus changes neither.
-/

namespace PandaGen.Workspace.WorkspaceManager

open Lib Input Vi Proc Option List

variable {σ L R : Type} {env : Surroundings L} {s s' : WorkspaceManager σ L R} {c : ComponentId}
variable {order : List ComponentId} {i : Nat}

theorem components_setFocusedComponent (l : WindowLayoutState) (c) :
    ((l.setFocusedComponent c).getD l).components = l.components := by
  cases hset : l.setFocusedComponent c with
  | none => rfl
  | some l' =>
    obtain ⟨index, -, rfl⟩ := map_eq_some_iff.mp hset
    rw [getD_some]
    refine congrArg flatten (List.ext_getElem? fun i => ?_)
    rw [getElem?_map, getElem?_map, getElem?_modify]
    cases l.tiles[i]? with
    | none => rfl
    | some t =>
      cases hactive : t.setActiveComponent c with
      | none => split <;> simp [hactive]
      | some t' => split <;> simp [hactive, WindowTileState.setActiveComponent_tabs hactive]

/-- The component at the place `i` of the order has the focus. -/
structure Cycling (env : Surroundings L) (order : List ComponentId) (i : Nat) (s : WorkspaceManager σ L R) : Prop
    extends SoundFocus env s where
  distinct : Distinct env s
  policy : s.policy = none
  ordered : s.windowLayout.components.filter s.isFocusableRunningComponent = order
  place : i < order.length
  focused : s.getFocusedComponent env = order[i]?

theorem Cycling.focus (h : Cycling env order i s) {j} (hj : order[j]? = some c) :
    (focusComponent c).Post s fun r s' => ∃ a, r = .ok a ∧ Cycling env order j s' := by
  have hmem := (mem_filter.mp (h.ordered ▸ mem_of_getElem? hj)).2
  obtain ⟨component, hcomponent, -, hfocusable⟩ := isFocusableRunningComponent_iff.mp hmem
  obtain ⟨sub, -, hsub⟩ := focusSubscription_ok hcomponent (h.known.entry hcomponent).focusable hfocusable h.policy
  have hsound := h.toSoundFocus.step (G := Free) (.focus trivial hsub) h.distinct
  rw [focusComponent_post, hsub]
  refine ⟨(), rfl, hsound, h.distinct, h.policy, ?_, (List.getElem?_eq_some_iff.mp hj).1,
    hsound.getFocusedComponent_focused.trans hj.symm⟩
  change filter s.isFocusableRunningComponent (Option.getD _ s.windowLayout).components = _
  rw [components_setFocusedComponent, h.ordered]

def neighbour (forward : Bool) (n i : Nat) : Nat := if forward then (i + 1) % n else (i + (n - 1)) % n

theorem Cycling.target (h : Cycling env order i s) (forward) :
    s.cycleTarget env (s.orderedFocusableComponents env) forward = order[neighbour forward order.length i]? := by
  have hnodup : order.Nodup := h.ordered ▸ h.tabbed.layout.nodup.filter _
  have hplace := h.place
  have hidx : order.idxOf? order[i] = some i := by
    refine idxOf?_eq_some_iff.mpr ⟨hplace, by simp, fun j hj => ?_⟩
    simpa using fun heq => hj.ne ((hnodup.getElem_inj_iff).mp heq)
  rw [cycleTarget, h.focused, getElem?_eq_getElem hplace, orderedFocusableComponents_eq h.toSound, h.ordered]
  simp only [hidx, getD_some]
  cases forward with
  | true => rfl
  | false =>
    simp only [neighbour, Bool.false_eq_true, if_false]
    split
    · rename_i hzero
      rw [getLast?_eq_getElem?, hzero, Nat.zero_add, Nat.mod_eq_of_lt (by omega)]
    · congr 1
      rw [show i + (order.length - 1) = i - 1 + order.length by omega, Nat.add_mod_right, Nat.mod_eq_of_lt (by omega)]

theorem Cycling.call (h : Cycling env order i s) (forward) :
    ∃ s', (cycleFocusInOrder env (·.orderedFocusableComponents env) forward).call s = some (.ok (), s') ∧
      Cycling env order (neighbour forward order.length i) s' := by
  have hlt : neighbour forward order.length i < order.length := by
    have hpos : 0 < order.length := Nat.zero_lt_of_lt h.place
    rw [neighbour]
    split <;> exact Nat.mod_lt _ hpos
  have hpost : (cycleFocusInOrder env (·.orderedFocusableComponents env) forward).Post s fun r s' =>
      ∃ a, r = .ok a ∧ Cycling env order (neighbour forward order.length i) s' := by
    rw [cycleFocusInOrder, post_get_bind, h.target, getElem?_eq_getElem hlt, post_okOr_bind]
    exact h.focus (getElem?_eq_getElem hlt)
  obtain ⟨_, s', hcall, hs'⟩ := hpost.call_ok
  exact ⟨s', hcall, hs'⟩

theorem Cycling.back (h : Cycling env order i s) (forward) :
    ∃ s1 s2, (cycleFocusInOrder env (·.orderedFocusableComponents env) forward).call s = some (.ok (), s1) ∧
      (cycleFocusInOrder env (·.orderedFocusableComponents env) !forward).call s1 = some (.ok (), s2) ∧
      s2.getFocusedComponent env = s.getFocusedComponent env := by
  have hback : neighbour (!forward) order.length (neighbour forward order.length i) = i := by
    have hplace := h.place
    have hsum : i + 1 + (order.length - 1) = i + order.length := by omega
    have hsum' : i + (order.length - 1) + 1 = i + order.length := by omega
    cases forward <;> simp [neighbour, hsum, hsum', Nat.mod_eq_of_lt hplace]
  obtain ⟨s1, hcall1, h1⟩ := h.call forward
  obtain ⟨s2, hcall2, h2⟩ := h1.call !forward
  exact ⟨s1, s2, hcall1, hcall2, by rw [h2.focused, hback, h.focused]⟩

variable [EditorIo σ] {env : Services σ L R}

theorem Cycling.run (h : Cycling env.toSurroundings order i s) (k) :
    ∃ s', (machine env).FreeRun s (replicate k (.focusNext, .ok none)) s' ∧
      Cycling env.toSurroundings order ((i + k) % order.length) s' := by
  induction k with
  | zero => exact ⟨s, .nil, by rwa [Nat.add_zero, Nat.mod_eq_of_lt h.place]⟩
  | succ k ih =>
    obtain ⟨s1, hrun, h1⟩ := ih
    obtain ⟨s2, hcall, h2⟩ := h1.call true
    refine ⟨s2, ?_, ?_⟩
    · rw [replicate_succ']
      have hstep : (machine env).step s1 .focusNext = some (.ok none, s2) := by
        change (focusNext env.toSurroundings >>= fun _ => pure none).call s1 = _
        rw [call_bind, focusNext, hcall]
        rfl
      exact hrun.append (.cons hstep trivial .nil)
    · rwa [neighbour, if_pos rfl, Nat.mod_add_mod, Nat.add_assoc] at h2

/-- While a component has the focus, `focus_next` visits each of the components that can have it exactly once before it
comes back, and `focus_previous` undoes `focus_next`. -/
theorem focus_cycles {s₀ : WorkspaceManager σ L R} (h₀ : s₀.Initial)
    {tr : List (Call σ × Except WorkspaceError (Option ComponentId))}
    (hrun : (machine env).FreeRun s₀ tr s) (hids : Set.InjOn env.ids (Set.Iio s.drawn))
    (hpolicy : s.policy = none) (hc : s.getFocusedComponent env.toSurroundings = some c)
    (hrunning : s.isFocusableRunningComponent c) :
    (∃ visited : List ComponentId, visited.Nodup ∧ (∀ a, a ∈ visited ↔ s.isFocusableRunningComponent a) ∧
      visited.head? = some c ∧
      ∀ k, ∃ s', (machine env).FreeRun s (replicate k (.focusNext, .ok none)) s' ∧
        s'.getFocusedComponent env.toSurroundings = visited[k % visited.length]?) ∧
    (∃ s1 s2, (focusNext env.toSurroundings).call s = some (.ok (), s1) ∧
      (focusPrevious env.toSurroundings).call s1 = some (.ok (), s2) ∧
      s2.getFocusedComponent env.toSurroundings = s.getFocusedComponent env.toSurroundings) ∧
    ∃ s1 s2, (focusPrevious env.toSurroundings).call s = some (.ok (), s1) ∧
      (focusNext env.toSurroundings).call s1 = some (.ok (), s2) ∧
      s2.getFocusedComponent env.toSurroundings = s.getFocusedComponent env.toSurroundings := by
  have hsound : SoundFocus env.toSurroundings s :=
    Steps.invariant (fun _ _ h => h.step) (run_steps hrun) h₀.soundFocus hids
  let order := s.windowLayout.components.filter s.isFocusableRunningComponent
  have hmem (a) : a ∈ order ↔ s.isFocusableRunningComponent a := by
    rw [mem_filter, hsound.tabbed.tabs, and_iff_right_iff_imp]
    exact running_of_isFocusableRunningComponent
  obtain ⟨i, hi, rfl⟩ := mem_iff_getElem.mp ((hmem c).mpr hrunning)
  have hcycling : Cycling env.toSurroundings order i s :=
    ⟨hsound, hids, hpolicy, rfl, hi, by rw [hc, getElem?_eq_getElem hi]⟩
  refine ⟨⟨order.rotate i, nodup_rotate.mpr (hsound.tabbed.layout.nodup.filter _), fun a => mem_rotate.trans (hmem a),
    ?_, fun k => ?_⟩, hcycling.back true, hcycling.back false⟩
  · rw [head?_rotate hi, getElem?_eq_getElem hi]
  · obtain ⟨s', hrun', h'⟩ := hcycling.run k
    refine ⟨s', hrun', ?_⟩
    rw [h'.focused, length_rotate, getElem?_rotate (Nat.mod_lt _ (Nat.zero_lt_of_lt hi)), Nat.mod_add_mod, Nat.add_comm]

open Plain in
theorem focus_cycles_two : ∃ tr s s1 s2, (machine idle).FreeRun start tr s ∧
    s.getFocusedComponent idle.toSurroundings = some ⟨13⟩ ∧ (focusNext idle.toSurroundings).call s = some (.ok (), s1) ∧
    (focusPrevious idle.toSurroundings).call s1 = some (.ok (), s2) ∧
    s2.getFocusedComponent idle.toSurroundings = some ⟨13⟩ := by
  have hcalls := Machine.exec_free (show (machine idle).exec (fun _ _ _ => true) start
    [launch .cli, launch .editor] = some _ from rfl)
  obtain ⟨s1, s2, hnext, hprevious, hfocused⟩ := (focus_cycles start_initial hcalls (distinct (n := 24) (by decide)) rfl
    (show _ = some ⟨13⟩ from rfl) rfl).2.1
  exact ⟨_, _, s1, s2, hcalls, rfl, hnext, hprevious, hfocused⟩

end PandaGen.Workspace.WorkspaceManager
