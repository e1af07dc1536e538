import PandaGen.Workspace.Lemmas.Registry

/-!
# The layout of a workspace

After every run, each running component has one tab and the indexes of the layout are valid.
-/

namespace PandaGen.Workspace.WorkspaceManager

open Lib Vi

variable {σ L R : Type} [EditorIo σ] {env : Services σ L R}

theorem layout_integrity {s₀ s : WorkspaceManager σ L R} (h₀ : s₀.Initial)
    {tr : List (Call σ × Except WorkspaceError (Option ComponentId))}
    (hrun : (machine env).FreeRun s₀ tr s) (hids : Set.InjOn env.ids (Set.Iio s.drawn)) :
    (∀ c, s.Launched c → ¬ s.Terminated c → (s.windowLayout.tiles.flatMap (·.tabs)).count c = 1) ∧
      (∀ c, s.Terminated c → ∀ t ∈ s.windowLayout.tiles, c ∉ t.tabs) ∧
      s.windowLayout.tiles ≠ [] ∧ s.windowLayout.focusedTile < s.windowLayout.tiles.length ∧
      (∀ t ∈ s.windowLayout.tiles, t.activeTab < t.tabs.length ∨ t.tabs = [] ∧ t.activeTab = 0) ∧
      (s.windowLayout.tiles.length = 1 → s.windowLayout.splitAxis = none) := by
  have hsound : Sound env.toSurroundings s := h₀.sound.steps (run_steps hrun) hids
  have hlayout := hsound.tabbed.layout
  refine ⟨?_, ?_, ?_, hlayout.focused, hlayout.active, hlayout.axis⟩
  · intro c hlaunched hterminated
    have hrunning := (hsound.recorded.running c).mpr ⟨hlaunched, hterminated⟩
    exact List.count_eq_one_of_mem hlayout.nodup ((hsound.tabbed.tabs c).mpr hrunning)
  · intro c hterminated t ht hc
    have htab : c ∈ s.windowLayout.components := List.mem_flatMap.mpr ⟨t, ht, hc⟩
    exact ((hsound.recorded.running c).mp ((hsound.tabbed.tabs c).mp htab)).2 hterminated
  · exact List.ne_nil_of_length_pos (Nat.zero_lt_of_lt hlayout.focused)

open Plain in
theorem layout_integrity_terminated : ∃ tr s, (machine idle).FreeRun start tr s ∧
    s.Launched ⟨13⟩ ∧ (s.windowLayout.tiles.flatMap (·.tabs)).count ⟨13⟩ = 1 ∧
    s.Terminated ⟨1⟩ ∧ (∀ t ∈ s.windowLayout.tiles, (⟨1⟩ : ComponentId) ∉ t.tabs) ∧
      s.windowLayout.splitAxis = none := by
  have hcalls : ∃ tr s, (machine idle).FreeRun start tr s ∧
      s.auditTrail = [.componentLaunched ⟨1⟩ .cli ⟨0⟩ 0, .componentFocused ⟨1⟩ 2,
        .componentLaunched ⟨13⟩ .editor ⟨12⟩ 3, .componentFocused ⟨13⟩ 5, .componentFocused ⟨13⟩ 6,
        .componentTerminated ⟨1⟩ .normal 7] ∧ s.drawn = 24 ∧ s.windowLayout.tiles.length = 1 :=
    ⟨_, _, Machine.exec_free (show (machine idle).exec (fun _ _ _ => true) start
      [launch .cli, launch .editor, .splitFocusedTile .vertical, .terminateComponent ⟨1⟩ .normal] = some _ from rfl),
      rfl, rfl, rfl⟩
  obtain ⟨tr, s, hrun, htrail, hdrawn, htiles⟩ := hcalls
  obtain ⟨hone, hnone, -, -, -, haxis⟩ := layout_integrity start_initial hrun (distinct (by rw [hdrawn]; decide))
  have hlaunched : s.Launched ⟨13⟩ := by simp [Launched, htrail]
  have hterminated : s.Terminated ⟨1⟩ := by simp [Terminated, htrail]
  exact ⟨tr, s, hrun, hlaunched, hone _ hlaunched (by simp [Terminated, htrail]), hterminated, hnone _ hterminated,
    haxis htiles⟩

end PandaGen.Workspace.WorkspaceManager
