import PandaGen.Console.Scrollback

/-!
# Scrolling in the history

`scroll_up` limits the lines of one call, not the offset that they are added to.
-/

namespace PandaGen.Console.ScrollbackBuffer

open Lib

variable {A α : Type} {fromText : Text → A → Nat → α} {b b' : ScrollbackBuffer α} {call : Call A}

/-- The viewport is in the history, and full of it. -/
structure Shows (b : ScrollbackBuffer α) : Prop where
  inside : b.viewportOffset ≤ b.maxScrollUp
  visible : ∃ above visible below, b.visibleLines = some visible ∧ b.lines = above ++ visible ++ below ∧
    visible.length = min b.viewportRows b.lines.length ∧ below.length = b.viewportOffset

theorem maxScrollUp_eq (b : ScrollbackBuffer α) : b.maxScrollUp = b.lines.length - b.viewportRows := by
  rw [maxScrollUp]
  split_ifs <;> omega

theorem visibleLines_eq (h : b.viewportOffset ≤ b.lines.length) : b.visibleLines =
    some ((b.lines.take (b.lines.length - b.viewportOffset)).drop
      (b.lines.length - b.viewportOffset - b.viewportRows)) := by
  rw [visibleLines, checkedSub, if_pos h]
  split_ifs with hempty
  · simp [List.length_eq_zero_iff.mp hempty]
  · rfl

theorem shows_of_inside (h : b.viewportOffset ≤ b.maxScrollUp) : b.Shows := by
  have hle : b.viewportOffset ≤ b.lines.length - b.viewportRows := by rwa [← maxScrollUp_eq]
  let stop := b.lines.length - b.viewportOffset
  refine ⟨h, (b.lines.take stop).take (stop - b.viewportRows), _, b.lines.drop stop, visibleLines_eq (by omega), ?_, ?_,
    ?_⟩
  · rw [List.take_append_drop, List.take_append_drop]
  · simp
    omega
  · simp [stop]
    omega

/-- A step up that does not pass the top. -/
def Fits (b : ScrollbackBuffer α) : Call A → Prop
  | .scrollUp lines => b.viewportOffset + min lines b.maxScrollUp ≤ b.maxScrollUp
  | _ => True

theorem pushText_inside (attr text) (h : b.viewportOffset ≤ b.maxScrollUp) :
    (b.pushText fromText attr text).viewportOffset ≤ (b.pushText fromText attr text).maxScrollUp := by
  rw [pushText]
  induction text.lines generalizing b with
  | nil => exact h
  | cons line lines ih => exact ih (Nat.zero_le _)

theorem step_inside_iff {answer} (h : b.viewportOffset ≤ b.maxScrollUp)
    (hstep : (machine fromText).step b call = some (answer, b')) :
    b'.viewportOffset ≤ b'.maxScrollUp ↔ b.Fits call := by
  cases call with
  | scrollUp lines =>
    obtain ⟨⟨scrolled, b1⟩, hup, heq⟩ := Option.map_eq_some_iff.mp hstep
    cases heq
    rw [scrollUp] at hup
    split_ifs at hup with hmax
    · obtain ⟨offset, hoffset, heq⟩ := Option.bind_eq_some_iff.mp hup
      cases heq
      obtain rfl := (checkedAdd_eq_some.mp hoffset).2
      exact Iff.rfl
    · cases hup
      rw [Fits, Nat.eq_zero_of_not_pos hmax, Nat.min_zero, Nat.add_zero]
  | scrollDown lines =>
    cases hstep
    refine iff_of_true ?_ trivial
    rw [scrollDown]
    split_ifs
    · exact (Nat.sub_le _ _).trans h
    · exact h
  | pushText text attr =>
    cases hstep
    exact iff_of_true (pushText_inside attr text h) trivial
  | scrollToTop =>
    cases hstep
    exact iff_of_true (le_refl b.maxScrollUp) trivial
  | pushLine text attr | scrollToBottom | clear =>
    cases hstep
    exact iff_of_true (Nat.zero_le _) trivial

/-- As long as no step up passes the top, the viewport is in the history and full of it. It is after one more call
exactly if that is not such a step. -/
theorem scrolling_inside {cols viewportRows maxLines tr}
    (hrun : (machine fromText).Run (fun b call _ => b.Fits call) (new cols viewportRows maxLines) tr b) :
    b.Shows ∧ ∀ call answer b', (machine fromText).step b call = some (answer, b') → (b'.Shows ↔ b.Fits call) := by
  have hinside : b.viewportOffset ≤ b.maxScrollUp := by
    refine hrun.invariantTrace (P := fun _ b => b.viewportOffset ≤ b.maxScrollUp) ?_ [] (Nat.zero_le _)
    intro _ b call answer b' h hstep hfits
    exact (step_inside_iff h hstep).mpr hfits
  refine ⟨shows_of_inside hinside, fun call answer b' hstep => ?_⟩
  rw [← step_inside_iff hinside hstep]
  exact ⟨Shows.inside, shows_of_inside⟩

def threeLines (attr : A) : List (Call A) := [.pushLine ['a'] attr, .pushLine ['b'] attr, .pushLine ['c'] attr]

theorem scrolling_inside_one_up : ∃ tr b, (machine Line.fromText).Run (fun b call _ => b.Fits call) (new 80 2 9) tr b ∧
    b.viewportOffset = 1 ∧ b.Shows := by
  have hrun : (machine Line.fromText).Run (fun b call _ => b.Fits call) (new 80 2 9) [(.pushLine ['a'] (), none),
      (.pushLine ['b'] (), none), (.pushLine ['c'] (), none), (.scrollUp 5, some true)] _ :=
    .cons rfl trivial (.cons rfl trivial (.cons rfl trivial (.cons rfl (Nat.le_refl 1) .nil)))
  exact ⟨_, _, hrun, rfl, (scrolling_inside hrun).1⟩

/-- Four steps up from the bottom pass the top, and there is nothing to show. -/
theorem scroll_up_passes_top :
    (∃ tr b, (machine Line.fromText).FreeRun (new 80 2 9) tr b ∧ b.viewportOffset = 4 ∧
      b.lines.length = 3 ∧ b.visibleLines = none) ∧
    ∃ tr b, (machine VgaLine.fromText).FreeRun (new 80 2 9) tr b ∧ b.viewportOffset = 4 ∧
      b.lines.length = 3 ∧ b.visibleLines = none := by
  constructor
  · exact ⟨_, _, Machine.exec_free (show (machine Line.fromText).exec (fun _ _ _ => true) (new 80 2 9)
      (threeLines () ++ .replicate 4 (.scrollUp 1)) = some _ from rfl), rfl, rfl, rfl⟩
  · exact ⟨_, _, Machine.exec_free (show (machine VgaLine.fromText).exec (fun _ _ _ => true) (new 80 2 9)
      (threeLines 7 ++ .replicate 4 (.scrollUp 1)) = some _ from rfl), rfl, rfl, rfl⟩

end PandaGen.Console.ScrollbackBuffer
