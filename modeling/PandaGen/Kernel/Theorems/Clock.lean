import PandaGen.Kernel.Lemmas.Capability

/-!
# The clock
-/

namespace PandaGen.Kernel.SimulatedKernel

open Option

theorem advanceTime_ticks {k k' : SimulatedKernel} {orders duration} (h : k.advanceTime orders duration = some k') :
    0 < k.nanosPerTick ∧ k'.timerTicks = k.timerTicks + duration / k.nanosPerTick := by
  obtain ⟨_, _, _, _, rfl, hpos, -⟩ := advanceTime_parts h
  exact ⟨hpos, rfl⟩

/-- Two advances make as much of the time as one if their remainders make up no tick. Otherwise they are one tick
behind. -/
theorem advances_compose_iff {k k₁ k₂ k' : SimulatedKernel} {orders orders' orders'' : HashOrders} {a b : Nat}
    (h₁ : k.advanceTime orders a = some k₁) (h₂ : k₁.advanceTime orders' b = some k₂)
    (h' : k.advanceTime orders'' (a + b) = some k') : (k₂.currentTime = k'.currentTime ∧ k₂.timerTicks = k'.timerTicks ↔
      a % k.nanosPerTick + b % k.nanosPerTick < k.nanosPerTick) ∧
    (k.nanosPerTick ≤ a % k.nanosPerTick + b % k.nanosPerTick → k'.timerTicks = k₂.timerTicks + 1) := by
  have hticks₂ := (advanceTime_ticks h₂).2
  have hnow₂ := (advanced_advanceTime h₂).currentTime
  have hnow' := (advanced_advanceTime h').currentTime
  obtain ⟨hpos, hticks'⟩ := advanceTime_ticks h'
  rw [(advanceTime_ticks h₁).2, (advanced_advanceTime h₁).nanosPerTick] at hticks₂
  rw [(advanced_advanceTime h₂).nanosPerTick, (advanced_advanceTime h₁).nanosPerTick] at hnow₂
  rw [(advanced_advanceTime h').nanosPerTick] at hnow'
  rw [Nat.add_div hpos] at hticks'
  refine ⟨⟨fun ⟨_, hticks⟩ => ?_, fun hlt => ?_⟩, fun hle => ?_⟩
  · by_contra hle
    rw [if_pos (Nat.le_of_not_lt hle)] at hticks'
    omega
  · rw [if_neg (Nat.not_le_of_lt hlt)] at hticks'
    have hticks : k₂.timerTicks = k'.timerTicks := by omega
    exact ⟨by rw [hnow₂, hnow', hticks], hticks⟩
  · rw [if_pos hle] at hticks'
    omega

theorem advances_compose_iff_fractions : ∃ k₁ k₂ k', new.advanceTime .listed 1500 = some k₁ ∧
    k₁.advanceTime .listed 200 = some k₂ ∧ new.advanceTime .listed 1700 = some k' ∧ k'.timerTicks = 1 ∧
      k₂.currentTime = k'.currentTime ∧ k₂.timerTicks = k'.timerTicks := by
  have htwo : ((new.advanceTime .listed 1500).bind fun k => k.advanceTime .listed 200).isSome = true := by
    decide +kernel
  have hone : (new.advanceTime .listed 1700).any (fun k => k.timerTicks = 1) = true := by decide +kernel
  obtain ⟨k₂, htwo⟩ := isSome_iff_exists.mp htwo
  obtain ⟨k₁, h₁, h₂⟩ := bind_eq_some_iff.mp htwo
  obtain ⟨k', h', hticks⟩ := (any_eq_true _ _).mp hone
  have hmod : 1500 % 1000 + 200 % 1000 < 1000 := by decide
  exact ⟨k₁, k₂, k', h₁, h₂, h', of_decide_eq_true hticks, (advances_compose_iff h₁ h₂ h').1.mpr hmod⟩

/-- Two sleeps of 600 ns each are no time, one of 1200 ns is a tick. -/
theorem short_advances_lost :
    ((new.advanceTime .listed 600).bind fun k => k.advanceTime .listed 600).map SimulatedKernel.timerTicks = some 0 ∧
      (new.advanceTime .listed (600 + 600)).map SimulatedKernel.timerTicks = some 1 := by
  decide +kernel

end PandaGen.Kernel.SimulatedKernel
