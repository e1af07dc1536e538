import PandaGen.Boot.Lemmas.FrameAllocator

/-!
# Which requests for frames are granted
-/

namespace PandaGen.Boot

open Lib FrameAllocator FrameSession Option

/-- The inner loop of the search ends after one turn for each reserved range and one more. -/
theorem frames_handed_out_once {map : List MemoryMapEntry} (hmap : WellFormedMap map) {a : FrameAllocator}
    (hinit : ofMap map = some a) {fuel : Nat} (hfuel : (map.filter fun e => e.Reserved).length < fuel)
    {tr : List (Call × Option Nat)} {s : FrameSession}
    (hrun : (machine fuel).Run (fun s call _ => s.Allowed call) ⟨a, []⟩ tr s) :
    ∀ call, s.Allowed call → ∃ result s', (machine fuel).step s call = some (result, s') ∧
      ∀ start, result = some start →
        pageSize ∣ start ∧
        (∃ e ∈ map, e.Usable ∧ e.base ≤ start ∧ start + call.pages * pageSize ≤ e.base + e.length) ∧
        (∀ e ∈ map, e.Reserved →
          Disjoint (Set.Ico start (start + call.pages * pageSize)) (Set.Ico e.base (e.base + e.length))) ∧
        ∀ frame ∈ framesOf start call.pages, frame ∉ s.held := by
  obtain ⟨hreflects, hinitial⟩ := ofMap_reflects hmap hinit
  have hsound : s.Sound a :=
    hrun.invariantTrace (P := fun _ s => s.Sound a)
      (fun _ _ _ _ _ h hstep hallowed => (h.step hreflects.apart hstep hallowed).1) [] hinitial
  intro call hallowed
  have hlength : s.allocator.reserved.length < fuel := by
    rw [hsound.reserved]
    exact Nat.lt_of_le_of_lt hreflects.reserved_length hfuel
  obtain ⟨⟨result, s'⟩, hstep⟩ := Option.isSome_iff_exists.mp (step_isSome hlength call)
  refine ⟨result, s', hstep, ?_⟩
  rintro start rfl
  obtain ⟨⟨i, hblock⟩, hfresh⟩ := (hsound.step hreflects.apart hstep hallowed).2 start rfl
  obtain ⟨r, hr, hstart, hstop⟩ := hblock.range
  rw [hsound.ranges] at hr
  obtain ⟨e, he, husable, hbase, hlimit⟩ := hreflects.usable r (List.mem_of_getElem? hr)
  refine ⟨hblock.dvd, ⟨e, he, husable, by omega, by omega⟩, fun e' he' hreserved => ?_, hfresh⟩
  rw [Set.disjoint_left]
  rintro addr ⟨hlow, hhigh⟩ ⟨hlow', hhigh'⟩
  -- The last page of the address space is in no range, so the reserved entries are in the table up to there.
  have hbound : addr < 2 ^ 64 - pageSize := by
    have := r.stop_lt
    have := r.stop_dvd
    simp only [pageSize] at this hhigh hstop ⊢
    omega
  obtain ⟨r', hr', hin⟩ := hreflects.reserved e' he' hreserved addr hlow' hhigh' hbound
  rw [← hsound.reserved] at hr'
  exact hblock.free r' hr' ⟨by omega, by omega⟩

/-- A reserved page in the middle of four usable ones is left out, and a page that was given back comes again. -/
theorem frame_comes_again :
    ∃ a s s', ofMap [⟨0x1000, 0x4000, .usable⟩, ⟨0x2000, 0x1000, .executableAndModules⟩] = some a ∧
      (machine 2).Run (fun s call _ => s.Allowed call) ⟨a, []⟩
        [(.allocateFrame, some 0x1000), (.allocateContiguous 2, some 0x3000), (.freeFrame 0x1000, none)] s ∧
      (machine 2).step s .allocateFrame = some (some 0x1000, s') ∧ ∀ frame ∈ framesOf 0x1000 1, frame ∉ s.held := by
  have hmap : WellFormedMap [⟨0x1000, 0x4000, .usable⟩, ⟨0x2000, 0x1000, .executableAndModules⟩] := by
    refine ⟨by decide, ?_, by decide⟩
    simp [MemoryMapEntry.Usable]
  obtain ⟨a, hinit, s, hrun, s', hstep⟩ :
      ∃ a, ofMap [⟨0x1000, 0x4000, .usable⟩, ⟨0x2000, 0x1000, .executableAndModules⟩] = some a ∧
        ∃ s, (machine 2).exec (fun s call _ => decide (s.Allowed call)) ⟨a, []⟩
            [.allocateFrame, .allocateContiguous 2, .freeFrame 0x1000] =
          some ([(.allocateFrame, some 0x1000), (.allocateContiguous 2, some 0x3000), (.freeFrame 0x1000, none)], s) ∧
        ∃ s', (machine 2).step s .allocateFrame = some (some 0x1000, s') := by decide +kernel
  have hrun := Machine.exec_guarded hrun
  obtain ⟨_, _, hstep', hresult⟩ := frames_handed_out_once hmap hinit (by decide) hrun .allocateFrame trivial
  obtain ⟨rfl, rfl⟩ := Prod.mk.inj (Option.some.inj (hstep.symm.trans hstep'))
  exact ⟨a, s, s', hinit, hrun, hstep, (hresult 0x1000 rfl).2.2.2⟩

/-! ## Refused requests -/

namespace FrameAllocator

def grants (fuel : Nat) (a : FrameAllocator) : Call → Bool
  | .allocateFrame => (a.allocateFrame fuel).any (·.1.isSome)
  | .allocateContiguous pages => (a.allocateContiguous fuel pages).any (·.1.isSome)
  | .freeFrame _ => false

variable {a a' : FrameAllocator} {fuel pages : Nat}

theorem grants_one (hfuel : a.reserved.length < fuel) (h : a.grants fuel (.allocateContiguous pages) = true) :
    a.grants fuel (.allocateContiguous 1) = true := by
  simp only [grants, any_eq_true, isSome_iff_exists] at h
  obtain ⟨⟨_, a1⟩, hcall, start, rfl⟩ := h
  unfold allocateContiguous at hcall
  split at hcall
  · cases hcall
  · rename_i hpages
    obtain ⟨⟨_, current, next⟩, hsearch, ⟨⟩⟩ := map_eq_some_iff.mp hcall
    have hfew : saturatingMul 1 pageSize ≤ saturatingMul pages pageSize := by
      unfold saturatingMul pageSize
      omega
    have hsome : (searchRanges a.reserved (saturatingMul 1 pageSize) fuel (a.ranges.drop a.current) a.current
      a.next).isSome = true := searchRanges_isSome hfuel _ _ _
    obtain ⟨⟨found, cursor⟩, hone⟩ := isSome_iff_exists.mp hsome
    cases found with
    | none => exact absurd hone (searchRanges_ne_none hfew hsearch cursor)
    | some found => simp [grants, allocateContiguous, hone]

/-- A refused request for pages moves the cursor behind the last range. It costs nothing if there was nothing left. -/
theorem refusal_costs_nothing_iff (hfuel : a.reserved.length < fuel)
    (hrefused : a.allocateContiguous fuel pages = some (none, a')) :
    (∀ call, a.grants fuel call = true → a'.grants fuel call = true) ↔
      pages = 0 ∨ a.grants fuel (.allocateContiguous 1) = false := by
  unfold allocateContiguous at hrefused
  split at hrefused
  · rename_i hpages
    cases hrefused
    exact iff_of_true (fun _ h => h) (.inl hpages)
  · rename_i hpages
    obtain ⟨⟨_, current, next⟩, hsearch, ⟨⟩⟩ := Option.map_eq_some_iff.mp hrefused
    have hend : a.ranges.drop current = [] := List.drop_eq_nil_of_le ((searchRanges_cases hsearch).1 rfl).1
    have hnone : ∀ n, grants fuel { a with current := current, next := next } (.allocateContiguous n) = false := by
      intro n
      rw [grants, allocateContiguous, hend]
      split <;> rfl
    rw [or_iff_right hpages, ← Bool.not_eq_true]
    refine ⟨fun h hone => ?_, fun hone call hcall => ?_⟩
    · exact Bool.false_ne_true ((hnone 1).symm.trans (h _ hone))
    · cases call with
      | freeFrame => cases hcall
      | allocateContiguous n => exact absurd (grants_one hfuel hcall) hone
      | allocateFrame =>
        simp only [grants, allocateFrame] at hcall ⊢
        cases hlast : a.reclaimed.getLast? with
        | some => rfl
        | none =>
          rw [hlast] at hcall
          exact absurd hcall hone

/-- The two pages of the map are handed out and one comes back. A request for two is refused, one for a frame is not. -/
theorem refusal_costs_nothing_used_up : ∃ a₀ a a' : FrameAllocator, ofMap [⟨0x1000, 0x2000, .usable⟩] = some a₀ ∧
    a₀.allocateContiguous 1 2 = some (some 0x1000, a) ∧ (a.freeFrame 0x1000).allocateContiguous 1 2 = some (none, a') ∧
    a'.grants 1 .allocateFrame = true := by
  obtain ⟨a₀, a, a', hmap, htaken, hrefused, hfew, hnone, hgrants⟩ : ∃ a₀ a a' : FrameAllocator,
      ofMap [⟨0x1000, 0x2000, .usable⟩] = some a₀ ∧ a₀.allocateContiguous 1 2 = some (some 0x1000, a) ∧
      (a.freeFrame 0x1000).allocateContiguous 1 2 = some (none, a') ∧ (a.freeFrame 0x1000).reserved.length < 1 ∧
      (a.freeFrame 0x1000).grants 1 (.allocateContiguous 1) = false ∧
      (a.freeFrame 0x1000).grants 1 .allocateFrame = true := ⟨_, _, _, rfl, rfl, rfl, by decide, rfl, rfl⟩
  exact ⟨a₀, a, a', hmap, htaken, hrefused,
    (refusal_costs_nothing_iff hfew hrefused).mpr (.inr hnone) .allocateFrame hgrants⟩

/-- After a request for five pages of four, no page is left. -/
theorem refusal_uses_up_pages : ∃ a a' : FrameAllocator, ofMap [⟨0x1000, 0x4000, .usable⟩] = some a ∧
      a.allocateContiguous 1 5 = some (none, a') ∧ a.grants 1 .allocateFrame = true ∧
      a'.grants 1 .allocateFrame = false :=
  ⟨_, _, rfl, rfl, rfl, rfl⟩

end FrameAllocator

end PandaGen.Boot
