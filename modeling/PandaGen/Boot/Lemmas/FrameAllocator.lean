import PandaGen.Boot.FrameAllocator
import PandaGen.Lib.Walk
import Mathlib.Data.List.Nodup
import Mathlib.Data.List.Perm.Subperm
import Mathlib.Tactic.Common

/-!
# Frames that were handed out

The cursor of the allocator passes over every frame at most once, so that a frame comes back only from the stack of
reclaimed frames.
-/

namespace PandaGen.Boot

open Lib Option List Nat Range

theorem pageSize_pos : 0 < pageSize := by decide

/-! ## Ranges of whole pages -/

theorem alignUp_of_dvd {value start} (hdvd : pageSize ∣ value) (h : alignUp value pageSize = some start) :
    start = value := by
  rw [alignUp, if_neg (by decide)] at h
  obtain ⟨n, hn, rfl⟩ := map_eq_some_iff.mp h
  obtain ⟨-, rfl⟩ := checkedAdd_eq_some.mp hn
  simp only [pageSize] at hdvd ⊢
  omega

theorem alignDown_saturatingAdd {base length} (hbase : pageSize ∣ base) (hlength : pageSize ∣ length) :
    alignDown (saturatingAdd base length) pageSize = min (base + length) (2 ^ 64 - pageSize) := by
  rw [alignDown, if_neg (by decide), saturatingAdd]
  simp only [pageSize] at hbase hlength ⊢
  omega

theorem Range.push_cases {ranges ranges' base length} (hbase : pageSize ∣ base) (hlength : pageSize ∣ length)
    (h : push ranges base length = some ranges') :
    (ranges' = ranges ∧ (32 ≤ ranges.length ∨ min (base + length) (2 ^ 64 - pageSize) ≤ base)) ∨
      ∃ r, ranges' = ranges ++ [r] ∧ r.start = base ∧ r.stop = min (base + length) (2 ^ 64 - pageSize) := by
  unfold push at h
  split at h
  · cases h
  · rename_i start hstart
    obtain rfl := alignUp_of_dvd hbase hstart
    split at h
    · cases h
      exact .inr ⟨_, rfl, rfl, alignDown_saturatingAdd hbase hlength⟩
    · rename_i hfull
      cases h
      rw [alignDown_saturatingAdd hbase hlength] at hfull
      exact .inl ⟨rfl, by omega⟩

namespace FrameAllocator

variable {a a' : FrameAllocator} {reserved : List Range} {bytes limit fuel start frame pages : Nat}

/-! ## The search for a block -/

theorem firstReservedOverlap_some {stop r} (h : firstReservedOverlap reserved start stop = some r) :
    r ∈ reserved ∧ r.Overlaps start stop :=
  ⟨mem_of_find?_eq_some h, by simpa using find?_some h⟩

theorem skipReserved_isSome (h : (reserved.filter fun r => start < r.stop).length < fuel) :
    (skipReserved reserved bytes limit fuel start).isSome = true := by
  induction fuel generalizing start with
  | zero => cases h
  | succ fuel ih =>
    simp only [skipReserved]
    split
    · rfl
    · split
      · rename_i r hr
        obtain ⟨hmem, hlt, -⟩ := firstReservedOverlap_some hr
        have hfewer := length_filter_lt (l := reserved) (p := fun r' => r.stop < r'.stop)
          (q := fun r' => start < r'.stop) (fun r' h => by simp only [decide_eq_true_eq] at h ⊢; omega) hmem
          (by simpa using hlt) (by simp)
        exact ih (by omega)
      · rfl

theorem skipReserved_some {first} (h : skipReserved reserved bytes limit fuel first = some (some start)) :
    first ≤ start ∧ (pageSize ∣ first → pageSize ∣ start) ∧ saturatingAdd start bytes ≤ limit ∧
      ∀ r ∈ reserved, ¬ r.Overlaps start (saturatingAdd start bytes) := by
  induction fuel generalizing first with
  | zero => cases h
  | succ fuel ih =>
    simp only [skipReserved] at h
    split at h
    · cases h
    · rename_i hlimit
      split at h
      · rename_i r hr
        obtain ⟨hle, hdvd, hrest⟩ := ih h
        have := (firstReservedOverlap_some hr).2.1
        exact ⟨by omega, fun _ => hdvd r.stop_dvd, hrest⟩
      · rename_i hnone
        cases h
        exact ⟨le_refl _, id, not_lt.mp hlimit, by simpa [firstReservedOverlap] using hnone⟩

theorem skipReserved_ne_none {few place first} (hfew : few ≤ bytes) (hlimit : saturatingAdd place bytes ≤ limit)
    (hfree : ∀ r ∈ reserved, ¬ r.Overlaps place (saturatingAdd place bytes)) (hfirst : first ≤ place) :
    skipReserved reserved few limit fuel first ≠ some none := by
  induction fuel generalizing first with
  | zero => nofun
  | succ fuel ih =>
    have hle : saturatingAdd first few ≤ saturatingAdd place bytes := by
      unfold saturatingAdd
      omega
    simp only [skipReserved, if_neg (not_lt.mpr (hle.trans hlimit))]
    split
    · rename_i r hr
      obtain ⟨hmem, -, hstart⟩ := firstReservedOverlap_some hr
      -- a range that ends behind the place would reach into it
      exact ih (not_lt.mp fun hstop => hfree r hmem ⟨hstop, lt_of_lt_of_le hstart hle⟩)
    · nofun

theorem searchRanges_isSome (h : reserved.length < fuel) (ranges current next) :
    (searchRanges reserved bytes fuel ranges current next).isSome = true := by
  induction ranges generalizing current next with
  | nil => rfl
  | cons range ranges ih =>
    have hskip : ∀ first, (skipReserved reserved bytes range.stop fuel first).isSome = true :=
      fun first => skipReserved_isSome (lt_of_le_of_lt (length_filter_le _ _) h)
    unfold searchRanges
    split
    · rename_i hnone
      have := hskip (if next < range.start then range.start else next)
      rw [hnone] at this
      cases this
    · rfl
    · exact ih _ _

structure Found (ranges reserved : List Range) (bytes current next start current' next' : Nat) : Prop where
  dvd : pageSize ∣ start
  range : ∃ r, ranges[current']? = some r ∧ r.start ≤ start ∧ saturatingAdd start bytes ≤ r.stop
  free : ∀ r ∈ reserved, ¬ r.Overlaps start (saturatingAdd start bytes)
  current_le : current ≤ current'
  next_le : current' = current → next ≤ start
  next_eq : next' = saturatingAdd start bytes

theorem searchRanges_cases {ranges current next result current' next'}
    (h : searchRanges reserved bytes fuel (ranges.drop current) current next = some (result, current', next')) :
    (result = none → ranges.length ≤ current' ∧ (pageSize ∣ next → pageSize ∣ next')) ∧
      ∀ start, result = some start → pageSize ∣ next →
        Found ranges reserved bytes current next start current' next' := by
  generalize hrest : ranges.drop current = rest at h
  induction rest generalizing current next with
  | nil =>
    cases h
    exact ⟨fun _ => ⟨drop_eq_nil_iff.mp hrest, id⟩, nofun⟩
  | cons range rest ih =>
    obtain ⟨hrange, htail⟩ := walk_cons hrest
    unfold searchRanges at h
    split at h
    · cases h
    · rename_i start hskip
      cases h
      refine ⟨nofun, ?_⟩
      rintro _ ⟨⟩ hnext
      have hfirst : pageSize ∣ (if next < range.start then range.start else next) := by
        split
        · exact range.start_dvd
        · exact hnext
      obtain ⟨hle, hdvd, hstop, hfree⟩ := skipReserved_some hskip
      have hfrom : range.start ≤ start ∧ next ≤ start := by
        split at hle <;> omega
      exact ⟨hdvd hfirst, ⟨range, hrange, hfrom.1, hstop⟩, hfree, le_refl _, fun _ => hfrom.2, rfl⟩
    · have hnext' : pageSize ∣ next → pageSize ∣ (rest.head?.map start).getD next := by
        cases rest with
        | nil => exact id
        | cons r _ => exact fun _ => r.start_dvd
      obtain ⟨hnone, hsome⟩ := ih htail h
      refine ⟨fun hresult => ⟨(hnone hresult).1, fun hnext => (hnone hresult).2 (hnext' hnext)⟩, ?_⟩
      intro start hresult hnext
      have hfound := hsome start hresult (hnext' hnext)
      exact ⟨hfound.dvd, hfound.range, hfound.free, le_of_succ_le hfound.current_le,
        fun heq => absurd hfound.current_le (by omega), hfound.next_eq⟩

theorem searchRanges_ne_none {few ranges current next current' next'} (hfew : few ≤ bytes)
    (h : searchRanges reserved bytes fuel ranges current next = some (some start, current', next')) (cursor) :
    searchRanges reserved few fuel ranges current next ≠ some (none, cursor) := by
  induction ranges generalizing current next with
  | nil => cases h
  | cons range ranges ih =>
    intro hnone
    unfold searchRanges at h hnone
    split at hnone
    · cases hnone
    · cases hnone
    · rename_i hskip
      split at h
      · cases h
      · rename_i hfound
        obtain ⟨hle, -, hstop, hfree⟩ := skipReserved_some hfound
        exact skipReserved_ne_none hfew hstop hfree hle hskip
      · exact ih h hnone

/-! ## Blocks -/

structure Block (a : FrameAllocator) (i start pages : Nat) : Prop where
  dvd : pageSize ∣ start
  range : ∃ r, a.ranges[i]? = some r ∧ r.start ≤ start ∧ start + pages * pageSize ≤ r.stop
  free : ∀ r ∈ a.reserved, ¬ r.Overlaps start (start + pages * pageSize)

theorem Block.atFrame {i} (h : a.Block i start pages) {k} (hk : k < pages) : a.Block i (start + k * pageSize) 1 := by
  obtain ⟨r, hr, hstart, hstop⟩ := h.range
  have hle : (k + 1) * pageSize ≤ pages * pageSize := Nat.mul_le_mul_right _ hk
  rw [Nat.add_mul] at hle
  refine ⟨Nat.dvd_add h.dvd (Nat.dvd_mul_left _ _), ⟨r, hr, by omega, by omega⟩, fun r' hr' hoverlap => ?_⟩
  obtain ⟨hlow, hhigh⟩ := hoverlap
  exact h.free r' hr' ⟨by omega, by omega⟩

def Apart (a : FrameAllocator) : Prop :=
  a.ranges.Pairwise fun r r' => r.stop ≤ r'.start ∨ r'.stop ≤ r.start

theorem Apart.index_eq (h : a.Apart) {i j} (hi : a.Block i frame 1) (hj : a.Block j frame 1) : i = j := by
  obtain ⟨r, hr, hstart, hstop⟩ := hi.range
  obtain ⟨r', hr', hstart', hstop'⟩ := hj.range
  obtain ⟨hilt, rfl⟩ := List.getElem?_eq_some_iff.mp hr
  obtain ⟨hjlt, rfl⟩ := List.getElem?_eq_some_iff.mp hr'
  have hpos := pageSize_pos
  rcases lt_trichotomy i j with hlt | heq | hlt
  · have := List.pairwise_iff_getElem.mp h i j hilt hjlt hlt
    omega
  · exact heq
  · have := List.pairwise_iff_getElem.mp h j i hjlt hilt hlt
    omega

def Issued (a : FrameAllocator) (frame : Nat) : Prop :=
  ∃ i, a.Block i frame 1 ∧ (i < a.current ∨ i = a.current ∧ frame + pageSize ≤ a.next)

structure Advances (a a' : FrameAllocator) : Prop where
  ranges : a'.ranges = a.ranges
  reserved : a'.reserved = a.reserved
  reclaimed : a'.reclaimed = a.reclaimed
  next_dvd : pageSize ∣ a'.next
  forward : ∀ i frame, a.Block i frame 1 → i < a.current ∨ i = a.current ∧ frame + pageSize ≤ a.next →
    i < a'.current ∨ i = a'.current ∧ frame + pageSize ≤ a'.next

theorem Block.congr {i} (h : a.Block i start pages) (hranges : a'.ranges = a.ranges)
    (hreserved : a'.reserved = a.reserved) : a'.Block i start pages :=
  ⟨h.dvd, hranges ▸ h.range, hreserved ▸ h.free⟩

theorem Issued.advances (h : a.Issued frame) (hadv : a.Advances a') : a'.Issued frame := by
  obtain ⟨i, hblock, hpassed⟩ := h
  exact ⟨i, hblock.congr hadv.ranges hadv.reserved, hadv.forward i frame hblock hpassed⟩

theorem allocateContiguous_isSome (h : a.reserved.length < fuel) (pages) :
    (a.allocateContiguous fuel pages).isSome = true := by
  unfold allocateContiguous
  split
  · rfl
  · rw [isSome_map]
    exact searchRanges_isSome h _ _ _

theorem allocateContiguous_cases {result} (hnext : pageSize ∣ a.next)
    (h : a.allocateContiguous fuel pages = some (result, a')) :
    a.Advances a' ∧ ∀ start, result = some start → 0 < pages ∧ a.Block a'.current start pages ∧
      a.current ≤ a'.current ∧ (a'.current = a.current → a.next ≤ start) ∧ a'.next = start + pages * pageSize := by
  unfold allocateContiguous at h
  split at h
  · cases h
    exact ⟨⟨rfl, rfl, rfl, hnext, fun _ _ _ h => h⟩, nofun⟩
  · rename_i hpages
    obtain ⟨⟨found, current, next⟩, hsearch, ⟨⟩⟩ := map_eq_some_iff.mp h
    cases result with
    | none =>
      obtain ⟨hlength, hdvd⟩ := (searchRanges_cases hsearch).1 rfl
      refine ⟨⟨rfl, rfl, rfl, hdvd hnext, fun i frame hblock _ => .inl ?_⟩, nofun⟩
      obtain ⟨r, hr, -⟩ := hblock.range
      exact Nat.lt_of_lt_of_le (List.getElem?_eq_some_iff.mp hr).1 hlength
    | some start =>
      have hfound := (searchRanges_cases hsearch).2 start rfl hnext
      obtain ⟨r, hr, hstart, hstop⟩ := hfound.range
      -- An end inside a range is below the largest address, so neither the product nor the sum was cut off.
      have hbytes : saturatingAdd start (saturatingMul pages pageSize) = start + pages * pageSize := by
        have := r.stop_lt
        have := r.stop_dvd
        simp only [saturatingAdd, saturatingMul, pageSize] at hstop this ⊢
        omega
      rw [hbytes] at hstop
      have hblock : a.Block current start pages := ⟨hfound.dvd, ⟨r, hr, hstart, hstop⟩, hbytes ▸ hfound.free⟩
      have hnext' : next = start + pages * pageSize := hfound.next_eq.trans hbytes
      refine ⟨⟨rfl, rfl, rfl, ?_, ?_⟩, ?_⟩
      · rw [hnext']
        exact Nat.dvd_add hfound.dvd (Nat.dvd_mul_left _ _)
      · intro i frame _ hpassed
        have := hfound.current_le
        have := hfound.next_le
        dsimp only
        omega
      · rintro _ ⟨⟩
        exact ⟨Nat.pos_of_ne_zero hpages, hblock, hfound.current_le, hfound.next_le, hnext'⟩

end FrameAllocator

/-! ## Sessions -/

theorem mem_framesOf {start pages frame} :
    frame ∈ framesOf start pages ↔ ∃ k < pages, start + k * pageSize = frame := by
  simp [framesOf]

theorem nodup_framesOf (start pages) : (framesOf start pages).Nodup := by
  refine nodup_range.map fun i j h => ?_
  have : i * pageSize = j * pageSize := Nat.add_left_cancel h
  exact Nat.eq_of_mul_eq_mul_right pageSize_pos this

namespace FrameSession

open FrameAllocator
open scoped List

structure Sound (a₀ : FrameAllocator) (s : FrameSession) : Prop where
  ranges : s.allocator.ranges = a₀.ranges
  reserved : s.allocator.reserved = a₀.reserved
  next_dvd : pageSize ∣ s.allocator.next
  issued : ∀ frame ∈ s.held ++ s.allocator.reclaimed, s.allocator.Issued frame
  nodup : (s.held ++ s.allocator.reclaimed).Nodup

variable {a₀ : FrameAllocator} {s : FrameSession} {a' : FrameAllocator} {fuel pages start : Nat}

section

variable (h : s.Sound a₀) (hapart : a₀.Apart)
include h hapart

theorem Sound.apart : s.allocator.Apart := by
  unfold Apart
  rw [h.ranges]
  exact hapart

theorem Sound.fresh (hblock : s.allocator.Block a'.current start pages)
    (hcurrent : s.allocator.current ≤ a'.current)
    (hnext : a'.current = s.allocator.current → s.allocator.next ≤ start) :
    ∀ frame ∈ framesOf start pages, frame ∉ s.held ++ s.allocator.reclaimed := by
  intro frame hframe hmem
  obtain ⟨k, hk, rfl⟩ := mem_framesOf.mp hframe
  obtain ⟨i, hissued, hpassed⟩ := h.issued _ hmem
  have hi : i = a'.current := (h.apart hapart).index_eq hissued (hblock.atFrame hk)
  have hpos := pageSize_pos
  omega

theorem Sound.allocateContiguous {result} (hstep : s.allocator.allocateContiguous fuel pages = some (result, a')) :
    Sound a₀ ⟨a', s.held ++ (result.map fun start => framesOf start pages).getD []⟩ ∧ ∀ start, result = some start →
        (∃ i, s.allocator.Block i start pages) ∧ ∀ frame ∈ framesOf start pages, frame ∉ s.held := by
  obtain ⟨hadv, hresult⟩ := allocateContiguous_cases h.next_dvd hstep
  have hold : ∀ frame ∈ s.held ++ a'.reclaimed, a'.Issued frame := by
    rw [hadv.reclaimed]
    exact fun frame hframe => (h.issued frame hframe).advances hadv
  cases result with
  | none =>
    refine ⟨⟨hadv.ranges.trans h.ranges, hadv.reserved.trans h.reserved, hadv.next_dvd, ?_, ?_⟩, nofun⟩
    · simpa using hold
    · simpa [hadv.reclaimed] using h.nodup
  | some start =>
    obtain ⟨-, hblock, hcurrent, hnext, hend⟩ := hresult start rfl
    have hfresh := h.fresh hapart hblock hcurrent hnext
    refine ⟨⟨hadv.ranges.trans h.ranges, hadv.reserved.trans h.reserved, hadv.next_dvd, ?_, ?_⟩, ?_⟩
    · intro frame hframe
      simp only [map_some, getD_some, mem_append] at hframe
      rcases hframe with (hframe | hframe) | hframe
      · exact hold frame (mem_append_left _ hframe)
      · obtain ⟨k, hk, rfl⟩ := mem_framesOf.mp hframe
        refine ⟨a'.current, (hblock.atFrame hk).congr hadv.ranges hadv.reserved, .inr ⟨rfl, ?_⟩⟩
        have : (k + 1) * pageSize ≤ pages * pageSize := Nat.mul_le_mul_right _ hk
        rw [Nat.add_mul] at this
        dsimp only
        omega
      · exact hold frame (mem_append_right _ hframe)
    · simp only [map_some, getD_some, hadv.reclaimed]
      rw [(perm_append_comm.append_right _).nodup_iff, append_assoc, nodup_append]
      exact ⟨nodup_framesOf _ _, h.nodup, fun f hf g hg heq => hfresh f hf (heq ▸ hg)⟩
    · rintro _ ⟨⟩
      exact ⟨⟨_, hblock⟩, fun frame hframe hheld => hfresh frame hframe (mem_append_left _ hheld)⟩

omit h hapart in
theorem Sound.shuffle (h : s.Sound a₀) {held reclaimed}
    (hsub : (held ++ reclaimed).Subperm (s.held ++ s.allocator.reclaimed)) :
    Sound a₀ ⟨{ s.allocator with reclaimed := reclaimed }, held⟩ := by
  refine ⟨h.ranges, h.reserved, h.next_dvd, fun frame hframe => ?_, ?_⟩
  · obtain ⟨i, hblock, hpassed⟩ := h.issued frame (hsub.subset hframe)
    exact ⟨i, hblock.congr rfl rfl, hpassed⟩
  · obtain ⟨l, hperm, hl⟩ := hsub
    exact hperm.nodup_iff.mp (h.nodup.sublist hl)

omit h hapart in
theorem Sound.freeFrame (h : s.Sound a₀) {frame} (hframe : frame ∈ s.held) :
    Sound a₀ ⟨s.allocator.freeFrame frame, s.held.erase frame⟩ := by
  unfold FrameAllocator.freeFrame
  split
  · exact h.shuffle ((subperm_append_right _).mpr (erase_subperm frame s.held))
  · refine h.shuffle (Perm.subperm ?_)
    calc s.held.erase frame ++ (s.allocator.reclaimed ++ [frame])
        ~ frame :: (s.held.erase frame ++ s.allocator.reclaimed) := by
          rw [← append_assoc]
          exact perm_append_singleton _ _
      _ ~ s.held ++ s.allocator.reclaimed := ((perm_cons_erase hframe).append_right _).symm

theorem Sound.step {call result s'}
    (hstep : (machine fuel).step s call = some (result, s')) (hallowed : s.Allowed call) :
    s'.Sound a₀ ∧ ∀ start, result = some start →
      (∃ i, s.allocator.Block i start call.pages) ∧ ∀ frame ∈ framesOf start call.pages, frame ∉ s.held := by
  obtain ⟨⟨_, a'⟩, hcall, ⟨⟩⟩ := map_eq_some_iff.mp hstep
  cases call with
  | allocateContiguous pages => exact h.allocateContiguous hapart hcall
  | freeFrame frame =>
    cases hcall
    exact ⟨by simpa using h.freeFrame hallowed, nofun⟩
  | allocateFrame =>
    simp only [allocateFrame] at hcall
    split at hcall
    · rename_i frame hlast
      cases hcall
      have hmem := mem_of_getLast? hlast
      refine ⟨h.shuffle (Perm.subperm ?_), ?_⟩
      · have hsplit : s.allocator.reclaimed.dropLast ++ [frame] = s.allocator.reclaimed :=
          dropLast_append_getLast? frame hlast
        calc s.held ++ framesOf frame 1 ++ s.allocator.reclaimed.dropLast
            ~ s.held ++ (s.allocator.reclaimed.dropLast ++ [frame]) := by
              rw [append_assoc]
              exact perm_append_comm.append_left _
          _ = s.held ++ s.allocator.reclaimed := by rw [hsplit]
      · rintro _ ⟨⟩
        obtain ⟨i, hblock, -⟩ := h.issued frame (mem_append_right _ hmem)
        refine ⟨⟨i, hblock⟩, fun frame' hframe hheld => ?_⟩
        obtain ⟨k, hk, rfl⟩ := mem_framesOf.mp hframe
        obtain rfl : k = 0 := Nat.lt_one_iff.mp hk
        exact (nodup_append.mp h.nodup).2.2 frame hheld frame hmem rfl
    · exact h.allocateContiguous hapart hcall

end

theorem step_isSome (h : s.allocator.reserved.length < fuel) (call) : ((machine fuel).step s call).isSome = true := by
  simp only [machine, isSome_map]
  cases call with
  | allocateContiguous pages => exact allocateContiguous_isSome h pages
  | freeFrame frame => rfl
  | allocateFrame =>
    simp only [allocateFrame]
    split
    · rfl
    · exact allocateContiguous_isSome h 1

end FrameSession

/-! ## The memory map -/

namespace FrameAllocator

structure Reflects (a : FrameAllocator) (map : List MemoryMapEntry) : Prop where
  apart : a.Apart
  usable : ∀ r ∈ a.ranges, ∃ e ∈ map, e.Usable ∧ e.base = r.start ∧ r.stop ≤ e.base + e.length
  reserved : ∀ e ∈ map, e.Reserved → ∀ addr, e.base ≤ addr → addr < e.base + e.length → addr < 2 ^ 64 - pageSize →
    ∃ r ∈ a.reserved, r.start ≤ addr ∧ addr < r.stop
  reserved_length : a.reserved.length ≤ (map.filter fun e => e.Reserved).length
  reclaimed : a.reclaimed = []

variable {a a' : FrameAllocator} {map : List MemoryMapEntry} {e : MemoryMapEntry}

theorem reflects_new : new.Reflects [] :=
  ⟨.nil, by simp [new], by simp, by simp [new], rfl⟩

theorem Reflects.usable_append (h : a.Reflects map) :
    ∀ r ∈ a.ranges, ∃ e' ∈ map ++ [e], e'.Usable ∧ e'.base = r.start ∧ r.stop ≤ e'.base + e'.length := by
  intro r hr
  obtain ⟨e', he', hrest⟩ := h.usable r hr
  exact ⟨e', mem_append_left _ he', hrest⟩

theorem Reflects.other (h : a.Reflects map) (hreserved : ¬ e.Reserved) : a.Reflects (map ++ [e]) := by
  refine ⟨h.apart, h.usable_append, fun e' he' hres => ?_, ?_, h.reclaimed⟩
  · rcases mem_append.mp he' with he' | he'
    · exact h.reserved e' he' hres
    · exact absurd (mem_singleton.mp he' ▸ hres) hreserved
  · simpa [hreserved] using h.reserved_length

theorem Reflects.addRange (h : a.Reflects map) (he : e.Usable) (hbase : pageSize ∣ e.base)
    (hlength : pageSize ∣ e.length) (hapart : ∀ e' ∈ map, e'.Usable →
      Disjoint (Set.Ico e'.base (e'.base + e'.length)) (Set.Ico e.base (e.base + e.length)))
    (hadd : a.addRange e.base e.length = some a') : a'.Reflects (map ++ [e]) := by
  have hreserved : ¬ e.Reserved := by
    unfold MemoryMapEntry.Reserved
    rw [he]
    simp
  have hold := h.other hreserved
  obtain ⟨ranges, hpush, rfl⟩ := map_eq_some_iff.mp hadd
  rcases push_cases hbase hlength hpush with ⟨rfl, -⟩ | ⟨r, rfl, hstart, hstop⟩
  · exact { hold with }
  · refine ⟨?_, ?_, hold.reserved, hold.reserved_length, hold.reclaimed⟩
    · refine pairwise_append.mpr ⟨h.apart, pairwise_singleton _ _, fun r' hr' r1 hr1 => ?_⟩
      obtain rfl := mem_singleton.mp hr1
      obtain ⟨e', he', husable, hbase', hstop'⟩ := h.usable r' hr'
      have hdisjoint := Set.Ico_disjoint_Ico.mp (hapart e' he' husable)
      have := r'.start_lt
      have := r1.start_lt
      omega
    · intro r' hr'
      rcases mem_append.mp hr' with hr' | hr'
      · exact hold.usable r' hr'
      · obtain rfl := mem_singleton.mp hr'
        exact ⟨e, by simp, he, hstart.symm, by omega⟩

theorem Reflects.addReservedRange (h : a.Reflects map) (he : e.Reserved) (hbase : pageSize ∣ e.base)
    (hlength : pageSize ∣ e.length) (hroom : ((map ++ [e]).filter fun e => e.Reserved).length ≤ 32)
    (hadd : a.addReservedRange e.base e.length = some a') : a'.Reflects (map ++ [e]) := by
  obtain ⟨reserved, hpush, rfl⟩ := map_eq_some_iff.mp hadd
  have hcount : ((map ++ [e]).filter fun e => e.Reserved).length = (map.filter fun e => e.Reserved).length + 1 := by
    simp [he]
  have hlen := h.reserved_length
  rcases push_cases hbase hlength hpush with ⟨rfl, hfull | hempty⟩ | ⟨r, rfl, hstart, hstop⟩
  · omega
  · refine ⟨h.apart, h.usable_append, fun e' he' hres addr hlow hhigh hbound => ?_, by dsimp only; omega, h.reclaimed⟩
    rcases mem_append.mp he' with he' | he'
    · exact h.reserved e' he' hres addr hlow hhigh hbound
    · obtain rfl := mem_singleton.mp he'
      omega
  · refine ⟨h.apart, h.usable_append, fun e' he' hres addr hlow hhigh hbound => ?_, ?_, h.reclaimed⟩
    rotate_left
    · rw [hcount, length_append]
      exact succ_le_succ hlen
    rcases mem_append.mp he' with he' | he'
    · obtain ⟨r', hr', hin⟩ := h.reserved e' he' hres addr hlow hhigh hbound
      exact ⟨r', mem_append_left _ hr', hin⟩
    · obtain rfl := mem_singleton.mp he'
      exact ⟨r, by simp, by omega, by omega⟩

theorem Reflects.addEntry (h : a.Reflects map) (hmap : WellFormedMap (map ++ [e]))
    (hadd : a.addEntry e = some a') : a'.Reflects (map ++ [e]) := by
  have he : e ∈ map ++ [e] := by simp
  have hreserve : e.Reserved → a.addReservedRange e.base e.length = some a' → a'.Reflects (map ++ [e]) := by
    intro hreserved hadd
    obtain ⟨hbase, hlength⟩ := hmap.aligned e he (.inr hreserved)
    exact h.addReservedRange hreserved hbase hlength hmap.reserved_length hadd
  unfold FrameAllocator.addEntry at hadd
  split at hadd
  · rename_i htype
    obtain ⟨hbase, hlength⟩ := hmap.aligned e he (.inl htype)
    refine h.addRange htype hbase hlength (fun e' he' husable => ?_) hadd
    exact (pairwise_append.mp hmap.apart).2.2 e' he' e (by simp) husable htype
  · rename_i htype
    exact hreserve (.inl htype) hadd
  · rename_i htype
    exact hreserve (.inr htype) hadd
  · rename_i htype
    cases hadd
    exact h.other (by simp [MemoryMapEntry.Reserved, htype])

theorem WellFormedMap.of_append {map rest} (h : WellFormedMap (map ++ rest)) : WellFormedMap map := by
  refine ⟨fun e he => h.aligned e (mem_append_left _ he), (pairwise_append.mp h.apart).1, ?_⟩
  have := h.reserved_length
  rw [filter_append, length_append] at this
  omega

theorem Reflects.foldlM {rest} (h : a.Reflects map) (hmap : WellFormedMap (map ++ rest))
    (hfold : rest.foldlM FrameAllocator.addEntry a = some a') : a'.Reflects (map ++ rest) := by
  induction rest generalizing a map with
  | nil =>
    cases hfold
    rwa [append_nil]
  | cons e rest ih =>
    obtain ⟨a1, hadd, hrest⟩ := bind_eq_some_iff.mp hfold
    have hsplit : map ++ e :: rest = map ++ [e] ++ rest := by simp
    rw [hsplit] at hmap ⊢
    exact ih (h.addEntry (WellFormedMap.of_append hmap) hadd) hmap hrest

theorem ofMap_reflects (hmap : WellFormedMap map) (h : ofMap map = some a) :
    a.Reflects map ∧ FrameSession.Sound a ⟨a, []⟩ := by
  obtain ⟨a1, hfold, rfl⟩ := map_eq_some_iff.mp h
  have h1 : a1.Reflects map := by
    exact reflects_new.foldlM hmap hfold
  refine ⟨{ h1 with }, rfl, rfl, ?_, ?_, ?_⟩
  · cases hranges : a1.ranges with
    | nil => simp [resetCursor, hranges]
    | cons r _ => simpa [resetCursor, hranges] using r.start_dvd
  · simp [resetCursor, h1.reclaimed]
  · simp [resetCursor, h1.reclaimed]

end FrameAllocator

end PandaGen.Boot
