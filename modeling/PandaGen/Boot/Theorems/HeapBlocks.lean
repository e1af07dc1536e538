import PandaGen.Boot.Heap
import PandaGen.Lib.Walk
import Mathlib.Tactic.Common

/-!
# Blocks of the heap
-/

namespace PandaGen.Boot

open Lib Option Nat

namespace BumpHeap

variable {heap heap' : BumpHeap} {blocks : List HeapBlock} {size align : Nat} {start : Option Nat}

theorem alignUp_cases {value align aligned} (hpos : 0 < align) (h : alignUp value align = some aligned) :
    align ∣ aligned ∧ value ≤ aligned := by
  rw [alignUp, if_neg (Nat.pos_iff_ne_zero.mp hpos)] at h
  obtain ⟨n, hn, rfl⟩ := map_eq_some_iff.mp h
  obtain ⟨-, rfl⟩ := checkedAdd_eq_some.mp hn
  refine ⟨Nat.dvd_mul_left _ _, ?_⟩
  have hdiv := Nat.div_add_mod (value + align - 1) align
  have hmod := Nat.mod_lt (value + align - 1) hpos
  rw [Nat.mul_comm] at hdiv
  omega

theorem bump_cases (hpos : 0 < align) (hstop : heap.stop < 2 ^ 64 - 1)
    (h : heap.bump size align = some (start, heap')) : (start = none ∧ heap' = heap) ∨
      ∃ s, start = some s ∧ align ∣ s ∧ heap.next ≤ s ∧ s + size ≤ heap.stop ∧
        heap' = { heap with next := s + size, allocations := heap.allocations + 1 } := by
  obtain ⟨aligned, haligned, heq⟩ := map_eq_some_iff.mp h
  obtain ⟨hdvd, hle⟩ := alignUp_cases hpos haligned
  dsimp only at heq
  split at heq
  · cases heq
    exact .inl ⟨rfl, rfl⟩
  · rename_i hfits
    have hsum : saturatingAdd aligned size = aligned + size := by
      unfold saturatingAdd at hfits ⊢
      omega
    rw [hsum] at heq hfits
    cases heq
    exact .inr ⟨aligned, rfl, hdvd, hle, not_lt.mp hfits, rfl⟩

structure Serves (heap : BumpHeap) (blocks : List HeapBlock) : Prop where
  next_le : heap.next ≤ heap.stop
  start_le : heap.start ≤ heap.next
  inside : ∀ b ∈ blocks, b.align ∣ b.start ∧ heap.start ≤ b.start ∧ b.start + b.size ≤ heap.next
  apart : blocks.Pairwise fun b b' => Disjoint b.span b'.span

theorem Serves.bump (h : heap.Serves blocks) (hpos : 0 < align) (hstop : heap.stop < 2 ^ 64 - 1)
    (hbump : heap.bump size align = some (start, heap')) (interface) :
    heap'.Serves (blocks ++ (start.map fun start => ⟨interface, start, size, align⟩).toList) ∧
      heap'.start = heap.start ∧ heap'.stop = heap.stop := by
  rcases bump_cases hpos hstop hbump with ⟨rfl, rfl⟩ | ⟨s, rfl, hdvd, hnext, hfits, rfl⟩
  · simpa using h
  · have hstart := h.start_le
    refine ⟨⟨hfits, by dsimp only; omega, ?_, ?_⟩, rfl, rfl⟩
    · intro b hb
      rcases List.mem_append.mp hb with hb | hb
      · obtain ⟨hb1, hb2, hb3⟩ := h.inside b hb
        exact ⟨hb1, hb2, by dsimp only; omega⟩
      · obtain rfl := List.mem_singleton.mp hb
        exact ⟨hdvd, by dsimp only; omega, le_refl _⟩
    · refine List.pairwise_append.mpr ⟨h.apart, List.pairwise_singleton _ _, fun b hb b' hb' => ?_⟩
      obtain rfl := List.mem_singleton.mp hb'
      have := (h.inside b hb).2.2
      refine Set.Ico_disjoint_Ico.mpr ?_
      dsimp only
      omega

end BumpHeap

theorem heapBlocks_concat (tr call start) : heapBlocks (tr ++ [(call, start)]) =
      heapBlocks tr ++ (start.map fun start => ⟨call.interface, start, call.size, call.align⟩).toList := by
  cases start <;> simp [heapBlocks]

namespace Heaps

structure Split (base limit : Nat) (tr : List (HeapCall × Option Nat)) (heaps : Heaps) : Prop where
  global : heaps.global.Serves ((heapBlocks tr).filter fun b => b.OfGlobal)
  object : heaps.object.Serves ((heapBlocks tr).filter fun b => !b.OfGlobal)
  globalRegion : heaps.global.start = base ∧ heaps.global.stop = limit
  objectRegion : heaps.object.start = base ∧ heaps.object.stop = limit

variable {base limit : Nat} {tr : List (HeapCall × Option Nat)} {heaps heaps' : Heaps} {call : HeapCall}
  {start : Option Nat}

theorem Split.step (h : heaps.Split base limit tr) (hstep : machine.step heaps call = some (start, heaps'))
    (hallowed : heaps.Allowed call) : heaps'.Split base limit (tr ++ [(call, start)]) := by
  obtain ⟨⟨k, hk⟩, hglobal, hobject⟩ := hallowed
  have hpos : 0 < call.align := hk ▸ Nat.two_pow_pos k
  obtain ⟨interface, size, align⟩ := call
  cases interface with
  | global =>
    obtain ⟨⟨_, heap⟩, hbump, ⟨⟩⟩ := map_eq_some_iff.mp hstep
    obtain ⟨hserves, hstart, hstop⟩ := h.global.bump hpos (by dsimp only at hpos hglobal; omega) hbump .global
    refine ⟨?_, ?_, ⟨hstart.trans h.globalRegion.1, hstop.trans h.globalRegion.2⟩, h.objectRegion⟩
    · rw [heapBlocks_concat, List.filter_append]
      cases start <;> simpa [HeapBlock.OfGlobal] using hserves
    · rw [heapBlocks_concat, List.filter_append]
      cases start <;> simpa [HeapBlock.OfGlobal] using h.object
  | object lifetime =>
    obtain ⟨⟨record, heap⟩, halloc, ⟨⟩⟩ := map_eq_some_iff.mp hstep
    obtain ⟨⟨start, _⟩, hbump, ⟨⟩⟩ := map_eq_some_iff.mp halloc
    obtain ⟨hserves, hstart, hstop⟩ :=
      h.object.bump hpos (by dsimp only at hpos hobject; omega) hbump (.object lifetime)
    refine ⟨?_, ?_, h.globalRegion, ⟨hstart.trans h.objectRegion.1, hstop.trans h.objectRegion.2⟩⟩
    · rw [heapBlocks_concat, List.filter_append]
      cases start <;> simpa [HeapBlock.OfGlobal] using h.global
    · rw [heapBlocks_concat, List.filter_append]
      cases start <;> simpa [HeapBlock.OfGlobal] using hserves

theorem split_initHeap {fuel offset allocator allocator'}
    (h : initHeap fuel allocator offset = some (some heaps, allocator')) :
    ∃ base, heaps.Split base (saturatingAdd base (heapPages * pageSize)) [] := by
  unfold initHeap at h
  split at h
  · cases h
  · cases h
  · obtain ⟨base, hbase, heq⟩ := map_eq_some_iff.mp h
    have hlt : base < 2 ^ 64 := by
      obtain ⟨hlt, rfl⟩ := checkedAdd_eq_some.mp hbase
      exact hlt
    cases heq
    have hserves : BumpHeap.Serves (.new base (heapPages * pageSize)) [] := by
      refine ⟨?_, le_refl _, by simp, .nil⟩
      simp only [BumpHeap.new, saturatingAdd]
      omega
    exact ⟨base, hserves, hserves, ⟨rfl, rfl⟩, ⟨rfl, rfl⟩⟩

end Heaps

open Heaps

/-- All blocks are aligned and inside the region, and those of one heap are apart. Blocks of different heaps are apart
as long as one of the two hands out nothing but empty blocks. -/
theorem heap_blocks_apart {fuel offset : Nat} {allocator allocator' : FrameAllocator} {heaps : Heaps}
    (hinit : initHeap fuel allocator offset = some (some heaps, allocator')) {tr : List (HeapCall × Option Nat)}
    {heaps' : Heaps} (hrun : machine.Run (fun heaps call _ => heaps.Allowed call) heaps tr heaps') :
    (∀ b ∈ heapBlocks tr, b.align ∣ b.start ∧ heaps.global.start ≤ b.start ∧
      b.start + b.size ≤ heaps.global.start + heapPages * pageSize) ∧
    ((heapBlocks tr).filter fun b => b.OfGlobal).Pairwise (fun b b' => Disjoint b.span b'.span) ∧
    ((heapBlocks tr).filter fun b => !b.OfGlobal).Pairwise (fun b b' => Disjoint b.span b'.span) ∧
    ((∀ b ∈ heapBlocks tr, b.OfGlobal → b.size = 0) ∨ (∀ b ∈ heapBlocks tr, ¬ b.OfGlobal → b.size = 0) →
      (heapBlocks tr).Pairwise fun b b' => Disjoint b.span b'.span) := by
  obtain ⟨base, hsplit₀⟩ := split_initHeap hinit
  have hsplit := hrun.invariantTrace
    (fun _ _ _ _ _ h hstep hallowed => h.step hstep hallowed) [] hsplit₀
  have hlimit : saturatingAdd base (heapPages * pageSize) ≤ base + heapPages * pageSize := min_le_left _ _
  refine ⟨fun b hb => ?_, hsplit.global.apart, hsplit.object.apart, fun hempty => ?_⟩
  · rw [hsplit₀.globalRegion.1]
    by_cases hglobal : b.OfGlobal
    · obtain ⟨hdvd, hstart, hnext⟩ := hsplit.global.inside b (List.mem_filter.mpr ⟨hb, decide_eq_true hglobal⟩)
      have hle := hsplit.global.next_le
      rw [hsplit.globalRegion.1] at hstart
      rw [hsplit.globalRegion.2] at hle
      exact ⟨hdvd, hstart, by omega⟩
    · obtain ⟨hdvd, hstart, hnext⟩ := hsplit.object.inside b (List.mem_filter.mpr ⟨hb, by simpa using hglobal⟩)
      have hle := hsplit.object.next_le
      rw [hsplit.objectRegion.1] at hstart
      rw [hsplit.objectRegion.2] at hle
      exact ⟨hdvd, hstart, by omega⟩
  · refine pairwise_of_filter (p := fun b => b.OfGlobal) hsplit.global.apart hsplit.object.apart ?_
    intro b hb b' hb' hne
    have hnil : ∀ c : HeapBlock, c.size = 0 → c.span = ∅ := fun c hc => by simp [HeapBlock.span, hc]
    have hempty' : b.size = 0 ∨ b'.size = 0 := by
      by_cases hglobal : b.OfGlobal <;> by_cases hglobal' : b'.OfGlobal <;> simp_all
      · exact hempty.imp (fun h => h b hb hglobal) (fun h => h b' hb' hglobal')
      · exact hempty.symm.imp (fun h => h b hb hglobal) (fun h => h b' hb' hglobal')
    rcases hempty' with hsize | hsize
    · rw [hnil b hsize]
      exact Set.empty_disjoint _
    · rw [hnil b' hsize]
      exact Set.disjoint_empty _

def exampleMap : List MemoryMapEntry := [⟨0x1000, 0x1000000, .usable⟩]

def exampleHeaps : Heaps :=
  ⟨.new 0xffff800000001000 (heapPages * pageSize), .new 0xffff800000001000 (heapPages * pageSize)⟩

theorem exampleHeaps_init : ∃ allocator allocator', FrameAllocator.ofMap exampleMap = some allocator ∧
      initHeap 1 allocator 0xffff800000000000 = some (some exampleHeaps, allocator') := by
  simp only [exists_and_left]
  decide +kernel

theorem two_global_blocks_apart : ∃ heaps, machine.Run (fun heaps call _ => heaps.Allowed call) exampleHeaps
        [(⟨.global, 64, 16⟩, some 0xffff800000001000), (⟨.global, 64, 16⟩, some 0xffff800000001040)] heaps ∧
      (heapBlocks [(⟨.global, 64, 16⟩, some 0xffff800000001000), (⟨.global, 64, 16⟩, some 0xffff800000001040)]).Pairwise
        fun b b' => Disjoint b.span b'.span := by
  obtain ⟨_, _, -, hinit⟩ := exampleHeaps_init
  have hrun : machine.Run (fun heaps call _ => heaps.Allowed call) exampleHeaps
      [(⟨.global, 64, 16⟩, some 0xffff800000001000), (⟨.global, 64, 16⟩, some 0xffff800000001040)] _ :=
    .cons rfl ⟨⟨4, rfl⟩, by decide +kernel, by decide +kernel⟩
      (.cons rfl ⟨⟨4, rfl⟩, by decide +kernel, by decide +kernel⟩ .nil)
  exact ⟨_, hrun, (heap_blocks_apart hinit hrun).2.2.2 (.inr (by decide))⟩

/-- The first block of the global allocator and the first one of the heap object are the same memory. -/
theorem first_blocks_overlap : (∃ allocator allocator', FrameAllocator.ofMap exampleMap = some allocator ∧
      initHeap 1 allocator 0xffff800000000000 = some (some exampleHeaps, allocator')) ∧
    ∃ heaps, machine.Run (fun heaps call _ => heaps.Allowed call) exampleHeaps
        [(⟨.global, 64, 16⟩, some 0xffff800000001000), (⟨.object .kernelTransient, 64, 16⟩, some 0xffff800000001000)]
        heaps ∧
      ¬ (heapBlocks [(⟨.global, 64, 16⟩, some 0xffff800000001000),
          (⟨.object .kernelTransient, 64, 16⟩, some 0xffff800000001000)]).Pairwise
        fun b b' => Disjoint b.span b'.span := by
  have hrun : machine.Run (fun heaps call _ => heaps.Allowed call) exampleHeaps
      [(⟨.global, 64, 16⟩, some 0xffff800000001000), (⟨.object .kernelTransient, 64, 16⟩, some 0xffff800000001000)] _ :=
    .cons rfl ⟨⟨4, rfl⟩, by decide +kernel, by decide +kernel⟩
      (.cons rfl ⟨⟨4, rfl⟩, by decide +kernel, by decide +kernel⟩ .nil)
  refine ⟨exampleHeaps_init, _, hrun, ?_⟩
  simp [heapBlocks, HeapBlock.span]

end PandaGen.Boot
