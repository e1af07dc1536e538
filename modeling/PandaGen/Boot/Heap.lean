import PandaGen.Boot.FrameAllocator

/-!
# The heap of the bare-metal kernel

`BumpHeap` and `init_heap` of `kernel_bootstrap/src/main.rs`. The same region is given to the global allocator of Rust
and to the heap object that `init_heap` returns. Deallocation does nothing.
-/

namespace PandaGen.Boot

open Lib

inductive AllocationLifetime where
  | kernelStatic
  | kernelTransient
  deriving DecidableEq

structure AllocationRecord where
  start : Nat
  size : Nat
  lifetime : AllocationLifetime

structure BumpHeap where
  start : Nat
  stop : Nat
  next : Nat
  allocations : Nat
  deriving DecidableEq

namespace BumpHeap

def new (start size : Nat) : BumpHeap := ⟨start, saturatingAdd start size, start, 0⟩

/-- The common body of both interfaces of a heap. It panics where rounding up overflows. -/
def bump (heap : BumpHeap) (size align : Nat) : Option (Option Nat × BumpHeap) :=
  (alignUp heap.next align).map fun aligned =>
    let stop := saturatingAdd aligned size
    if stop > heap.stop then (none, heap)
    else (some aligned, { heap with next := stop, allocations := heap.allocations + 1 })

/-- `KernelAllocator::alloc` -/
def alloc (heap : BumpHeap) (size align : Nat) (lifetime : AllocationLifetime) :
    Option (Option AllocationRecord × BumpHeap) :=
  (heap.bump size align).map fun (start, heap) => (start.map fun start => ⟨start, size, lifetime⟩, heap)

/-- `GlobalAlloc::alloc`, with `none` for a null pointer. -/
def globalAlloc (heap : BumpHeap) (size align : Nat) : Option (Option Nat × BumpHeap) := heap.bump size align

end BumpHeap

structure Heaps where
  global : BumpHeap
  object : BumpHeap
  deriving DecidableEq

def heapPages : Nat := 2048

/-- The address of the heap region is that of its frames in the direct map. It panics where that overflows. -/
def initHeap (fuel : Nat) (allocator : FrameAllocator) (hhdmOffset : Nat) : Option (Option Heaps × FrameAllocator) :=
  match allocator.allocateContiguous fuel heapPages with
  | none => none
  | some (none, allocator) => some (none, allocator)
  | some (some physBase, allocator) =>
    (checkedAdd hhdmOffset physBase).map fun virtBase =>
      let size := heapPages * pageSize
      (some ⟨⟨virtBase, saturatingAdd virtBase size, virtBase, 0⟩, .new virtBase size⟩, allocator)

/-! ## Calls -/

inductive HeapInterface where
  | global
  | object (lifetime : AllocationLifetime)
  deriving DecidableEq

structure HeapCall where
  interface : HeapInterface
  size : Nat
  align : Nat

namespace Heaps

def machine : Machine Heaps HeapCall (Option Nat) where
  step heaps call :=
    match call.interface with
    | .global => (heaps.global.globalAlloc call.size call.align).map fun (start, heap) =>
      (start, { heaps with global := heap })
    | .object lifetime => (heaps.object.alloc call.size call.align lifetime).map fun (record, heap) =>
      (record.map AllocationRecord.start, { heaps with object := heap })

/-- A power of two as the alignment, small enough that rounding up inside the region does not overflow. -/
def Allowed (heaps : Heaps) (call : HeapCall) : Prop :=
  (∃ k, call.align = 2 ^ k) ∧ heaps.global.stop + call.align < 2 ^ 64 ∧ heaps.object.stop + call.align < 2 ^ 64

end Heaps

structure HeapBlock where
  interface : HeapInterface
  start : Nat
  size : Nat
  align : Nat

def HeapBlock.span (b : HeapBlock) : Set Nat := Set.Ico b.start (b.start + b.size)

def heapBlocks (tr : List (HeapCall × Option Nat)) : List HeapBlock :=
  tr.filterMap fun (call, start) => start.map fun start => ⟨call.interface, start, call.size, call.align⟩

def HeapBlock.OfGlobal (b : HeapBlock) : Prop := b.interface = .global

instance (b : HeapBlock) : Decidable b.OfGlobal := inferInstanceAs (Decidable (_ = _))

end PandaGen.Boot
