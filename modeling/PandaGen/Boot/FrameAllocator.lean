import PandaGen.Core.Word
import PandaGen.Lib.Machine
import Mathlib.Order.CompletePartialOrder
import Mathlib.Order.Interval.Set.Disjoint

/-!
# The frame allocator of the bare-metal kernel

`FrameAllocator` of `kernel_bootstrap/src/main.rs`, and how `init_memory` sets it up from the memory map. The inner
loop of `allocate_contiguous` has no bound in the source; here it is given one, and running past it is `none`.
-/

namespace PandaGen.Boot

open Lib Nat

def pageSize : Nat := 4096

/-- `value + align - 1` panics where it overflows. -/
def alignUp (value align : Nat) : Option Nat :=
  if align = 0 then some value else (checkedAdd value align).map fun n => (n - 1) / align * align

def alignDown (value align : Nat) : Nat := if align = 0 then value else value / align * align

/-- Ranges are rounded to whole pages before they are kept, and empty ones are not. -/
structure Range where
  start : Nat
  stop : Nat
  start_dvd : pageSize ∣ start
  stop_dvd : pageSize ∣ stop
  start_lt : start < stop
  stop_lt : stop < 2 ^ 64

namespace Range

def Overlaps (r : Range) (start stop : Nat) : Prop := start < r.stop ∧ stop > r.start

instance (r : Range) (start stop : Nat) : Decidable (r.Overlaps start stop) := inferInstanceAs (Decidable (_ ∧ _))

theorem alignUp_dvd {value start} (h : alignUp value pageSize = some start) : pageSize ∣ start := by
  rw [alignUp, if_neg (by decide)] at h
  obtain ⟨n, -, rfl⟩ := Option.map_eq_some_iff.mp h
  exact Nat.dvd_mul_left _ _

theorem alignDown_dvd (value) : pageSize ∣ alignDown value pageSize := by
  rw [alignDown, if_neg (by decide)]
  exact Nat.dvd_mul_left _ _

theorem alignDown_lt {value} (h : value < 2 ^ 64) : alignDown value pageSize < 2 ^ 64 :=
  lt_of_le_of_lt (div_mul_le_self value pageSize) h

def push (ranges : List Range) (base length : Nat) : Option (List Range) :=
  match hstart : alignUp base pageSize with
  | none => none
  | some start =>
    if h : start < alignDown (saturatingAdd base length) pageSize ∧ ranges.length < 32 then
      some (ranges ++
        [⟨start, alignDown (saturatingAdd base length) pageSize, alignUp_dvd hstart, alignDown_dvd _, h.1,
          alignDown_lt (lt_of_le_of_lt (min_le_right _ _) (by decide))⟩])
    else some ranges

end Range

/-- The top of the stack of reclaimed frames is at its end. -/
structure FrameAllocator where
  ranges : List Range
  current : Nat
  next : Nat
  reclaimed : List Nat
  reserved : List Range

namespace FrameAllocator

def new : FrameAllocator := ⟨[], 0, 0, [], []⟩

def addRange (a : FrameAllocator) (base length : Nat) : Option FrameAllocator :=
  (Range.push a.ranges base length).map fun ranges => { a with ranges := ranges }

def addReservedRange (a : FrameAllocator) (base length : Nat) : Option FrameAllocator :=
  (Range.push a.reserved base length).map fun reserved => { a with reserved := reserved }

def resetCursor (a : FrameAllocator) : FrameAllocator :=
  { a with current := 0, next := (a.ranges.head?.map Range.start).getD 0 }

def firstReservedOverlap (reserved : List Range) (start stop : Nat) : Option Range :=
  reserved.find? (·.Overlaps start stop)

/-- The first place from `start` on that no reserved range is in. It is `some none` where the range ends before. -/
def skipReserved (reserved : List Range) (bytes limit : Nat) : Nat → Nat → Option (Option Nat)
  | 0, _ => none
  | fuel + 1, start =>
    let stop := saturatingAdd start bytes
    if stop > limit then some none
    else
      match firstReservedOverlap reserved start stop with
      | some r => skipReserved reserved bytes limit fuel r.stop
      | none => some (some start)

/-- Searches the given ranges, the first of which is at the index `current`. The result comes with the new values
of `current` and `next`. -/
def searchRanges (reserved : List Range) (bytes fuel : Nat) :
    List Range → Nat → Nat → Option (Option Nat × Nat × Nat)
  | [], current, next => some (none, current, next)
  | range :: ranges, current, next =>
    match skipReserved reserved bytes range.stop fuel (if next < range.start then range.start else next) with
    | none => none
    | some (some start) => some (some start, current, saturatingAdd start bytes)
    | some none => searchRanges reserved bytes fuel ranges (current + 1) ((ranges.head?.map Range.start).getD next)

def allocateContiguous (fuel : Nat) (a : FrameAllocator) (pages : Nat) : Option (Option Nat × FrameAllocator) :=
  if pages = 0 then some (none, a)
  else
    (searchRanges a.reserved (saturatingMul pages pageSize) fuel (a.ranges.drop a.current) a.current a.next).map
      fun (start, current, next) => (start, { a with current := current, next := next })

def allocateFrame (fuel : Nat) (a : FrameAllocator) : Option (Option Nat × FrameAllocator) :=
  match a.reclaimed.getLast? with
  | some frame => some (some frame, { a with reclaimed := a.reclaimed.dropLast })
  | none => a.allocateContiguous fuel 1

/-- With 64 reclaimed frames, another one is forgotten. -/
def freeFrame (a : FrameAllocator) (frame : Nat) : FrameAllocator :=
  if a.reclaimed.length ≥ 64 then a else { a with reclaimed := a.reclaimed ++ [frame] }

end FrameAllocator

/-! ## The memory map -/

inductive EntryType where
  | usable
  | bootloaderReclaimable
  | executableAndModules
  | other
  deriving DecidableEq

structure MemoryMapEntry where
  base : Nat
  length : Nat
  entryType : EntryType

namespace MemoryMapEntry

def Usable (e : MemoryMapEntry) : Prop := e.entryType = .usable

def Reserved (e : MemoryMapEntry) : Prop :=
  e.entryType = .bootloaderReclaimable ∨ e.entryType = .executableAndModules

instance (e : MemoryMapEntry) : Decidable e.Usable := inferInstanceAs (Decidable (_ = _))

instance (e : MemoryMapEntry) : Decidable e.Reserved := inferInstanceAs (Decidable (_ ∨ _))

end MemoryMapEntry

/-- Whole pages, usable entries that are apart from each other, and no more reserved ones than the table has room
for. -/
structure WellFormedMap (map : List MemoryMapEntry) : Prop where
  aligned : ∀ e ∈ map, e.Usable ∨ e.Reserved → pageSize ∣ e.base ∧ pageSize ∣ e.length
  apart : map.Pairwise fun e e' => e.Usable → e'.Usable →
    Disjoint (Set.Ico e.base (e.base + e.length)) (Set.Ico e'.base (e'.base + e'.length))
  reserved_length : (map.filter fun e => e.Reserved).length ≤ 32

namespace FrameAllocator

def addEntry (a : FrameAllocator) (e : MemoryMapEntry) : Option FrameAllocator :=
  match e.entryType with
  | .usable => a.addRange e.base e.length
  | .bootloaderReclaimable => a.addReservedRange e.base e.length
  | .executableAndModules => a.addReservedRange e.base e.length
  | .other => some a

def ofMap (map : List MemoryMapEntry) : Option FrameAllocator := (map.foldlM addEntry new).map resetCursor

/-! ## Calls -/

inductive Call where
  | allocateFrame
  | allocateContiguous (pages : Nat)
  | freeFrame (frame : Nat)
  deriving DecidableEq

def Call.pages : Call → Nat
  | .allocateFrame => 1
  | .allocateContiguous pages => pages
  | .freeFrame _ => 0

end FrameAllocator

def framesOf (start pages : Nat) : List Nat := (List.range pages).map fun i => start + i * pageSize

structure FrameSession where
  allocator : FrameAllocator
  held : List Nat

namespace FrameSession

open FrameAllocator

/-- A caller holds the frames of the blocks that it gets, until it gives one back. -/
def machine (fuel : Nat) : Machine FrameSession Call (Option Nat) where
  step s call :=
    let result := match call with
      | .allocateFrame => s.allocator.allocateFrame fuel
      | .allocateContiguous pages => s.allocator.allocateContiguous fuel pages
      | .freeFrame frame => some (none, s.allocator.freeFrame frame)
    let kept := match call with
      | .freeFrame frame => s.held.erase frame
      | _ => s.held
    result.map fun (start, allocator) =>
      (start, ⟨allocator, kept ++ (start.map fun start => framesOf start call.pages).getD []⟩)

/-- Sizes are of 64 bits, and only frames that are handed out are given back. -/
def Allowed (s : FrameSession) : Call → Prop
  | .allocateFrame => True
  | .allocateContiguous pages => pages < 2 ^ 64
  | .freeFrame frame => frame ∈ s.held

instance (s : FrameSession) : (call : Call) → Decidable (s.Allowed call)
  | .allocateFrame => inferInstanceAs (Decidable True)
  | .allocateContiguous pages => inferInstanceAs (Decidable (pages < 2 ^ 64))
  | .freeFrame frame => inferInstanceAs (Decidable (frame ∈ s.held))

end FrameSession

end PandaGen.Boot
