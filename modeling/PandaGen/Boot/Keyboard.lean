import PandaGen.Core.Word
import PandaGen.Lib.Machine

/-!
# The keyboard queue of the bare-metal kernel

`KeyboardEventQueue` of `kernel_bootstrap/src/main.rs`. The interrupt pushes, the main loop pops. A push runs as a
whole, since nothing interrupts it; a pop is interrupted between any two of its accesses to memory.
-/

namespace PandaGen.Boot

open Lib

def keyboardQueueSize : Nat := 256

structure KeyboardEventQueue where
  buffer : List UInt8
  writePos : Nat
  readPos : Nat
  buffer_length : buffer.length = keyboardQueueSize

namespace KeyboardEventQueue

def new : KeyboardEventQueue := ⟨List.replicate keyboardQueueSize 0, 0, 0, List.length_replicate⟩

def push (q : KeyboardEventQueue) (scancode : UInt8) : Bool × KeyboardEventQueue :=
  let buffer := q.buffer.set (q.writePos % keyboardQueueSize) scancode
  let newWrite := wrappingAdd q.writePos 1
  let q : KeyboardEventQueue :=
    { buffer := buffer, writePos := newWrite, readPos := q.readPos
      buffer_length := List.length_set.trans q.buffer_length }
  if wrappingSub newWrite q.readPos ≥ keyboardQueueSize then (true, { q with readPos := wrappingAdd q.readPos 1 })
  else (false, q)

def queued (q : KeyboardEventQueue) : List UInt8 :=
  (List.range (wrappingSub q.writePos q.readPos)).map fun i =>
    q.buffer.getD (wrappingAdd q.readPos i % keyboardQueueSize) 0

end KeyboardEventQueue

inductive PopState where
  | idle
  | loadedRead (read : Nat)
  | loadedWrite (read : Nat)
  | loadedScancode (read : Nat) (scancode : UInt8)

structure Keyboard where
  queue : KeyboardEventQueue
  pop : PopState

namespace Keyboard

def new : Keyboard := ⟨.new, .idle⟩

inductive Action where
  | push (scancode : UInt8)
  | access
  deriving DecidableEq

inductive Outcome where
  | pushed (dropped : Bool)
  | accessed
  | popped (result : Option UInt8)
  deriving DecidableEq

def access (k : Keyboard) : Outcome × Keyboard :=
  match k.pop with
  | .idle => (.accessed, { k with pop := .loadedRead k.queue.readPos })
  | .loadedRead read =>
    if read = k.queue.writePos then (.popped none, { k with pop := .idle })
    else (.accessed, { k with pop := .loadedWrite read })
  | .loadedWrite read =>
    (.accessed, { k with pop := .loadedScancode read (k.queue.buffer.getD (read % keyboardQueueSize) 0) })
  | .loadedScancode read scancode =>
    (.popped (some scancode), { queue := { k.queue with readPos := wrappingAdd read 1 }, pop := .idle })

def machine : Machine Keyboard Action Outcome where
  step k
    | .push scancode => some ((.pushed (k.queue.push scancode).1), { k with queue := (k.queue.push scancode).2 })
    | .access => some k.access

/-! ## What a run shows -/

def pushed (tr : List (Action × Outcome)) : List UInt8 :=
  tr.filterMap fun
    | (.push scancode, _) => some scancode
    | _ => none

def popped (tr : List (Action × Outcome)) : List UInt8 :=
  tr.filterMap fun
    | (_, .popped result) => result
    | _ => none

def drops (tr : List (Action × Outcome)) : Nat := (tr.filter fun (_, o) => o = .pushed true).length

def Overtaken (k : Keyboard) : Prop :=
  match k.pop with
  | .idle => False
  | .loadedRead read | .loadedWrite read | .loadedScancode read _ => read ≠ k.queue.readPos

instance (k : Keyboard) : Decidable k.Overtaken :=
  match k with
  | ⟨_, .idle⟩ => inferInstanceAs (Decidable False)
  | ⟨q, .loadedRead read⟩ | ⟨q, .loadedWrite read⟩ | ⟨q, .loadedScancode read _⟩ =>
    inferInstanceAs (Decidable (read ≠ q.readPos))

/-- A pop sees at most one drop between its first and its last access. -/
def OneDrop (k : Keyboard) (_ : Action) (o : Outcome) : Prop := o = .pushed true → ¬ k.Overtaken

instance (k : Keyboard) (i : Action) (o : Outcome) : Decidable (OneDrop k i o) :=
  inferInstanceAs (Decidable (_ → _))

end Keyboard

end PandaGen.Boot
