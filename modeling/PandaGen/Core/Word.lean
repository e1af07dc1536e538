import Mathlib.Data.Nat.Digits.Defs
import Mathlib.Logic.Basic

/-!
# Arithmetic that panics

`u64` and `usize` arithmetic under the dev profile of the workspace: an overflow panics, and a panic ends
the process. A computation that panics is `none`.
-/

namespace PandaGen

open Option List

def checkedAdd (a b : Nat) : Option Nat := if a + b < 2 ^ 64 then some (a + b) else none

def checkedSub (a b : Nat) : Option Nat := if b ≤ a then some (a - b) else none

def checkedMul (a b : Nat) : Option Nat := if a * b < 2 ^ 64 then some (a * b) else none

/-- `a / b` and `a % b` panic on zero. -/
def checkedDiv (a b : Nat) : Option Nat := if b = 0 then none else some (a / b)

def checkedMod (a b : Nat) : Option Nat := if b = 0 then none else some (a % b)

def saturatingAdd (a b : Nat) : Nat := min (a + b) (2 ^ 64 - 1)

def saturatingMul (a b : Nat) : Nat := min (a * b) (2 ^ 64 - 1)

def wrappingAdd (a b : Nat) : Nat := (a + b) % 2 ^ 64

def wrappingSub (a b : Nat) : Nat := (a + 2 ^ 64 - b) % 2 ^ 64

variable {a b c : Nat}

theorem checkedAdd_eq_some : checkedAdd a b = some c ↔ a + b < 2 ^ 64 ∧ a + b = c := by
  simp only [checkedAdd, ite_none_right_eq_some, some.injEq]

theorem checkedSub_eq_some : checkedSub a b = some c ↔ b ≤ a ∧ a - b = c := by
  simp only [checkedSub, ite_none_right_eq_some, some.injEq]

theorem checkedMul_eq_some : checkedMul a b = some c ↔ a * b < 2 ^ 64 ∧ a * b = c := by
  simp only [checkedMul, ite_none_right_eq_some, some.injEq]

/-- The distance of two counters is right across a wrap, as long as it is small enough. -/
theorem wrappingSub_mod (hle : b ≤ a) (hlt : a - b < 2 ^ 64) : wrappingSub (a % 2 ^ 64) (b % 2 ^ 64) = a - b := by
  unfold wrappingSub
  omega

/-! ## Byte slices

`&[u8]`. Allocations are at most `isize::MAX` bytes long, so an index into a slice does not overflow. An index
or a range that is out of bounds panics.
-/

structure Slice where
  bytes : List UInt8
  fits : bytes.length < 2 ^ 63

namespace Slice

def len (data : Slice) : Nat := data.bytes.length

/-- `uN::from_le_bytes([data[offset], data[offset + 1], ..])` on `n` bytes. -/
def fromLeBytes (data : Slice) (offset n : Nat) : Option Nat := do
  let bytes ← (range n).mapM fun i => do data.bytes[← checkedAdd offset i]?
  some (Nat.ofDigits 256 (bytes.map UInt8.toNat))

/-- `data[start..stop].to_vec()` -/
def range (data : Slice) (start stop : Nat) : Option (List UInt8) :=
  if start ≤ stop ∧ stop ≤ data.len then some ((data.bytes.drop start).take (stop - start)) else none

def leAt (data : Slice) (offset n : Nat) : Nat :=
  Nat.ofDigits 256 (((data.bytes.drop offset).take n).map UInt8.toNat)

variable {data : Slice} {offset n start stop : Nat}

theorem len_lt (data : Slice) : data.len < 2 ^ 63 := data.fits

theorem mapM_range_bytes (h : offset + n ≤ data.len) :
    ((List.range n).mapM fun i => do data.bytes[← checkedAdd offset i]?) =
      some ((data.bytes.drop offset).take n) := by
  induction n with
  | zero => rfl
  | succ n ih =>
    have hlen := data.len_lt
    have hindex : offset + n < data.bytes.length := by
      rw [← len]
      omega
    have hadd : checkedAdd offset n = some (offset + n) := if_pos (by omega)
    rw [List.range_succ, List.mapM_append, ih (by omega), List.take_add_one, List.getElem?_drop,
      List.getElem?_eq_getElem hindex]
    simp [hadd, List.getElem?_eq_getElem hindex]

theorem fromLeBytes_eq (h : offset + n ≤ data.len) : data.fromLeBytes offset n = some (data.leAt offset n) := by
  rw [fromLeBytes, mapM_range_bytes h]
  rfl

theorem range_eq (h : start ≤ stop) (h' : stop ≤ data.len) :
    ∃ bytes, data.range start stop = some bytes ∧ bytes.length = stop - start := by
  refine ⟨_, if_pos ⟨h, h'⟩, ?_⟩
  rw [len] at h'
  rw [length_take, length_drop]
  omega

end Slice

end PandaGen
