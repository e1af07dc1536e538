import Mathlib.Logic.Basic

/-!
# Serialisation

`serde_json` and `crc32fast` are not part of the repository. They enter the model as functions, and the
law below is what the storage relies on: decoding inverts encoding, no encoding holds a null byte, and
the empty text is not a document.
-/

namespace PandaGen.Storage

/-- `serde_json::to_vec` and `serde_json::from_slice` at the type `α`. -/
class SerdeJson (α : Type) where
  toVec : α → Option (List UInt8)
  fromSlice : List UInt8 → Option α

export SerdeJson (toVec fromSlice)

class LawfulSerdeJson (α : Type) [SerdeJson α] : Prop where
  fromSlice_toVec {a : α} {bytes : List UInt8} : toVec a = some bytes → fromSlice bytes = some a
  null_not_mem {a : α} {bytes : List UInt8} : toVec a = some bytes → (0 : UInt8) ∉ bytes
  fromSlice_nil : (fromSlice [] : Option α) = none

theorem toVec_ne_nil {α : Type} [SerdeJson α] [LawfulSerdeJson α] {a : α} {bytes : List UInt8}
    (h : toVec a = some bytes) : bytes ≠ [] := by
  rintro rfl
  have := LawfulSerdeJson.fromSlice_toVec h
  rw [LawfulSerdeJson.fromSlice_nil] at this
  cases this

/-- The `Debug` texts of the errors of `serde_json` at the type `α`. -/
class SerdeDebug (α : Type) extends SerdeJson α where
  toVecError : α → String
  fromSliceError : List UInt8 → String

export SerdeDebug (toVecError fromSliceError)

class SerdeDisplay (α : Type) extends SerdeJson α where
  toVecText : α → String
  fromSliceText : List UInt8 → String

export SerdeDisplay (toVecText fromSliceText)

end PandaGen.Storage
