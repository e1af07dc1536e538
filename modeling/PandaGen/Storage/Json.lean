import PandaGen.Lib.JsonText
import PandaGen.Storage.PersistentFs

/-!
# The JSON texts of the storage
-/

namespace PandaGen.Storage

open Lib Codec

/-! ## The JSON texts of superblocks and commit records -/

namespace Json

def document {α : Type} (c : Codec α) (bytes : List UInt8) : Option α :=
  match c.parse bytes with
  | some (a, []) => some a
  | _ => none

@[reducible] def serde {α : Type} (c : Codec α) : SerdeJson α := ⟨fun a => some (c.print a), document c⟩

theorem serde_lawful {α : Type} (c) (h : c.parse [] = none) : @LawfulSerdeJson α (serde c) := by
  refine @LawfulSerdeJson.mk α (serde c) ?_ ?_ ?_
  · intro a bytes hb
    cases hb
    have hp := c.parse_print a [] (by simp [Stop])
    rw [List.append_nil] at hp
    show document c (c.print a) = some a
    simp only [document, hp]
  · intro a bytes hb
    cases hb
    exact c.null_not_mem a
  · show document c [] = none
    simp only [document, h]

/-- The separator before the field `name`. -/
def comma (t : String) (ht : (ascii t).head?.map isDigit = some false := by decide)
    (h0 : (0 : UInt8) ∉ ascii t := by decide) : Mark := mark (ascii t) ht h0

def array {α : Type} (c : Codec α) (hc : ∀ a rest, (c.print a ++ rest).head? ≠ some 93) : Codec (List α) :=
  c.sequence 91 93 hc

theorem zero_notMem_name : (0 : UInt8) ∉ ascii "\x7b\"name\":" := by decide

def quote : Mark := mark (ascii "\"")

def closingBrace : Mark := mark (ascii "\x7d")

def id {k : IdKind} : Codec (Id k) :=
  (Uuid.codec.between (ascii "\"") quote).image (fun u => some ⟨u⟩) Id.uuid

def superblock : Codec Superblock :=
  ((nat.pair (comma ",\"version\":")
    (nat.pair (comma ",\"total_blocks\":")
    (nat.pair (comma ",\"bitmap_start\":")
    (nat.pair (comma ",\"bitmap_blocks\":")
    (nat.pair (comma ",\"data_start\":")
    (nat.pair (comma ",\"commit_log_start\":")
    (nat.pair (comma ",\"commit_log_blocks\":")
    (nat.pair (comma ",\"commit_sequence\":") nat)))))))).between
    (ascii "\x7b\"magic\":") closingBrace).image
    (fun (a, b, c, d, e, f, g, h, i) => some ⟨a, b, c, d, e, f, g, h, i⟩)
    (fun s => (s.magic, s.version, s.totalBlocks, s.bitmapStart, s.bitmapBlocks, s.dataStart,
      s.commitLogStart, s.commitLogBlocks, s.commitSequence))

def allocationEntry : Codec AllocationEntry :=
  ((id.pair (comma ",\"version_id\":")
    (id.pair (comma ",\"block_idx\":")
    (nat.pair (comma ",\"size_bytes\":") nat))).between
    (ascii "\x7b\"object_id\":") closingBrace).image
    (fun (o, v, b, n) => some ⟨o, v, b, n⟩)
    (fun e => (e.objectId, e.versionId, e.blockIdx, e.sizeBytes))

def u32 : Codec UInt32 :=
  nat.image (fun n => if n < 2 ^ 32 then some (UInt32.ofNat n) else none) UInt32.toNat (fun n => by
    rw [if_pos n.toNat_lt, UInt32.ofNat_toNat])

def commitRecord : Codec CommitRecord :=
  ((id.pair (comma ",\"sequence\":")
    (nat.pair (comma ",\"allocations\":")
    ((array allocationEntry fun _ _ => by simp [allocationEntry, image, between, ascii]).pair
      (comma ",\"checksum\":") u32))).between
    (ascii "\x7b\"transaction_id\":") closingBrace).image
    (fun (t, n, es, c) => some ⟨t, n, es, c⟩)
    (fun r => (r.transactionId, r.sequence, r.allocations, r.checksum))

/-! ## CRC32 -/

/-- One bit of the reflected CRC-32 with the polynomial `0xEDB88320`. -/
def crcBit (c : Nat) : Nat := if c % 2 = 1 then (c / 2) ^^^ 0xEDB88320 else c / 2

def crcByte (c : Nat) (b : UInt8) : Nat :=
  crcBit (crcBit (crcBit (crcBit (crcBit (crcBit (crcBit (crcBit (c ^^^ b.toNat))))))))

instance : DiskFormat where
  superblock := serde superblock
  commitRecord := serde commitRecord
  hash bytes := UInt32.ofNat (bytes.foldl crcByte 0xFFFFFFFF ^^^ 0xFFFFFFFF)

instance : LawfulDiskFormat where
  superblock := serde_lawful superblock rfl
  commitRecord := serde_lawful commitRecord rfl

end Json

namespace Json

def kindText : ObjectKind → List UInt8
  | .blob => ascii "\"Blob\""
  | .log => ascii "\"Log\""
  | .map => ascii "\"Map\""

def objectKind : Codec ObjectKind where
  print := kindText
  parse bs := [ObjectKind.blob, .log, .map].findSome? fun k => (eat (kindText k) bs).map (k, ·)
  parse_print k rest _ := by cases k <;> simp [kindText, eat, ascii]
  null_not_mem k := by cases k <;> decide

def directoryEntry : Codec DirectoryEntry :=
  ((string.pair (comma ",\"object_id\":")
    (id.pair (comma ",\"kind\":") objectKind)).between
    (ascii "\x7b\"name\":") closingBrace).image
    (fun (n, o, k) => some ⟨n, o, k⟩) (fun e => (e.name, e.objectId, e.kind))

def entries : Codec (BTreeMap String DirectoryEntry) :=
  ((string.pair (comma ":") directoryEntry).sequence 123 125 fun _ _ => by simp [pair, string]).image
    (fun es => some (Std.ExtTreeMap.ofList es compare)) (fun m => m.toList) (fun m => by rw [BTreeMap.ofList_toList])

def directoryMetadata : Codec DirectoryMetadata :=
  ((nat.pair (comma ",\"modified_at\":")
    (nat.pair (comma ",\"owner\":") string)).between
    (ascii "\x7b\"created_at\":") closingBrace).image
    (fun (c, m, o) => some ⟨c, m, o⟩) (fun d => (d.createdAt, d.modifiedAt, d.owner))

def persistentDirectory : Codec PersistentDirectory :=
  ((entries.pair (comma ",\"parent\":")
    ((nullable id (fun _ _ => by simp [id, image, between, ascii, eat])).pair
      (comma ",\"metadata\":") directoryMetadata)).between
    (ascii "\x7b\"entries\":") closingBrace).image
    (fun (es, p, d) => some ⟨es, p, d⟩) (fun d => (d.entries, d.parent, d.metadata))

instance : SerdeDebug PersistentDirectory where
  toSerdeJson := serde persistentDirectory
  toVecError _ := "Error(\"key must be a string\", line: 0, column: 0)"
  fromSliceError _ := "Error(\"expected value\", line: 1, column: 1)"

instance : LawfulSerdeJson PersistentDirectory := serde_lawful persistentDirectory rfl

end Json

end PandaGen.Storage
