import Std.Data.ExtTreeMap.Lemmas
import Mathlib.Data.Prod.Lex
import PandaGen.Lib.Codec

/-!
# UUIDs and ordered maps keyed by them

Every identifier of the system wraps a UUID (`core_types/src/uuid_tools.rs`). `Uuid::new_v4` is an
input of the calls that draw a fresh identifier. Identifiers key `BTreeMap`s, whose iteration follows
the order of the keys. A `HashMap` is a `BTreeMap` here where its iteration order does not show.
-/

namespace PandaGen

/-- A UUID. The order of its bytes is the order of the number they spell. -/
abbrev Uuid := BitVec 128

namespace Uuid

open Lib Codec

def hyphen : Mark := mark (ascii "-")

/-- The text form: 32 hexadecimal digits in groups of 8, 4, 4, 4 and 12. -/
def codec : Codec Uuid :=
  ((hex 8).pair hyphen ((hex 4).pair hyphen ((hex 4).pair hyphen
    ((hex 4).pair hyphen (hex 12))))).image
    (fun (a, b, c, d, e) =>
      some (BitVec.ofNat 128 ((((a.val * 16 ^ 4 + b.val) * 16 ^ 4 + c.val) * 16 ^ 4 + d.val) * 16 ^ 12 + e.val)))
    (fun u => (⟨u.toNat / 16 ^ 24, by have := u.isLt; omega⟩, ⟨u.toNat / 16 ^ 20 % 16 ^ 4, by omega⟩,
      ⟨u.toNat / 16 ^ 16 % 16 ^ 4, by omega⟩, ⟨u.toNat / 16 ^ 12 % 16 ^ 4, by omega⟩,
      ⟨u.toNat % 16 ^ 12, by omega⟩))
    (fun u => by
      have := u.isLt
      simp only [Option.some.injEq]
      apply BitVec.eq_of_toNat_eq
      rw [BitVec.toNat_ofNat, Nat.mod_eq_of_lt] <;> omega)

def text (u : Uuid) : String := String.ofList ((codec.print u).map fun b => Char.ofNat b.toNat)

end Uuid

inductive IdKind where
  | object
  | version
  | transaction
  | device
  | consensusNode
  | task
  | execution
  | service
  | channel
  | message
  | addressSpace
  | memoryRegion
  | pipeline
  | stage
  | component
  | view
  | networkInterface

structure Id (k : IdKind) where
  uuid : Uuid
  deriving DecidableEq

namespace Id

variable {k : IdKind}

instance : LawfulBEq (Id k) := inferInstance

instance : Ord (Id k) := ⟨compareOn Id.uuid⟩

instance : Std.TransOrd (Id k) := inferInstanceAs (Std.TransCmp (compareOn Id.uuid))

instance : Std.LawfulEqOrd (Id k) where
  eq_of_compare {a b} h := by
    have : a.uuid = b.uuid := Std.LawfulEqOrd.eq_of_compare (show compare a.uuid b.uuid = .eq from h)
    cases a; cases b; simp_all

end Id

abbrev ObjectId := Id .object
abbrev VersionId := Id .version
abbrev TransactionId := Id .transaction
abbrev DeviceId := Id .device
abbrev ConsensusNodeId := Id .consensusNode
abbrev TaskId := Id .task
abbrev ExecutionId := Id .execution
abbrev ServiceId := Id .service
abbrev ChannelId := Id .channel
abbrev MessageId := Id .message
abbrev AddressSpaceId := Id .addressSpace
abbrev MemoryRegionId := Id .memoryRegion
abbrev PipelineId := Id .pipeline
abbrev StageId := Id .stage
abbrev ComponentId := Id .component
abbrev ViewId := Id .view
abbrev NetworkInterfaceId := Id .networkInterface

/-! ## Ordered maps -/

abbrev BTreeMap (K V : Type) [Ord K] := Std.ExtTreeMap K V compare

instance instOrdPair {A B : Type} [Ord A] [Ord B] : Ord (A × B) :=
  ⟨compareLex (compareOn Prod.fst) (compareOn Prod.snd)⟩

instance instTransOrdPair {A B : Type} [Ord A] [Ord B] [Std.TransOrd A] [Std.TransOrd B] : Std.TransOrd (A × B) :=
  inferInstanceAs (Std.TransCmp (compareLex (compareOn Prod.fst) (compareOn Prod.snd)))

instance instLawfulEqOrdPair {A B : Type} [Ord A] [Ord B] [Std.LawfulEqOrd A] [Std.LawfulEqOrd B] :
    Std.LawfulEqOrd (A × B) where
  compare_self {a} := by
    show compareLex (compareOn Prod.fst) (compareOn Prod.snd) a a = .eq
    simp [compareLex, compareOn]
  eq_of_compare {a b} h := by
    have h : (compare a.1 b.1).then (compare a.2 b.2) = .eq := h
    rw [Ordering.then_eq_eq] at h
    exact Prod.ext (Std.LawfulEqOrd.eq_of_compare h.1) (Std.LawfulEqOrd.eq_of_compare h.2)

namespace BTreeMap

variable {K V : Type} [Ord K] [Std.TransOrd K] [Std.LawfulEqOrd K] [DecidableEq K]

variable (m : BTreeMap K V)

theorem getElem?_insert (k v a) : (m.insert k v)[a]? = if k = a then some v else m[a]? := by
  rw [Std.ExtTreeMap.getElem?_insert]
  simp only [Std.LawfulEqOrd.compare_eq_iff_eq]

theorem getElem?_erase (k a) : (m.erase k)[a]? = if k = a then none else m[a]? := by
  rw [Std.ExtTreeMap.getElem?_erase]
  simp only [Std.LawfulEqOrd.compare_eq_iff_eq]

theorem getElem?_modify (k f a) : (m.modify k f)[a]? = if k = a then m[a]?.map f else m[a]? := by
  rw [Std.ExtTreeMap.getElem?_modify]
  simp only [Std.LawfulEqOrd.compare_eq_iff_eq]
  split
  · rename_i heq
    rw [heq]
  · rfl

omit [DecidableEq K] in
theorem ofList_toList : Std.ExtTreeMap.ofList m.toList compare = m := by
  classical
  refine Std.ExtTreeMap.ext_getElem? fun k => ?_
  cases h : m[k]? with
  | some v =>
    exact Std.ExtTreeMap.getElem?_ofList_of_mem Std.ReflCmp.compare_self
      Std.ExtTreeMap.distinct_keys_toList (Std.ExtTreeMap.mem_toList_iff_getElem?_eq_some.mpr h)
  | none =>
    refine Std.ExtTreeMap.getElem?_ofList_of_contains_eq_false (Bool.eq_false_iff.mpr fun hmem => ?_)
    obtain ⟨⟨_, v⟩, hv, rfl⟩ := List.mem_map.mp (List.contains_iff_mem.mp hmem)
    rw [Std.ExtTreeMap.mem_toList_iff_getElem?_eq_some, h] at hv
    cases hv

/-- Replaces every value by what a computation makes of it. It is `none` where one of them panics. -/
def mapM {W : Type} (f : K → V → Option W) (m : BTreeMap K V) : Option (BTreeMap K W) :=
  if m.toList.all fun (k, v) => (f k v).isSome then some (m.filterMap f) else none

omit [DecidableEq K] in
theorem getElem?_of_mapM {W : Type} {f} {m : BTreeMap K V} {m' : BTreeMap K W} (h : mapM f m = some m') (k) :
    m'[k]? = m[k]?.bind (f k) := by
  rw [mapM] at h
  split at h
  · cases h
    exact Std.ExtTreeMap.getElem?_filterMap'
  · cases h

omit [DecidableEq K] in
theorem exists_of_mapM {W : Type} {f} {m : BTreeMap K V} {m' : BTreeMap K W} (h : mapM f m = some m') {k v}
    (hv : m[k]? = some v) : ∃ w, f k v = some w ∧ m'[k]? = some w := by
  have hk := getElem?_of_mapM h k
  rw [hv, Option.bind_some] at hk
  rw [mapM] at h
  split at h
  · rename_i hall
    have := List.all_eq_true.mp hall (k, v) (Std.ExtTreeMap.mem_toList_iff_getElem?_eq_some.mpr hv)
    obtain ⟨w, hw⟩ := Option.isSome_iff_exists.mp this
    exact ⟨w, hw, by rw [hk, hw]⟩
  · cases h

omit [Std.LawfulEqOrd K] [DecidableEq K] in
theorem size_pos_of_getElem? {m : BTreeMap K V} {k : K} {v : V} (h : m[k]? = some v) : 0 < m.size := by
  rw [Nat.pos_iff_ne_zero, Ne, ← Std.ExtTreeMap.eq_empty_iff_size_eq_zero]
  rintro rfl
  simp at h

omit [DecidableEq K] in
theorem countP_toList_eq_size {m : BTreeMap K V} {p} (h : ∀ k v, m[k]? = some v → p (k, v)) :
    m.toList.countP p = m.size := by
  rw [← Std.ExtTreeMap.length_toList, List.countP_eq_length]
  intro (k, v) hmem
  exact h k v (Std.ExtTreeMap.mem_toList_iff_getElem?_eq_some.mp hmem)

theorem filter_toList (k) : m.toList.filter (fun e => e.1 == k) = (m[k]?.map fun v => (k, v)).toList := by
  have hmem : ∀ e ∈ m.toList.filter (fun e => e.1 == k), m[k]? = some e.2 ∧ e.1 = k := by
    intro (a, v) he
    rw [List.mem_filter, Std.ExtTreeMap.mem_toList_iff_getElem?_eq_some, beq_iff_eq] at he
    obtain ⟨he, rfl⟩ := he
    exact ⟨he, rfl⟩
  have hdistinct : (m.toList.filter fun e => e.1 == k).Pairwise fun e e' => ¬ compare e.1 e'.1 = .eq :=
    List.Pairwise.filter _ Std.ExtTreeMap.distinct_keys_toList
  cases hm : m[k]? with
  | none =>
    apply List.eq_nil_iff_forall_not_mem.mpr
    intro e he
    cases hm.symm.trans (hmem e he).1
  | some v =>
    have hkv : (k, v) ∈ m.toList.filter fun e => e.1 == k := by
      rw [List.mem_filter, Std.ExtTreeMap.mem_toList_iff_getElem?_eq_some]
      exact ⟨hm, beq_self_eq_true k⟩
    generalize m.toList.filter (fun e => e.1 == k) = l at hmem hdistinct hkv
    match l with
    | [] => cases hkv
    | [e] =>
      rw [← List.mem_singleton.mp hkv]
      rfl
    | e :: e' :: l =>
      obtain ⟨-, rfl⟩ := hmem e (by simp)
      obtain ⟨-, hk⟩ := hmem e' (by simp)
      have := (List.pairwise_cons.mp hdistinct).1 e' (by simp)
      simp [hk] at this

omit [Std.LawfulEqOrd K] [DecidableEq K] in
theorem nodup_toList : m.toList.Nodup := by
  refine Std.ExtTreeMap.distinct_keys_toList.imp ?_
  rintro e _ h rfl
  exact h Std.ReflCmp.compare_self

theorem toList_perm_of_getElem? {m : BTreeMap K V} {k v} (h : m[k]? = some v) :
    m.toList.Perm ((k, v) :: m.toList.filter fun e => e.1 != k) := by
  have hperm := List.filter_append_perm (fun e => e.1 == k) m.toList
  rw [filter_toList, h] at hperm
  exact hperm.symm

theorem filter_toList_insert_perm (k v) :
    ((m.insert k v).toList.filter fun e => e.1 != k).Perm (m.toList.filter fun e => e.1 != k) := by
  apply (List.perm_ext_iff_of_nodup ((nodup_toList _).filter _) ((nodup_toList m).filter _)).mpr
  intro (a, w)
  simp only [List.mem_filter, Std.ExtTreeMap.mem_toList_iff_getElem?_eq_some, getElem?_insert, bne_iff_ne,
    and_congr_left_iff]
  intro hne
  rw [if_neg (Ne.symm hne)]

end BTreeMap

end PandaGen
