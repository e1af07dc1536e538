import Mathlib.Data.List.Induction

/-!
# Logs of numbered records in a ring of slots

A log keeps its records in a fixed number of slots; the record with number `q` goes to slot `q % n`. A
reader walks the slots in their order and accepts a record whose number is greater than every number it
has seen.
-/

namespace PandaGen.Lib.SeqLog

open Option List Nat

variable {R : Type} (seq : R → Nat)

/-- The records that are accepted after the number `last`. -/
def scan : Nat → List (Option R) → List R
  | _, [] => []
  | last, none :: slots => scan last slots
  | last, some r :: slots => if last < seq r then r :: scan (seq r) slots else scan last slots

def lastSeq : Nat → List (Option R) → Nat
  | last, [] => last
  | last, none :: slots => lastSeq last slots
  | last, some r :: slots => if last < seq r then lastSeq (seq r) slots else lastSeq last slots

def store (n : Nat) (slots : List (Option R)) (r : R) : List (Option R) := slots.set (seq r % n) (some r)

variable {seq} {slots : List (Option R)} {rs : List R} {n : Nat}

/-! ## Scanning -/

theorem scan_append (last : Nat) (a b : List (Option R)) :
    scan seq last (a ++ b) = scan seq last a ++ scan seq (lastSeq seq last a) b := by
  induction a generalizing last with
  | nil => rfl
  | cons o a ih =>
    cases o with
    | none => simpa [scan, lastSeq] using ih last
    | some r =>
      simp only [cons_append, scan, lastSeq]
      split
      · rw [ih, cons_append]
      · exact ih last

theorem mem_of_mem_scan {last slots r} (h : r ∈ scan seq last slots) : some r ∈ slots ∧ last < seq r := by
  induction slots generalizing last with
  | nil => simp [scan] at h
  | cons o slots ih =>
    cases o with
    | none => exact ⟨by simp [(ih h).1], (ih h).2⟩
    | some r' =>
      simp only [scan] at h
      split at h
      · rename_i hlt
        rcases mem_cons.mp h with rfl | h
        · exact ⟨by simp, hlt⟩
        · exact ⟨by simp [(ih h).1], Nat.lt_trans hlt (ih h).2⟩
      · exact ⟨by simp [(ih h).1], (ih h).2⟩

private theorem exists_prefix_cons {o slots r} {P : List (Option R) → Prop} :
    (∃ pre post, o :: slots = pre ++ some r :: post ∧ P pre) ↔
      (o = some r ∧ P []) ∨ ∃ pre post, slots = pre ++ some r :: post ∧ P (o :: pre) := by
  constructor
  · rintro ⟨_ | ⟨o', pre⟩, post, h, hP⟩
    · exact .inl ⟨(cons.inj h).1, hP⟩
    · obtain ⟨rfl, htail⟩ := cons.inj h
      exact .inr ⟨pre, post, htail, hP⟩
  · rintro (⟨rfl, hP⟩ | ⟨pre, post, rfl, hP⟩)
    · exact ⟨[], slots, rfl, hP⟩
    · exact ⟨o :: pre, post, rfl, hP⟩

/-- A record is accepted just when its number is greater than all numbers in the slots before it. -/
theorem mem_scan_iff {last slots r} :
    r ∈ scan seq last slots ↔ ∃ pre post, slots = pre ++ some r :: post ∧ last < seq r ∧
      ∀ r', some r' ∈ pre → seq r' < seq r := by
  induction slots generalizing last with
  | nil => simp [scan]
  | cons o slots ih =>
    rw [exists_prefix_cons]
    cases o with
    | none => simp [scan, ih]
    | some r' =>
      simp only [scan]
      split
      · rename_i hlt
        rw [mem_cons, ih]
        constructor
        · rintro (rfl | ⟨pre, post, rfl, hr, hpre⟩)
          · exact .inl ⟨rfl, hlt, by simp⟩
          · exact .inr ⟨pre, post, rfl, by omega, by simpa [hr] using hpre⟩
        · rintro (⟨h, _⟩ | ⟨pre, post, rfl, hr, hpre⟩)
          · exact .inl (some.inj h).symm
          · exact .inr ⟨pre, post, rfl, hpre r' (by simp), fun r'' h => hpre r'' (by simp [h])⟩
      · rename_i hle
        rw [ih]
        constructor
        · rintro ⟨pre, post, rfl, hr, hpre⟩
          have hr' : seq r' < seq r := by omega
          exact .inr ⟨pre, post, rfl, hr, by simpa [hr'] using hpre⟩
        · rintro (⟨h, hr, _⟩ | ⟨pre, post, rfl, hr, hpre⟩)
          · cases h; omega
          · exact ⟨pre, post, rfl, hr, fun r'' h => hpre r'' (by simp [h])⟩

theorem mem_scan_iff_getElem? {last slots r} :
    r ∈ scan seq last slots ↔ last < seq r ∧ ∃ i : Nat, slots[i]? = some (some r) ∧
      ∀ j < i, ∀ r', slots[j]? = some (some r') → seq r' < seq r := by
  rw [mem_scan_iff]
  constructor
  · rintro ⟨pre, post, rfl, hlast, hpre⟩
    refine ⟨hlast, pre.length, by simp, fun j hj r' hr' => hpre r' ?_⟩
    rw [List.getElem?_append_left hj] at hr'
    exact List.mem_of_getElem? hr'
  · rintro ⟨hlast, i, hi, hpre⟩
    obtain ⟨hlt, hget⟩ := List.getElem?_eq_some_iff.mp hi
    refine ⟨slots.take i, slots.drop (i + 1), ?_, hlast, fun r' hr' => ?_⟩
    · rw [← hget, ← List.drop_eq_getElem_cons hlt, List.take_append_drop]
    · obtain ⟨j, hj⟩ := List.mem_iff_getElem?.mp hr'
      rw [List.getElem?_take] at hj
      split at hj
      · rename_i hji
        exact hpre j hji r' hj
      · cases hj

theorem scan_of_le {last slots} (h : ∀ r, some r ∈ slots → seq r ≤ last) : scan seq last slots = [] := by
  rw [eq_nil_iff_forall_not_mem]
  intro r hr
  obtain ⟨hmem, hlt⟩ := mem_of_mem_scan hr
  exact absurd (h r hmem) (by omega)

theorem scan_map_some {last q rs} (hq : last ≤ q) (h : rs.map seq = range' (q + 1) rs.length) :
    scan seq last (rs.map some) = rs ∧ lastSeq seq last (rs.map some) = if rs = [] then last else q + rs.length := by
  induction rs generalizing last q with
  | nil => exact ⟨rfl, rfl⟩
  | cons r rs ih =>
    simp only [map_cons, length_cons, range'_succ, cons.injEq] at h
    have hlt : last < seq r := by omega
    obtain ⟨h1, h2⟩ := @ih (seq r) (q + 1) (by omega) h.2
    simp only [map_cons, scan, lastSeq, if_pos hlt, h1, h2, true_and, length_cons]
    split
    · rename_i hnil; subst hnil; simp [h.1]
    · simp; omega

/-! ## Storing -/

theorem store_store {n slots r r'} (h : seq r = seq r') :
    store seq n (store seq n slots r) r' = store seq n slots r' := by
  rw [store, store, store, h, set_set]

theorem length_foldl_store (n : Nat) (slots : List (Option R)) (rs : List R) :
    (rs.foldl (store seq n) slots).length = slots.length := by
  induction rs generalizing slots with
  | nil => rfl
  | cons r rs ih => rw [foldl_cons, ih, store, length_set]

/-- A record that takes the place of none with a greater number reveals no other. -/
theorem mem_scan_store {n last slots r r'} (hold : ∀ r0, slots[seq r % n]? = some (some r0) → seq r0 ≤ seq r)
    (h : r' ∈ scan seq last (store seq n slots r)) : r' = r ∨ r' ∈ scan seq last slots := by
  rw [mem_scan_iff_getElem?] at h ⊢
  obtain ⟨hlast, i, hi, hpre⟩ := h
  simp only [store, List.getElem?_set] at hi hpre
  split at hi
  · split at hi
    · exact .inl (some.inj (some.inj hi)).symm
    · cases hi
  · refine .inr ⟨hlast, i, hi, fun j hj r0 hr0 => ?_⟩
    have hpre := hpre j hj
    split at hpre
    · -- the slot of the new record: its number is below that of r'
      rename_i hslot
      subst hslot
      have hlt : seq r % n < slots.length := (List.getElem?_eq_some_iff.mp hr0).1
      exact Nat.lt_of_le_of_lt (hold r0 hr0) (hpre r (by rw [if_pos hlt]))
    · exact hpre r0 hr0

/-- Before the log wraps around, the records stand one after the other from slot 1 on. -/
theorem foldl_store_eq (hlen : slots.length = n) (hn : rs.length < n) (h : rs.map seq = range' 1 rs.length) :
    rs.foldl (store seq n) slots = slots.take 1 ++ (rs.map some ++ slots.drop (rs.length + 1)) := by
  induction rs using reverseRecOn with
  | nil => exact (take_append_drop 1 slots).symm
  | append_singleton rs r ih =>
    rw [length_append, length_singleton] at hn h ⊢
    rw [map_append, range'_concat, map_singleton] at h
    obtain ⟨h1, h2⟩ := append_inj' h (by simp)
    have hr : seq r = rs.length + 1 := by simpa [Nat.add_comm] using h2
    have hdrop : slots.drop (rs.length + 1) = slots[rs.length + 1] :: slots.drop (rs.length + 1 + 1) := by
      rw [drop_eq_getElem_cons]
    rw [foldl_append, foldl_cons, foldl_nil, ih (by omega) h1, store, hr, mod_eq_of_lt hn, hdrop]
    have hl : (slots.take 1).length = 1 := by rw [length_take]; omega
    rw [set_append_right _ _ (by omega), hl, Nat.add_sub_cancel,
      set_append_right _ _ (by simp), length_map, Nat.sub_self, set_cons_zero,
      map_append, append_assoc]
    rfl

variable (seq) in
/-- After the records numbered 1 to `k` were stored over the slots `old`, the old record `r` is accepted:
it stands after them, and its number is greater than theirs and than all old numbers before it. -/
def Revealed (old : List (Option R)) (k : Nat) (r : R) : Prop :=
  ∃ pre post, (if k = 0 then old else old.drop (k + 1)) = pre ++ some r :: post ∧ k < seq r ∧
    ∀ r', some r' ∈ pre → seq r' < seq r

theorem Revealed.mem {old k r} (h : Revealed seq old k r) : some r ∈ old := by
  obtain ⟨pre, post, heq, _⟩ := h
  have hmem : some r ∈ if k = 0 then old else old.drop (k + 1) := by rw [heq]; simp
  split at hmem
  · exact hmem
  · exact mem_of_mem_drop hmem

/-- All stored records are accepted, and then the revealed ones, if slot 0 holds no number of its own. -/
theorem scan_foldl_store {old} (hlen : old.length = n) (hn : rs.length < n) (h : rs.map seq = range' 1 rs.length)
    (h0 : 0 < rs.length → ∀ r, old.head? = some (some r) → seq r = 0) :
    ∃ rest, scan seq 0 (rs.foldl (store seq n) old) = rs ++ rest ∧ ∀ r, r ∈ rest ↔ Revealed seq old rs.length r := by
  cases rs with
  | nil => exact ⟨scan seq 0 old, rfl, fun r => mem_scan_iff⟩
  | cons r1 rs =>
    refine ⟨scan seq (r1 :: rs).length (old.drop ((r1 :: rs).length + 1)), ?_, fun r => mem_scan_iff⟩
    have hfirst : scan seq 0 (old.take 1) = [] ∧ lastSeq seq 0 (old.take 1) = 0 := by
      rcases old with _ | ⟨_ | r, old⟩
      · exact ⟨rfl, rfl⟩
      · exact ⟨rfl, rfl⟩
      · have := h0 (by simp) r rfl
        simp [scan, lastSeq, this]
    obtain ⟨hscan, hlast⟩ := @scan_map_some R seq 0 0 (r1 :: rs) (Nat.le_refl 0) (by rw [Nat.zero_add]; exact h)
    rw [foldl_store_eq hlen hn h, scan_append, hfirst.1, hfirst.2, scan_append, hscan, hlast]
    simp

/-- A number in slot 0 that was there before hides the first record. -/
theorem eq_of_mem_scan_of_head {old r0 r1 rs} (hlen : old.length = n)
    (hn : (r1 :: rs).length < n) (h : (r1 :: rs).map seq = range' 1 (r1 :: rs).length)
    (h0 : old.head? = some (some r0)) (hpos : 0 < seq r0)
    (hmem : r1 ∈ scan seq 0 ((r1 :: rs).foldl (store seq n) old)) : r1 = r0 := by
  have hr1 : seq r1 = 1 := by simpa [range'_succ] using congrArg head? h
  obtain ⟨old', rfl⟩ := head?_eq_some_iff.mp h0
  rw [foldl_store_eq hlen hn h] at hmem
  obtain ⟨pre, post, heq, _, hpre⟩ := mem_scan_iff.mp hmem
  cases pre with
  | nil =>
    have := (cons.inj heq).1
    exact (some.inj this).symm
  | cons o pre =>
    have := (cons.inj heq).1
    subst this
    have := hpre r0 (by simp)
    omega

theorem mem_foldl_store {i o} (h : (rs.foldl (store seq n) slots)[i]? = some o) :
    slots[i]? = some o ∨ ∃ r ∈ rs, o = some r ∧ seq r % n = i := by
  induction rs generalizing slots with
  | nil => exact .inl h
  | cons r rs ih =>
    rcases ih h with h | ⟨r', hr', h⟩
    · rw [store, getElem?_set] at h
      split at h
      · split at h
        · exact .inr ⟨r, by simp, (some.inj h).symm, by assumption⟩
        · cases h
      · exact .inl h
    · exact .inr ⟨r', by simp [hr'], h⟩

theorem Revealed.of_next {old k r} (hr : old[k + 1]? = some (some r)) (hseq : seq r = k + 1)
    (h0 : ∀ r', old.head? = some (some r') → seq r' = 0) : Revealed seq old k r := by
  by_cases hk : k = 0
  · subst hk
    rcases old with _ | ⟨o, _ | ⟨o', old⟩⟩
    · simp at hr
    · simp at hr
    · obtain rfl : o' = some r := by simpa using hr
      refine ⟨[o], old, rfl, by omega, fun r' hr' => ?_⟩
      obtain rfl := List.mem_singleton.mp hr'
      have := h0 r' rfl
      omega
  · obtain ⟨hlt, hget⟩ := List.getElem?_eq_some_iff.mp hr
    refine ⟨[], old.drop (k + 2), ?_, by omega, by simp⟩
    rw [if_neg hk, List.drop_eq_getElem_cons hlt, hget]
    rfl

/-- The slot of a stored record holds a record with a number at least as great, if the numbers grow. -/
theorem exists_ge_of_mem (hn : 0 < n) (hlen : slots.length = n)
    (hrs : rs.Pairwise fun a b => seq a ≤ seq b) {r} (hr : r ∈ rs) :
    ∃ r' ∈ rs, (rs.foldl (store seq n) slots)[seq r % n]? = some (some r') ∧ seq r ≤ seq r' := by
  induction rs using reverseRecOn with
  | nil => simp at hr
  | append_singleton rs x ih =>
    obtain ⟨hrs, _, hx⟩ := pairwise_append.mp hrs
    rw [foldl_append, foldl_cons, foldl_nil]
    have hlen' : seq r % n < (rs.foldl (store seq n) slots).length := by
      rw [length_foldl_store, hlen]
      exact mod_lt _ hn
    rcases mem_append.mp hr with hr | hr
    · by_cases hslot : seq x % n = seq r % n
      · refine ⟨x, by simp, ?_, hx r hr x (by simp)⟩
        rw [store, hslot, getElem?_set_self hlen']
      · obtain ⟨r', hr', hget, hge⟩ := ih hrs hr
        exact ⟨r', by simp [hr'], by rw [store, getElem?_set_ne hslot, hget], hge⟩
    · obtain rfl := mem_singleton.mp hr
      exact ⟨r, by simp, by rw [store, getElem?_set_self hlen'], Nat.le_refl _⟩

/-- Once the log has wrapped around, the first record is not accepted any more. -/
theorem not_mem_scan_of_wrap (hn : 0 < n) (hlen : slots.length = n)
    (h : rs.map seq = range' 1 rs.length) (hwrap : n ≤ rs.length) (h2 : 2 ≤ rs.length) {r1} (hr1 : seq r1 = 1) :
    r1 ∉ scan seq 0 (rs.foldl (store seq n) slots) := by
  -- the last record in slot 0 has a number of at least 2
  obtain ⟨q, hq, hqn, hslot⟩ : ∃ q, 2 ≤ q ∧ q ≤ rs.length ∧ q % n = 0 := by
    by_cases h1 : n = 1
    · exact ⟨2, Nat.le_refl 2, h2, by rw [h1]⟩
    · exact ⟨n, by omega, hwrap, mod_self n⟩
  have hmem : q ∈ rs.map seq := by rw [h, mem_range'_1]; omega
  obtain ⟨r, hr, rfl⟩ := mem_map.mp hmem
  have hsorted : rs.Pairwise fun a b => seq a ≤ seq b := by
    rw [← pairwise_map, h]
    exact pairwise_le_range'
  obtain ⟨r', _, hget, hge⟩ := exists_ge_of_mem hn hlen hsorted hr
  rw [hslot] at hget
  intro hscan
  obtain ⟨pre, post, heq, _, hpre⟩ := mem_scan_iff.mp hscan
  rw [heq] at hget
  cases pre with
  | nil =>
    have : r1 = r' := by simpa using hget
    subst this
    omega
  | cons o pre =>
    have : o = some r' := by simpa using hget
    have := hpre r' (by simp [this])
    omega

end PandaGen.Lib.SeqLog
