import PandaGen.Distributed.Sync
import PandaGen.Lib.Latest

/-!
# When merged replicas converge
-/

namespace PandaGen.Distributed.SyncState

open Lib VersionedObject List DeviceLog Set

/-! ## What a compaction keeps -/

variable {s other : SyncState} {o : ObjectId} {r : Option VersionedObject}

def entriesFor (s : SyncState) (d : DeviceId) (o : ObjectId) : List VersionedObject :=
  ((s.logs.filter fun log => log.deviceId == d).flatMap DeviceLog.entries).filter fun e => e.objectId == o

def winners (s : SyncState) (o : ObjectId) : Set VersionedObject :=
  {e | ∃ d, latest timestampNs (s.entriesFor d o) = some e}

def both (s other : SyncState) : SyncState := ⟨s.logs ++ other.logs⟩

theorem entriesFor_both (s other : SyncState) (d o) :
    (s.both other).entriesFor d o = s.entriesFor d o ++ other.entriesFor d o := by
  simp [both, entriesFor]

/-! ## Compaction -/

theorem compactEntry_get (m entry o) : (compactEntry m entry)[o]? =
      if entry.objectId = o then latestStep timestampNs m[o]? entry else m[o]? := by
  rw [compactEntry]
  by_cases ho : entry.objectId = o
  · subst ho
    cases hm : m[entry.objectId]? with
    | none => simp [latestStep]
    | some current =>
      simp only [ge_iff_le, decide_eq_true_eq, latestStep, later]
      split
      · simp
      · exact hm
  · rw [if_neg ho]
    cases hm : m[entry.objectId]? with
    | none => simp [BTreeMap.getElem?_insert, ho]
    | some current =>
      simp only [ge_iff_le, decide_eq_true_eq]
      split
      · rw [BTreeMap.getElem?_insert, if_neg ho]
      · rfl

theorem compact_get (s : SyncState) (o) :
    s.compact[o]? = latest timestampNs (s.allEntries.filter fun e => e.objectId == o) := by
  rw [compact]
  induction s.allEntries using reverseRecOn with
  | nil => simp
  | append_singleton l e ih =>
    rw [foldl_append, foldl_cons, foldl_nil, compactEntry_get, ih, filter_append]
    by_cases he : e.objectId = o <;> simp [he]

def tagged (logs : List DeviceLog) (o : ObjectId) : List (DeviceId × VersionedObject) :=
  (logs.flatMap fun log => log.entries.map fun e => (log.deviceId, e)).filter fun t => t.2.objectId == o

theorem tagged_map (s : SyncState) (o) :
    (tagged s.logs o).map Prod.snd = s.allEntries.filter fun e => e.objectId == o := by
  rw [allEntries]
  induction s.logs with
  | nil => rfl
  | cons log logs ih =>
    rw [tagged, flatMap_cons, filter_append, map_append, flatMap_cons, filter_append, ← ih]
    congr 1
    simp [filter_map, Function.comp_def]

theorem tagged_filter (s : SyncState) (d o) :
    ((tagged s.logs o).filter fun t => t.1 == d).map Prod.snd = s.entriesFor d o := by
  rw [entriesFor]
  induction s.logs with
  | nil => rfl
  | cons log logs ih =>
    rw [tagged, flatMap_cons, filter_append, filter_append, map_append]
    rw [tagged] at ih
    rw [ih]
    by_cases hd : log.deviceId = d <;> simp [hd, filter_map, Function.comp_def]

theorem compact_isLatest (s : SyncState) (o) : IsLatest timestampNs (s.winners o) s.compact[o]? := by
  have hmem : ∀ e ∈ s.winners o, e ∈ s.allEntries.filter fun e => e.objectId == o := by
    rintro e ⟨d, he⟩
    have := mem_of_latest he
    rw [← tagged_filter, mem_map] at this
    obtain ⟨t, ht, rfl⟩ := this
    rw [← tagged_map]
    exact mem_map_of_mem (mem_filter.mp ht).1
  rw [compact_get]
  cases hl : latest timestampNs (s.allEntries.filter fun e => e.objectId == o) with
  | none =>
    rw [latest_eq_none] at hl
    apply eq_empty_iff_forall_notMem.mpr
    intro e he
    rw [hl] at hmem
    cases hmem e he
  | some e =>
    refine ⟨?_, fun x hx => le_of_latest hl (hmem x hx)⟩
    -- the entry that is kept is the latest of its own device
    rw [← tagged_map, latest_map] at hl
    obtain ⟨⟨d, e⟩, ht, rfl⟩ := Option.map_eq_some_iff.mp hl
    have hd := latest_filter (p := fun t => t.1 == d) ht (beq_self_eq_true d)
    refine ⟨d, ?_⟩
    rw [← tagged_filter, latest_map, hd]
    rfl

theorem compact_of_last {front d e} (hlogs : s.logs = front ++ s.logs.filter fun log => log.deviceId == d)
    (he : latest timestampNs (s.entriesFor d o) = some e)
    (hmax : ∀ x ∈ s.winners o, x.timestampNs ≤ e.timestampNs) : s.compact[o]? = some e := by
  have hsplit : s.allEntries.filter (fun e => e.objectId == o) =
      (front.flatMap entries).filter (fun e => e.objectId == o) ++ s.entriesFor d o := by
    rw [allEntries, entriesFor, ← filter_append, ← flatMap_append, ← hlogs]
  have hkept := s.compact_isLatest o
  rw [compact_get] at hkept ⊢
  cases hr : latest timestampNs (s.allEntries.filter fun e => e.objectId == o) with
  | none =>
    rw [hr] at hkept
    exact absurd (show e ∈ s.winners o from ⟨d, he⟩) (hkept ▸ notMem_empty e)
  | some e' =>
    rw [hr] at hkept
    rw [← hr, hsplit, latest_append, he]
    apply latestOf_eq_right
    intro y hy
    refine le_trans (le_of_latest hr ?_) (hmax e' hkept.1)
    rw [hsplit]
    exact mem_append_left _ (mem_of_latest hy)

/-! ## Merge -/

theorem foldl_mergeLog (logs : List DeviceLog) (m : BTreeMap DeviceId (List VersionedObject)) (d) :
    (logs.foldl mergeLog m)[d]?.getD [] =
      m[d]?.getD [] ++ (logs.filter fun log => log.deviceId == d).flatMap entries := by
  induction logs generalizing m with
  | nil => simp
  | cons log logs ih =>
    rw [foldl_cons, ih, mergeLog, BTreeMap.getElem?_insert]
    by_cases hd : log.deviceId = d <;> simp [hd]

variable (order : HashOrder DeviceLog)

theorem filter_order (m : BTreeMap DeviceId (List VersionedObject)) (d) :
    ((order.order (m.toList.map fun e => ⟨e.1, e.2⟩)).filter fun log => log.deviceId == d).flatMap
      DeviceLog.entries = m[d]?.getD [] := by
  have hperm := (order.perm (m.toList.map fun e => ⟨e.1, e.2⟩)).filter fun log => log.deviceId == d
  have hone : (m.toList.map fun e => DeviceLog.mk e.1 e.2).filter (fun log => log.deviceId == d) =
      (m[d]?.map fun entries => DeviceLog.mk d entries).toList := by
    rw [filter_map]
    refine (congrArg (map _) (m.filter_toList d)).trans ?_
    cases m[d]? <;> rfl
  rw [hone] at hperm
  cases hm : m[d]? with
  | none =>
    rw [hm] at hperm
    rw [hperm.eq_nil]
    rfl
  | some entries =>
    rw [hm] at hperm
    rw [perm_singleton.mp hperm]
    simp

theorem entriesFor_merge (s other : SyncState) (d o) :
    (merge order s other).entriesFor d o = s.entriesFor d o ++ other.entriesFor d o := by
  have hfold := foldl_mergeLog (s.logs ++ other.logs) ∅ d
  rw [Std.ExtTreeMap.getElem?_empty, Option.getD_none, nil_append] at hfold
  rw [← entriesFor_both, entriesFor, entriesFor, both, ← hfold, merge, filter_order]

theorem winners_merge (s other : SyncState) (o) : (merge order s other).winners o = (s.both other).winners o := by
  simp only [winners, entriesFor_merge, entriesFor_both]

theorem exists_order_of_isLatest (s other : SyncState) (o) (h : IsLatest timestampNs ((s.both other).winners o) r) :
    ∃ order, (merge order s other).compact[o]? = r := by
  cases r with
  | none =>
    have hc := (merge .listed s other).compact_isLatest o
    rw [winners_merge, show (s.both other).winners o = ∅ from h] at hc
    cases hr : (merge .listed s other).compact[o]? with
    | none => exact ⟨.listed, hr⟩
    | some e =>
      rw [hr] at hc
      exact absurd hc.1 (notMem_empty e)
  | some e =>
    obtain ⟨⟨d, hd⟩, hmax⟩ := h
    -- the log of the device comes last
    refine ⟨.last fun log => log.deviceId == d, ?_⟩
    apply compact_of_last (d := d)
    · simp only [merge, HashOrder.last, filter_append, filter_filter]
      simp
      rfl
    · rw [entriesFor_merge, ← entriesFor_both]
      exact hd
    · rw [winners_merge]
      exact hmax

/-! ## Winners of both -/

theorem winners_both_subset (s other : SyncState) (o) : (s.both other).winners o ⊆ s.winners o ∪ other.winners o := by
  rintro e ⟨d, he⟩
  rw [entriesFor_both, latest_append] at he
  cases latestOf_eq_or timestampNs (latest timestampNs (s.entriesFor d o))
      (latest timestampNs (other.entriesFor d o)) with
  | inl hleft => exact .inl ⟨d, hleft.symm.trans he⟩
  | inr hright => exact .inr ⟨d, hright.symm.trans he⟩

theorem exists_winners_both {x} (hx : x ∈ s.winners o ∪ other.winners o) :
    ∃ e ∈ (s.both other).winners o, x.timestampNs ≤ e.timestampNs := by
  obtain ⟨d, hd⟩ : ∃ d, x ∈ latest timestampNs (s.entriesFor d o) ∨
      x ∈ latest timestampNs (other.entriesFor d o) := by
    cases hx with
    | inl hx => exact ⟨hx.choose, .inl hx.choose_spec⟩
    | inr hx => exact ⟨hx.choose, .inr hx.choose_spec⟩
  obtain ⟨e, he, hle⟩ := exists_latestOf_ge timestampNs hd
  refine ⟨e, ⟨d, ?_⟩, hle⟩
  rw [entriesFor_both, latest_append]
  exact he

theorem mem_winners_both {e} (he : e ∈ other.winners o) (hmax : ∀ x ∈ s.winners o, x.timestampNs ≤ e.timestampNs) :
    e ∈ (s.both other).winners o := by
  obtain ⟨d, hd⟩ := he
  refine ⟨d, ?_⟩
  rw [entriesFor_both, latest_append, hd]
  exact latestOf_eq_right fun y hy => hmax y ⟨d, hy⟩

theorem isLatest_union_of_both (h : IsLatest timestampNs ((s.both other).winners o) r) :
    IsLatest timestampNs (s.winners o ∪ other.winners o) r := by
  cases r with
  | none =>
    apply eq_empty_iff_forall_notMem.mpr
    intro x hx
    obtain ⟨e, he, -⟩ := exists_winners_both hx
    exact eq_empty_iff_forall_notMem.mp h e he
  | some e =>
    refine ⟨winners_both_subset s other o h.1, fun x hx => ?_⟩
    obtain ⟨e', he', hle⟩ := exists_winners_both hx
    exact hle.trans (h.2 e' he')

theorem isLatest_both_of_union (h : IsLatest timestampNs (s.winners o ∪ other.winners o) r) :
    IsLatest timestampNs ((s.both other).winners o) r ∨ IsLatest timestampNs ((other.both s).winners o) r := by
  cases r with
  | none => exact .inl (subset_eq_empty (winners_both_subset s other o) h)
  | some e =>
    cases h.1 with
    | inl he =>
      refine .inr ⟨mem_winners_both he fun x hx => h.2 x (.inr hx), fun x hx => h.2 x ?_⟩
      exact (winners_both_subset other s o hx).symm
    | inr he =>
      refine .inl ⟨mem_winners_both he fun x hx => h.2 x (.inl hx), fun x hx => h.2 x ?_⟩
      exact winners_both_subset s other o hx

/-- Two families of states that each keep a winner of `E`, and together may keep any, compact to the same map
exactly where the winners are settled. -/
theorem compact_eq_iff {ι ι' : Type} [Nonempty ι] [Nonempty ι'] {E : ObjectId → Set VersionedObject}
    (f : ι → SyncState) (f' : ι' → SyncState) (hf : ∀ i o, IsLatest timestampNs (E o) (f i).compact[o]?)
    (hf' : ∀ i o, IsLatest timestampNs (E o) (f' i).compact[o]?) (hall : ∀ o r, IsLatest timestampNs (E o) r →
      (∃ i, (f i).compact[o]? = r) ∨ ∃ i, (f' i).compact[o]? = r) :
    (∀ i i', (f i).compact = (f' i').compact) ↔ ∀ o, Settled timestampNs (E o) := by
  constructor
  · intro h o
    obtain ⟨i0⟩ := ‹Nonempty ι›
    obtain ⟨j0⟩ := ‹Nonempty ι'›
    -- everything that may be kept is what the first state of the first family keeps
    have hone : ∀ r, IsLatest timestampNs (E o) r → r = (f i0).compact[o]? := by
      intro r hr
      cases hall o r hr with
      | inl hleft =>
        obtain ⟨i, rfl⟩ := hleft
        rw [h i j0, h i0 j0]
      | inr hright =>
        obtain ⟨j, rfl⟩ := hright
        rw [h i0 j]
    exact settled_iff.mpr fun r r' hr hr' => (hone r hr).trans (hone r' hr').symm
  · intro h i j
    refine Std.ExtTreeMap.ext_getElem? fun o => ?_
    exact settled_iff.mp (h o) _ _ (hf i o) (hf' j o)

instance : Nonempty (HashOrder DeviceLog) := ⟨.listed⟩

theorem merge_isLatest (order s other o) :
    IsLatest timestampNs ((s.both other).winners o) (merge order s other).compact[o]? := by
  rw [← winners_merge order]
  exact compact_isLatest _ o

theorem merge_comm_iff (a b : SyncState) : (∀ o1 o2, (merge o1 a b).compact = (merge o2 b a).compact) ↔
      ∀ o, Settled timestampNs (a.winners o ∪ b.winners o) := by
  apply compact_eq_iff (merge · a b) (merge · b a)
  · exact fun order o => isLatest_union_of_both (merge_isLatest order a b o)
  · intro order o
    rw [union_comm]
    exact isLatest_union_of_both (merge_isLatest order b a o)
  · intro o r hr
    cases isLatest_both_of_union hr with
    | inl hr => exact .inl (exists_order_of_isLatest a b o hr)
    | inr hr => exact .inr (exists_order_of_isLatest b a o hr)

theorem merge_assoc_iff (a b c : SyncState) :
    (∀ o1 o2 o3 o4, (merge o2 (merge o1 a b) c).compact = (merge o4 a (merge o3 b c)).compact) ↔
      ∀ o, Settled timestampNs (((a.both b).both c).winners o) := by
  have hleft : ∀ o1 o, ((merge o1 a b).both c).winners o = ((a.both b).both c).winners o := by
    intro o1 o
    simp only [winners, entriesFor_both, entriesFor_merge]
  have hright : ∀ o3 o, (a.both (merge o3 b c)).winners o = ((a.both b).both c).winners o := by
    intro o3 o
    simp only [winners, entriesFor_both, entriesFor_merge, List.append_assoc]
  rw [← compact_eq_iff (fun p : HashOrder DeviceLog × HashOrder DeviceLog => merge p.2 (merge p.1 a b) c)
    fun p : HashOrder DeviceLog × HashOrder DeviceLog => merge p.2 a (merge p.1 b c)]
  · exact ⟨fun h p q => h p.1 p.2 q.1 q.2, fun h o1 o2 o3 o4 => h (o1, o2) (o3, o4)⟩
  · intro p o
    rw [← hleft p.1]
    exact merge_isLatest _ _ _ _
  · intro p o
    rw [← hright p.1]
    exact merge_isLatest _ _ _ _
  · intro o r hr
    rw [← hleft .listed] at hr
    obtain ⟨order, horder⟩ := exists_order_of_isLatest _ _ o hr
    exact .inl ⟨(.listed, order), horder⟩

theorem merge_self_iff (a : SyncState) :
    (∀ o1, (merge o1 a a).compact = a.compact) ↔ ∀ o, Settled timestampNs (a.winners o) := by
  have hself : ∀ o, (a.both a).winners o = a.winners o := by
    intro o
    simp only [winners, entriesFor_both, latest_append, latestOf_self]
  rw [← compact_eq_iff (fun o1 => merge o1 a a) fun _ : Unit => a]
  · exact ⟨fun h o1 _ => h o1, fun h o1 => h o1 ()⟩
  · intro o1 o
    rw [← hself]
    exact merge_isLatest _ _ _ _
  · exact fun _ o => compact_isLatest a o
  · intro o r hr
    rw [← hself] at hr
    exact .inl (exists_order_of_isLatest a a o hr)

/-- The compaction of a merge depends neither on the order of the exchanges nor on their number, whatever order
the hash map yields, exactly where the devices leave no tie: of each object, all entries with the greatest
timestamp that are the latest of a device are the same entry. -/
theorem merge_converges_iff (a b c : SyncState) : ((∀ o₁ o₂, (merge o₁ a b).compact = (merge o₂ b a).compact) ∧
      (∀ o₁ o₂ o₃ o₄, (merge o₂ (merge o₁ a b) c).compact = (merge o₄ a (merge o₃ b c)).compact) ∧
      ∀ o₁, (merge o₁ a a).compact = a.compact) ↔
    ((∀ o, Settled timestampNs (a.winners o ∪ b.winners o)) ∧
      (∀ o, Settled timestampNs (((a.both b).both c).winners o)) ∧
      ∀ o, Settled timestampNs (a.winners o)) :=
  and_congr (merge_comm_iff a b) (and_congr (merge_assoc_iff a b c) (merge_self_iff a))

theorem merge_of_single {order s other} (log)
    (h : (((s.logs ++ other.logs).foldl mergeLog ∅).toList.map fun e => DeviceLog.mk e.1 e.2) = [log]) :
    merge order s other = ⟨[log]⟩ := by
  have hperm := order.perm (((s.logs ++ other.logs).foldl mergeLog ∅).toList.map fun e => DeviceLog.mk e.1 e.2)
  rw [h] at hperm
  rw [merge, h, List.perm_singleton.mp hperm]

/-- Two replicas hold different versions of an object with one timestamp, in logs of one device. The one that
is merged in last is kept. -/
theorem merge_order_shows : ∃ a b, (default.addDevice ⟨1⟩).append ⟨1⟩ ⟨⟨1⟩, ⟨1⟩, [1], 10⟩ = .ok a ∧
      (default.addDevice ⟨1⟩).append ⟨1⟩ ⟨⟨1⟩, ⟨2⟩, [2], 10⟩ = .ok b ∧
      ∀ o₁ o₂, (merge o₁ a b).compact ≠ (merge o₂ b a).compact := by
  refine ⟨_, _, rfl, rfl, fun o₁ o₂ heq => ?_⟩
  rw [merge_of_single ⟨⟨1⟩, [⟨⟨1⟩, ⟨1⟩, [1], 10⟩, ⟨⟨1⟩, ⟨2⟩, [2], 10⟩]⟩ (by decide +kernel),
    merge_of_single ⟨⟨1⟩, [⟨⟨1⟩, ⟨2⟩, [2], 10⟩, ⟨⟨1⟩, ⟨1⟩, [1], 10⟩]⟩ (by decide +kernel)] at heq
  have hget := congrArg (fun m : BTreeMap ObjectId VersionedObject => m[(⟨1⟩ : ObjectId)]?) heq
  revert hget
  decide +kernel

end PandaGen.Distributed.SyncState
