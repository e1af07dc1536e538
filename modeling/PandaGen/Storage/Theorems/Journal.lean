import PandaGen.Storage.Lemmas.Journal

/-!
# Replay of the journal, and what transactions read
-/

namespace PandaGen.Storage

open Lib Session List RedoLog

namespace JournaledStorage

def NoRecover (_ : Session JournaledStorage) (op : Op) (_ : Response) : Prop := op ≠ .recover

instance (w : Session JournaledStorage) (op : Op) (o : Response) : Decidable (NoRecover w op o) :=
  inferInstanceAs (Decidable (op ≠ .recover))

theorem not_mem_of_noRecover {w0 w tr} (hrun : machine.Run NoRecover w0 tr w) : (.recover, .ok none) ∉ tr := by
  induction hrun with
  | nil => exact not_mem_nil
  | cons _ hG _ ih =>
    intro hmem
    rcases mem_cons.mp hmem with heq | hmem
    · cases heq
      exact hG rfl
    · exact ih hmem

theorem Journaled.fromJournal_cut {w tr} (h : Journaled w tr) {p} (hp : p <+: w.storage.journal) (o) :
    (fromJournal p).objects[o]? = historyOf ((commits (logOf p)).flatMap (writesTo tr)) o := by
  obtain ⟨q, hq⟩ := hp
  have hlog : logOf w.storage.journal = logOf p ++ logOf q := by rw [← hq, logOf, map_append]; rfl
  have hclosed : Closed (logOf p ++ logOf q) := hlog ▸ h.closed
  have hdone : (replay (logOf p)).2 = (commits (logOf p)).flatMap (writesTo tr) := by
    rw [done_replay hclosed.of_append]
    refine flatMap_congr fun t ht => ?_
    rw [← h.writes, hlog, hclosed.writes_append ht]
  rw [fromJournal_objects, getElem?_foldl_pushVersion, hdone]

theorem Journaled.objects_eq {w tr} (h : Journaled w tr) :
    w.storage.objects = (fromJournal w.storage.journal).objects := by
  rw [fromJournal_objects, h.objects]

/-- Every cut of the journal of a run replays to the writes of the transactions committed in it, in the
order of the commits; the whole journal replays to the objects. -/
theorem fromJournal_eq_history {tr : Trace} {w : Session JournaledStorage}
    (hrun : machine.Run NoRecover (start new) tr w) (hids : (begun tr).Nodup) :
    (∀ p, p <+: w.storage.journal → ∀ o : ObjectId,
      (fromJournal p).objects[o]? = historyOf ((commits (logOf p)).flatMap (writesTo tr)) o) ∧
    (fromJournal w.storage.journal).objects = w.storage.objects := by
  have h := (run_journaled hrun hids fun i => not_straddles (not_mem_of_noRecover hrun)).1
  exact ⟨fun p hp o => h.fromJournal_cut hp o, h.objects_eq.symm⟩

theorem fromJournal_eq_history_interleaved : ∃ tr w, machine.Run NoRecover (start new) tr w ∧ begun tr = [⟨1⟩, ⟨2⟩] ∧
    w.storage.journal = [.write ⟨1⟩ ⟨7⟩ ⟨1⟩ [1], .write ⟨2⟩ ⟨7⟩ ⟨2⟩ [2], .commit ⟨2⟩, .write ⟨1⟩ ⟨8⟩ ⟨3⟩ [3],
      .commit ⟨1⟩] ∧
    (fromJournal (w.storage.journal.take 4)).objects[(⟨7⟩ : ObjectId)]? = some [⟨⟨2⟩, [2]⟩] ∧
    (fromJournal w.storage.journal).objects = w.storage.objects := by
  obtain ⟨tr, w, hrun, hbegun, hjournal, hwrites⟩ : ∃ tr w, machine.Run NoRecover (start new) tr w ∧
      begun tr = [⟨1⟩, ⟨2⟩] ∧ w.storage.journal = [.write ⟨1⟩ ⟨7⟩ ⟨1⟩ [1], .write ⟨2⟩ ⟨7⟩ ⟨2⟩ [2], .commit ⟨2⟩,
        .write ⟨1⟩ ⟨8⟩ ⟨3⟩ [3], .commit ⟨1⟩] ∧ writesTo tr ⟨2⟩ = [⟨⟨7⟩, ⟨2⟩, [2]⟩] :=
    Machine.exists_run [.begin ⟨1⟩, .begin ⟨2⟩, .write 0 ⟨7⟩ ⟨1⟩ [1], .write 1 ⟨7⟩ ⟨2⟩ [2], .commit 1,
      .write 0 ⟨8⟩ ⟨3⟩ [3], .commit 0] (by decide +kernel)
  obtain ⟨hcut, hall⟩ := fromJournal_eq_history hrun (by rw [hbegun]; decide)
  refine ⟨tr, w, hrun, hbegun, hjournal, ?_, hall⟩
  have hcommits : commits (logOf (w.storage.journal.take 4)) = [⟨2⟩] := by
    rw [hjournal]
    rfl
  rw [hcut _ ( take_prefix 4 _) ⟨7⟩, hcommits, flatMap_singleton, hwrites]
  decide

/-- Where no transaction straddles a `recover`, the objects are those that the journal replays to, and every
write of a committed transaction is among them. -/
theorem recover_consistent {tr : Trace} {w : Session JournaledStorage}
    (hrun : machine.FreeRun (start new) tr w) (hids : (begun tr).Nodup)
    (hst : ∀ i, ¬ Straddles tr i) : w.storage.objects = (fromJournal w.storage.journal).objects ∧
    ∀ i, (.commit i, .ok none) ∈ tr → ∀ x, WrittenBy tr i x →
      ∃ vs, w.storage.objects[x.objectId]? = some vs ∧ ⟨x.versionId, x.data⟩ ∈ vs := by
  have h := (run_journaled hrun hids hst).1
  refine ⟨h.objects_eq, fun i hcommit x hx => ?_⟩
  have hmem : i ∈ committed tr := mem_filterMap.mpr ⟨_, hcommit, rfl⟩
  obtain ⟨t, ht, hi⟩ := mem_map.mp (h.order ▸ mem_map_of_mem hmem)
  have hwrite : x ∈ writesTo tr t := mem_filterMap.mpr ⟨_, hx, by simp [writeTo, ← hi]⟩
  rw [h.objects_eq, h.fromJournal_cut (prefix_refl _)]
  exact mem_historyOf (mem_flatMap.mpr ⟨t, ht, hwrite⟩)

theorem recover_consistent_then_write : ∃ tr w, machine.FreeRun (start new) tr w ∧
    tr = [(.begin ⟨1⟩, .ok none), (.recover, .ok none), (.write 0 ⟨7⟩ ⟨1⟩ [1], .ok (some ⟨1⟩)),
      (.commit 0, .ok none)] ∧
    (w.storage.objects = (fromJournal w.storage.journal).objects ∧
      ∃ vs, w.storage.objects[(⟨7⟩ : ObjectId)]? = some vs ∧ ⟨⟨1⟩, [1]⟩ ∈ vs) := by
  obtain ⟨_, w, hrun, rfl⟩ : ∃ tr w, machine.FreeRun (start new) tr w ∧
      tr = [(.begin ⟨1⟩, .ok none), (.recover, .ok none), (.write 0 ⟨7⟩ ⟨1⟩ [1], .ok (some ⟨1⟩)),
        (.commit 0, .ok none)] :=
    Machine.exists_run [.begin ⟨1⟩, .recover, .write 0 ⟨7⟩ ⟨1⟩ [1], .commit 0] (by decide +kernel)
  obtain ⟨hobjects, hvisible⟩ := recover_consistent hrun (by decide) (by
    rintro i ⟨_, b, htr, a, c, rfl, x, hx⟩
    -- the only `recover` is the second call
    rcases a with _ | ⟨ev, _ | ⟨_, _ | ⟨_, _ | ⟨_, _⟩⟩⟩⟩ <;> simp at htr
    rw [WrittenBy, mem_singleton, ← htr.1] at hx
    cases hx)
  exact ⟨_, w, hrun, rfl, hobjects, hvisible 0 (by simp) ⟨⟨7⟩, ⟨1⟩, [1]⟩ (by simp [WrittenBy])⟩

/-- `recover` drops the pending write of an active transaction and leaves it in the journal, so the commit
that follows is acknowledged without it, and the journal replays to something else. -/
theorem recover_loses_write : ∃ tr w, machine.FreeRun (start new) tr w ∧
    tr = [(.begin ⟨1⟩, .ok none), (.write 0 ⟨7⟩ ⟨1⟩ [1], .ok (some ⟨1⟩)), (.recover, .ok none),
      (.commit 0, .ok none)] ∧
    w.storage.objects[(⟨7⟩ : ObjectId)]? = none ∧
    (fromJournal w.storage.journal).objects[(⟨7⟩ : ObjectId)]? = some [⟨⟨1⟩, [1]⟩] :=
  Machine.exists_run [.begin ⟨1⟩, .write 0 ⟨7⟩ ⟨1⟩ [1], .recover, .commit 0] (by decide +kernel)

/-! ## What a transaction reads -/

def lastWrite (tr : Trace) (o : ObjectId) (i : Nat) : Option VersionEntry :=
  (begun tr)[i]?.bind fun t => (versionsOf (writesTo tr t) o).getLast?

/-- What the transaction `i` is to see of the object `o`: its own last write, or else that of the transaction
which committed last among those that wrote the object. -/
def visible (tr : Trace) (o : ObjectId) (i : Nat) : Option VersionEntry :=
  (lastWrite tr o i).or ((committed tr).reverse.findSome? (lastWrite tr o))

end JournaledStorage

end PandaGen.Storage
