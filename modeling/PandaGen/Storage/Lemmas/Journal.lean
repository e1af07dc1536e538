import PandaGen.Lib.RedoLog
import PandaGen.Storage.JournaledStorage

/-!
# The journal as a redo log

`recover` replays the journal.
-/

namespace PandaGen.Storage

open Lib Proc Session Option List RedoLog Function Transaction

variable {t : TransactionId}

/-! ## Version histories -/

def versionsOf (ws : List PendingWrite) (o : ObjectId) : List VersionEntry :=
  (ws.filter (·.objectId = o)).map fun w => ⟨w.versionId, w.data⟩

def historyOf (ws : List PendingWrite) (o : ObjectId) : Option (List VersionEntry) :=
  if versionsOf ws o = [] then none else some (versionsOf ws o)

variable (ws : List PendingWrite)

theorem getD_historyOf (o) : (historyOf ws o).getD [] = versionsOf ws o := by
  rw [historyOf]
  split
  · rename_i h
    exact h.symm
  · rfl

theorem getElem?_foldl_pushVersion (o) : (ws.foldl pushVersion ∅)[o]? = historyOf ws o := by
  induction ws using reverseRecOn with
  | nil => exact Std.ExtTreeMap.getElem?_empty
  | append_singleton ws w ih =>
    rw [foldl_append]
    show (pushVersion (ws.foldl pushVersion ∅) w)[o]? = _
    rw [pushVersion, BTreeMap.getElem?_insert]
    split
    · rename_i h
      rw [h, ih, getD_historyOf]
      simp [historyOf, versionsOf, h]
    · rename_i h
      simpa [historyOf, versionsOf, h] using ih

theorem mem_historyOf {ws x} (hx : x ∈ ws) : ∃ vs, historyOf ws x.objectId = some vs ∧ ⟨x.versionId, x.data⟩ ∈ vs := by
  have hmem : (⟨x.versionId, x.data⟩ : VersionEntry) ∈ versionsOf ws x.objectId :=
    mem_map.mpr ⟨x, mem_filter.mpr ⟨hx, by simp⟩, rfl⟩
  refine ⟨_, if_neg ?_, hmem⟩
  intro hnil
  rw [hnil] at hmem
  cases hmem

/-! ## Recovery -/

def JournalEntry.toEntry : JournalEntry → Entry TransactionId PendingWrite
  | .write t o v data => .write t ⟨o, v, data⟩
  | .commit t => .commit t

namespace JournaledStorage

def logOf (journal : List JournalEntry) : List (Entry TransactionId PendingWrite) :=
  journal.map JournalEntry.toEntry

theorem getD_pushPending (p t t' x) :
    (pushPending p t x)[t']?.getD [] = if t = t' then p[t']?.getD [] ++ [x] else p[t']?.getD [] := by
  rw [pushPending, BTreeMap.getElem?_insert]
  split
  · rename_i h
    rw [h, getD_some]
  · rfl

theorem getD_erase (p : BTreeMap TransactionId (List PendingWrite)) (t t') :
    (p.erase t)[t']?.getD [] = if t = t' then [] else p[t']?.getD [] := by
  rw [BTreeMap.getElem?_erase]
  split <;> rfl

structure Replays (st : BTreeMap TransactionId (List PendingWrite) × BTreeMap ObjectId (List VersionEntry))
    (a : (TransactionId → List PendingWrite) × List PendingWrite) : Prop where
  waiting : ∀ t : TransactionId, st.1[t]?.getD [] = a.1 t
  done : st.2 = a.2.foldl pushVersion ∅

theorem Replays.step {st a} (h : Replays st a) (en : JournalEntry) :
    Replays (recoverEntry st en) (redo a en.toEntry) := by
  obtain ⟨writes, objects⟩ := st
  obtain ⟨waiting, done⟩ := a
  have hwait : ∀ t : TransactionId, writes[t]?.getD [] = waiting t := h.waiting
  cases en with
  | write t o v data =>
    refine ⟨fun t' => ?_, h.done⟩
    simp only [recoverEntry, getD_pushPending, JournalEntry.toEntry, redo, update_apply, hwait]
    by_cases ht : t = t'
    · rw [if_pos ht, if_pos ht.symm, ht]
    · rw [if_neg ht, if_neg (Ne.symm ht)]
  | commit t =>
    have hdone : objects = done.foldl pushVersion ∅ := h.done
    simp only [JournalEntry.toEntry, redo, ← hwait t, recoverEntry]
    cases hp : writes[t]? with
    | some pending =>
      refine ⟨fun t' => ?_, ?_⟩
      · simp only [getD_erase, update_apply, hwait]
        by_cases ht : t = t'
        · rw [if_pos ht, if_pos ht.symm]
        · rw [if_neg ht, if_neg (Ne.symm ht)]
      · rw [foldl_append, hdone, getD_some]
    | none =>
      refine ⟨fun t' => ?_, ?_⟩
      · simp only [update_apply]
        by_cases ht : t' = t
        · rw [if_pos ht, ht, hp, getD_none]
        · rw [if_neg ht, hwait]
      · rw [getD_none, append_nil, hdone]

theorem foldl_recoverEntry (journal) : Replays (journal.foldl recoverEntry (∅, ∅)) (replay (logOf journal)) := by
  rw [replay, logOf, foldl_map]
  exact foldl_rel ⟨fun t => by simp, rfl⟩ fun en _ _ _ h => h.step en

theorem fromJournal_objects (journal) :
    (fromJournal journal).objects = (replay (logOf journal)).2.foldl pushVersion ∅ :=
  (foldl_recoverEntry journal).done

variable (s : JournaledStorage)

/-! ## What a call can do -/

def logWrite (s : JournaledStorage) (t : TransactionId) (x : PendingWrite) : JournaledStorage :=
  { s with
    pending := pushPending s.pending t x
    journal := s.journal ++ [.write t x.objectId x.versionId x.data] }

structure Committed (s : JournaledStorage) (t : TransactionId) (s' : JournaledStorage) : Prop where
  objects : s'.objects = (s.pending[t]?.getD []).foldl pushVersion s.objects
  journal : s'.journal = s.journal ++ [.commit t]
  pending : ∀ t' : TransactionId, s'.pending[t']?.getD [] = if t = t' then [] else s.pending[t']?.getD []

inductive Effect (w : Session JournaledStorage) : Op → Response → Session JournaledStorage → Prop
  | began {id} : Effect w (.begin id) (.ok none) ⟨w.storage, w.txs ++ [Transaction.new id]⟩
  | wrote {i tx o v data} : w.txs[i]? = some tx → tx.state = .active →
      Effect w (.write i o v data) (.ok (some v))
        ⟨w.storage.logWrite tx.id ⟨o, v, data⟩, w.txs.set i { tx with modified := tx.modified ++ [o] }⟩
  | committed {i tx s'} : w.txs[i]? = some tx → tx.state = .active → w.storage.Committed tx.id s' →
      Effect w (.commit i) (.ok none) ⟨s', w.txs.set i { tx with state := .committed }⟩
  | rolledBack {i tx} : w.txs[i]? = some tx → tx.state = .active →
      Effect w (.rollback i) (.ok none) ⟨{ w.storage with pending := w.storage.pending.erase tx.id },
        w.txs.set i { tx with state := .rolledBack, modified := [] }⟩
  | refused {op e} : (∀ id, op ≠ .begin id) → Effect w op (.error e) w
  | recovered : Effect w .recover (.ok none) ⟨w.storage.recover, w.txs⟩

theorem applyPending_committed (t) :
    s.Committed t { s.applyPending t with journal := (s.applyPending t).journal ++ [.commit t] } := by
  rw [applyPending]
  cases hp : s.pending[t]? with
  | some pending => exact ⟨by rw [hp]; rfl, rfl, fun t' => getD_erase s.pending t t'⟩
  | none =>
    refine ⟨by rw [hp]; rfl, rfl, fun t' => ?_⟩
    by_cases ht : t = t'
    · rw [if_pos ht, ← ht, hp, getD_none]
    · rw [if_neg ht]

variable {w w' : Session JournaledStorage} {op : Op} {o : Response}

theorem step_effect (h : step w op = some (o, w')) : Effect w op o w' := by
  cases op with
  | begin id =>
    cases h
    exact .began
  | write i objectId versionId data =>
    obtain ⟨tx, htx, ⟨-, rfl, rfl⟩ | ⟨hactive, rfl, rfl⟩⟩ := call_active h fun tx hactive => by
      rw [modify_active hactive]; rfl
    · exact .refused (by simp)
    · exact .wrote htx hactive
  | commit i =>
    obtain ⟨tx, htx, ⟨-, rfl, rfl⟩ | ⟨hactive, rfl, rfl⟩⟩ := call_active h fun tx hactive => by
      rw [commit_active hactive]; rfl
    · exact .refused (by simp)
    · exact .committed htx hactive (w.storage.applyPending_committed tx.id)
  | rollback i =>
    obtain ⟨tx, htx, ⟨-, rfl, rfl⟩ | ⟨hactive, rfl, rfl⟩⟩ := call_active h fun tx hactive => by
      rw [rollback_active hactive]; rfl
    · exact .refused (by simp)
    · exact .rolledBack htx hactive
  | recover =>
    cases h
    exact .recovered

end JournaledStorage

/-! ## The writes of a run -/

def writeTo (ids : List TransactionId) (t : TransactionId) : Op × Response → Option PendingWrite
  | (.write i o v data, .ok _) => if ids[i]? = some t then some ⟨o, v, data⟩ else none
  | _ => none

def writesTo (tr : Trace) (t : TransactionId) : List PendingWrite :=
  tr.filterMap (writeTo (begun tr) t)

theorem begun_concat (tr ev) : begun (tr ++ [ev]) = begun tr ++ (begunBy ev).toList := by
  cases h : begunBy ev <;> simp [h, begun]

theorem writeTo_eq_none {ids ev} (h : ∀ i o v data r, ev ≠ (.write i o v data, .ok r)) : writeTo ids t ev = none := by
  rcases ev with ⟨_ | ⟨i, o, v, data⟩ | _ | _ | _, _ | r⟩ <;> try rfl
  exact absurd rfl (h i o v data r)

theorem writesTo_concat {tr ev}
    (hrange : ∀ i o v data r, (Op.write i o v data, Except.ok r) ∈ tr → i < (begun tr).length ∧ r = some v) :
    writesTo (tr ++ [ev]) t = writesTo tr t ++ (writeTo (begun tr ++ (begunBy ev).toList) t ev).toList := by
  have hold : tr.filterMap (writeTo (begun tr ++ (begunBy ev).toList) t) = writesTo tr t := by
    refine filterMap_congr fun ev' hev' => ?_
    rcases ev' with ⟨_ | ⟨i, o, v, data⟩ | _ | _ | _, _ | _⟩ <;> try rfl
    rw [writeTo, writeTo, getElem?_append_left (hrange _ _ _ _ _ hev').1]
  rw [writesTo, begun_concat, filterMap_append, hold]
  cases h : writeTo (begun tr ++ (begunBy ev).toList) t ev <;> simp [h]

theorem writesTo_concat_other {tr ev}
    (hrange : ∀ i o v data r, (Op.write i o v data, Except.ok r) ∈ tr → i < (begun tr).length ∧ r = some v)
    (hwrite : ∀ i o v data r, ev ≠ (.write i o v data, .ok r)) : writesTo (tr ++ [ev]) t = writesTo tr t := by
  rw [writesTo_concat hrange, writeTo_eq_none hwrite, toList_none, append_nil]

def committedBy : Op × Response → Option Nat
  | (.commit i, .ok _) => some i
  | _ => none

def committed (tr : Trace) : List Nat := tr.filterMap committedBy

/-! ## Runs -/

namespace JournaledStorage

variable {i j : Nat} {tx : Transaction}

/-- The journal of a session holds the writes of its run, and its objects are those that `recover` would
find. -/
structure Journaled (w : Session JournaledStorage) (tr : Trace) : Prop where
  ids : w.txs.map Transaction.id = begun tr
  range : ∀ i o v data r, (Op.write i o v data, Except.ok r) ∈ tr → i < (begun tr).length ∧ r = some v
  closed : Closed (logOf w.storage.journal)
  final : ∀ (j : Nat) tx, w.txs[j]? = some tx → tx.state = .active →
    tx.id ∉ commits (logOf w.storage.journal)
  writes : ∀ t, writes (logOf w.storage.journal) t = writesTo tr t
  order : (committed tr).map ((begun tr)[·]?) = (commits (logOf w.storage.journal)).map some
  objects : w.storage.objects = (replay (logOf w.storage.journal)).2.foldl pushVersion ∅

variable {w w' : Session JournaledStorage} {op : Op} {o : Response} {tr : Trace}

theorem Journaled.start : Journaled (Session.start new) [] where
  ids := rfl
  range _ _ _ _ _ h := absurd h not_mem_nil
  closed := .nil
  final j tx h := by simp [Session.start] at h
  writes _ := rfl
  order := rfl
  objects := rfl

def Continues (txs txs' : List Transaction) : Prop :=
  txs'.map Transaction.id = txs.map Transaction.id ∧
    ∀ (j : Nat) tx', txs'[j]? = some tx' → tx'.state = .active →
      ∃ tx, txs[j]? = some tx ∧ tx.state = .active ∧ tx.id = tx'.id

theorem Continues.refl (txs) : Continues txs txs :=
  ⟨rfl, fun _ tx htx hactive => ⟨tx, htx, hactive, rfl⟩⟩

theorem Continues.set {txs tx'} (htx : txs[i]? = some tx) (hactive : tx.state = .active) (hid : tx'.id = tx.id) :
    Continues txs (txs.set i tx') := by
  constructor
  · have hget : (txs.map Transaction.id)[i]? = some tx.id := by rw [List.getElem?_map, htx]; rfl
    obtain ⟨_, hget⟩ := List.getElem?_eq_some_iff.mp hget
    rw [List.map_set, hid, ← hget]
    exact List.set_getElem_self _
  · intro j tx1 htx1 hactive1
    rw [List.getElem?_set] at htx1
    split at htx1
    · rename_i hij
      subst hij
      split at htx1
      · obtain rfl := some.inj htx1
        exact ⟨tx, htx, hactive, hid.symm⟩
      · cases htx1
    · exact ⟨tx1, htx1, hactive1, rfl⟩

section

variable (h : Journaled w tr)
include h

theorem Journaled.getElem?_begun (htx : w.txs[i]? = some tx) : (begun tr)[i]? = some tx.id := by
  rw [← h.ids, getElem?_map, htx]
  rfl

theorem Journaled.index_eq (hids : (begun tr).Nodup)
    (htx : w.txs[i]? = some tx) (hj : (begun tr)[j]? = some tx.id) : i = j :=
  (List.getElem?_inj (List.getElem?_eq_some_iff.mp (h.getElem?_begun htx)).1 hids).mp
    ((h.getElem?_begun htx).trans hj.symm)

theorem Journaled.ne_of_ended (hids : (begun tr).Nodup) {tx1 tx'} (htx : w.txs[i]? = some tx)
    (hended : tx1.state ≠ .active) (htxs : Continues w.txs (w.txs.set i tx1))
    (htx' : (w.txs.set i tx1)[j]? = some tx') (hactive' : tx'.state = .active) : tx.id ≠ tx'.id := by
  intro heq
  obtain ⟨tx0, htx0, _, hid⟩ := htxs.2 j tx' htx' hactive'
  obtain rfl : i = j := h.index_eq hids htx (by rw [h.getElem?_begun htx0, hid, heq])
  rw [List.getElem?_set_self (List.getElem?_eq_some_iff.mp htx).1] at htx'
  cases htx'
  exact hended hactive'

/-! ### One more event -/

theorem Journaled.range_concat {ev}
    (hev : ∀ i o v data r, ev = (.write i o v data, .ok r) → i < (begun tr).length ∧ r = some v) :
    ∀ i o v data r, (Op.write i o v data, Except.ok r) ∈ tr ++ [ev] →
      i < (begun (tr ++ [ev])).length ∧ r = some v := by
  intro i o v data r hmem
  have hwritten : i < (begun tr).length ∧ r = some v := by
    rcases mem_append.mp hmem with hmem | hmem
    · exact h.range i o v data r hmem
    · exact hev i o v data r (mem_singleton.mp hmem).symm
  rw [begun_concat, length_append]
  exact ⟨Nat.lt_add_right _ hwritten.1, hwritten.2⟩

theorem Journaled.order_concat {ev} (ts) (hev : (committedBy ev).toList.map ((begun (tr ++ [ev]))[·]?) = ts.map some) :
    (committed (tr ++ [ev])).map ((begun (tr ++ [ev]))[·]?) =
      (RedoLog.commits (logOf w.storage.journal) ++ ts).map some := by
  have hlast : committed (tr ++ [ev]) = committed tr ++ (committedBy ev).toList := by
    rw [committed, filterMap_append]
    cases h : committedBy ev <;> simp [h, committed]
  rw [hlast, map_append, map_append, hev, ← h.order]
  refine congrArg (· ++ _) (map_congr_left fun j hj => ?_)
  obtain ⟨t, -, ht⟩ := mem_map.mp (h.order ▸ mem_map_of_mem hj)
  rw [begun_concat, List.getElem?_append_left (List.getElem?_eq_some_iff.mp ht.symm).1]

theorem Journaled.final_of_continues {txs} (htxs : Continues w.txs txs) (htx : txs[j]? = some tx)
    (hactive : tx.state = .active) : tx.id ∉ commits (logOf w.storage.journal) := by
  obtain ⟨tx0, htx0, hactive0, hid⟩ := htxs.2 j tx htx hactive
  rw [← hid]
  exact h.final j tx0 htx0 hactive0

theorem Journaled.writesTo_write (htx : w.txs[i]? = some tx) (o v data t) :
    writesTo (tr ++ [(.write i o v data, .ok (some v))]) t =
      if tx.id = t then writesTo tr t ++ [⟨o, v, data⟩] else writesTo tr t := by
  rw [writesTo_concat h.range]
  simp only [begunBy, toList_none, append_nil, writeTo, h.getElem?_begun htx, some.injEq]
  split <;> simp

theorem Journaled.other {ev} (hbegun : begunBy ev = none)
    (hwrite : ∀ i o v data r, ev ≠ (.write i o v data, .ok r)) (hcommit : committedBy ev = none)
    (htxs : Continues w.txs w'.txs) (hjournal : w'.storage.journal = w.storage.journal)
    (hobjects : w'.storage.objects = (RedoLog.replay (logOf w.storage.journal)).2.foldl pushVersion ∅) :
    Journaled w' (tr ++ [ev]) := by
  have hb : begun (tr ++ [ev]) = begun tr := by rw [begun_concat, hbegun]; simp
  constructor
  case ids => rw [htxs.1, h.ids, hb]
  case range => exact h.range_concat fun i o v data r hev => absurd hev (hwrite i o v data r)
  case closed =>
    rw [hjournal]
    exact h.closed
  case final =>
    intro j tx htx hactive
    rw [hjournal]
    exact h.final_of_continues htxs htx hactive
  case writes =>
    intro t
    rw [hjournal, h.writes, writesTo_concat_other h.range hwrite]
  case order =>
    rw [h.order_concat [] (by rw [hcommit]; rfl), append_nil, hjournal]
  case objects =>
    rw [hjournal]
    exact hobjects

theorem Journaled.write {o v} {data} (htx : w.txs[i]? = some tx) (hactive : tx.state = .active) :
    Journaled ⟨w.storage.logWrite tx.id ⟨o, v, data⟩, w.txs.set i { tx with modified := tx.modified ++ [o] }⟩
      (tr ++ [(.write i o v data, .ok (some v))]) := by
  have htxs : Continues w.txs (w.txs.set i { tx with modified := tx.modified ++ [o] }) := .set htx hactive rfl
  have hb : begun (tr ++ [(.write i o v data, .ok (some v))]) = begun tr := by simp [begun_concat, begunBy]
  have hlog : logOf (w.storage.logWrite tx.id ⟨o, v, data⟩).journal =
      logOf w.storage.journal ++ [.write tx.id ⟨o, v, data⟩] := List.map_append
  constructor
  case ids => rw [htxs.1, h.ids, hb]
  case range =>
    refine h.range_concat fun _ _ _ _ _ hev => ?_
    cases hev
    exact ⟨(List.getElem?_eq_some_iff.mp (h.getElem?_begun htx)).1, rfl⟩
  case closed =>
    rw [hlog]
    exact RedoLog.closed_concat.mpr ⟨h.closed, h.final i tx htx hactive⟩
  case final =>
    intro j tx' htx' hactive'
    rw [hlog, RedoLog.commits_concat_write]
    exact h.final_of_continues htxs htx' hactive'
  case writes =>
    intro t
    rw [hlog, h.writesTo_write htx, RedoLog.writes_concat_write, h.writes]
  case order => rw [h.order_concat [] rfl, hlog, RedoLog.commits_concat_write, append_nil]
  case objects =>
    rw [hlog, RedoLog.replay_concat]
    exact h.objects

theorem Journaled.commit (hids : (begun tr).Nodup) {s'} (htx : w.txs[i]? = some tx) (hactive : tx.state = .active)
    (hpend : w.storage.pending[tx.id]?.getD [] = RedoLog.writes (logOf w.storage.journal) tx.id)
    (hc : w.storage.Committed tx.id s') :
    Journaled ⟨s', w.txs.set i { tx with state := .committed }⟩ (tr ++ [(.commit i, .ok none)]) := by
  have htxs : Continues w.txs (w.txs.set i { tx with state := .committed }) := .set htx hactive rfl
  have hb : begun (tr ++ [(.commit i, .ok none)]) = begun tr := by simp [begun_concat, begunBy]
  have hi := h.getElem?_begun htx
  have hlog : logOf s'.journal = logOf w.storage.journal ++ [.commit tx.id] := by
    rw [hc.journal, logOf, map_append]
    rfl
  have hnot := h.final i tx htx hactive
  constructor
  case ids => rw [htxs.1, h.ids, hb]
  case range => exact h.range_concat (by simp)
  case closed =>
    rw [hlog]
    exact RedoLog.closed_concat.mpr ⟨h.closed, hnot⟩
  case final =>
    intro j tx' htx' hactive' hmem
    rw [hlog, RedoLog.commits_concat_commit] at hmem
    rcases mem_append.mp hmem with hmem | hmem
    · exact h.final_of_continues htxs htx' hactive' hmem
    · exact h.ne_of_ended hids htx (by simp) htxs htx' hactive' (mem_singleton.mp hmem).symm
  case writes =>
    intro t
    rw [hlog, writesTo_concat_other h.range (by simp), RedoLog.writes_concat_commit, h.writes]
  case order =>
    rw [hlog, RedoLog.commits_concat_commit]
    exact h.order_concat [tx.id] (congrArg (fun ids => [ids[i]?]) hb |>.trans (congrArg (fun t => [t]) hi))
  case objects =>
    show s'.objects = _
    have hwait := RedoLog.waiting_replay h.closed tx.id
    rw [if_neg hnot, ← hpend] at hwait
    rw [hc.objects, h.objects, hlog, RedoLog.replay_concat]
    simp only [RedoLog.redo]
    rw [foldl_append, hwait]

theorem Journaled.begin {id} (hnew : id ∉ begun tr) :
    Journaled ⟨w.storage, w.txs ++ [Transaction.new id]⟩ (tr ++ [(.begin id, .ok none)]) := by
  have hb : begun (tr ++ [(.begin id, .ok none)]) = begun tr ++ [id] := by simp [begun_concat, begunBy]
  constructor
  case ids =>
    rw [hb, ← h.ids, map_append]
    rfl
  case range => exact h.range_concat (by simp)
  case closed => exact h.closed
  case final =>
    intro j tx htx hactive
    rw [getElem?_append] at htx
    split at htx
    · exact h.final j tx htx hactive
    · have hmem := mem_of_getElem? htx
      obtain rfl := mem_singleton.mp hmem
      intro hmem
      obtain ⟨j, -, hj⟩ := mem_map.mp (h.order ▸ mem_map_of_mem hmem)
      exact hnew (mem_of_getElem? hj)
  case writes =>
    intro t
    rw [h.writes, writesTo_concat_other h.range (by simp)]
  case order => rw [h.order_concat [] rfl, append_nil]
  case objects => exact h.objects

end

/-! ## The pending writes -/

def CutOff (tr : Trace) (i : Nat) : Prop :=
  ∃ a b, tr = a ++ (.recover, .ok none) :: b ∧ ∃ x, WrittenBy a i x

/-- The transaction `i` wrote before a call of `recover` and was committed after it. -/
def Straddles (tr : Trace) (i : Nat) : Prop :=
  ∃ a b, tr = a ++ (.commit i, .ok none) :: b ∧ CutOff a i

theorem CutOff.append (h : CutOff tr i) (tr') : CutOff (tr ++ tr') i := by
  obtain ⟨a, b, rfl, hx⟩ := h
  exact ⟨a, b ++ tr', by simp, hx⟩

theorem Straddles.append (h : Straddles tr i) (tr') : Straddles (tr ++ tr') i := by
  obtain ⟨a, b, rfl, hc⟩ := h
  exact ⟨a, b ++ tr', by simp, hc⟩

theorem not_straddles (h : (.recover, .ok none) ∉ tr) : ¬ Straddles tr i := by
  rintro ⟨_, b, rfl, a, c, rfl, _⟩
  exact h (by simp)

structure Waiting (w : Session JournaledStorage) (tr : Trace) : Prop where
  known : ∀ t, t ∉ begun tr → w.storage.pending[t]?.getD [] = []
  waits : ∀ (j : Nat) tx, w.txs[j]? = some tx → tx.state = .active →
    w.storage.pending[tx.id]?.getD [] = writesTo tr tx.id ∨ CutOff tr j

theorem Waiting.start : Waiting (Session.start new) [] where
  known _ _ := by simp [Session.start, new]
  waits j tx h := by simp [Session.start] at h

theorem mem_begun_of_writesTo {x} (h : x ∈ writesTo tr t) :
    ∃ i r, (.write i x.objectId x.versionId x.data, .ok r) ∈ tr ∧ (begun tr)[i]? = some t := by
  obtain ⟨ev, hev, hx⟩ := mem_filterMap.mp h
  rcases ev with ⟨_ | ⟨i, o, v, data⟩ | _ | _ | _, _ | r⟩ <;> try cases hx
  rw [writeTo] at hx
  split at hx
  · rename_i hi
    cases hx
    exact ⟨i, r, hev, hi⟩
  · cases hx

theorem writesTo_eq_nil (h : t ∉ begun tr) : writesTo tr t = [] := by
  refine eq_nil_iff_forall_not_mem.mpr fun x hx => ?_
  obtain ⟨i, _, _, hi⟩ := mem_begun_of_writesTo hx
  exact h (mem_of_getElem? hi)

section

variable (h : Waiting w tr) (hj : Journaled w tr)
include h hj

theorem Waiting.other {ev} (hbegun : begunBy ev = none)
    (hwrite : ∀ i o v data r, ev ≠ (.write i o v data, .ok r)) (htxs : Continues w.txs w'.txs)
    (hdrop : ∀ t : TransactionId, w'.storage.pending[t]?.getD [] = [] ∨
      w'.storage.pending[t]?.getD [] = w.storage.pending[t]?.getD [])
    (hkeep : ∀ (j : Nat) tx, w'.txs[j]? = some tx → tx.state = .active →
      w'.storage.pending[tx.id]?.getD [] = w.storage.pending[tx.id]?.getD [] ∨
        w'.storage.pending[tx.id]?.getD [] = writesTo tr tx.id ∨ CutOff (tr ++ [ev]) j) :
    Waiting w' (tr ++ [ev]) := by
  constructor
  case known =>
    intro t ht
    rw [begun_concat, hbegun, toList_none, append_nil] at ht
    rcases hdrop t with hd | hd
    · exact hd
    · rw [hd, h.known t ht]
  case waits =>
    intro j tx htx hactive
    rw [writesTo_concat_other hj.range hwrite]
    rcases hkeep j tx htx hactive with hk | hk
    · obtain ⟨tx0, htx0, hactive0, hid⟩ := htxs.2 j tx htx hactive
      rw [hk, ← hid]
      exact (h.waits j tx0 htx0 hactive0).imp_right (CutOff.append · _)
    · exact hk

theorem Waiting.begin {id} (hnew : id ∉ begun tr) :
    Waiting ⟨w.storage, w.txs ++ [Transaction.new id]⟩ (tr ++ [(.begin id, .ok none)]) := by
  constructor
  case known =>
    intro t ht
    refine h.known t fun hmem => ht ?_
    rw [begun_concat]
    exact mem_append_left _ hmem
  case waits =>
    intro j tx htx hactive
    rw [writesTo_concat_other hj.range (by simp)]
    rw [getElem?_append] at htx
    split at htx
    · exact (h.waits j tx htx hactive).imp_right (CutOff.append · _)
    · obtain rfl := mem_singleton.mp (mem_of_getElem? htx)
      exact .inl ((h.known id hnew).trans (writesTo_eq_nil hnew).symm)

theorem Waiting.write {o v data} (htx : w.txs[i]? = some tx) (hactive : tx.state = .active) :
    Waiting ⟨w.storage.logWrite tx.id ⟨o, v, data⟩, w.txs.set i { tx with modified := tx.modified ++ [o] }⟩
      (tr ++ [(.write i o v data, .ok (some v))]) := by
  have htxs : Continues w.txs (w.txs.set i { tx with modified := tx.modified ++ [o] }) := .set htx hactive rfl
  constructor
  case known =>
    intro t ht
    rw [begun_concat] at ht
    have ht : t ∉ begun tr := fun hmem => ht (mem_append_left _ hmem)
    refine (getD_pushPending w.storage.pending tx.id t _).trans ?_
    rw [if_neg, h.known t ht]
    rintro rfl
    exact ht (mem_of_getElem? (hj.getElem?_begun htx))
  case waits =>
    intro j tx' htx' hactive'
    obtain ⟨tx0, htx0, hactive0, hid⟩ := htxs.2 j tx' htx' hactive'
    rw [hj.writesTo_write htx, ← hid]
    refine (h.waits j tx0 htx0 hactive0).imp (fun heq => ?_) (CutOff.append · _)
    refine (getD_pushPending w.storage.pending tx.id tx0.id _).trans ?_
    rw [heq]

theorem Waiting.ended (hids : (begun tr).Nodup) {tx1 s' ev}
    (hbegun : begunBy ev = none) (hwrite : ∀ i o v data r, ev ≠ (.write i o v data, .ok r))
    (htx : w.txs[i]? = some tx) (hended : tx1.state ≠ .active) (htxs : Continues w.txs (w.txs.set i tx1))
    (hpend : ∀ t' : TransactionId, s'.pending[t']?.getD [] =
      if tx.id = t' then [] else w.storage.pending[t']?.getD []) :
    Waiting ⟨s', w.txs.set i tx1⟩ (tr ++ [ev]) := by
  refine h.other hj hbegun hwrite htxs (fun t => ?_) (fun j tx' htx' hactive' => .inl ?_)
  · refine (em (tx.id = t)).imp (fun ht => ?_) (fun ht => ?_)
    · exact (hpend t).trans (if_pos ht)
    · exact (hpend t).trans (if_neg ht)
  · exact (hpend tx'.id).trans (if_neg (hj.ne_of_ended hids htx hended htxs htx' hactive'))

theorem Waiting.recover (hids : (begun tr).Nodup) :
    Waiting ⟨w.storage.recover, w.txs⟩ (tr ++ [(.recover, .ok none)]) := by
  have hnone : ∀ t : TransactionId, w.storage.recover.pending[t]?.getD [] = [] := by
    intro t
    simp [JournaledStorage.recover]
  refine h.other hj rfl (by simp) (.refl _) (fun t => .inl (hnone t)) (fun j tx htx _ => .inr ?_)
  rcases eq_nil_or_concat (writesTo tr tx.id) with heq | ⟨ws, x, heq⟩
  · exact .inl ((hnone tx.id).trans heq.symm)
  · have hx : x ∈ writesTo tr tx.id := by simp [heq]
    obtain ⟨i, r, hmem, hi⟩ := mem_begun_of_writesTo hx
    obtain rfl := hj.index_eq hids htx hi
    obtain ⟨_, rfl⟩ := hj.range _ _ _ _ _ hmem
    exact .inr ⟨tr, [], rfl, x, hmem⟩

end

/-- One call keeps the journal and the pending writes in step with the run, unless it commits a transaction
that wrote before a `recover`. -/
theorem Effect.journaled (he : Effect w op o w') (h : Journaled w tr) (hw : Waiting w tr)
    (hids : (begun (tr ++ [(op, o)])).Nodup) (hst : ∀ i, ¬ Straddles (tr ++ [(op, o)]) i) :
    Journaled w' (tr ++ [(op, o)]) ∧ Waiting w' (tr ++ [(op, o)]) := by
  rw [begun_concat] at hids
  have hids0 : (begun tr).Nodup := (nodup_append.mp hids).1
  cases he with
  | @began id =>
    have hnew : id ∉ begun tr := fun hmem => (nodup_append.mp hids).2.2 id hmem id (by simp [begunBy]) rfl
    exact ⟨h.begin hnew, hw.begin h hnew⟩
  | wrote htx hactive => exact ⟨h.write htx hactive, hw.write h htx hactive⟩
  | @committed i tx _ htx hactive hc =>
    have hpend : w.storage.pending[tx.id]?.getD [] = writes (logOf w.storage.journal) tx.id := by
      rw [h.writes]
      exact (hw.waits i tx htx hactive).resolve_right fun hcut => hst i ⟨tr, [], rfl, hcut⟩
    exact ⟨h.commit hids0 htx hactive hpend hc,
      hw.ended h hids0 rfl (by simp) htx (by simp) (.set htx hactive rfl) hc.pending⟩
  | @rolledBack i tx htx hactive =>
    exact ⟨h.other rfl (by simp) rfl (.set htx hactive rfl) rfl h.objects,
      hw.ended h hids0 rfl (by simp) htx (by simp) (.set htx hactive rfl) (getD_erase w.storage.pending tx.id)⟩
  | @refused op e hop =>
    have hbegun : begunBy (op, .error e) = none := by
      cases op with
      | begin id => exact absurd rfl (hop id)
      | _ => rfl
    exact ⟨h.other hbegun (by simp) (by cases op <;> rfl) (.refl _) rfl h.objects,
      hw.other h hbegun (by simp) (.refl _) (fun _ => .inr rfl) (fun _ _ _ _ => .inl rfl)⟩
  | recovered =>
    exact ⟨h.other rfl (by simp) rfl (.refl _) rfl (foldl_recoverEntry _).done, hw.recover h hids0⟩

/-- The journal is in step with every run in which no transaction straddles a `recover`. -/
theorem run_journaled {G}
    (hrun : machine.Run G (start new) tr w) (hids : (begun tr).Nodup) (hst : ∀ i, ¬ Straddles tr i) :
    Journaled w tr ∧ Waiting w tr := by
  have hinv := hrun.invariantTrace
    (P := fun tr w => (begun tr).Nodup → (∀ i, ¬ Straddles tr i) → Journaled w tr ∧ Waiting w tr)
    (fun tr w op o w' ih hstep _ hids hst => by
      have hids0 : (begun tr).Nodup := by
        rw [begun_concat] at hids
        exact (nodup_append.mp hids).1
      obtain ⟨h, hw⟩ := ih hids0 fun i hi => hst i (hi.append _)
      exact (step_effect hstep).journaled h hw hids hst)
    [] (fun _ _ => ⟨.start, .start⟩)
  exact hinv hids hst

end JournaledStorage

end PandaGen.Storage
