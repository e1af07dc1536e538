import PandaGen.Distributed.Lemmas.Node

/-!
# How far a follower commits and acknowledges
-/

namespace PandaGen.Distributed

namespace ConsensusNode

variable {log log' entries : List LogEntry} {p : Nat}

/-- The entries are numbered consecutively, the first one comes after `p` others. -/
def Consecutive (p : Nat) (entries : List LogEntry) : Prop := ∀ i e, entries[i]? = some e → e.index = p + i + 1

/-- The log has the entries after its first `p`, as far as terms tell. -/
def Covers (log : List LogEntry) (p : Nat) (entries : List LogEntry) : Prop :=
  ∀ i e, entries[i]? = some e → ∃ x, log[p + i]? = some x ∧ x.term = e.term

theorem Consecutive.tail {e} (h : Consecutive p (e :: entries)) : Consecutive (p + 1) entries := by
  intro i x hx
  have := h (i + 1) x (by simpa using hx)
  omega

theorem covers_cons {e} :
    Covers log p (e :: entries) ↔ (∃ x, log[p]? = some x ∧ x.term = e.term) ∧ Covers log (p + 1) entries := by
  constructor
  · intro h
    refine ⟨by simpa using h 0 e rfl, fun i x hx => ?_⟩
    have := h (i + 1) x (by simpa using hx)
    rwa [add_assoc, add_comm 1]
  · rintro ⟨hhead, htail⟩ i x hx
    cases i with
    | zero => cases hx; exact hhead
    | succ i =>
      have := htail i x (by simpa using hx)
      rwa [add_assoc, add_comm 1] at this

theorem not_covers_end {e} (h : log.length ≤ p) : ¬ Covers log p (e :: entries) := by
  intro hcovers
  obtain ⟨x, hx, -⟩ := (covers_cons.mp hcovers).1
  simp [List.getElem?_eq_none h] at hx

theorem foldlM_storeEntry (hlog : Indexed log) (hp : p ≤ log.length) (hentries : Consecutive p entries)
    (h : entries.foldlM storeEntry log = some log') : Indexed log' ∧ (Covers log p entries → log' = log) ∧
      (¬ Covers log p entries → log'.length = p + entries.length) := by
  induction entries generalizing log p with
  | nil => cases h; exact ⟨hlog, fun _ => rfl, fun hnot => absurd (fun i e he => by simp at he) hnot⟩
  | cons e entries ih =>
    obtain ⟨log1, hstore, h⟩ := Option.bind_eq_some_iff.mp h
    have hindex : e.index = p + 1 := by simpa using hentries 0 e rfl
    have hlog1 : Indexed log1 := storeEntry_indexed hlog (by omega) hstore
    -- a log that was cut ends where the rest of the entries begins
    have hcut : log1.length = p + 1 → ¬ Covers log p (e :: entries) →
        Indexed log' ∧ (Covers log p (e :: entries) → log' = log) ∧
          (¬ Covers log p (e :: entries) → log'.length = p + (e :: entries).length) := by
      intro hlength hnot
      obtain ⟨hlog', hsame, hend⟩ := ih hlog1 hlength.ge hentries.tail h
      refine ⟨hlog', fun hcovers => absurd hcovers hnot, fun _ => ?_⟩
      cases entries with
      | nil => cases h; simpa using hlength
      | cons => rw [hend (not_covers_end hlength.le)]; simp; omega
    simp only [storeEntry, hindex, checkedSub, Nat.add_sub_cancel] at hstore
    simp only [Nat.le_add_left, if_true, Option.bind_eq_bind, Option.bind_some] at hstore
    split at hstore
    · rename_i x hx
      obtain ⟨hlt, -⟩ := List.getElem?_eq_some_iff.mp hx
      split at hstore
      · rename_i hterm
        cases hstore
        apply hcut
        · simp; omega
        · intro hcovers
          obtain ⟨y, hy, hyterm⟩ := (covers_cons.mp hcovers).1
          rw [hx] at hy
          cases hy
          exact hterm hyterm
      · rename_i hterm
        cases hstore
        obtain ⟨hlog', hsame, hend⟩ := ih hlog hlt hentries.tail h
        have hhead : ∃ x, log[p]? = some x ∧ x.term = e.term := ⟨x, hx, not_not.mp hterm⟩
        simp only [covers_cons, hhead, true_and]
        exact ⟨hlog', hsame, fun hnot => by rw [hend hnot, List.length_cons]; omega⟩
    · rename_i hnone
      cases hstore
      have hlength := List.getElem?_eq_none_iff.mp hnone
      exact hcut (by simp; omega) (not_covers_end hlength)

theorem le_length_of_prevMatches {n : ConsensusNode} {request : AppendEntriesRequest}
    (h : n.prevMatches request = true) : request.prevLogIndex ≤ n.log.length := by
  simp only [prevMatches, Bool.or_eq_true, beq_iff_eq, Option.any_eq_true] at h
  rcases h with hzero | ⟨x, hx, -⟩
  · omega
  · obtain ⟨hlt, -⟩ := getElem?_eq_some_iff.mp hx
    omega

theorem raiseCommit_commitIndex_le (n : ConsensusNode) (leaderCommit : Nat) :
    (n.raiseCommit leaderCommit).commitIndex ≤ max n.commitIndex n.lastLogIndex := by
  rw [raiseCommit]
  split
  · dsimp only; omega
  · omega

end ConsensusNode

open ConsensusNode List Nat

/-- A follower that takes a request commits and acknowledges nothing beyond what the request has checked exactly where
its log had nothing beyond, or is cut because an entry of the request does not agree with it. -/
theorem append_bound_iff {n n' : ConsensusNode} {request : AppendEntriesRequest} {response : AppendEntriesResponse}
    (hlog : Indexed n.log) (hentries : Consecutive request.prevLogIndex request.entries)
    (h : n.handleAppendEntries request = some (response, n')) (hsuccess : response.success = true) :
    n'.commitIndex ≤ max n.commitIndex (request.prevLogIndex + request.entries.length) ∧
        response.matchIndex ≤ max n.commitIndex (request.prevLogIndex + request.entries.length) ↔
      n.log.length ≤ max n.commitIndex (request.prevLogIndex + request.entries.length) ∨
        ¬ Covers n.log request.prevLogIndex request.entries := by
  obtain ⟨hfail, -⟩ | ⟨hfail, -⟩ | ⟨-, hprev, log, hstored, rfl, hresponse⟩ := handleAppendEntries_cases h
  · cases hfail.symm.trans hsuccess
  · cases hfail.symm.trans hsuccess
  have hle := le_length_of_prevMatches hprev
  rw [observeAppendTerm_log] at hle
  obtain ⟨hindexed, hsame, hend⟩ := foldlM_storeEntry hlog hle hentries hstored
  set stored : ConsensusNode := { n.observeAppendTerm request.term with log }
  have hcommit := raiseCommit_commitIndex_le stored request.leaderCommit
  have hmatch : (stored.raiseCommit request.leaderCommit).lastLogIndex = log.length := by
    rw [lastLogIndex_eq (by rwa [raiseCommit_log]), raiseCommit_log]
  rw [lastLogIndex_eq (n := stored) hindexed, show stored.commitIndex = n.commitIndex by simp [stored],
    show stored.log = log from rfl] at hcommit
  by_cases hcovers : Covers n.log request.prevLogIndex request.entries
  · have hlength := congrArg length (hsame hcovers)
    simp only [hcovers, not_true_eq_false, or_false]
    omega
  · have hlength := hend hcovers
    simp only [hcovers, not_false_eq_true, or_true, iff_true]
    omega

def ConsensusNode.withLog (count : Nat) : ConsensusNode :=
  { ConsensusNode.new ⟨1⟩ with
    currentTerm := 1, log := (range count).map fun i => ⟨1, i + 1, [], 0⟩, commitIndex := 1 }

/-- A request of a leader of term 2 that knows the first entry only, and has committed four. -/
def AppendEntriesRequest.after (entries : List LogEntry) : AppendEntriesRequest := ⟨2, ⟨2⟩, 1, 1, entries, 4⟩

theorem append_bound_iff_cut : ∃ response n', Indexed (withLog 3).log ∧ Consecutive 1 [⟨2, 2, [], 0⟩] ∧
    (withLog 3).handleAppendEntries (.after [⟨2, 2, [], 0⟩]) = some (response, n') ∧ response.success = true ∧
    n'.commitIndex ≤ 2 ∧ response.matchIndex ≤ 2 := by
  have hlog : Indexed (withLog 3).log := by
    intro i e he
    simp only [withLog, getElem?_map, Option.map_eq_some_iff, getElem?_eq_some_iff, getElem_range] at he
    obtain ⟨_, ⟨_, rfl⟩, rfl⟩ := he
    rfl
  have hentries : Consecutive 1 [(⟨2, 2, [], 0⟩ : LogEntry)] := by
    intro i e he
    simp only [getElem?_singleton] at he
    split at he
    · cases he; simp_all
    · cases he
  refine ⟨_, _, hlog, hentries, rfl, rfl, ?_⟩
  refine (@append_bound_iff _ _ (.after [⟨2, 2, [], 0⟩]) _ hlog hentries rfl rfl).mpr (.inr ?_)
  intro hcovers
  obtain ⟨x, hx, hterm⟩ := hcovers 0 _ rfl
  cases hx
  cases hterm

/-- A heartbeat checks the first entry, and commits and acknowledges all three. -/
theorem heartbeat_commits_leftover : ∃ response n', Consecutive 1 [] ∧
    (withLog 3).handleAppendEntries (.after []) = some (response, n') ∧ response.success = true ∧
    n'.commitIndex = 3 ∧ response.matchIndex = 3 :=
  ⟨_, _, fun _ _ he => by simp at he, rfl, rfl, rfl, rfl⟩

end PandaGen.Distributed
