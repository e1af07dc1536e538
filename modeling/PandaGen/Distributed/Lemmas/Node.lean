import PandaGen.Distributed.Consensus

/-!
# What the handlers do to a node
-/

namespace PandaGen.Distributed

open Option

variable {log : List LogEntry} {entry : LogEntry}

/-! ## Logs -/

def Indexed (log : List LogEntry) : Prop := ∀ i e, log[i]? = some e → e.index = i + 1

theorem Indexed.take (h : Indexed log) (k) : Indexed (log.take k) := by
  intro i e he
  rw [List.getElem?_take] at he
  split at he
  · exact h i e he
  · cases he

theorem Indexed.append (h : Indexed log) (hentry : entry.index = log.length + 1) : Indexed (log ++ [entry]) := by
  intro i e he
  rw [List.getElem?_append] at he
  split at he
  · exact h i e he
  · rename_i hi
    rw [List.getElem?_singleton] at he
    split at he
    · cases he
      omega
    · cases he

namespace ConsensusNode

variable {leaderId : ConsensusNodeId}

variable {n n' leader : ConsensusNode}

theorem lastLogIndex_eq (h : Indexed n.log) : n.lastLogIndex = n.log.length := by
  rw [lastLogIndex, List.getLast?_eq_getElem?]
  cases hlast : n.log[n.log.length - 1]? with
  | none =>
    rw [List.getElem?_eq_none_iff] at hlast
    simp only [map_none, getD_none]
    omega
  | some e =>
    obtain ⟨hlt, -⟩ := List.getElem?_eq_some_iff.mp hlast
    have := h _ _ hlast
    simp only [map_some, getD_some]
    omega

theorem storeEntry_at_end (h : entry.index = log.length + 1) : storeEntry log entry = some (log ++ [entry]) := by
  simp [storeEntry, h, checkedSub]

theorem storeEntry_indexed {log'} (hlog : Indexed log) (hle : entry.index ≤ log.length + 1)
    (h : storeEntry log entry = some log') : Indexed log' := by
  obtain ⟨i, hi, h⟩ := bind_eq_some_iff.mp h
  obtain ⟨hpos, rfl⟩ := checkedSub_eq_some.mp hi
  split at h
  · rename_i existing hex
    split at h
    · cases h
      apply (hlog.take _).append
      rw [List.length_take]
      omega
    · cases h
      exact hlog
  · rename_i hnone
    cases h
    rw [List.getElem?_eq_none_iff] at hnone
    exact hlog.append (by omega)

/-! ## Elections -/

theorem becomeCandidate_spec {request} (h : n.becomeCandidate = some (request, n')) :
    request.term = n.currentTerm + 1 ∧ request.candidateId = n.id ∧
      n' = { n with state := .candidate, currentTerm := n.currentTerm + 1, votedFor := some n.id } := by
  obtain ⟨term, hterm, heq⟩ := bind_eq_some_iff.mp h
  obtain ⟨-, rfl⟩ := checkedAdd_eq_some.mp hterm
  cases heq
  exact ⟨rfl, rfl, rfl⟩

theorem handleRequestVote_frame (n : ConsensusNode) (request) : (n.handleRequestVote request).2.log = n.log ∧
      (n.handleRequestVote request).2.commitIndex = n.commitIndex := by
  simp only [handleRequestVote, observeVoteTerm]
  split_ifs <;> exact ⟨rfl, rfl⟩

theorem handleRequestVote_of_lt {request} (h : n.currentTerm < request.term) :
    (n.handleRequestVote request).2.currentTerm = request.term ∧
      (n.handleRequestVote request).2.state = .follower := by
  simp only [handleRequestVote, observeVoteTerm, if_pos h, if_neg (Nat.lt_asymm h)]
  split <;> exact ⟨rfl, rfl⟩

/-! ## Replication -/

@[simp]
theorem raiseCommit_log (n : ConsensusNode) (leaderCommit : Nat) : (n.raiseCommit leaderCommit).log = n.log := by
  rw [raiseCommit]
  split <;> rfl

@[simp]
theorem observeAppendTerm_log (n : ConsensusNode) (term : Nat) : (n.observeAppendTerm term).log = n.log := by
  rw [observeAppendTerm]
  split <;> rfl

theorem handleAppendEntries_cases {request response} (h : n.handleAppendEntries request = some (response, n')) :
    (response.success = false ∧ n' = n) ∨ (response.success = false ∧ n' = n.observeAppendTerm request.term) ∨
    (n.currentTerm ≤ request.term ∧ (n.observeAppendTerm request.term).prevMatches request = true ∧
      ∃ log, request.entries.foldlM storeEntry n.log = some log ∧
        n' = ({ n.observeAppendTerm request.term with log } : ConsensusNode).raiseCommit request.leaderCommit ∧
        response.matchIndex = n'.lastLogIndex) := by
  rw [handleAppendEntries] at h
  split at h
  · cases h
    exact .inl ⟨rfl, rfl⟩
  · rename_i hle
    have hle := Nat.not_lt.mp hle
    dsimp only at h
    split at h
    · rename_i hprev
      obtain ⟨log, hlog, ⟨⟩⟩ := bind_eq_some_iff.mp h
      rw [observeAppendTerm_log] at hlog
      exact .inr (.inr ⟨hle, hprev, log, hlog, rfl, rfl⟩)
    · cases h
      exact .inr (.inl ⟨rfl, rfl⟩)

theorem foldlM_replicationRequest :
    (leader.replicationRequest leaderId entry).entries.foldlM storeEntry log = storeEntry log entry := by
  simp [replicationRequest]

theorem handleAppendEntries_indexed {response} (hn : Indexed n.log) (hentry : entry.index = leader.lastLogIndex + 1)
    (h : n.handleAppendEntries (leader.replicationRequest leaderId entry) = some (response, n')) : Indexed n'.log := by
  obtain ⟨-, rfl⟩ | ⟨-, rfl⟩ | ⟨-, hprev, log, hlog, rfl, -⟩ := handleAppendEntries_cases h
  · exact hn
  · rw [observeAppendTerm_log]
    exact hn
  · rw [raiseCommit_log]
    rw [foldlM_replicationRequest] at hlog
    -- the entry before the new one is there, so the new one comes at most one place after the end
    apply storeEntry_indexed hn _ hlog
    simp only [prevMatches, replicationRequest, observeAppendTerm_log, Bool.or_eq_true, beq_iff_eq,
      any_eq_true] at hprev
    cases hprev with
    | inl hzero => omega
    | inr hprev =>
      obtain ⟨prev, hprev, -⟩ := hprev
      obtain ⟨hlt, -⟩ := List.getElem?_eq_some_iff.mp hprev
      omega

theorem prevMatches_of_log_eq (hlog : n.log = leader.log)
    (hidx : Indexed n.log) : n.prevMatches (leader.replicationRequest leaderId entry) = true := by
  have hlast := lastLogIndex_eq (hlog ▸ hidx : Indexed leader.log)
  simp only [prevMatches, replicationRequest, hlog, hlast, lastLogTerm, List.getLast?_eq_getElem?,
    Bool.or_eq_true, beq_iff_eq, any_eq_true]
  cases hprev : leader.log[leader.log.length - 1]? with
  | none =>
    rw [List.getElem?_eq_none_iff] at hprev
    omega
  | some e => exact .inr ⟨e, rfl, rfl⟩

theorem raiseCommit_commitIndex {leaderCommit} (h : leaderCommit ≤ n.lastLogIndex) :
    (n.raiseCommit leaderCommit).commitIndex = max n.commitIndex leaderCommit := by
  rw [raiseCommit]
  split
  · dsimp only
    omega
  · omega

@[simp]
theorem observeAppendTerm_commitIndex (n : ConsensusNode) (term : Nat) :
    (n.observeAppendTerm term).commitIndex = n.commitIndex := by
  rw [observeAppendTerm]
  split <;> rfl

theorem observeAppendTerm_currentTerm (n : ConsensusNode) (term : Nat) :
    (n.observeAppendTerm term).currentTerm = max n.currentTerm term := by
  rw [observeAppendTerm]
  split
  · dsimp only
    omega
  · dsimp only
    omega

@[simp]
theorem observeAppendTerm_state (n : ConsensusNode) (term : Nat) : (n.observeAppendTerm term).state = .follower := by
  rw [observeAppendTerm]

structure Took (n : ConsensusNode) (leader : ConsensusNode) (entry : LogEntry) (n' : ConsensusNode) : Prop where
  currentTerm : n'.currentTerm = leader.currentTerm
  log : n'.log = n.log ++ [entry]
  commitIndex : n'.commitIndex = max n.commitIndex entry.index

theorem raiseCommit_frame (n : ConsensusNode) (leaderCommit : Nat) :
    (n.raiseCommit leaderCommit).state = n.state ∧ (n.raiseCommit leaderCommit).currentTerm = n.currentTerm := by
  rw [raiseCommit]
  split <;> exact ⟨rfl, rfl⟩

theorem handleAppendEntries_of_log_eq (hlog : n.log = leader.log)
    (hidx : Indexed n.log) (hterm : n.currentTerm ≤ leader.currentTerm)
    (hentry : entry.index = leader.lastLogIndex + 1) :
    ∃ response n', n.handleAppendEntries (leader.replicationRequest leaderId entry) = some (response, n') ∧
      response.success = true ∧ n.Took leader entry n' := by
  have hindex : entry.index = n.log.length + 1 := by
    rw [hentry, lastLogIndex_eq (hlog ▸ hidx), hlog]
  have hstored : Indexed (n.log ++ [entry]) := hidx.append hindex
  have hcurrent : ¬ (leader.replicationRequest leaderId entry).term < n.currentTerm := Nat.not_lt.mpr hterm
  rw [handleAppendEntries, if_neg hcurrent]
  rw [if_pos (prevMatches_of_log_eq (by rw [observeAppendTerm_log, hlog]) (by rwa [observeAppendTerm_log])),
    foldlM_replicationRequest, observeAppendTerm_log, storeEntry_at_end hindex]
  refine ⟨_, _, rfl, rfl, ?_⟩
  constructor
  · rw [(raiseCommit_frame _ _).2, observeAppendTerm_currentTerm]
    exact max_eq_right hterm
  · rw [raiseCommit_log]
  · rw [raiseCommit_commitIndex, observeAppendTerm_commitIndex]
    · rfl
    · rw [lastLogIndex_eq hstored, List.length_append]
      exact hindex.le

end ConsensusNode

end PandaGen.Distributed
