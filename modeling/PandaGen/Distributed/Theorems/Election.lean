import PandaGen.Distributed.Lemmas.Node

/-!
# Elections are safe
-/

namespace PandaGen.Distributed

open Lib Option

/-! ## Votes along a run of the network -/

namespace ConsensusNode

def ballot (n : ConsensusNode) : Ballot ConsensusNodeId := ⟨n.currentTerm, n.votedFor⟩

variable (n : ConsensusNode)

theorem ballot_le_observeVoteTerm (term) : n.ballot.Le (n.observeVoteTerm term).ballot := by
  rw [observeVoteTerm]
  split
  · rename_i hlt
    exact .inl hlt
  · exact .refl _

theorem handleRequestVote_ballot (request) : n.ballot.Le (n.handleRequestVote request).2.ballot ∧
    ((n.handleRequestVote request).1.voteGranted →
      (n.handleRequestVote request).2.ballot = ⟨(n.handleRequestVote request).1.term, some request.candidateId⟩) := by
  have hterm := n.ballot_le_observeVoteTerm request.term
  rw [handleRequestVote]
  split
  · simp [Ballot.Le.refl]
  · dsimp only
    split
    · rename_i hgrant
      refine ⟨hterm.trans (.inr ⟨rfl, ?_⟩), fun _ => rfl⟩
      -- the vote goes to the candidate only where it was free or already the candidate's
      simp only [Bool.and_eq_true, canVote, Bool.or_eq_true, isNone_iff_eq_none, beq_iff_eq] at hgrant
      exact hgrant.1
    · simp [hterm]

theorem ballot_le_observeAppendTerm (term) : n.ballot.Le (n.observeAppendTerm term).ballot := by
  rw [observeAppendTerm]
  split
  · rename_i hlt
    exact .inl hlt
  · exact .refl _

theorem raiseCommit_ballot (leaderCommit) : (n.raiseCommit leaderCommit).ballot = n.ballot := by
  rw [raiseCommit]
  split <;> rfl

theorem handleAppendEntries_ballot {n n' : ConsensusNode} {request : AppendEntriesRequest} {response}
    (h : n.handleAppendEntries request = some (response, n')) : n.ballot.Le n'.ballot := by
  have hterm := n.ballot_le_observeAppendTerm request.term
  obtain ⟨-, rfl⟩ | ⟨-, rfl⟩ | ⟨-, -, log, -, rfl, -⟩ := handleAppendEntries_cases h
  · exact .refl _
  · exact hterm
  · rw [raiseCommit_ballot]
    exact hterm

end ConsensusNode

namespace Network

variable {s s' : Network} {tr : List (Event × Outcome)} {G : Network → Event → Outcome → Prop}

structure Effect (s : Network) (ev : Event × Outcome) (s' : Network) (id : ConsensusNodeId)
    (n n' : ConsensusNode) : Prop where
  before : s.nodes[id]? = some n
  after : s'.nodes = s.nodes.insert id n'
  ballot : n.ballot.Le n'.ballot
  vote : ∀ voter candidate term, vote ev = some (voter, candidate, term) →
    voter = id ∧ n'.ballot = ⟨term, some candidate⟩

theorem exists_effect {e o} (h : machine.step s e = some (o, s')) : ∃ id n n', Effect s (e, o) s' id n n' := by
  cases e with
  | becomeCandidate id =>
    obtain ⟨n, hn, h⟩ := bind_eq_some_iff.mp h
    obtain ⟨⟨request, n'⟩, hcand, ⟨⟩⟩ := bind_eq_some_iff.mp h
    obtain ⟨hterm, hid, rfl⟩ := ConsensusNode.becomeCandidate_spec hcand
    refine ⟨id, n, _, hn, rfl, .inl (Nat.lt_succ_self _), fun voter candidate term hv => ?_⟩
    cases hv
    rw [hterm, hid]
    exact ⟨rfl, rfl⟩
  | requestVote receiver request =>
    obtain ⟨-, -, h⟩ := bind_eq_some_iff.mp h
    obtain ⟨n, hn, ⟨⟩⟩ := bind_eq_some_iff.mp h
    have hb := n.handleRequestVote_ballot request
    refine ⟨receiver, n, _, hn, rfl, hb.1, fun voter candidate term hv => ?_⟩
    simp only [Network.vote, ite_none_right_eq_some] at hv
    obtain ⟨hgrant, ⟨⟩⟩ := hv
    exact ⟨rfl, hb.2 hgrant⟩
  | appendEntries receiver request =>
    obtain ⟨n, hn, h⟩ := bind_eq_some_iff.mp h
    obtain ⟨⟨response, n'⟩, happ, ⟨⟩⟩ := bind_eq_some_iff.mp h
    refine ⟨receiver, n, n', hn, rfl, ConsensusNode.handleAppendEntries_ballot happ, fun voter candidate term hv => ?_⟩
    cases hv

def Le (s s' : Network) : Prop :=
  ∀ (id : ConsensusNodeId) (n : ConsensusNode), s.nodes[id]? = some n →
    ∃ n' : ConsensusNode, s'.nodes[id]? = some n' ∧ n.ballot.Le n'.ballot

theorem Le.trans {s1 s2 s3} (h : Le s1 s2) (h' : Le s2 s3) : Le s1 s3 := by
  intro id n hn
  obtain ⟨n2, hn2, hle⟩ := h id n hn
  obtain ⟨n3, hn3, hle'⟩ := h' id n2 hn2
  exact ⟨n3, hn3, hle.trans hle'⟩

theorem Effect.le {ev id n n'} (h : Effect s ev s' id n n') : Le s s' := by
  intro a m hm
  rw [h.after, BTreeMap.getElem?_insert]
  split
  · rename_i heq
    subst heq
    cases h.before.symm.trans hm
    exact ⟨n', rfl, h.ballot⟩
  · exact ⟨m, hm, .refl _⟩

theorem le_of_run (h : machine.Run G s tr s') : Le s s' := by
  induction h with
  | nil => exact fun id n hn => ⟨n, hn, .refl _⟩
  | cons hs _ _ ih =>
    obtain ⟨id, n, n', he⟩ := exists_effect hs
    exact he.le.trans ih

/-- The votes of the events `tr` are in the ballots, and no voter gave two candidates its vote of one term. -/
structure Recorded (tr : List (Event × Outcome)) (s : Network) : Prop where
  ballot : ∀ voter candidate term, Granted tr voter candidate term →
    ∃ n : ConsensusNode, s.nodes[voter]? = some n ∧ Ballot.Le ⟨term, some candidate⟩ n.ballot
  unique : ∀ voter term c d, Granted tr voter c term → Granted tr voter d term → c = d

theorem granted_append {ev voter candidate term} : Granted (tr ++ [ev]) voter candidate term ↔
      Granted tr voter candidate term ∨ vote ev = some (voter, candidate, term) := by
  simp [Granted, or_and_right, exists_or]

theorem Recorded.step {ev id n n'} (h : Recorded tr s) (he : Effect s ev s' id n n') : Recorded (tr ++ [ev]) s' := by
  have hafter : s'.nodes[id]? = some n' := by rw [he.after, BTreeMap.getElem?_insert, if_pos rfl]
  -- an earlier vote is below the ballot after the step
  have hold : ∀ voter candidate term, Granted tr voter candidate term →
      ∃ m : ConsensusNode, s'.nodes[voter]? = some m ∧ Ballot.Le ⟨term, some candidate⟩ m.ballot := by
    intro voter candidate term hg
    obtain ⟨m, hm, hle⟩ := h.ballot voter candidate term hg
    obtain ⟨m', hm', hle'⟩ := he.le voter m hm
    exact ⟨m', hm', hle.trans hle'⟩
  have hnew : ∀ voter term c d, Granted tr voter c term → vote ev = some (voter, d, term) → c = d := by
    intro voter term c d hc hd
    obtain ⟨rfl, hb⟩ := he.vote voter d term hd
    obtain ⟨m, hm, hle⟩ := hold voter c term hc
    cases hafter.symm.trans hm
    rw [hb] at hle
    exact hle.vote_eq
  constructor
  · intro voter candidate term hg
    cases granted_append.mp hg with
    | inl hg => exact hold voter candidate term hg
    | inr hv =>
      obtain ⟨rfl, hb⟩ := he.vote voter candidate term hv
      exact ⟨n', hafter, hb ▸ .refl _⟩
  · intro voter term c d hc hd
    cases granted_append.mp hc with
    | inl hc =>
      cases granted_append.mp hd with
      | inl hd => exact h.unique voter term c d hc hd
      | inr hd => exact hnew voter term c d hc hd
    | inr hc =>
      cases granted_append.mp hd with
      | inl hd => exact (hnew voter term d c hd hc).symm
      | inr hd => cases hc.symm.trans hd; rfl

theorem recorded_of_run (h : machine.Run G s tr s') : Recorded tr s' := by
  have hstart : Recorded [] s := ⟨fun _ _ _ hg => by simp [Granted] at hg, fun _ _ _ _ hg => by simp [Granted] at hg⟩
  refine h.invariantTrace (fun tr s i o s' hr hs _ => ?_) [] hstart
  obtain ⟨id, n, n', he⟩ := exists_effect hs
  exact hr.step he

/-- In every run of the network a term has at most one candidate with the votes of a majority, the term of a
node never goes back, and no node votes for two candidates in one term. -/
theorem election_safe {ids : List ConsensusNodeId} {tr : List (Event × Outcome)} {s : Network}
    (h : machine.FreeRun (start ids) tr s) :
    (∀ term c d, Elects ids tr c term → Elects ids tr d term → c = d) ∧
    (∀ tr' s', machine.FreeRun s tr' s' →
      ∀ (id : ConsensusNodeId) (n : ConsensusNode), s.nodes[id]? = some n →
        ∃ n' : ConsensusNode, s'.nodes[id]? = some n' ∧ n.currentTerm ≤ n'.currentTerm) ∧
    ∀ voter term c d, Granted tr voter c term → Granted tr voter d term → c = d := by
  have hr := recorded_of_run h
  refine ⟨fun term c d hc hd => ?_, fun tr' s' h' id n hn => ?_, hr.unique⟩
  · obtain ⟨Q, hQ, hc⟩ := hc
    obtain ⟨Q', hQ', hd⟩ := hd
    obtain ⟨voter, hv, hv'⟩ := hQ.exists_mem_inter hQ'
    exact hr.unique voter term c d (hc voter hv) (hd voter hv')
  · obtain ⟨n', hn', hle⟩ := le_of_run h' id n hn
    exact ⟨n', hn', hle.term_le⟩

theorem election_safe_split_vote : ∃ tr s, machine.FreeRun (start [⟨1⟩, ⟨2⟩, ⟨3⟩]) tr s ∧
      Elects [⟨1⟩, ⟨2⟩, ⟨3⟩] tr ⟨1⟩ 1 ∧ ∀ d, Elects [⟨1⟩, ⟨2⟩, ⟨3⟩] tr d 1 → d = ⟨1⟩ := by
  obtain ⟨tr, s, hrun, hvote, hvote'⟩ : ∃ tr s, machine.FreeRun (start [⟨1⟩, ⟨2⟩, ⟨3⟩]) tr s ∧
      some (⟨1⟩, ⟨1⟩, 1) ∈ tr.map vote ∧ some (⟨3⟩, ⟨1⟩, 1) ∈ tr.map vote :=
    Machine.exists_run [.becomeCandidate ⟨1⟩, .becomeCandidate ⟨2⟩, .requestVote ⟨3⟩ ⟨1, ⟨1⟩, 0, 0⟩,
      .requestVote ⟨3⟩ ⟨1, ⟨2⟩, 0, 0⟩, .requestVote ⟨1⟩ ⟨1, ⟨2⟩, 0, 0⟩] (by decide +kernel)
  have helects : Elects [⟨1⟩, ⟨2⟩, ⟨3⟩] tr ⟨1⟩ 1 := by
    refine ⟨{⟨1⟩, ⟨3⟩}, ⟨by decide, by decide⟩, fun voter hv => ?_⟩
    simp only [Finset.mem_insert, Finset.mem_singleton] at hv
    obtain rfl | rfl := hv
    · exact List.mem_map.mp hvote
    · exact List.mem_map.mp hvote'
  exact ⟨tr, s, hrun, helects, fun d hd => (election_safe hrun).1 1 d ⟨1⟩ hd helects⟩

/-- A vote that was given is in the ballot of the voter as long as its term lasts. -/
theorem vote_kept {ids} (h : machine.FreeRun (start ids) tr s) {voter candidate term}
    (hvote : Granted tr voter candidate term) : ∃ n : ConsensusNode, s.nodes[voter]? = some n ∧
      (term < n.currentTerm ∨ term = n.currentTerm ∧ n.votedFor = some candidate) := by
  obtain ⟨n, hn, hle⟩ := (recorded_of_run h).ballot voter candidate term hvote
  exact ⟨n, hn, hle.imp_right fun ⟨hterm, hsame⟩ => ⟨hterm, (hsame.resolve_left nofun).symm⟩⟩

/-- Node 1 votes for node 2, and later has requests of the other candidate and of a leader, and an older one again. -/
theorem vote_kept_requests : ∃ tr s, machine.FreeRun (start [⟨1⟩, ⟨2⟩, ⟨3⟩]) tr s ∧ tr.length = 6 ∧
    ∃ n : ConsensusNode, s.nodes[(⟨1⟩ : ConsensusNodeId)]? = some n ∧ n.log ≠ [] ∧ n.votedFor = some ⟨2⟩ := by
  obtain ⟨tr, s, hrun, hlength, hvote, hnode⟩ : ∃ tr s,
      machine.FreeRun (start [⟨1⟩, ⟨2⟩, ⟨3⟩]) tr s ∧ tr.length = 6 ∧
      some (⟨1⟩, ⟨2⟩, 1) ∈ tr.map vote ∧
      ∃ n : ConsensusNode, s.nodes[(⟨1⟩ : ConsensusNodeId)]? = some n ∧ n.currentTerm = 1 ∧ n.log ≠ [] :=
    Machine.exists_run [.becomeCandidate ⟨2⟩, .becomeCandidate ⟨3⟩, .requestVote ⟨1⟩ ⟨1, ⟨2⟩, 0, 0⟩,
      .requestVote ⟨1⟩ ⟨1, ⟨3⟩, 0, 0⟩, .appendEntries ⟨1⟩ ⟨1, ⟨2⟩, 0, 0, [⟨1, 1, [7], 0⟩], 1⟩,
      .requestVote ⟨1⟩ ⟨1, ⟨2⟩, 0, 0⟩] (by decide +kernel)
  obtain ⟨n, hn, hterm, hlog⟩ := hnode
  obtain ⟨m, hm, hkept⟩ := vote_kept hrun (List.mem_map.mp hvote)
  cases hm.symm.trans hn
  exact ⟨tr, s, hrun, hlength, n, hn, hlog, (hkept.resolve_left (by omega)).2⟩

end Network

end PandaGen.Distributed
