import PandaGen.Distributed.Lemmas.Cluster

/-!
# How long a leader stays one
-/

namespace PandaGen.Distributed.ConsensusCluster

open Lib ConsensusNode Option

variable {c c' : ConsensusCluster} {id : ConsensusNodeId} {n : ConsensusNode} {call : Call} {answer : Answer}

/-! ## The seat of a leader -/

/-- The node `a` is in a term that is not below that of `id`. -/
def reaches (c : ConsensusCluster) (a id : ConsensusNodeId) : Bool :=
  c.nodes[a]?.any fun m => c.nodes[id]?.any fun n => n.currentTerm ≤ m.currentTerm

/-- Whether a call gives `id` the seat of a leader (`true`), takes it (`false`) or leaves it alone. A candidacy is in
the term after that of the candidate. A node that joins under the name `id` takes its place. -/
def seat (id : ConsensusNodeId) (c : ConsensusCluster) : Call → Answer → Option Bool
  | .addNode a, _ => if a = id then some false else none
  | .electLeader a, answer =>
    if a = id then some (answer = .elected (.ok ())) else if c.reaches a id then some false else none
  | .replicateEntry a _ _, _ =>
    if c.nodes[a]?.any (fun m => m.state = .leader) ∧ c.reaches a id then some false else none

/-- The last call that said anything of the seat gave it to `id`. -/
def seated (id : ConsensusNodeId) (c : ConsensusCluster) (tr : Trace) : Bool :=
  (machine.observe (fun c call answer => (seat id c call answer).toList) c tr).foldl (fun _ given => given) true

theorem handleRequestVote_state (n : ConsensusNode) (request) : (n.handleRequestVote request).2.state =
    if n.currentTerm < request.term then .follower else n.state := by
  split
  · rename_i hlt
    exact (handleRequestVote_of_lt hlt).2
  · rename_i hle
    simp only [handleRequestVote, observeVoteTerm, if_neg hle]
    split_ifs <;> rfl

theorem handleAppendEntries_state {n' : ConsensusNode} {request response}
    (h : n.handleAppendEntries request = some (response, n')) :
    n'.state = if n.currentTerm ≤ request.term then .follower else n.state := by
  rw [handleAppendEntries] at h
  split at h
  · rename_i hlt
    cases h
    rw [if_neg (Nat.not_le.mpr hlt)]
  · rename_i hle
    rw [if_pos (Nat.not_lt.mp hle)]
    dsimp only at h
    split at h
    · obtain ⟨log, -, ⟨⟩⟩ := bind_eq_some_iff.mp h
      rw [(raiseCommit_frame _ _).1]
      exact observeAppendTerm_state n request.term
    · cases h
      exact observeAppendTerm_state n request.term

theorem step_seat (hn : c.nodes[id]? = some n) (hs : machine.step c call = some (answer, c')) :
    ∃ n' : ConsensusNode, c'.nodes[id]? = some n' ∧
      (n'.state = .leader ↔ (seat id c call answer).getD (n.state = .leader) = true) := by
  cases call with
  | addNode a =>
    cases hs
    rw [addNode_nodes]
    by_cases ha : a = id
    · exact ⟨.new a, if_pos ha, by simp [seat, ha, ConsensusNode.new]⟩
    · exact ⟨n, (if_neg ha).trans hn, by simp [seat, ha]⟩
  | electLeader a =>
    obtain ⟨⟨r, c''⟩, helect, ⟨⟩⟩ := bind_eq_some_iff.mp hs
    obtain ⟨hnone, rfl, rfl⟩ | ⟨m, request, m', hheld⟩ := electLeader_cases helect
    · have hne : a ≠ id := by
        rintro rfl
        cases hnone.symm.trans hn
      exact ⟨n, hn, by simp [seat, hne, reaches, hnone]⟩
    · obtain ⟨hterm, -, rfl⟩ := becomeCandidate_spec hheld.asked
      by_cases ha : a = id
      · subst ha
        obtain ⟨rfl, hself⟩ | ⟨rfl, hself⟩ := hheld.result
        · exact ⟨_, hself, by simp [seat]⟩
        · exact ⟨_, hself, by simp [seat, becomeLeader]⟩
      · refine ⟨_, by rw [hheld.others id (Ne.symm ha), hn]; rfl, ?_⟩
        rw [handleRequestVote_state, hterm]
        by_cases hle : n.currentTerm ≤ m.currentTerm <;>
          simp [seat, ha, reaches, hheld.before, hn, Nat.lt_succ_iff, hle]
  | replicateEntry a payload timestampNs =>
    obtain ⟨⟨r, c''⟩, hrep, ⟨⟩⟩ := bind_eq_some_iff.mp hs
    obtain ⟨rfl, hnone, -⟩ | ⟨rfl, ⟨m, hm, hnot⟩, -⟩ | ⟨m, entry, hsent⟩ := replicateEntry_cases hrep
    · exact ⟨n, hn, by simp [seat, hnone]⟩
    · exact ⟨n, hn, by simp [seat, hm, hnot]⟩
    · obtain ⟨response, n', hhandle, hn'⟩ := hsent.answer id n hn
      refine ⟨n', hn', ?_⟩
      rw [handleAppendEntries_state hhandle, replicationRequest]
      by_cases hle : n.currentTerm ≤ m.currentTerm <;>
        simp [seat, reaches, hsent.before, hsent.state, hn, hle]

/-! ## The entries of a leader -/

def returnedEntry (id : ConsensusNodeId) : Call × Answer → Option LogEntry
  | (.replicateEntry a _ _, .replicated (.ok entry)) => if a = id then some entry else none
  | _ => none

def returned (id : ConsensusNodeId) (tr : Trace) : List LogEntry := tr.filterMap (returnedEntry id)

/-- The node `id` stays, and every entry that was sent is one of `id` and was returned. -/
def OwnEntries (id : ConsensusNodeId) (tr : Trace) : Prop :=
  ∀ ev ∈ tr, ev.1 ≠ .addNode id ∧ ev.2 ≠ .replicated (.error .quorumNotReached) ∧
    ∀ entry, ev.2 = .replicated (.ok entry) → returnedEntry id ev = some entry

structure Numbered (id : ConsensusNodeId) (tr : Trace) (n : ConsensusNode) : Prop where
  chain : (returned id tr).IsChain fun e e' => e'.index = e.index + 1
  last : ∀ e ∈ (returned id tr).getLast?, e.index = n.log.length

theorem returned_append (tr ev) : returned id (tr ++ [ev]) = returned id tr ++ (returnedEntry id ev).toList := by
  cases h : returnedEntry id ev <;> simp [returned, h]

theorem Numbered.kept {tr n' ev} (h : Numbered id tr n) (hev : returnedEntry id ev = none) (hlog : n'.log = n.log) :
    Numbered id (tr ++ [ev]) n' := by
  have hsame : returned id (tr ++ [ev]) = returned id tr := by rw [returned_append, hev]; exact List.append_nil _
  exact ⟨hsame ▸ h.chain, by rw [hsame, hlog]; exact h.last⟩

theorem Numbered.step {tr} (hn : c.nodes[id]? = some n) (h : Numbered id tr n) (hindexed : c.AllIndexed)
    (hs : machine.step c call = some (answer, c')) (hown : OwnEntries id [(call, answer)]) :
    ∃ n' : ConsensusNode, c'.nodes[id]? = some n' ∧ Numbered id (tr ++ [(call, answer)]) n' := by
  obtain ⟨hstays, hanswered, hmine⟩ := hown _ (List.mem_singleton_self _)
  cases call with
  | addNode a =>
    cases hs
    have hne : a ≠ id := fun ha => hstays (ha ▸ rfl)
    exact ⟨n, (addNode_nodes ..).trans ((if_neg hne).trans hn), h.kept rfl rfl⟩
  | electLeader a =>
    obtain ⟨⟨r, c''⟩, helect, ⟨⟩⟩ := bind_eq_some_iff.mp hs
    obtain ⟨-, -, rfl⟩ | ⟨m, request, m', hheld⟩ := electLeader_cases helect
    · exact ⟨n, hn, h.kept rfl rfl⟩
    · obtain ⟨-, -, rfl⟩ := becomeCandidate_spec hheld.asked
      by_cases ha : a = id
      · subst ha
        cases hheld.before.symm.trans hn
        obtain ⟨-, hself⟩ | ⟨-, hself⟩ := hheld.result
        · exact ⟨_, hself, h.kept rfl rfl⟩
        · exact ⟨_, hself, h.kept rfl rfl⟩
      · refine ⟨_, by rw [hheld.others id (Ne.symm ha), hn]; rfl, h.kept rfl ?_⟩
        exact (n.handleRequestVote_frame request).1
  | replicateEntry a payload timestampNs =>
    obtain ⟨⟨r, c''⟩, hrep, ⟨⟩⟩ := bind_eq_some_iff.mp hs
    obtain ⟨rfl, -, rfl⟩ | ⟨rfl, -, rfl⟩ | ⟨leader, entry, hsent⟩ := replicateEntry_cases hrep
    · exact ⟨n, hn, h.kept rfl rfl⟩
    · exact ⟨n, hn, h.kept rfl rfl⟩
    · obtain rfl | ⟨rfl, -⟩ := hsent.result
      · have hret := hmine entry rfl
        obtain rfl : a = id := by
          by_contra hne
          simp [returnedEntry, hne] at hret
        cases hsent.before.symm.trans hn
        have hnumber : entry.index = n.lastLogIndex + 1 := by rw [hsent.entry_eq]
        obtain ⟨response, m, hhandle, -, htook⟩ : ∃ response m,
            n.handleAppendEntries (n.replicationRequest a entry) = some (response, m) ∧
            response.success = true ∧ n.Took n entry m :=
          handleAppendEntries_of_log_eq rfl (hindexed a n hn) le_rfl hnumber
        obtain ⟨response', m', hhandle', hm'⟩ := hsent.answer a n hn
        cases hhandle.symm.trans hhandle'
        rw [lastLogIndex_eq (hindexed a n hn)] at hnumber
        refine ⟨m, hm', ?_, ?_⟩
        · rw [returned_append, hret, List.isChain_append]
          refine ⟨h.chain, .singleton _, fun e he e' he' => ?_⟩
          obtain rfl : entry = e' := by simpa using he'
          rw [hnumber, h.last e he]
        · rw [returned_append, hret]
          intro e he
          obtain rfl : entry = e := by simpa using he
          rw [hnumber, htook.log, List.length_append]
          rfl
      · exact absurd rfl hanswered

theorem leaderRequired_iff (hn : c.nodes[id]? = some n) :
    (∀ payload timestampNs answer c', machine.step c (.replicateEntry id payload timestampNs) = some (answer, c') →
      answer ≠ .replicated (.error .leaderRequired)) ↔ n.state = .leader := by
  constructor
  · intro h
    by_contra hstate
    refine h [] 0 (.replicated (.error .leaderRequired)) c ?_ rfl
    simp [machine, replicateEntry, hn, hstate]
  · rintro hstate payload timestampNs answer c' hs rfl
    obtain ⟨⟨r, c''⟩, hrep, ⟨⟩⟩ := bind_eq_some_iff.mp hs
    obtain ⟨-, -, hr⟩ | ⟨-, ⟨m, hm, hnot⟩, -⟩ | ⟨leader, entry, hsent⟩ := replicateEntry_cases hrep
    · cases hr
    · cases hm.symm.trans hn
      exact hnot hstate
    · obtain hr | ⟨hr, -⟩ := hsent.result
      · cases hr
      · cases hr

/-- In every run after its election a node is a leader, and may replicate, exactly as long as nothing has taken its
seat since it was last elected. The entries it replicates have consecutive indexes. -/
theorem leader_iff_seated {id : ConsensusNodeId} {tr₀ tr : Trace} {c₀ c₁ c : ConsensusCluster}
    (h₀ : machine.FreeRun new tr₀ c₀)
    (helect : machine.step c₀ (.electLeader id) = some (.elected (.ok ()), c₁))
    (h : machine.FreeRun c₁ tr c) :
    ((∃ n : ConsensusNode, c.nodes[id]? = some n ∧ n.state = .leader) ↔ seated id c₁ tr = true) ∧
    ((∀ payload timestampNs answer c', machine.step c (.replicateEntry id payload timestampNs) = some (answer, c') →
      answer ≠ .replicated (.error .leaderRequired)) ↔ seated id c₁ tr = true) ∧
    (OwnEntries id tr → (returned id tr).IsChain fun e e' => e'.index = e.index + 1) := by
  obtain ⟨n₁, hn₁, hleads⟩ : ∃ n : ConsensusNode, c₁.nodes[id]? = some n ∧ n.state = .leader := by
    obtain ⟨⟨r, c''⟩, hcall, ⟨⟩⟩ := bind_eq_some_iff.mp helect
    obtain ⟨-, hr, -⟩ | ⟨n, request, m, hheld⟩ := electLeader_cases hcall
    · cases hr
    · obtain ⟨hr, -⟩ | ⟨-, hself⟩ := hheld.result
      · cases hr
      · exact ⟨_, hself, rfl⟩
  have hindexed : c₁.AllIndexed := by
    have hall := h₀.invariantTrace (P := fun _ c => c.AllIndexed) (fun _ _ _ _ _ h hs _ => h.step hs) [] allIndexed_new
    exact hall.step helect
  obtain ⟨n, hn, hstate⟩ : ∃ n, c.nodes[id]? = some n ∧ (n.state = .leader ↔ seated id c₁ tr = true) := by
    refine h.invariantObserved (P := fun given c => ∃ n : ConsensusNode, c.nodes[id]? = some n ∧
      (n.state = .leader ↔ given = true)) (fun given s call answer s' hl hs _ => ?_) true ⟨n₁, hn₁, by simp [hleads]⟩
    obtain ⟨n, hn, hgiven⟩ := hl
    obtain ⟨n', hn', hseat⟩ := step_seat hn hs
    refine ⟨n', hn', hseat.trans ?_⟩
    cases seat id s call answer <;> simp [hgiven]
  obtain ⟨-, m, hm, hnumbered⟩ : c.AllIndexed ∧ ∃ n : ConsensusNode, c.nodes[id]? = some n ∧
      (OwnEntries id tr → Numbered id tr n) := by
    refine h.invariantTrace (P := fun tr c => c.AllIndexed ∧ ∃ n : ConsensusNode, c.nodes[id]? = some n ∧
      (OwnEntries id tr → Numbered id tr n)) (fun tr s call answer s' hp hs _ => ?_) []
      ⟨hindexed, n₁, hn₁, fun _ => ⟨.nil, by simp [returned]⟩⟩
    obtain ⟨hall, n, hn, hnumbered⟩ := hp
    refine ⟨hall.step hs, ?_⟩
    by_cases hown : OwnEntries id (tr ++ [(call, answer)])
    · obtain ⟨hbefore, hlast⟩ := List.forall_mem_append.mp hown
      obtain ⟨n', hn', hnum'⟩ := (hnumbered hbefore).step hn hall hs hlast
      exact ⟨n', hn', fun _ => hnum'⟩
    · obtain ⟨n', hn'⟩ := exists_node_of_step hs hn
      exact ⟨n', hn', fun h => absurd h hown⟩
  refine ⟨⟨?_, fun hgiven => ⟨n, hn, hstate.mpr hgiven⟩⟩, (leaderRequired_iff hn).trans hstate,
    fun hown => (hnumbered hown).chain⟩
  rintro ⟨m, hm, hleader⟩
  cases hm.symm.trans hn
  exact hstate.mp hleader

theorem leader_iff_seated_reelected : ∃ tr₀ c₀ c₁ tr c, machine.FreeRun new tr₀ c₀ ∧
      machine.step c₀ (.electLeader ⟨1⟩) = some (.elected (.ok ()), c₁) ∧
      machine.FreeRun c₁ tr c ∧ (returned ⟨1⟩ tr).length = 2 ∧
      .elected (.error .quorumNotReached) ∈ tr.map Prod.snd ∧
      ∃ n : ConsensusNode, c.nodes[(⟨1⟩ : ConsensusNodeId)]? = some n ∧ n.state = .leader := by
  obtain ⟨tr₀, c₀, hrun₀, c₁, hstep, tr, c, hrun, hlength, hfailed, hseated⟩ : ∃ tr₀ c₀,
      machine.FreeRun new tr₀ c₀ ∧
      ∃ c₁, machine.step c₀ (.electLeader ⟨1⟩) = some (.elected (.ok ()), c₁) ∧
      ∃ tr c, machine.exec (fun _ _ _ => true) c₁
        [.replicateEntry ⟨1⟩ [7] 0, .electLeader ⟨1⟩, .replicateEntry ⟨1⟩ [8] 1, .addNode ⟨4⟩, .electLeader ⟨4⟩,
          .electLeader ⟨1⟩] = some (tr, c) ∧
      (returned ⟨1⟩ tr).length = 2 ∧ .elected (.error .quorumNotReached) ∈ tr.map Prod.snd ∧ seated ⟨1⟩ c₁ tr = true :=
    Machine.exists_run [.addNode ⟨1⟩, .addNode ⟨2⟩, .addNode ⟨3⟩] (by decide +kernel)
  have hrun := Machine.exec_free hrun
  exact ⟨tr₀, c₀, c₁, tr, c, hrun₀, hstep, hrun, hlength, hfailed, (leader_iff_seated hrun₀ hstep hrun).1.mpr hseated⟩

/-- The leader of three nodes replicates one entry with success, and is refused the next. -/
theorem leader_lost_after_replication : ∃ tr₀ c₀ c₁ tr c, machine.FreeRun new tr₀ c₀ ∧
      machine.step c₀ (.electLeader ⟨1⟩) = some (.elected (.ok ()), c₁) ∧
      machine.FreeRun c₁ tr c ∧ tr.map Prod.fst = [.replicateEntry ⟨1⟩ [7] 0] ∧
      (∃ n : ConsensusNode, c.nodes[(⟨1⟩ : ConsensusNodeId)]? = some n ∧ n.state ≠ .leader) ∧
      ∃ c', machine.step c (.replicateEntry ⟨1⟩ [8] 1) = some (.replicated (.error .leaderRequired), c') := by
  obtain ⟨tr₀, c₀, hrun₀, c₁, hstep, tr, c, hrun, hrefused⟩ : ∃ tr₀ c₀,
      machine.FreeRun new tr₀ c₀ ∧
      ∃ c₁, machine.step c₀ (.electLeader ⟨1⟩) = some (.elected (.ok ()), c₁) ∧
      ∃ tr c, machine.exec (fun _ _ _ => true) c₁
        [.replicateEntry ⟨1⟩ [7] 0] = some (tr, c) ∧ tr.map Prod.fst = [.replicateEntry ⟨1⟩ [7] 0] ∧
      (∃ n : ConsensusNode, c.nodes[(⟨1⟩ : ConsensusNodeId)]? = some n ∧ n.state ≠ .leader) ∧
      ∃ c', machine.step c (.replicateEntry ⟨1⟩ [8] 1) = some (.replicated (.error .leaderRequired), c') :=
    Machine.exists_run [.addNode ⟨1⟩, .addNode ⟨2⟩, .addNode ⟨3⟩] (by decide +kernel)
  exact ⟨tr₀, c₀, c₁, tr, c, hrun₀, hstep, Machine.exec_free hrun, hrefused⟩

end PandaGen.Distributed.ConsensusCluster
