import PandaGen.Distributed.Lemmas.Cluster

/-!
# What is committed
-/

namespace PandaGen.Distributed.ConsensusCluster

open Lib List

/-! ## A cluster that is complete before its first election -/

variable {c c' : ConsensusCluster} {term : Nat} {log : List LogEntry}

def storedOn (c : ConsensusCluster) (index : Nat) (entry : LogEntry) : Nat :=
  c.nodes.toList.countP fun (_, n) => n.log[index - 1]? == some entry

/-- A node joins only while it is new and no node has left term 0. -/
def JoinsFirst (c : ConsensusCluster) : Call → Prop
  | .addNode id => c.nodes[id]? = none ∧ c.nodes.toList.all fun (_, n) => n.currentTerm == 0
  | _ => True

instance (c : ConsensusCluster) : DecidablePred c.JoinsFirst
  | .addNode id =>
    inferInstanceAs (Decidable (c.nodes[id]? = none ∧ c.nodes.toList.all fun (_, n) => n.currentTerm == 0))
  | .electLeader _ => .isTrue trivial
  | .replicateEntry _ _ _ => .isTrue trivial

/-- All nodes are in one term and hold one log, which is committed. Before the first election there is no
leader and no entry. -/
structure Uniform (c : ConsensusCluster) (term : Nat) (log : List LogEntry) : Prop where
  indexed : Indexed log
  node : ∀ (a : ConsensusNodeId) (n : ConsensusNode), c.nodes[a]? = some n →
    n.currentTerm = term ∧ n.log = log ∧ n.commitIndex = log.length
  first : term = 0 → log = [] ∧ ∀ (a : ConsensusNodeId) (n : ConsensusNode), c.nodes[a]? = some n → n.state ≠ .leader

theorem uniform_new : new.Uniform 0 [] where
  indexed := fun _ _ h => by simp at h
  node := fun a n hn => by simp [new] at hn
  first := fun _ => ⟨rfl, fun a n hn => by simp [new] at hn⟩

section

variable (h : c.Uniform term log)
include h

theorem Uniform.addNode {id} (hj : c.JoinsFirst (.addNode id)) :
    ∃ term' log', (c.addNode (.new id)).Uniform term' log' ∧
      ∀ (a : ConsensusNodeId) (n : ConsensusNode), c.nodes[a]? = some n → log' = log := by
  have hzero : ∀ (a : ConsensusNodeId) (n : ConsensusNode), c.nodes[a]? = some n → n.currentTerm = 0 := by
    intro a n hn
    have := all_eq_true.mp hj.2 (a, n) (Std.ExtTreeMap.mem_toList_iff_getElem?_eq_some.mpr hn)
    simpa using this
  have hempty : ∀ (a : ConsensusNodeId) (n : ConsensusNode), c.nodes[a]? = some n → log = [] ∧ n.state ≠ .leader := by
    intro a n hn
    obtain ⟨hlog, hstate⟩ := h.first ((h.node a n hn).1.symm.trans (hzero a n hn))
    exact ⟨hlog, hstate a n hn⟩
  refine ⟨0, [], ⟨fun _ _ h => by simp at h, fun a n hn => ?_, fun _ => ⟨rfl, fun a n hn => ?_⟩⟩, ?_⟩
  · rw [addNode_nodes] at hn
    split at hn
    · cases hn
      exact ⟨rfl, rfl, rfl⟩
    · obtain ⟨-, hlog, hcommit⟩ := h.node a n hn
      rw [(hempty a n hn).1] at hlog hcommit
      exact ⟨hzero a n hn, hlog, hcommit⟩
  · rw [addNode_nodes] at hn
    split at hn
    · cases hn
      simp [ConsensusNode.new]
    · exact (hempty a n hn).2
  · intro a n hn
    exact (hempty a n hn).1.symm

theorem Uniform.elect {id r n n' request} (hheld : Held c id r c' n request n') : c'.Uniform (term + 1) log := by
  obtain ⟨hterm, hlog, hcommit⟩ := h.node id n hheld.before
  obtain ⟨hrequest, -, rfl⟩ := ConsensusNode.becomeCandidate_spec hheld.asked
  refine ⟨h.indexed, fun a m hm => ?_, fun hz => by omega⟩
  by_cases ha : a = id
  · subst ha
    obtain ⟨-, hself⟩ | ⟨-, hself⟩ := hheld.result
    · cases hself.symm.trans hm
      exact ⟨congrArg (· + 1) hterm, hlog, hcommit⟩
    · cases hself.symm.trans hm
      exact ⟨congrArg (· + 1) hterm, hlog, hcommit⟩
  · rw [hheld.others a ha] at hm
    obtain ⟨m0, hm0, rfl⟩ := Option.map_eq_some_iff.mp hm
    obtain ⟨hterm0, hlog0, hcommit0⟩ := h.node a m0 hm0
    have hlt : m0.currentTerm < request.term := by omega
    rw [(m0.handleRequestVote_frame request).1, (m0.handleRequestVote_frame request).2,
      (ConsensusNode.handleRequestVote_of_lt hlt).1]
    exact ⟨by omega, hlog0, hcommit0⟩

theorem Uniform.replicate {id payload timestampNs r leader entry}
    (hsent : Sent c id payload timestampNs r c' leader entry) : c'.Uniform term (log ++ [entry]) ∧ r = .ok entry := by
  obtain ⟨hterm, hlog, hcommit⟩ := h.node id leader hsent.before
  have hentry : entry.index = leader.lastLogIndex + 1 := by rw [hsent.entry_eq]
  have hindex : entry.index = log.length + 1 := by
    rw [hentry, ConsensusNode.lastLogIndex_eq (hlog ▸ h.indexed), hlog]
  have htake : ∀ (a : ConsensusNodeId) (n : ConsensusNode), c.nodes[a]? = some n → ∃ response n',
      n.handleAppendEntries (leader.replicationRequest id entry) = some (response, n') ∧
      response.success = true ∧ n.Took leader entry n' := by
    intro a n hn
    obtain ⟨hterm', hlog', -⟩ := h.node a n hn
    exact ConsensusNode.handleAppendEntries_of_log_eq (hlog'.trans hlog.symm) (hlog' ▸ h.indexed)
      (hterm'.trans hterm.symm).le hentry
  constructor
  · refine ⟨h.indexed.append hindex, fun a n' hn' => ?_, fun hz => ?_⟩
    · cases hn : c.nodes[a]? with
      | none => rw [hsent.absent a hn] at hn'; cases hn'
      | some n =>
        obtain ⟨-, hlog', hcommit'⟩ := h.node a n hn
        obtain ⟨response, m, hhandle, -, htook⟩ := htake a n hn
        obtain ⟨response', m', hhandle', hm'⟩ := hsent.answer a n hn
        cases hhandle.symm.trans hhandle'
        cases hm'.symm.trans hn'
        refine ⟨htook.currentTerm.trans hterm, by rw [htook.log, hlog'], ?_⟩
        rw [htook.commitIndex, hcommit', hindex, length_append]
        exact max_eq_right (Nat.le_succ _)
    · -- a leader was elected, so the term is not 0
      exact absurd hsent.state ((h.first hz).2 id leader hsent.before)
  · obtain hok | ⟨-, a, n, response, n', hn, hhandle, hfail⟩ := hsent.result
    · exact hok
    · obtain ⟨response', m, hhandle', hsuccess, -⟩ := htake a n hn
      cases hhandle.symm.trans hhandle'
      rw [hsuccess] at hfail
      cases hfail

theorem Uniform.step {call answer} (hs : machine.step c call = some (answer, c')) (hj : c.JoinsFirst call) :
    ∃ term' log', c'.Uniform term' log' ∧
      ∀ (a : ConsensusNodeId) (n : ConsensusNode), c.nodes[a]? = some n → log <+: log' := by
  cases call with
  | addNode id =>
    cases hs
    obtain ⟨term', log', hu, hlog⟩ := h.addNode hj
    exact ⟨term', log', hu, fun a n hn => hlog a n hn ▸ prefix_rfl⟩
  | electLeader id =>
    obtain ⟨⟨r, c''⟩, helect, ⟨⟩⟩ := Option.bind_eq_some_iff.mp hs
    obtain ⟨-, -, rfl⟩ | ⟨n, request, n', hheld⟩ := electLeader_cases helect
    · exact ⟨term, log, h, fun _ _ _ => prefix_rfl⟩
    · exact ⟨term + 1, log, h.elect hheld, fun _ _ _ => prefix_rfl⟩
  | replicateEntry id payload timestampNs =>
    obtain ⟨⟨r, c''⟩, hrep, ⟨⟩⟩ := Option.bind_eq_some_iff.mp hs
    obtain ⟨rfl, -⟩ | ⟨rfl, -⟩ | ⟨leader, entry, hsent⟩ := replicateEntry_cases hrep
    · exact ⟨term, log, h, fun _ _ _ => prefix_rfl⟩
    · exact ⟨term, log, h, fun _ _ _ => prefix_rfl⟩
    · exact ⟨term, log ++ [entry], (h.replicate hsent).1, fun _ _ _ => prefix_append _ _⟩

def LogsKept (c c' : ConsensusCluster) : Prop :=
  ∀ (a : ConsensusNodeId) (n : ConsensusNode), c.nodes[a]? = some n →
    ∃ n' : ConsensusNode, c'.nodes[a]? = some n' ∧ n.log <+: n'.log

omit h in
theorem Uniform.run {tr} (hrun : machine.Run (fun c call _ => c.JoinsFirst call) c tr c') (h : c.Uniform term log) :
    (∃ term' log', c'.Uniform term' log') ∧ LogsKept c c' := by
  induction hrun generalizing term log with
  | nil => exact ⟨⟨term, log, h⟩, fun a n hn => ⟨n, hn, prefix_rfl⟩⟩
  | cons hs hj _ ih =>
    obtain ⟨term1, log1, h1, hlog⟩ := h.step hs hj
    obtain ⟨hend, hkept⟩ := ih h1
    refine ⟨hend, fun a n hn => ?_⟩
    obtain ⟨n1, hn1⟩ := exists_node_of_step hs hn
    obtain ⟨n2, hn2, hprefix⟩ := hkept a n1 hn1
    refine ⟨n2, hn2, List.IsPrefix.trans ?_ hprefix⟩
    rw [(h.node a n hn).2.1, (h1.node a n1 hn1).2.1]
    exact hlog a n hn

theorem Uniform.quorum_le_storedOn {a : ConsensusNodeId} {n : ConsensusNode} {index : Nat} {entry : LogEntry}
    (hn : c.nodes[a]? = some n) (hentry : n.log[index - 1]? = some entry) : c.quorum ≤ c.storedOn index entry := by
  have hall : c.storedOn index entry = c.nodes.size := by
    apply BTreeMap.countP_toList_eq_size
    intro b m hm
    rw [beq_iff_eq, (h.node b m hm).2.1, ← (h.node a n hn).2.1]
    exact hentry
  have hpos := BTreeMap.size_pos_of_getElem? hn
  rw [hall, quorum]
  omega

end

/-- In a cluster whose nodes all join before the first election, what a commit index covers is on a majority
of the nodes, a replication without a quorum raises no commit index, and a committed entry stays. -/
theorem committed_replicated_and_kept {tr : Trace} {c : ConsensusCluster}
    (h : machine.Run (fun c call _ => c.JoinsFirst call) new tr c) :
    (∀ (id : ConsensusNodeId) (n : ConsensusNode) (i : Nat), c.nodes[id]? = some n → 1 ≤ i → i ≤ n.commitIndex →
      ∃ entry, n.log[i - 1]? = some entry ∧ c.quorum ≤ c.storedOn i entry) ∧
    (∀ leaderId payload timestampNs c', machine.step c (.replicateEntry leaderId payload timestampNs) =
        some (.replicated (.error .quorumNotReached), c') →
      ∀ (id : ConsensusNodeId) (n n' : ConsensusNode), c.nodes[id]? = some n → c'.nodes[id]? = some n' →
        n'.commitIndex ≤ n.commitIndex) ∧
    (∀ tr' c', machine.Run (fun c call _ => c.JoinsFirst call) c tr' c' →
      ∀ (id : ConsensusNodeId) (n : ConsensusNode), c.nodes[id]? = some n →
        ∃ n' : ConsensusNode, c'.nodes[id]? = some n' ∧
          ∀ i, 1 ≤ i → i ≤ n.commitIndex → n'.log[i - 1]? = n.log[i - 1]?) := by
  obtain ⟨⟨term, log, hu⟩, -⟩ := uniform_new.run h
  refine ⟨fun id n i hn hpos hle => ?_, fun leaderId payload timestampNs c' hs => ?_, fun tr' c' h' id n hn => ?_⟩
  · obtain ⟨-, hlog, hcommit⟩ := hu.node id n hn
    have hlt : i - 1 < n.log.length := by
      rw [hlog]
      omega
    have hentry := List.getElem?_eq_getElem hlt
    exact ⟨n.log[i - 1], hentry, hu.quorum_le_storedOn hn hentry⟩
  · obtain ⟨⟨r, c''⟩, hrep, heq⟩ := Option.bind_eq_some_iff.mp hs
    cases heq
    obtain ⟨-, -, hr⟩ | ⟨-, -, hr⟩ | ⟨leader, entry, hsent⟩ := replicateEntry_cases hrep
    · cases hr
    · cases hr
    · cases (hu.replicate hsent).2
  · obtain ⟨n', hn', hprefix⟩ := (hu.run h').2 id n hn
    refine ⟨n', hn', fun i hpos hle => ?_⟩
    obtain ⟨-, hlog, hcommit⟩ := hu.node id n hn
    have hlt : i - 1 < n.log.length := by
      rw [hlog]
      omega
    rw [List.prefix_iff_getElem?.mp hprefix (i - 1) hlt, List.getElem?_eq_getElem hlt]

theorem committed_replicated_and_kept_two_leaders : ∃ tr c, machine.Run (fun c call _ => c.JoinsFirst call) new tr c ∧
      ∃ n : ConsensusNode, c.nodes[(⟨3⟩ : ConsensusNodeId)]? = some n ∧ n.commitIndex = 2 ∧
        ∃ entry, n.log[1]? = some entry ∧ c.quorum ≤ c.storedOn 2 entry := by
  obtain ⟨tr, c, hrun, n, hn, hcommit⟩ : ∃ tr c, machine.Run (fun c call _ => c.JoinsFirst call) new tr c ∧
      ∃ n, c.nodes[(⟨3⟩ : ConsensusNodeId)]? = some n ∧ n.commitIndex = 2 :=
    Machine.exists_run [.addNode ⟨1⟩, .addNode ⟨2⟩, .addNode ⟨3⟩, .electLeader ⟨1⟩, .replicateEntry ⟨1⟩ [7] 0,
      .electLeader ⟨2⟩, .replicateEntry ⟨2⟩ [8] 1] (by decide +kernel)
  obtain ⟨entry, hentry, hquorum⟩ :=
    (committed_replicated_and_kept hrun).1 ⟨3⟩ n 2 hn (by decide) hcommit.ge
  exact ⟨tr, c, hrun, n, hn, hcommit, entry, hentry, hquorum⟩

/-- Node 1 commits an entry alone and two nodes join. The next replication of node 1 finds no quorum, yet node 1
counts its entry as committed, on one node of three. The other two then elect a leader without the entries of
node 1, whose first replication replaces them. -/
theorem committed_entry_lost_after_join : ∃ tr c c' tr' c'', ∃ n n' n'' : ConsensusNode, ∃ entry,
      machine.Run (fun c call _ => c.Fresh call) new tr c ∧
      machine.step c (.replicateEntry ⟨1⟩ [8] 1) = some (.replicated (.error .quorumNotReached), c') ∧
      machine.Run (fun c call _ => c.Fresh call) c' tr' c'' ∧
      c.nodes[(⟨1⟩ : ConsensusNodeId)]? = some n ∧ c'.nodes[(⟨1⟩ : ConsensusNodeId)]? = some n' ∧
      c''.nodes[(⟨1⟩ : ConsensusNodeId)]? = some n'' ∧
      n.commitIndex = 1 ∧ n'.commitIndex = 2 ∧ n'.log[1]? = some entry ∧ c'.storedOn 2 entry < c'.quorum ∧
      n''.log[0]? ≠ n'.log[0]? ∧ n''.log[1]? = none := by
  obtain ⟨tr, c, hrun, ⟨n, hn, hcommit⟩, c', hstep, n', hn', hcommit', ⟨entry, hentry, hstored⟩, tr', c'', hrun', n'',
      hn'', hlost⟩ : ∃ tr c, machine.Run (fun c call _ => c.Fresh call) new tr c ∧
      (∃ n, c.nodes[(⟨1⟩ : ConsensusNodeId)]? = some n ∧ n.commitIndex = 1) ∧
      ∃ c', machine.step c (.replicateEntry ⟨1⟩ [8] 1) = some (.replicated (.error .quorumNotReached), c') ∧
      ∃ n', c'.nodes[(⟨1⟩ : ConsensusNodeId)]? = some n' ∧ n'.commitIndex = 2 ∧
      (∃ entry, n'.log[1]? = some entry ∧ c'.storedOn 2 entry < c'.quorum) ∧
      ∃ tr' c'', machine.exec (fun c call _ => decide (c.Fresh call)) c'
        [.electLeader ⟨2⟩, .replicateEntry ⟨2⟩ [9] 2] = some (tr', c'') ∧
      ∃ n'', c''.nodes[(⟨1⟩ : ConsensusNodeId)]? = some n'' ∧ n''.log[0]? ≠ n'.log[0]? ∧ n''.log[1]? = none :=
    Machine.exists_run [.addNode ⟨1⟩, .electLeader ⟨1⟩, .replicateEntry ⟨1⟩ [7] 0, .addNode ⟨2⟩, .addNode ⟨3⟩,
      .electLeader ⟨1⟩] (by decide +kernel)
  exact ⟨tr, c, c', tr', c'', n, n', n'', entry, hrun, hstep, Machine.exec_guarded hrun', hn, hn', hn'', hcommit,
    hcommit', hentry, hstored, hlost⟩

end PandaGen.Distributed.ConsensusCluster
