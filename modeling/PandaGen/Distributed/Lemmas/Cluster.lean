import PandaGen.Distributed.Lemmas.Node

/-!
# What a call does to the nodes of a cluster
-/

namespace PandaGen.Distributed.ConsensusCluster

open Lib Option BTreeMap

variable {c c' : ConsensusCluster}

theorem addNode_nodes (c : ConsensusCluster) (n : ConsensusNode) (a) :
    (c.addNode n).nodes[a]? = if n.id = a then some n else c.nodes[a]? := getElem?_insert _ _ _ _

/-! ## Elections -/

theorem requestVotes_nodes (c : ConsensusCluster) (id a request) :
    ((c.requestVotes id request).map fun _ answer => answer.2)[a]? =
      c.nodes[a]?.map fun n => if a = id then n else (n.handleRequestVote request).2 := by
  rw [requestVotes, Std.ExtTreeMap.getElem?_map, Std.ExtTreeMap.getElem?_map, map_map]
  split <;> rfl

structure Held (c : ConsensusCluster) (id : ConsensusNodeId) (r : Except ConsensusError Unit)
    (c' : ConsensusCluster) (n : ConsensusNode) (request : VoteRequest) (n' : ConsensusNode) : Prop where
  before : c.nodes[id]? = some n
  asked : n.becomeCandidate = some (request, n')
  others : ∀ a : ConsensusNodeId, a ≠ id → c'.nodes[a]? = c.nodes[a]?.map fun m => (m.handleRequestVote request).2
  result : (r = .error .quorumNotReached ∧ c'.nodes[id]? = some n') ∨
    (r = .ok () ∧ c'.nodes[id]? = some n'.becomeLeader)

theorem electLeader_cases {id r} (h : c.electLeader id = some (r, c')) :
    (c.nodes[id]? = none ∧ r = .error (.nodeNotFound id) ∧ c' = c) ∨ ∃ n request n', Held c id r c' n request n' := by
  rw [electLeader] at h
  split at h
  · rename_i hnone
    cases h
    exact .inl ⟨hnone, rfl, rfl⟩
  · rename_i n hn
    obtain ⟨⟨request, n'⟩, hcand, h⟩ := bind_eq_some_iff.mp h
    have hself : (((requestVotes ⟨c.nodes.insert id n'⟩ id request).map fun _ answer => answer.2))[id]? = some n' := by
      rw [requestVotes_nodes, getElem?_insert, if_pos rfl]
      simp
    have hothers : ∀ a, a ≠ id → ((requestVotes ⟨c.nodes.insert id n'⟩ id request).map fun _ answer => answer.2)[a]? =
        c.nodes[a]?.map fun m => (m.handleRequestVote request).2 := by
      intro a ha
      rw [requestVotes_nodes, getElem?_insert, if_neg ha.symm]
      simp only [if_neg ha]
    refine .inr ⟨n, request, n', ?_⟩
    dsimp only at h
    split at h
    · cases h
      exact ⟨hn, hcand, hothers, .inl ⟨rfl, hself⟩⟩
    · cases h
      refine ⟨hn, hcand, fun a ha => ?_, .inr ⟨rfl, ?_⟩⟩
      · rw [Std.ExtTreeMap.getElem?_modify, if_neg (by simpa using ha.symm), hothers a ha]
      · rw [Std.ExtTreeMap.getElem?_modify_self, hself]
        rfl

/-! ## Replication -/

structure Sent (c : ConsensusCluster) (leaderId : ConsensusNodeId) (payload : List UInt8) (timestampNs : Nat)
    (r : Except ConsensusError LogEntry) (c' : ConsensusCluster) (leader : ConsensusNode) (entry : LogEntry) :
    Prop where
  before : c.nodes[leaderId]? = some leader
  state : leader.state = .leader
  entry_eq : entry = ⟨leader.currentTerm, leader.lastLogIndex + 1, payload, timestampNs⟩
  answer : ∀ (a : ConsensusNodeId) (n : ConsensusNode), c.nodes[a]? = some n → ∃ response n',
    n.handleAppendEntries (leader.replicationRequest leaderId entry) = some (response, n') ∧
    c'.nodes[a]? = some n'
  absent : ∀ a : ConsensusNodeId, c.nodes[a]? = none → c'.nodes[a]? = none
  result : r = .ok entry ∨ r = .error .quorumNotReached ∧
    ∃ (a : ConsensusNodeId) (n : ConsensusNode) (response : _) (n' : ConsensusNode), c.nodes[a]? = some n ∧
      n.handleAppendEntries (leader.replicationRequest leaderId entry) = some (response, n') ∧
      response.success = false

theorem replicateEntry_cases {leaderId payload timestampNs r}
    (h : c.replicateEntry leaderId payload timestampNs = some (r, c')) :
    (c' = c ∧ c.nodes[leaderId]? = none ∧ r = .error (.nodeNotFound leaderId)) ∨
    (c' = c ∧ (∃ n : ConsensusNode, c.nodes[leaderId]? = some n ∧ n.state ≠ .leader) ∧ r = .error .leaderRequired) ∨
    ∃ leader entry, Sent c leaderId payload timestampNs r c' leader entry := by
  rw [replicateEntry] at h
  split at h
  · rename_i hnone
    cases h
    exact .inl ⟨rfl, hnone, rfl⟩
  · rename_i leader hleader
    split at h
    · rename_i hstate
      cases h
      exact .inr (.inl ⟨rfl, ⟨leader, hleader, hstate⟩, rfl⟩)
    · rename_i hstate
      obtain ⟨index, hindex, h⟩ := bind_eq_some_iff.mp h
      obtain ⟨-, rfl⟩ := checkedAdd_eq_some.mp hindex
      obtain ⟨answers, hanswers, h⟩ := bind_eq_some_iff.mp h
      dsimp only at h
      refine .inr (.inr ⟨leader, ⟨leader.currentTerm, leader.lastLogIndex + 1, payload, timestampNs⟩, ?_⟩)
      have hc' : c'.nodes = answers.map fun _ answer => answer.2 := by
        split at h <;> (cases h; rfl)
      constructor
      case before => exact hleader
      case state => exact not_not.mp hstate
      case entry_eq => rfl
      case answer =>
        intro a n hn
        obtain ⟨⟨response, n'⟩, hw, ha⟩ := exists_of_mapM hanswers hn
        refine ⟨response, n', hw, ?_⟩
        rw [hc', Std.ExtTreeMap.getElem?_map, ha, map_some]
      case absent =>
        intro a ha
        rw [hc', Std.ExtTreeMap.getElem?_map, getElem?_of_mapM hanswers, ha]
        rfl
      case result =>
        split at h
        · rename_i hfew
          cases h
          refine .inr ⟨rfl, ?_⟩
          -- had every node accepted, the leader among them, there would be a quorum
          by_contra hnone
          push Not at hnone
          have hall : ∀ (a : ConsensusNodeId) (answer : AppendEntriesResponse × ConsensusNode),
              answers[a]? = some answer → answer.1.success = true := by
            intro a ⟨response, n'⟩ ha
            rw [getElem?_of_mapM hanswers] at ha
            obtain ⟨n, hn, hhandle⟩ := bind_eq_some_iff.mp ha
            simpa using hnone a n response n' hn hhandle
          obtain ⟨_, -, ha⟩ := exists_of_mapM hanswers hleader
          have hpos := size_pos_of_getElem? ha
          rw [countP_toList_eq_size hall, quorum, Std.ExtTreeMap.size_map] at hfew
          omega
        · cases h
          exact .inl rfl

theorem exists_node_of_step {call : Call} {answer : Answer} (hs : machine.step c call = some (answer, c'))
    {a : ConsensusNodeId} {n : ConsensusNode} (hn : c.nodes[a]? = some n) :
    ∃ n' : ConsensusNode, c'.nodes[a]? = some n' := by
  cases call with
  | addNode id =>
    cases hs
    rw [addNode_nodes]
    split
    · exact ⟨_, rfl⟩
    · exact ⟨n, hn⟩
  | electLeader id =>
    obtain ⟨⟨r, c''⟩, helect, ⟨⟩⟩ := bind_eq_some_iff.mp hs
    obtain ⟨-, -, rfl⟩ | ⟨m, request, m', hheld⟩ := electLeader_cases helect
    · exact ⟨n, hn⟩
    · by_cases ha : a = id
      · subst ha
        obtain ⟨-, hself⟩ | ⟨-, hself⟩ := hheld.result
        · exact ⟨_, hself⟩
        · exact ⟨_, hself⟩
      · rw [hheld.others a ha, hn]
        exact ⟨_, rfl⟩
  | replicateEntry id payload timestampNs =>
    obtain ⟨⟨r, c''⟩, hrep, ⟨⟩⟩ := bind_eq_some_iff.mp hs
    obtain ⟨rfl, -⟩ | ⟨rfl, -⟩ | ⟨leader, entry, hsent⟩ := replicateEntry_cases hrep
    · exact ⟨n, hn⟩
    · exact ⟨n, hn⟩
    · obtain ⟨response, n', -, hn'⟩ := hsent.answer a n hn
      exact ⟨n', hn'⟩

/-! ## Places in the logs -/

def AllIndexed (c : ConsensusCluster) : Prop :=
  ∀ (a : ConsensusNodeId) (n : ConsensusNode), c.nodes[a]? = some n → Indexed n.log

theorem AllIndexed.step {call answer} (h : c.AllIndexed) (hs : machine.step c call = some (answer, c')) :
    c'.AllIndexed := by
  intro a n' hn'
  cases call with
  | addNode id =>
    cases hs
    rw [addNode_nodes] at hn'
    split at hn'
    · cases hn'
      exact fun _ _ he => by simp [ConsensusNode.new] at he
    · exact h a n' hn'
  | electLeader id =>
    obtain ⟨⟨r, c''⟩, helect, ⟨⟩⟩ := bind_eq_some_iff.mp hs
    obtain ⟨-, -, rfl⟩ | ⟨n, request, m, hheld⟩ := electLeader_cases helect
    · exact h a n' hn'
    · obtain ⟨-, -, rfl⟩ := ConsensusNode.becomeCandidate_spec hheld.asked
      by_cases ha : a = id
      · subst ha
        obtain ⟨-, hself⟩ | ⟨-, hself⟩ := hheld.result
        · cases hself.symm.trans hn'
          exact h a n hheld.before
        · cases hself.symm.trans hn'
          exact h a n hheld.before
      · rw [hheld.others a ha] at hn'
        obtain ⟨n0, hn0, rfl⟩ := map_eq_some_iff.mp hn'
        rw [(n0.handleRequestVote_frame request).1]
        exact h a n0 hn0
  | replicateEntry id payload timestampNs =>
    obtain ⟨⟨r, c''⟩, hrep, ⟨⟩⟩ := bind_eq_some_iff.mp hs
    obtain ⟨rfl, -⟩ | ⟨rfl, -⟩ | ⟨leader, entry, hsent⟩ := replicateEntry_cases hrep
    · exact h a n' hn'
    · exact h a n' hn'
    · cases hn : c.nodes[a]? with
      | none => rw [hsent.absent a hn] at hn'; cases hn'
      | some n =>
        obtain ⟨response, m, hhandle, hm⟩ := hsent.answer a n hn
        cases hm.symm.trans hn'
        apply ConsensusNode.handleAppendEntries_indexed (h a n hn) _ hhandle
        rw [hsent.entry_eq]

theorem allIndexed_new : new.AllIndexed := fun a n hn => by simp [new] at hn

end PandaGen.Distributed.ConsensusCluster
