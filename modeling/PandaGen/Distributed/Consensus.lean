import PandaGen.Core.Uuid
import PandaGen.Core.Word
import PandaGen.Lib.Machine
import PandaGen.Lib.Quorum

/-!
# The consensus primitives

`distributed_storage/src/consensus.rs`: a node with its two message handlers, and a cluster that runs an
election or a replication as one call which hands the request to every node in turn. A node answers a
request from its own state alone, so the order in which the cluster walks its hash map does not show.
-/

namespace PandaGen.Distributed

open Lib

inductive NodeState where
  | follower
  | candidate
  | leader
  deriving DecidableEq

structure LogEntry where
  term : Nat
  index : Nat
  payload : List UInt8
  timestampNs : Nat
  deriving DecidableEq

structure VoteRequest where
  term : Nat
  candidateId : ConsensusNodeId
  lastLogIndex : Nat
  lastLogTerm : Nat
  deriving DecidableEq

structure VoteResponse where
  term : Nat
  voteGranted : Bool

structure AppendEntriesRequest where
  term : Nat
  leaderId : ConsensusNodeId
  prevLogIndex : Nat
  prevLogTerm : Nat
  entries : List LogEntry
  leaderCommit : Nat

structure AppendEntriesResponse where
  term : Nat
  success : Bool
  matchIndex : Nat

inductive ConsensusError where
  | nodeNotFound (id : ConsensusNodeId)
  | leaderRequired
  | quorumNotReached
  deriving DecidableEq

structure ConsensusNode where
  id : ConsensusNodeId
  state : NodeState
  currentTerm : Nat
  votedFor : Option ConsensusNodeId
  log : List LogEntry
  commitIndex : Nat
  lastApplied : Nat

namespace ConsensusNode

def new (id : ConsensusNodeId) : ConsensusNode where
  id
  state := .follower
  currentTerm := 0
  votedFor := none
  log := []
  commitIndex := 0
  lastApplied := 0

variable (n : ConsensusNode)

def lastLogIndex : Nat := (n.log.getLast?.map LogEntry.index).getD 0

def lastLogTerm : Nat := (n.log.getLast?.map LogEntry.term).getD 0

def becomeCandidate : Option (VoteRequest × ConsensusNode) := do
  let currentTerm ← checkedAdd n.currentTerm 1
  let n := { n with state := .candidate, currentTerm, votedFor := some n.id }
  some (⟨n.currentTerm, n.id, n.lastLogIndex, n.lastLogTerm⟩, n)

def becomeLeader : ConsensusNode := { n with state := .leader }

def observeVoteTerm (term : Nat) : ConsensusNode :=
  if term > n.currentTerm then { n with currentTerm := term, votedFor := none, state := .follower } else n

def upToDate (request : VoteRequest) : Bool :=
  request.lastLogTerm > n.lastLogTerm ||
    (request.lastLogTerm == n.lastLogTerm && request.lastLogIndex ≥ n.lastLogIndex)

def canVote (request : VoteRequest) : Bool :=
  n.votedFor.isNone || n.votedFor == some request.candidateId

def handleRequestVote (request : VoteRequest) : VoteResponse × ConsensusNode :=
  if request.term < n.currentTerm then (⟨n.currentTerm, false⟩, n)
  else
    let n := n.observeVoteTerm request.term
    if n.canVote request && n.upToDate request then
      (⟨n.currentTerm, true⟩, { n with votedFor := some request.candidateId })
    else (⟨n.currentTerm, false⟩, n)

def observeAppendTerm (term : Nat) : ConsensusNode :=
  let n := if term > n.currentTerm then { n with currentTerm := term, votedFor := none } else n
  { n with state := .follower }

def prevMatches (request : AppendEntriesRequest) : Bool :=
  request.prevLogIndex == 0 ||
    (n.log[request.prevLogIndex - 1]?.any fun prev => prev.term == request.prevLogTerm)

def storeEntry (log : List LogEntry) (entry : LogEntry) : Option (List LogEntry) := do
  let i ← checkedSub entry.index 1
  match log[i]? with
  | some existing => if existing.term ≠ entry.term then some (log.take i ++ [entry]) else some log
  | none => some (log ++ [entry])

def raiseCommit (leaderCommit : Nat) : ConsensusNode :=
  if leaderCommit > n.commitIndex then { n with commitIndex := min n.lastLogIndex leaderCommit } else n

def handleAppendEntries (request : AppendEntriesRequest) : Option (AppendEntriesResponse × ConsensusNode) :=
  if request.term < n.currentTerm then some (⟨n.currentTerm, false, n.lastLogIndex⟩, n)
  else
    let n := n.observeAppendTerm request.term
    if n.prevMatches request then do
      let log ← request.entries.foldlM storeEntry n.log
      let n := { n with log }.raiseCommit request.leaderCommit
      some (⟨n.currentTerm, true, n.lastLogIndex⟩, n)
    else some (⟨n.currentTerm, false, n.lastLogIndex⟩, n)

/-- The request by which a leader replicates one entry. It already commits the entry. -/
def replicationRequest (leader : ConsensusNode) (leaderId : ConsensusNodeId) (entry : LogEntry) :
    AppendEntriesRequest where
  term := leader.currentTerm
  leaderId
  prevLogIndex := leader.lastLogIndex
  prevLogTerm := leader.lastLogTerm
  entries := [entry]
  leaderCommit := entry.index

end ConsensusNode

/-! ## The cluster -/

structure ConsensusCluster where
  nodes : BTreeMap ConsensusNodeId ConsensusNode

namespace ConsensusCluster

def new : ConsensusCluster := ⟨∅⟩

variable (c : ConsensusCluster)

def addNode (node : ConsensusNode) : ConsensusCluster :=
  ⟨c.nodes.insert node.id node⟩

def quorum : Nat := c.nodes.size / 2 + 1

def requestVotes (candidateId : ConsensusNodeId) (request : VoteRequest) :
    BTreeMap ConsensusNodeId (Option VoteResponse × ConsensusNode) :=
  c.nodes.map fun id node =>
    if id = candidateId then (none, node)
    else ((node.handleRequestVote request).1, (node.handleRequestVote request).2)

def electLeader (candidateId : ConsensusNodeId) : Option (Except ConsensusError Unit × ConsensusCluster) :=
  match c.nodes[candidateId]? with
  | none => some (.error (.nodeNotFound candidateId), c)
  | some candidate => do
    let (request, candidate) ← candidate.becomeCandidate
    let answers := requestVotes ⟨c.nodes.insert candidateId candidate⟩ candidateId request
    let votes := 1 + answers.toList.countP fun (_, response, _) => response.any VoteResponse.voteGranted
    let c : ConsensusCluster := ⟨answers.map fun _ answer => answer.2⟩
    if votes < c.quorum then some (.error .quorumNotReached, c)
    else some (.ok (), ⟨c.nodes.modify candidateId ConsensusNode.becomeLeader⟩)

def replicateEntry (leaderId : ConsensusNodeId) (payload : List UInt8) (timestampNs : Nat) :
    Option (Except ConsensusError LogEntry × ConsensusCluster) :=
  match c.nodes[leaderId]? with
  | none => some (.error (.nodeNotFound leaderId), c)
  | some leader =>
    if leader.state ≠ .leader then some (.error .leaderRequired, c)
    else do
      let index ← checkedAdd leader.lastLogIndex 1
      let entry : LogEntry := ⟨leader.currentTerm, index, payload, timestampNs⟩
      -- the leader is one of the nodes that get the request
      let answers ← c.nodes.mapM fun _ node =>
        node.handleAppendEntries (leader.replicationRequest leaderId entry)
      let successes := answers.toList.countP fun (_, response, _) => response.success
      let c : ConsensusCluster := ⟨answers.map fun _ answer => answer.2⟩
      if successes < c.quorum then some (.error .quorumNotReached, c) else some (.ok entry, c)

/-! ## Runs -/

/-- A node joins as `ConsensusNode::new` makes it. -/
inductive Call where
  | addNode (id : ConsensusNodeId)
  | electLeader (candidateId : ConsensusNodeId)
  | replicateEntry (leaderId : ConsensusNodeId) (payload : List UInt8) (timestampNs : Nat)
  deriving DecidableEq

inductive Answer where
  | added
  | elected (result : Except ConsensusError Unit)
  | replicated (result : Except ConsensusError LogEntry)
  deriving DecidableEq

abbrev Trace := List (Call × Answer)

def machine : Machine ConsensusCluster Call Answer where
  step c
    | .addNode id => some (.added, c.addNode (.new id))
    | .electLeader candidateId => do
      let (result, c) ← c.electLeader candidateId
      some (.elected result, c)
    | .replicateEntry leaderId payload timestampNs => do
      let (result, c) ← c.replicateEntry leaderId payload timestampNs
      some (.replicated result, c)

def Fresh : Call → Prop
  | .addNode id => c.nodes[id]? = none
  | _ => True

instance (c : ConsensusCluster) : DecidablePred c.Fresh
  | .addNode id => inferInstanceAs (Decidable (c.nodes[id]? = none))
  | .electLeader _ => .isTrue trivial
  | .replicateEntry _ _ _ => .isTrue trivial

end ConsensusCluster

/-! ## Nodes that exchange messages

A fixed set of nodes, of which each acts on its own. A vote request that was sent stays in the network: it
may be delivered to any node, at any later time, never or several times. Append requests are arbitrary.
-/

structure Network where
  nodes : BTreeMap ConsensusNodeId ConsensusNode
  sent : List VoteRequest

namespace Network

def start (ids : List ConsensusNodeId) : Network where
  nodes := ids.foldl (fun nodes id => nodes.insert id (.new id)) ∅
  sent := []

inductive Event where
  | becomeCandidate (id : ConsensusNodeId)
  | requestVote (receiver : ConsensusNodeId) (request : VoteRequest)
  | appendEntries (receiver : ConsensusNodeId) (request : AppendEntriesRequest)

inductive Outcome where
  | requested (request : VoteRequest)
  | voted (response : VoteResponse)
  | appended (response : AppendEntriesResponse)

def machine : Machine Network Event Outcome where
  step s
    | .becomeCandidate id => do
      let (request, node) ← (← s.nodes[id]?).becomeCandidate
      some (.requested request, ⟨s.nodes.insert id node, request :: s.sent⟩)
    | .requestVote receiver request => do
      guard (request ∈ s.sent)
      let (response, node) := (← s.nodes[receiver]?).handleRequestVote request
      some (.voted response, { s with nodes := s.nodes.insert receiver node })
    | .appendEntries receiver request => do
      let (response, node) ← (← s.nodes[receiver]?).handleAppendEntries request
      some (.appended response, { s with nodes := s.nodes.insert receiver node })

def vote : Event × Outcome → Option (ConsensusNodeId × ConsensusNodeId × Nat)
  | (.becomeCandidate id, .requested request) => some (id, request.candidateId, request.term)
  | (.requestVote receiver request, .voted response) =>
    if response.voteGranted then some (receiver, request.candidateId, response.term) else none
  | _ => none

def Granted (tr : List (Event × Outcome)) (voter candidate : ConsensusNodeId) (term : Nat) : Prop :=
  ∃ ev ∈ tr, vote ev = some (voter, candidate, term)

def Elects (ids : List ConsensusNodeId) (tr : List (Event × Outcome)) (candidate : ConsensusNodeId) (term : Nat) :
    Prop :=
  ∃ Q, IsQuorum ids.toFinset Q ∧ ∀ voter ∈ Q, Granted tr voter candidate term

end Network

end PandaGen.Distributed
