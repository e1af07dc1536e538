import PandaGen.Distributed.Lemmas.Node
import PandaGen.Lib.Walk

/-!
# Log matching
-/

namespace PandaGen.Distributed

open Lib List

namespace ConsensusNode

variable {L log entries : List LogEntry} {p : Nat} {n : ConsensusNode} {request : AppendEntriesRequest}

/-- Where two logs have the same term at an index, they are the same up to it. -/
def Agree (L log : List LogEntry) : Prop :=
  ∀ i x y, L[i]? = some x → log[i]? = some y → x.term = y.term → L.take (i + 1) = log.take (i + 1)

structure SliceOf (L : List LogEntry) (request : AppendEntriesRequest) : Prop where
  start : request.prevLogIndex ≤ L.length
  prev : ∀ i e, request.prevLogIndex = i + 1 → L[i]? = some e → request.prevLogTerm = e.term
  slice : request.entries <+: L.drop request.prevLogIndex

def sliceEnd (request : AppendEntriesRequest) : Nat := request.prevLogIndex + request.entries.length

theorem Agree.of_take (k : Nat) : Agree L (L.take k) := by
  intro i x y _ hy _
  obtain ⟨hlt, -⟩ := List.getElem?_eq_some_iff.mp hy
  rw [List.length_take] at hlt
  rw [List.take_take, min_eq_left (by omega)]

/-! ## The loop over the entries -/

theorem slice_cons {e} (h : e :: entries <+: L.drop p) : L[p]? = some e ∧ entries <+: L.drop (p + 1) := by
  obtain ⟨rest, hrest⟩ := h
  obtain ⟨hget, hdrop⟩ := walk_cons hrest.symm
  exact ⟨hget, rest, hdrop.symm⟩

theorem take_succ_of_getElem? {e} (h : L[p]? = some e) : L.take (p + 1) = L.take p ++ [e] := by
  rw [take_add_one, h]
  rfl

theorem foldlM_storeEntry_take (hL : Indexed L) (h : entries <+: L.drop p) :
    entries.foldlM storeEntry (L.take p) = some (L.take (p + entries.length)) := by
  induction entries generalizing p with
  | nil => rfl
  | cons e entries ih =>
    obtain ⟨hget, hrest⟩ := slice_cons h
    obtain ⟨hlt, -⟩ := List.getElem?_eq_some_iff.mp hget
    have hend : e.index = (L.take p).length + 1 := by
      rw [hL p e hget, List.length_take, min_eq_left hlt.le]
    rw [List.foldlM_cons, storeEntry_at_end hend, ← take_succ_of_getElem? hget]
    rw [Option.bind_eq_bind, Option.bind_some, ih hrest, List.length_cons]
    congr 2
    omega

theorem foldlM_storeEntry_slice (hL : Indexed L) (hagree : Agree L log) (hsame : log.take p = L.take p)
    (h : entries <+: L.drop p) :
    entries.foldlM storeEntry log = some (if log.take (p + entries.length) = L.take (p + entries.length) then log
      else L.take (p + entries.length)) := by
  induction entries generalizing p with
  | nil => rw [length_nil, Nat.add_zero, if_pos hsame]; rfl
  | cons e entries ih =>
    obtain ⟨hget, hrest⟩ := slice_cons h
    have hlength : p + (e :: entries).length = p + 1 + entries.length := by rw [length_cons]; omega
    have hhas : log.take (p + 1 + entries.length) = L.take (p + 1 + entries.length) → log[p]? = some e := by
      intro heq
      have := congrArg (·[p]?) heq
      simpa [getElem?_take, show p < p + 1 + entries.length by omega, hget] using this
    have hindex : checkedSub e.index 1 = some p := by simp [checkedSub, hL p e hget]
    rw [foldlM_cons, storeEntry, hindex, hlength]
    simp only [Option.bind_eq_bind, Option.bind_some]
    cases hx : log[p]? with
    | none =>
      have hall : log = L.take p := by
        rw [← hsame, take_of_length_le (getElem?_eq_none_iff.mp hx)]
      rw [if_neg fun heq => by simp [hx] at hhas; exact hhas heq]
      dsimp only [Option.bind_some]
      rw [hall, ← take_succ_of_getElem? hget, foldlM_storeEntry_take hL hrest]
    | some x =>
      by_cases hterm : x.term = e.term
      · simp only [hterm, ne_eq, not_true_eq_false, if_false, Option.bind_some]
        exact ih (hagree p e x hget hx hterm.symm).symm hrest
      · rw [if_neg fun heq => hterm (by rw [Option.some.inj (hx.symm.trans (hhas heq))])]
        simp only [ne_eq, hterm, not_false_eq_true, if_true, Option.bind_some]
        rw [hsame, ← take_succ_of_getElem? hget, foldlM_storeEntry_take hL hrest]

/-! ## Requests -/

theorem SliceOf.take_eq (h : SliceOf L request) (hagree : Agree L n.log) (hprev : n.prevMatches request = true) :
    n.log.take request.prevLogIndex = L.take request.prevLogIndex := by
  simp only [prevMatches, Bool.or_eq_true, beq_iff_eq, Option.any_eq_true] at hprev
  rcases hprev with hzero | ⟨x, hx, hterm⟩
  · rw [hzero]; rfl
  · cases hp : request.prevLogIndex with
    | zero => rfl
    | succ i =>
      rw [hp, Nat.add_sub_cancel] at hx
      obtain ⟨e, he⟩ : ∃ e, L[i]? = some e := ⟨_, getElem?_eq_getElem (by have := h.start; omega)⟩
      exact (hagree i e x he hx (by rw [← h.prev i e hp he, hterm])).symm

theorem SliceOf.prevMatches (h : SliceOf L request) {k} (hk : request.prevLogIndex ≤ k)
    (hsame : n.log.take k = L.take k) : n.prevMatches request = true := by
  simp only [ConsensusNode.prevMatches, Bool.or_eq_true, beq_iff_eq, Option.any_eq_true]
  cases hp : request.prevLogIndex with
  | zero => exact .inl rfl
  | succ i =>
    obtain ⟨e, he⟩ : ∃ e, L[i]? = some e := ⟨_, getElem?_eq_getElem (by have := h.start; omega)⟩
    have hget := congrArg (·[i]?) hsame
    simp only [getElem?_take, show i < k by omega, if_true, he] at hget
    exact .inr ⟨e, hget, (h.prev i e hp he).symm⟩

theorem observeAppendTerm_self (hstate : n.state = .follower) : n.observeAppendTerm n.currentTerm = n := by
  rw [observeAppendTerm, if_neg (lt_irrefl _), ← hstate]

theorem SliceOf.handle_again (h : SliceOf L request) (hL : Indexed L) (hagree : Agree L n.log) {k}
    (hk : sliceEnd request ≤ k) (hsame : n.log.take k = L.take k) (hstate : n.state = .follower)
    (hterm : request.term = n.currentTerm) :
    ∃ response, n.handleAppendEntries request = some (response, n.raiseCommit request.leaderCommit) := by
  have hle : request.prevLogIndex ≤ sliceEnd request := Nat.le_add_right ..
  have htake {j} (hj : j ≤ k) : n.log.take j = L.take j := by
    have := congrArg (take j) hsame
    rwa [take_take, take_take, min_eq_left hj] at this
  have hend := htake hk
  rw [sliceEnd] at hend
  rw [handleAppendEntries, hterm, if_neg (lt_irrefl _), observeAppendTerm_self hstate]
  rw [if_pos (h.prevMatches (hle.trans hk) hsame), foldlM_storeEntry_slice hL hagree (htake (hle.trans hk)) h.slice,
    if_pos hend]
  exact ⟨_, rfl⟩

theorem raiseCommit_idem (n : ConsensusNode) (c : Nat) : (n.raiseCommit c).raiseCommit c = n.raiseCommit c := by
  simp only [raiseCommit]
  split <;> simp_all [lastLogIndex]

end ConsensusNode

open ConsensusNode

/-- A follower that takes a slice of a log it agrees with has that log up to the end of the slice, and still agrees
with it. The same request changes nothing then, and an earlier slice does not change the log. -/
theorem append_matches {L : List LogEntry} {n n' : ConsensusNode} {request : AppendEntriesRequest}
    {response : AppendEntriesResponse} (hL : Indexed L) (hlog : Indexed n.log) (hagree : Agree L n.log)
    (hslice : SliceOf L request) (h : n.handleAppendEntries request = some (response, n'))
    (hsuccess : response.success = true) :
    Indexed n'.log ∧ n'.log.take (sliceEnd request) = L.take (sliceEnd request) ∧ Agree L n'.log ∧
    (∃ response', n'.handleAppendEntries request = some (response', n')) ∧
    ∀ earlier, SliceOf L earlier → earlier.term = request.term → sliceEnd earlier ≤ sliceEnd request →
      ∃ response' n'', n'.handleAppendEntries earlier = some (response', n'') ∧ n''.log = n'.log := by
  obtain ⟨hfail, -⟩ | ⟨hfail, -⟩ | ⟨hle, hprev, log, hstored, rfl, -⟩ := handleAppendEntries_cases h
  · cases hfail.symm.trans hsuccess
  · cases hfail.symm.trans hsuccess
  have hsame := hslice.take_eq (by rwa [observeAppendTerm_log]) hprev
  rw [observeAppendTerm_log] at hsame
  rw [foldlM_storeEntry_slice hL hagree hsame hslice.slice] at hstored
  have hnew : Indexed log ∧ log.take (sliceEnd request) = L.take (sliceEnd request) ∧ Agree L log := by
    cases hstored
    split
    · exact ⟨hlog, ‹_›, hagree⟩
    · exact ⟨hL.take _, by rw [sliceEnd, take_take, min_self], .of_take _⟩
  set stored : ConsensusNode := { n.observeAppendTerm request.term with log }
  have hframe := raiseCommit_frame stored request.leaderCommit
  have hstate := hframe.1.trans (n.observeAppendTerm_state request.term)
  have hterm := hframe.2.trans ((n.observeAppendTerm_currentTerm request.term).trans (max_eq_right hle))
  obtain ⟨hindexed, htake, hagrees⟩ := hnew
  rw [show log = (stored.raiseCommit request.leaderCommit).log by rw [raiseCommit_log]] at hindexed htake hagrees
  refine ⟨hindexed, htake, hagrees, ?_, fun earlier hearlier hsent hend => ?_⟩
  · obtain ⟨response', h'⟩ := hslice.handle_again hL hagrees le_rfl htake hstate hterm.symm
    rw [raiseCommit_idem] at h'
    exact ⟨response', h'⟩
  · obtain ⟨response', h'⟩ := hearlier.handle_again hL hagrees hend htake hstate (hsent.trans hterm.symm)
    exact ⟨response', _, h', raiseCommit_log ..⟩

def leaderLog : List LogEntry := [⟨1, 1, [], 0⟩, ⟨1, 2, [], 0⟩, ⟨2, 3, [], 0⟩]

def behind : ConsensusNode := { new ⟨1⟩ with log := [⟨1, 1, [], 0⟩, ⟨1, 2, [], 0⟩, ⟨1, 3, [], 0⟩] }

theorem append_matches_replaced : ∃ response n',
    behind.handleAppendEntries ⟨2, ⟨2⟩, 1, 1, leaderLog.drop 1, 0⟩ = some (response, n') ∧ response.success = true ∧
    n'.log.take 3 = leaderLog := by
  have hL : Indexed leaderLog := by
    rintro (_ | _ | _ | i) e he <;> simp [leaderLog] at he <;> simp [← he]
  have hlog : Indexed behind.log := by
    rintro (_ | _ | _ | i) e he <;> simp [behind] at he <;> simp [← he]
  have hagree : Agree leaderLog behind.log := by
    rintro (_ | _ | _ | i) x y hx hy hterm <;> simp [leaderLog, behind] at hx hy ⊢
    simp [← hx, ← hy] at hterm
  have hslice : SliceOf leaderLog ⟨2, ⟨2⟩, 1, 1, leaderLog.drop 1, 0⟩ := by
    refine ⟨by decide, fun i e hi he => ?_, prefix_rfl⟩
    cases hi
    cases he
    rfl
  exact ⟨_, _, rfl, rfl, (append_matches hL hlog hagree hslice rfl rfl).2.1⟩

end PandaGen.Distributed
