import Mathlib.Data.Finset.Card

/-!
# Ballots and quorums

A voter's ballot is the term the voter is in and the vote given in it. A ballot moves to a later term, or it
gives a vote that was still free. Two quorums share a voter, so a ballot that only moves this way elects at
most one candidate a term.
-/

namespace PandaGen.Lib

structure Ballot (C : Type) where
  term : Nat
  vote : Option C

namespace Ballot

variable {C : Type}

def Le (a b : Ballot C) : Prop := a.term < b.term ∨ a.term = b.term ∧ (a.vote = none ∨ a.vote = b.vote)

theorem Le.refl (a : Ballot C) : Le a a := .inr ⟨rfl, .inr rfl⟩

theorem Le.term_le {a b : Ballot C} (h : Le a b) : a.term ≤ b.term := by
  cases h with
  | inl h => exact h.le
  | inr h => exact h.1.le

theorem Le.trans {a b c : Ballot C} (hab : Le a b) (hbc : Le b c) : Le a c := by
  cases hab with
  | inl h => exact .inl (h.trans_le hbc.term_le)
  | inr h =>
    cases hbc with
    | inl h' => exact .inl (h.1 ▸ h')
    | inr h' =>
      refine .inr ⟨h.1.trans h'.1, ?_⟩
      cases h.2 with
      | inl hnone => exact .inl hnone
      | inr heq => rw [heq]; exact h'.2

theorem Le.vote_eq {t : Nat} {c d : C} (h : Le ⟨t, some c⟩ ⟨t, some d⟩) : c = d := by
  cases h with
  | inl h => exact absurd h (lt_irrefl t)
  | inr h =>
    cases h.2 with
    | inl h => cases h
    | inr h => cases h; rfl

end Ballot

section

variable {V : Type} [DecidableEq V]

structure IsQuorum (members Q : Finset V) : Prop where
  subset : Q ⊆ members
  card : members.card / 2 + 1 ≤ Q.card

theorem IsQuorum.exists_mem_inter {members Q Q' : Finset V} (h : IsQuorum members Q) (h' : IsQuorum members Q') :
    ∃ v ∈ Q, v ∈ Q' := by
  have hcard : members.card < Q.card + Q'.card := by
    have := h.card
    have := h'.card
    omega
  obtain ⟨v, hv⟩ := Finset.inter_nonempty_of_card_lt_card_add_card h.subset h'.subset hcard
  exact ⟨v, Finset.mem_of_mem_inter_left hv, Finset.mem_of_mem_inter_right hv⟩

end

end PandaGen.Lib
