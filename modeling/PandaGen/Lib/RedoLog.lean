import Mathlib.Data.List.Basic
import Mathlib.Data.List.Induction
import Mathlib.Logic.Function.Basic

/-!
# Redo logs

A redo log holds the writes of transactions of type `T` and marks for their commits. Replaying it puts the
writes of each transaction into effect at its commit.
-/

namespace PandaGen.Lib.RedoLog

open List Function

inductive Entry (T X : Type) where
  | write (t : T) (x : X)
  | commit (t : T)

variable {T X : Type}

def Entry.tx : Entry T X → T
  | .write t _ => t
  | .commit t => t

def commits (j : List (Entry T X)) : List T :=
  j.filterMap fun
    | .write _ _ => none
    | .commit t => some t

variable [DecidableEq T]

def writes (j : List (Entry T X)) (t : T) : List X :=
  j.filterMap fun
    | .write t' x => if t' = t then some x else none
    | .commit _ => none

/-- Takes in an entry: the writes that wait for a commit, and those in effect. -/
def redo : (T → List X) × List X → Entry T X → (T → List X) × List X
  | (waiting, done), .write t x => (update waiting t (waiting t ++ [x]), done)
  | (waiting, done), .commit t => (update waiting t [], done ++ waiting t)

/-- The writes that wait for a commit at the end of the log, and those in effect. -/
def replay (j : List (Entry T X)) : (T → List X) × List X := j.foldl redo (fun _ => [], [])

omit [DecidableEq T] in
/-- Nothing of a transaction follows its commit. -/
def Closed (j : List (Entry T X)) : Prop := ∀ a b t, j = a ++ .commit t :: b → ∀ en ∈ b, en.tx ≠ t

variable {j p : List (Entry T X)} {en : Entry T X} {t t' : T} {x : X}

omit [DecidableEq T] in
theorem mem_commits : t ∈ commits j ↔ .commit t ∈ j := by
  rw [commits, mem_filterMap]
  constructor
  · rintro ⟨_ | t', hen, heq⟩
    · cases heq
    · cases heq
      exact hen
  · exact fun h => ⟨_, h, rfl⟩

omit [DecidableEq T] in
theorem commits_concat_write : commits (j ++ [.write t x]) = commits j := by simp [commits]

omit [DecidableEq T] in
theorem commits_concat_commit : commits (j ++ [.commit t]) = commits j ++ [t] := by simp [commits]

theorem writes_concat_write : writes (j ++ [.write t x]) t' = if t = t' then writes j t' ++ [x] else writes j t' := by
  by_cases h : t = t' <;> simp [h, writes]

theorem writes_concat_commit : writes (j ++ [.commit t]) t' = writes j t' := by simp [writes]

omit [DecidableEq T] in
theorem Closed.nil : Closed ([] : List (Entry T X)) := by
  intro a b t h
  simp at h

omit [DecidableEq T] in
theorem closed_concat : Closed (j ++ [en]) ↔ Closed j ∧ en.tx ∉ commits j := by
  constructor
  · intro h
    constructor
    · rintro a b t rfl en' hen'
      exact h a (b ++ [en]) t (by simp) en' (mem_append_left _ hen')
    · intro hmem
      obtain ⟨a, b, rfl⟩ := append_of_mem (mem_commits.mp hmem)
      exact h a (b ++ [en]) en.tx (by simp) en (mem_append_right _ (mem_singleton.mpr rfl)) rfl
  · rintro ⟨hj, hen⟩ a b t heq en' hen'
    rcases eq_nil_or_concat b with rfl | ⟨b, en1, rfl⟩
    · cases hen'
    · rw [concat_eq_append, ← cons_append, ← append_assoc] at heq
      rw [concat_eq_append] at hen'
      obtain ⟨rfl, hlast⟩ := append_inj' heq rfl
      obtain rfl : en = en1 := by simpa using hlast
      rcases mem_append.mp hen' with hen' | hen'
      · exact hj a b t rfl en' hen'
      · obtain rfl := mem_singleton.mp hen'
        rintro rfl
        exact hen (mem_commits.mpr (by simp))

omit [DecidableEq T] in
theorem Closed.of_append (h : Closed (p ++ j)) : Closed p := by
  rintro a b t rfl en hen
  exact h a (b ++ j) t (by simp) en (mem_append_left _ hen)

theorem Closed.writes_append (h : Closed (p ++ j)) (ht : t ∈ commits p) : writes (p ++ j) t = writes p t := by
  obtain ⟨a, b, rfl⟩ := append_of_mem (mem_commits.mp ht)
  have hnone : writes j t = [] := by
    rw [writes, filterMap_eq_nil_iff]
    intro en hen
    have hne := h a (b ++ j) t (by simp) en (mem_append_right _ hen)
    cases en with
    | write t' x => exact if_neg hne
    | commit t' => rfl
  rw [writes, filterMap_append]
  show writes _ t ++ writes j t = _
  rw [hnone, append_nil]

theorem replay_concat : replay (j ++ [en]) = redo (replay j) en := by
  rw [replay, foldl_append]
  rfl

/-- The writes that wait are those of the transactions without a commit. -/
theorem waiting_replay (h : Closed j) (t : T) : (replay j).1 t = if t ∈ commits j then [] else writes j t := by
  induction j using reverseRecOn with
  | nil => rfl
  | append_singleton j en ih =>
    obtain ⟨hj, hen⟩ := closed_concat.mp h
    rw [replay_concat]
    cases en with
    | write t' x =>
      simp only [Entry.tx] at hen
      simp only [redo, update_apply, commits_concat_write, writes_concat_write]
      by_cases ht : t = t'
      · subst ht
        rw [if_pos rfl, if_pos rfl, ih hj, if_neg hen, if_neg hen]
      · rw [if_neg ht, if_neg (Ne.symm ht), ih hj]
    | commit t' =>
      simp only [redo, update_apply, commits_concat_commit, writes_concat_commit, mem_append, mem_singleton]
      by_cases ht : t = t'
      · rw [if_pos ht, if_pos (.inr ht)]
      · rw [if_neg ht, ih hj]
        simp only [ht, or_false]

/-- The writes in effect are those of the committed transactions, in the order of the commits. -/
theorem done_replay (h : Closed j) : (replay j).2 = (commits j).flatMap (writes j) := by
  induction j using reverseRecOn with
  | nil => rfl
  | append_singleton j en ih =>
    obtain ⟨hj, hen⟩ := closed_concat.mp h
    rw [replay_concat]
    cases en with
    | write t x =>
      rw [commits_concat_write]
      refine (ih hj).trans (flatMap_congr fun t' ht' => ?_)
      rw [writes_concat_write, if_neg]
      rintro rfl
      exact hen ht'
    | commit t =>
      simp only [Entry.tx] at hen
      have hwait := waiting_replay hj t
      rw [if_neg hen] at hwait
      rw [commits_concat_commit, flatMap_append, flatMap_singleton, writes_concat_commit, ← hwait]
      refine congrArg (· ++ (replay j).1 t) ((ih hj).trans (flatMap_congr fun t' _ => ?_))
      rw [writes_concat_commit]

end PandaGen.Lib.RedoLog
