import Mathlib.Algebra.GroupWithZero.Nat
import Mathlib.Data.List.Infix
import Mathlib.Tactic.Common

/-!
# Text at byte offsets

Texts as lists of characters, with positions counted in the bytes of their UTF-8 form. A position is a boundary
where it lies between two characters. Lines of a text end with a newline, or with a carriage return and a newline.
-/

namespace PandaGen.Lib

open Option List

abbrev Text := List Char

namespace Text

variable {t l : Text} {n : Nat} {c : Char} {ls : List Text}

def byteLength (t : Text) : Nat := (t.map Char.utf8Size).sum

@[simp] theorem byteLength_nil : byteLength [] = 0 := rfl

@[simp] theorem byteLength_cons (c : Char) (t : Text) : byteLength (c :: t) = c.utf8Size + byteLength t := by
  simp [byteLength]

@[simp] theorem byteLength_append (a b : Text) : byteLength (a ++ b) = byteLength a + byteLength b := by
  simp [byteLength]

/-! ## Boundaries -/

/-- Cuts a text at a byte offset. It is `none` where the offset is not a boundary. -/
def splitAt? : Text → Nat → Option (Text × Text)
  | t, 0 => some ([], t)
  | [], _ + 1 => none
  | c :: t, n + 1 =>
    if n + 1 < c.utf8Size then none
    else (splitAt? t (n + 1 - c.utf8Size)).map fun (a, b) => (c :: a, b)

def IsBoundary (t : Text) (n : Nat) : Prop := (t.splitAt? n).isSome = true

instance (t : Text) (n : Nat) : Decidable (t.IsBoundary n) := inferInstanceAs (Decidable (_ = _))

theorem splitAt?_eq_some {a b} : t.splitAt? n = some (a, b) ↔ t = a ++ b ∧ byteLength a = n := by
  induction t generalizing a n with
  | nil =>
    cases n with
    | zero => cases a <;> simp [splitAt?, eq_comm]
    | succ n => cases a <;> simp [splitAt?]
  | cons c t ih =>
    cases n with
    | zero =>
      cases a with
      | nil => simp [splitAt?, eq_comm]
      | cons d a =>
        have hd := d.utf8Size_pos
        simp [splitAt?]
        omega
    | succ n =>
      simp only [splitAt?]
      split
      · rename_i hlt
        cases a with
        | nil => simp
        | cons d a =>
          simp only [cons_append, cons.injEq, byteLength_cons, reduceCtorEq, false_iff]
          rintro ⟨⟨rfl, -⟩, hn⟩
          omega
      · rename_i hge
        simp only [map_eq_some_iff, Prod.mk.injEq, Prod.exists]
        constructor
        · rintro ⟨x, y, hxy, rfl, rfl⟩
          obtain ⟨rfl, hx⟩ := ih.mp hxy
          simp only [cons_append, byteLength_cons, true_and]
          omega
        · rintro ⟨happ, hlen⟩
          cases a with
          | nil => simp at hlen
          | cons d a =>
            obtain ⟨rfl, rfl⟩ := cons.inj happ
            simp only [byteLength_cons] at hlen
            exact ⟨a, b, ih.mpr ⟨rfl, by omega⟩, rfl, rfl⟩

theorem isBoundary_iff : t.IsBoundary n ↔ ∃ a b, t = a ++ b ∧ byteLength a = n := by
  simp only [IsBoundary, isSome_iff_exists, Prod.exists, splitAt?_eq_some]

theorem isBoundary_zero (t : Text) : t.IsBoundary 0 := isBoundary_iff.mpr ⟨[], t, rfl, rfl⟩

/-! ## Edits -/

def insert (t : Text) (n : Nat) (c : Char) : Option Text := (t.splitAt? n).map fun (a, b) => a ++ c :: b

def remove (t : Text) (n : Nat) : Option Text :=
  match t.splitAt? n with
  | some (a, _ :: b) => some (a ++ b)
  | _ => none

theorem insert_eq_some {u} : t.insert n c = some u ↔ ∃ a b, t = a ++ b ∧ byteLength a = n ∧ u = a ++ c :: b := by
  simp only [insert, map_eq_some_iff, Prod.exists, splitAt?_eq_some, and_assoc, eq_comm (b := u)]

theorem remove_eq_some {u} : t.remove n = some u ↔ ∃ a c b, t = a ++ c :: b ∧ byteLength a = n ∧ u = a ++ b := by
  unfold remove
  constructor
  · intro h
    split at h
    · rename_i a c b hsplit
      obtain ⟨rfl, rfl⟩ := splitAt?_eq_some.mp hsplit
      exact ⟨a, c, b, rfl, rfl, (some.inj h).symm⟩
    · cases h
  · rintro ⟨a, c, b, rfl, rfl, rfl⟩
    rw [splitAt?_eq_some.mpr ⟨rfl, rfl⟩]

theorem insert_isSome (c : Char) (h : t.IsBoundary n) : (t.insert n c).isSome = true := by
  rw [insert, isSome_map]
  exact h

theorem remove_isSome (h : t.IsBoundary n) (hlt : n < t.byteLength) : (t.remove n).isSome = true := by
  obtain ⟨a, b, rfl, rfl⟩ := isBoundary_iff.mp h
  cases b with
  | nil => simp at hlt
  | cons c b => exact isSome_iff_exists.mpr ⟨a ++ b, remove_eq_some.mpr ⟨a, c, b, rfl, rfl, rfl⟩⟩

def find : Text → Text → Option Nat
  | [], query => if query.isEmpty then some 0 else none
  | c :: t, query => if query.isPrefixOf (c :: t) then some 0 else (find t query).map (c.utf8Size + ·)

theorem find_le {query} (h : t.find query = some n) : n ≤ t.byteLength := by
  induction t generalizing n with
  | nil =>
    simp only [find, ite_none_right_eq_some, some.injEq] at h
    omega
  | cons c t ih =>
    simp only [find] at h
    split at h
    · cases h
      exact Nat.zero_le _
    · obtain ⟨m, hm, rfl⟩ := map_eq_some_iff.mp h
      have := ih hm
      simp only [byteLength_cons]
      omega

/-! ## ASCII -/

def Ascii (t : Text) : Prop := ∀ c ∈ t, c.toNat < 128

instance (t : Text) : Decidable t.Ascii := decidableBAll (fun (c : Char) => c.toNat < 128) t

theorem utf8Size_of_ascii (h : c.toNat < 128) : c.utf8Size = 1 :=
  Char.utf8Size_eq_one_iff.mpr (UInt32.le_iff_toNat_le.mpr (Nat.le_of_lt_succ h))

theorem Ascii.byteLength (h : t.Ascii) : t.byteLength = t.length := by
  induction t with
  | nil => rfl
  | cons c t ih =>
    have hc := utf8Size_of_ascii (h c mem_cons_self)
    have ht := ih fun d hd => h d (mem_cons_of_mem _ hd)
    simp only [byteLength_cons, length_cons]
    omega

theorem Ascii.isBoundary (h : t.Ascii) (hn : n ≤ t.byteLength) : t.IsBoundary n := by
  have htake : Ascii (t.take n) := fun c hc => h c (mem_of_mem_take hc)
  refine isBoundary_iff.mpr ⟨t.take n, t.drop n, (take_append_drop n t).symm, ?_⟩
  rw [h.byteLength] at hn
  rw [htake.byteLength, length_take_of_le hn]

/-! ## White space -/

def isWhitespace (c : Char) : Bool :=
  (9 ≤ c.toNat && c.toNat ≤ 13) || (0x2000 ≤ c.toNat && c.toNat ≤ 0x200a) ||
    [0x20, 0x85, 0xa0, 0x1680, 0x2028, 0x2029, 0x202f, 0x205f, 0x3000].contains c.toNat

def trim (t : Text) : Text := ((t.dropWhile isWhitespace).reverse.dropWhile isWhitespace).reverse

/-- `str::split_whitespace` -/
def words (t : Text) : List Text := (splitOnP isWhitespace t).filter (· ≠ [])

/-! ## Lines -/

/-- The lines of a text without their ends. The last line may have no end. -/
@[simp]
def lines : Text → List Text
  | [] => []
  | '\n' :: t => [] :: lines t
  | '\r' :: '\n' :: t => [] :: lines t
  | c :: t =>
    match lines t with
    | [] => [[c]]
    | l :: ls => (c :: l) :: ls

def unlines (ls : List Text) : Text := intercalate ['\n'] ls

@[simp] theorem unlines_nil : unlines [] = [] := rfl

@[simp] theorem unlines_singleton (l : Text) : unlines [l] = l := by simp [unlines, intercalate]

@[simp] theorem unlines_cons_cons (l m : Text) (ls : List Text) :
    unlines (l :: m :: ls) = l ++ '\n' :: unlines (m :: ls) := by
  simp [unlines, intercalate]

theorem unlines_char_cons (c : Char) (l : Text) (ls : List Text) :
    unlines ((c :: l) :: ls) = c :: unlines (l :: ls) := by
  cases ls <;> simp

theorem unlines_eq_nil : unlines ls = [] ↔ ls = [] ∨ ls = [[]] := by
  cases ls with
  | nil => simp
  | cons l ls => cases ls <;> simp

theorem lines_eq_nil : lines t = [] ↔ t = [] := by
  fun_cases lines t <;> simp_all

theorem lines_cons (hc : c ≠ '\n') (hcr : ∀ u, c = '\r' → t ≠ '\n' :: u)
    (h : lines t = l :: ls) : lines (c :: t) = (c :: l) :: ls := by
  simp only [lines, h]

theorem unlines_nil_cons (ls : List Text) : unlines ([] :: ls) = if ls = [] then [] else '\n' :: unlines ls := by
  cases ls <;> simp

theorem newline_not_mem_lines (h : l ∈ lines t) : '\n' ∉ l := by
  induction t using lines.induct generalizing l with
  | case1 => simp [lines] at h
  | case2 t ih | case3 t ih =>
    simp only [lines, mem_cons] at h
    rcases h with rfl | h
    · simp
    · exact ih h
  | case4 c t hc _ hnil =>
    simp only [lines, hnil, mem_singleton] at h
    subst h
    simp only [mem_singleton]
    exact fun e => hc e.symm
  | case5 c t hc _ m ms hcons ih =>
    simp only [lines, hcons, mem_cons] at h
    rcases h with rfl | h
    · simp only [mem_cons, not_or]
      exact ⟨fun e => hc e.symm, ih (hcons ▸ mem_cons_self)⟩
    · exact ih (hcons ▸ mem_cons_of_mem _ h)

theorem mem_of_mem_lines {d} (h : l ∈ lines t) (hd : d ∈ l) : d ∈ t := by
  induction t using lines.induct generalizing l with
  | case1 => simp [lines] at h
  | case2 t ih =>
    simp only [lines, mem_cons] at h
    rcases h with rfl | h
    · simp at hd
    · exact mem_cons_of_mem _ (ih h hd)
  | case3 t ih =>
    simp only [lines, mem_cons] at h
    rcases h with rfl | h
    · simp at hd
    · exact mem_cons_of_mem _ (mem_cons_of_mem _ (ih h hd))
  | case4 c t _ _ hnil =>
    simp_all
  | case5 c t _ _ m ms hcons ih =>
    simp only [lines, hcons, mem_cons] at h ih ⊢
    rcases h with rfl | h
    · rcases mem_cons.mp hd with rfl | hd
      · exact .inl rfl
      · exact .inr (ih (.inl rfl) hd)
    · exact .inr (ih (.inr h) hd)

/-- Ends of lines are lost where they are not a single newline between two lines. -/
theorem length_unlines_lines_le (t : Text) : (unlines (lines t)).length ≤ t.length := by
  induction t using lines.induct with
  | case1 => simp [lines]
  | case2 t ih =>
    simp only [lines, unlines_nil_cons]
    split <;> simp [ih]
  | case3 t ih =>
    simp only [lines, unlines_nil_cons]
    split
    · simp
    · simp only [length_cons]
      omega
  | case4 c t _ _ hnil => simp [lines, hnil]
  | case5 c t _ _ m ms hcons ih =>
    simp only [lines, hcons, unlines_char_cons, length_cons] at ih ⊢
    omega

private theorem getLast?_cons_of_ne_nil (h : t ≠ []) : (c :: t).getLast? = t.getLast? := by
  obtain ⟨d, u, rfl⟩ := exists_cons_of_ne_nil h
  exact getLast?_cons_cons

/-- The lines of a text give the text back where it does not end with a newline and no line ends with a carriage
return and a newline. -/
theorem unlines_lines : unlines (lines t) = t ↔ t.getLast? ≠ some '\n' ∧ ¬ ['\r', '\n'] <:+: t := by
  induction t using lines.induct with
  | case1 => simp [lines]
  | case2 t ih =>
    simp only [lines, unlines_nil_cons, lines_eq_nil]
    by_cases ht : t = []
    · simp [ht]
    · simp [ht, ih, getLast?_cons_of_ne_nil, infix_cons_iff]
  | case3 t ih =>
    have hinside : ['\r', '\n'] <:+: '\r' :: '\n' :: t := (prefix_append ['\r', '\n'] t).isInfix
    simp only [hinside, not_true_eq_false, and_false, iff_false]
    intro heq
    have hle := length_unlines_lines_le t
    have hlen := congrArg length heq
    simp only [lines, unlines_nil_cons] at hlen
    split at hlen
    · simp at hlen
    · simp only [length_cons] at hlen
      omega
  | case4 c t hc _ hnil =>
    have hc : c ≠ '\n' := hc
    simp [lines, lines_eq_nil.mp hnil, hc, infix_cons_iff]
  | case5 c t hc hcr m ms hcons ih =>
    have ht : t ≠ [] := fun e => by simp [e, lines] at hcons
    have hstart : ¬ ['\r', '\n'] <+: c :: t := by
      rintro ⟨u, hu⟩
      simp only [cons_append, nil_append, cons.injEq] at hu
      exact hcr u hu.1.symm hu.2.symm
    have hinside : ['\r', '\n'] <:+: c :: t ↔ ['\r', '\n'] <:+: t := by
      rw [infix_cons_iff, or_iff_right hstart]
    simp only [lines_cons hc hcr hcons, unlines_char_cons, ← hcons, cons.injEq, true_and, ih, hinside,
      getLast?_cons_of_ne_nil ht]

/-- What is left of a line when its end is taken away with a newline. -/
def dropReturn (l : Text) : Text := if l.getLast? = some '\r' then l.dropLast else l

theorem dropReturn_eq_self : dropReturn l = l ↔ l.getLast? ≠ some '\r' := by
  unfold dropReturn
  split
  · rename_i h
    have hne : l ≠ [] := fun e => by simp [e] at h
    simp only [h, ne_eq, not_true_eq_false, iff_false]
    intro heq
    have hlen := congrArg length heq
    have := length_pos_of_ne_nil hne
    rw [length_dropLast] at hlen
    omega
  · rename_i h
    simp [h]

theorem dropReturn_cons (h : c = '\r' → l ≠ []) : dropReturn (c :: l) = c :: dropReturn l := by
  cases l with
  | nil =>
    have hc : c ≠ '\r' := fun e => h e rfl
    simp [dropReturn, hc]
  | cons d l =>
    simp only [dropReturn, getLast?_cons_cons, dropLast_cons_cons]
    split <;> rfl

theorem lines_append_newline (hl : '\n' ∉ l) (t : Text) : lines (l ++ '\n' :: t) = dropReturn l :: lines t := by
  induction l with
  | nil => simp [lines, dropReturn]
  | cons c l ih =>
    rw [mem_cons, not_or] at hl
    obtain ⟨hc, hl⟩ := hl
    by_cases hr : c = '\r' ∧ l = []
    · obtain ⟨rfl, rfl⟩ := hr
      simp [lines, dropReturn]
    · have hr' : c = '\r' → l ≠ [] := fun e hnil => hr ⟨e, hnil⟩
      rw [dropReturn_cons hr', cons_append]
      refine lines_cons (Ne.symm hc) (fun u e happ => ?_) (ih hl)
      obtain ⟨d, m, rfl⟩ := exists_cons_of_ne_nil (hr' e)
      obtain ⟨rfl, -⟩ := cons.inj happ
      exact hl mem_cons_self

theorem lines_of_not_mem (hl : '\n' ∉ l) (hne : l ≠ []) : lines l = [l] := by
  induction l with
  | nil => exact absurd rfl hne
  | cons c l ih =>
    rw [mem_cons, not_or] at hl
    obtain ⟨hc, hl⟩ := hl
    by_cases hnil : l = []
    · subst hnil
      simp [lines, Ne.symm hc]
    · refine lines_cons (Ne.symm hc) (fun u _ he => ?_) (ih hl hnil)
      exact hl (he ▸ mem_cons_self)

/-- Lines are the lines of the text that they make up where no line has a newline in it, the last is not empty,
and none of the others ends with a carriage return. -/
theorem lines_unlines : lines (unlines ls) = ls ↔
      (∀ l ∈ ls, '\n' ∉ l) ∧ ls.getLast? ≠ some [] ∧ ∀ l ∈ ls.dropLast, l.getLast? ≠ some '\r' := by
  induction ls with
  | nil => simp [lines]
  | cons l ls ih =>
    by_cases hl : '\n' ∈ l
    · -- No line of a text has a newline in it.
      constructor
      · intro heq
        exact absurd hl (newline_not_mem_lines (heq ▸ mem_cons_self))
      · rintro ⟨hmem, -⟩
        exact absurd hl (hmem l mem_cons_self)
    cases ls with
    | nil =>
      by_cases hne : l = []
      · simp [hne, lines]
      · simp [lines_of_not_mem hl hne, hl, hne]
    | cons m ls =>
      rw [unlines_cons_cons, lines_append_newline hl, cons.injEq, ih, dropReturn_eq_self]
      simp only [forall_mem_cons (l := m :: ls), getLast?_cons_cons, dropLast_cons_cons,
        forall_mem_cons (l := (m :: ls).dropLast)]
      tauto

end Text

end PandaGen.Lib
