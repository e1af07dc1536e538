import Mathlib.Data.List.Basic
import Mathlib.Data.Nat.Digits.Defs
import Mathlib.Tactic.IntervalCases
import Mathlib.Tactic.Positivity

/-!
# Text codecs

A codec prints a value as bytes and parses it back from the front of a text. The structure carries the
proof that parsing inverts printing, so codecs are built up from smaller ones.
-/

namespace PandaGen.Lib

open Option List Nat

/-! ## Positional notation -/

/-- The `k` lowest digits of `n` in base `b`, the most significant first. -/
def digitsBE (b : Nat) : Nat → Nat → List Nat
  | 0, _ => []
  | k + 1, n => digitsBE b k (n / b) ++ [n % b]

def ofDigitsBE (b : Nat) (ds : List Nat) : Nat := ds.foldl (fun n d => n * b + d) 0

theorem length_digitsBE (b k n : Nat) : (digitsBE b k n).length = k := by
  induction k generalizing n with
  | zero => rfl
  | succ k ih => simp [digitsBE, ih]

theorem lt_of_mem_digitsBE {b k n d} (hb : 0 < b) (h : d ∈ digitsBE b k n) : d < b := by
  induction k generalizing n with
  | zero => simp [digitsBE] at h
  | succ k ih =>
    rcases mem_append.mp h with h | h
    · exact ih h
    · rw [mem_singleton.mp h]; exact mod_lt _ hb

theorem ofDigitsBE_append_singleton (b : Nat) (ds : List Nat) (d : Nat) :
    ofDigitsBE b (ds ++ [d]) = ofDigitsBE b ds * b + d := by
  simp [ofDigitsBE]

theorem ofDigitsBE_digitsBE {b} (k n : Nat) : ofDigitsBE b (digitsBE b k n) = n % b ^ k := by
  induction k generalizing n with
  | zero => simp [digitsBE, ofDigitsBE, mod_one]
  | succ k ih =>
    rw [digitsBE, ofDigitsBE_append_singleton, ih, pow_succ', mod_mul, mul_comm, add_comm]

/-- The decimal digits of `n` without leading zeros; `fuel` bounds their number. -/
def decimal : Nat → Nat → List Nat
  | 0, _ => []
  | fuel + 1, n => if n < 10 then [n] else decimal fuel (n / 10) ++ [n % 10]

theorem decimal_lt {fuel n d} (h : d ∈ decimal fuel n) : d < 10 := by
  induction fuel generalizing n with
  | zero => simp [decimal] at h
  | succ fuel ih =>
    rw [decimal] at h
    split at h
    · rw [mem_singleton.mp h]; assumption
    · rcases mem_append.mp h with h | h
      · exact ih h
      · rw [mem_singleton.mp h]; omega

theorem ofDigitsBE_decimal {fuel n} (h : n < fuel) : ofDigitsBE 10 (decimal fuel n) = n := by
  induction fuel generalizing n with
  | zero => omega
  | succ fuel ih =>
    rw [decimal]
    split
    · simp [ofDigitsBE]
    · rw [ofDigitsBE_append_singleton, ih (by omega)]
      omega

theorem length_decimal {k fuel n} (hk : 0 < k) (h : n < 10 ^ k) : (decimal fuel n).length ≤ k := by
  induction fuel generalizing k n with
  | zero => exact zero_le k
  | succ fuel ih =>
    rw [decimal]
    split
    · exact hk
    · obtain ⟨k, rfl⟩ := exists_eq_succ_of_ne_zero hk.ne'
      have hk' : 0 < k := by
        rcases k.eq_zero_or_pos with rfl | h'
        · omega
        · exact h'
      rw [length_append, length_singleton]
      exact succ_le_succ (ih hk' (by rw [pow_succ] at h; omega))

theorem decimal_ne_nil (fuel n : Nat) : decimal (fuel + 1) n ≠ [] := by
  rw [decimal]
  split <;> simp

/-! ## Codecs -/

def isDigit (b : UInt8) : Bool := 48 ≤ b && b ≤ 57

def Stop (rest : List UInt8) : Prop := ∀ b ∈ rest.head?, isDigit b = false

/-- A printer with its parser. Printed texts hold no null byte. -/
structure Codec (α : Type) where
  print : α → List UInt8
  parse : List UInt8 → Option (α × List UInt8)
  parse_print : ∀ a rest, Stop rest → parse (print a ++ rest) = some (a, rest)
  null_not_mem : ∀ a, (0 : UInt8) ∉ print a

namespace Codec

variable {α β : Type}

def eat : List UInt8 → List UInt8 → Option (List UInt8)
  | [], bs => some bs
  | _ :: _, [] => none
  | a :: t, b :: bs => if a = b then eat t bs else none

theorem eat_append (t rest : List UInt8) : eat t (t ++ rest) = some rest := by
  induction t with
  | nil => rfl
  | cons a t ih => simpa [eat] using ih

structure Mark where
  text : List UInt8
  stop : ∀ rest, Stop (text ++ rest)
  null_not_mem : (0 : UInt8) ∉ text

def mark (t : List UInt8) (ht : t.head?.map isDigit = some false := by decide)
    (h0 : (0 : UInt8) ∉ t := by decide) : Mark :=
  ⟨t, fun rest => by cases t <;> simp_all [Stop], h0⟩

def ascii (s : String) : List UInt8 := s.toList.map fun c => UInt8.ofNat c.toNat

def digitByte (d : Nat) : UInt8 := UInt8.ofNat (48 + d)

theorem digitByte_eq {d} (h : d < 10) : isDigit (digitByte d) = true ∧ (digitByte d).toNat - 48 = d ∧
    digitByte d ≠ 0 := by
  interval_cases d <;> decide

theorem takeWhile_append_stop {ds rest} (hds : ∀ b ∈ ds, isDigit b = true) (h : Stop rest) :
    (ds ++ rest).takeWhile isDigit = ds ∧ (ds ++ rest).dropWhile isDigit = rest := by
  induction ds with
  | nil =>
    cases rest with
    | nil => exact ⟨rfl, rfl⟩
    | cons b rest => have hb := h b (by simp); simp [hb]
  | cons d ds ih =>
    have hd := hds d (by simp)
    obtain ⟨h1, h2⟩ := ih (fun b hb => hds b (by simp [hb]))
    simp [hd, h1, h2]

theorem ofDigitsBE_bytes {ds : List Nat} (h : ∀ d ∈ ds, d < 10) :
    ((ds.map digitByte).map fun b => b.toNat - 48) = ds := by
  induction ds with
  | nil => rfl
  | cons d ds ih =>
    simp only [map_cons]
    rw [ih (fun e he => h e (by simp [he])), (digitByte_eq (h d (by simp))).2.1]

def nat : Codec Nat where
  print n := (decimal (n + 1) n).map digitByte
  parse bs :=
    if bs.takeWhile isDigit = [] then none
    else some (ofDigitsBE 10 ((bs.takeWhile isDigit).map fun b => b.toNat - 48), bs.dropWhile isDigit)
  parse_print n rest h := by
    have hds : ∀ b ∈ (decimal (n + 1) n).map digitByte, isDigit b = true := by
      intro b hb
      obtain ⟨d, hd, rfl⟩ := mem_map.mp hb
      exact (digitByte_eq (decimal_lt hd)).1
    obtain ⟨h1, h2⟩ := takeWhile_append_stop hds h
    rw [h1, h2, if_neg (by simpa using decimal_ne_nil n n), ofDigitsBE_bytes (fun d => decimal_lt),
      ofDigitsBE_decimal (lt_succ_self n)]
  null_not_mem n h := by
    obtain ⟨d, hd, h0⟩ := mem_map.mp h
    exact (digitByte_eq (decimal_lt hd)).2.2 h0

def between (l : List UInt8) (c : Codec α) (r : Mark) (hl : (0 : UInt8) ∉ l := by decide) : Codec α where
  print a := l ++ (c.print a ++ r.text)
  parse bs := do
    let bs ← eat l bs
    let (a, bs) ← c.parse bs
    let bs ← eat r.text bs
    some (a, bs)
  parse_print a rest _ := by
    simp only [append_assoc, eat_append, bind, bind_some, c.parse_print a _ (r.stop rest)]
  null_not_mem a h := by
    simp only [mem_append] at h
    rcases h with h | h | h
    · exact hl h
    · exact c.null_not_mem a h
    · exact r.null_not_mem h

def pair (c : Codec α) (sep : Mark) (d : Codec β) : Codec (α × β) where
  print a := c.print a.1 ++ (sep.text ++ d.print a.2)
  parse bs := do
    let (a, bs) ← c.parse bs
    let bs ← eat sep.text bs
    let (b, bs) ← d.parse bs
    some ((a, b), bs)
  parse_print a rest h := by
    simp only [append_assoc, eat_append, bind, bind_some, c.parse_print _ _ (sep.stop _),
      d.parse_print _ _ h]
  null_not_mem a h := by
    simp only [mem_append] at h
    rcases h with h | h | h
    · exact c.null_not_mem _ h
    · exact sep.null_not_mem h
    · exact d.null_not_mem _ h

/-- Values of another type, as far as `f` recognises them. -/
def image (c : Codec α) (f : α → Option β) (g : β → α) (h : ∀ b, f (g b) = some b := by exact fun _ => rfl) :
    Codec β where
  print b := c.print (g b)
  parse bs := do
    let (a, bs) ← c.parse bs
    let b ← f a
    some (b, bs)
  parse_print b rest hr := by
    simp only [c.parse_print _ _ hr, bind, bind_some, h]
  null_not_mem b := c.null_not_mem (g b)

def text (t : List UInt8) (h0 : (0 : UInt8) ∉ t := by decide) : Codec Unit where
  print _ := t
  parse bs := (eat t bs).map ((), ·)
  parse_print _ rest _ := by rw [eat_append, map_some]
  null_not_mem _ := h0

theorem head?_nat {b} (hb : isDigit b = false) (n : Nat) (rest) : (nat.print n ++ rest).head? ≠ some b := by
  intro hhead
  cases h : decimal (n + 1) n with
  | nil => exact absurd h (decimal_ne_nil n n)
  | cons d ds =>
    have hprint : nat.print n = (decimal (n + 1) n).map digitByte := rfl
    rw [hprint, h] at hhead
    cases hhead
    simp [(digitByte_eq (decimal_lt (h ▸ mem_cons_self))).1] at hb

theorem eat_of_head {b bs} (h : bs.head? ≠ some b) (t) : eat (b :: t) bs = none := by
  cases bs with
  | nil => rfl
  | cons => exact if_neg fun heq => h (congrArg some heq.symm)

/-! ## Variants -/

def clash : List UInt8 → List UInt8 → Bool
  | a :: t, b :: t' => a != b || clash t t'
  | _, _ => false

theorem eat_of_clash {t t'} (h : clash t t' = true) (rest : List UInt8) : eat t (t' ++ rest) = none := by
  induction t generalizing t' with
  | nil => cases h
  | cons a t ih =>
    cases t' with
    | nil => cases h
    | cons b t' =>
      rw [cons_append, eat]
      split
      · rename_i heq
        subst heq
        rw [clash, bne_self_eq_false, Bool.false_or] at h
        exact ih h
      · rfl

theorem findSome?_of_unique {f : α → Option β} {a : α} {b : β} {l : List α} (ha : a ∈ l) (hf : f a = some b)
    (hother : ∀ x, x ≠ a → f x = none) : l.findSome? f = some b := by
  induction l with
  | nil => cases ha
  | cons x l ih =>
    rw [findSome?_cons]
    by_cases hx : x = a
    · rw [hx, hf]
    · rw [hother x hx]
      exact ih ((mem_cons.mp ha).resolve_left (Ne.symm hx))

/-- A value of one of several kinds. The text begins with the tag of the kind. -/
def variants {ι : Type} {F : ι → Type} (kinds : List ι) (tag : ι → List UInt8) (c : (i : ι) → Codec (F i))
    (hkinds : ∀ i, i ∈ kinds) (hclash : ∀ i ∈ kinds, ∀ j ∈ kinds, i ≠ j → clash (tag i) (tag j) = true := by decide)
    (h0 : ∀ i ∈ kinds, (0 : UInt8) ∉ tag i := by decide) : Codec (Σ i, F i) where
  print x := tag x.1 ++ (c x.1).print x.2
  parse bs := kinds.findSome? fun i => do
    let bs ← eat (tag i) bs
    let (a, bs) ← (c i).parse bs
    some (⟨i, a⟩, bs)
  parse_print x rest h := by
    refine findSome?_of_unique (hkinds x.1) ?_ fun i hi => ?_
    · rw [append_assoc, eat_append]
      simp only [bind, bind_some, (c x.1).parse_print _ _ h]
    · rw [append_assoc, eat_of_clash (hclash i (hkinds i) x.1 (hkinds x.1) hi)]
      rfl
  null_not_mem x h := by
    rcases mem_append.mp h with h | h
    · exact h0 _ (hkinds x.1) h
    · exact (c x.1).null_not_mem _ h

/-! ## Lists -/

def printItems (c : Codec α) (close : UInt8) : List α → List UInt8
  | [] => [close]
  | [a] => c.print a ++ [close]
  | a :: b :: as => c.print a ++ 44 :: printItems c close (b :: as)

/-- One value or more, up to the closing byte; `fuel` bounds their number. -/
def parseItems (c : Codec α) (close : UInt8) : Nat → List UInt8 → Option (List α × List UInt8)
  | 0, _ => none
  | fuel + 1, bs =>
    match c.parse bs with
    | some (a, b :: bs) =>
      if b = 44 then (parseItems c close fuel bs).map fun (as, bs) => (a :: as, bs)
      else if b = close then some ([a], bs)
      else none
    | _ => none

variable (c : Codec α)

theorem parseItems_printItems {close} (hd : isDigit close = false) (h44 : close ≠ 44) (a : α) (as : List α)
    (rest : List UInt8) {fuel} (hf : as.length < fuel) :
    parseItems c close fuel (printItems c close (a :: as) ++ rest) = some (a :: as, rest) := by
  induction as generalizing a fuel with
  | nil =>
    obtain ⟨fuel, rfl⟩ := Nat.exists_eq_add_of_lt hf
    have hs : Stop (close :: rest) := by simpa [Stop] using hd
    have hp := c.parse_print a (close :: rest) hs
    simp [printItems, parseItems, hp, h44]
  | cons b as ih =>
    cases fuel with
    | zero => simp at hf
    | succ fuel =>
      have hs : Stop (44 :: (printItems c close (b :: as) ++ rest)) := by simp [Stop, isDigit]
      have hp := c.parse_print a _ hs
      have hi := @ih b fuel (by simpa using hf)
      simp [printItems, parseItems, hp, hi]

theorem length_printItems (close : UInt8) (as : List α) : as.length ≤ (printItems c close as).length := by
  induction as with
  | nil => simp
  | cons a as ih =>
    cases as with
    | nil => simp [printItems]
    | cons b as => simp only [printItems, length_append, length_cons] at ih ⊢; omega

theorem null_not_mem_printItems {close} (h0 : close ≠ 0) (as : List α) : (0 : UInt8) ∉ printItems c close as := by
  induction as with
  | nil => simpa [printItems] using Ne.symm h0
  | cons a as ih =>
    have ha := c.null_not_mem a
    cases as with
    | nil => simpa [printItems, ha] using Ne.symm h0
    | cons b as => simpa [printItems, ha] using ih

/-- A list in brackets. The first byte of a value tells it from the closing bracket. -/
def sequence (c : Codec α) (opening close : UInt8) (hc : ∀ a rest, (c.print a ++ rest).head? ≠ some close)
    (h0 : opening ≠ 0 ∧ close ≠ 0 := by decide) (hd : isDigit close = false := by decide)
    (h44 : close ≠ 44 := by decide) : Codec (List α) where
  print as := opening :: printItems c close as
  parse bs := do
    let bs ← eat [opening] bs
    if bs.head? = some close then some ([], bs.tail) else parseItems c close bs.length bs
  parse_print as rest _ := by
    cases as with
    | nil => simp [printItems, eat]
    | cons a as =>
      have hne : (printItems c close (a :: as) ++ rest).head? ≠ some close := by
        cases as with
        | nil => simpa [printItems] using hc a (close :: rest)
        | cons b as => simpa [printItems] using hc a (44 :: (printItems c close (b :: as) ++ rest))
      have hl := length_printItems c close (a :: as)
      simp only [cons_append, eat, if_pos, bind, bind_some, if_neg hne]
      exact parseItems_printItems c hd h44 a as rest (by simp at hl ⊢; omega)
  null_not_mem as h := by
    rcases mem_cons.mp h with h | h
    · exact h0.1 h.symm
    · exact null_not_mem_printItems c h0.2 as h

/-! ## Hexadecimal -/

def hexDigit (d : Nat) : UInt8 := if d < 10 then UInt8.ofNat (48 + d) else UInt8.ofNat (87 + d)

def hexValue (b : UInt8) : Nat := if isDigit b then b.toNat - 48 else b.toNat - 87

theorem hexDigit_eq {d} (h : d < 16) : hexValue (hexDigit d) = d ∧ hexDigit d ≠ 0 := by
  interval_cases d <;> decide

def hex (k : Nat) : Codec (Fin (16 ^ k)) where
  print n := (digitsBE 16 k n).map hexDigit
  parse bs :=
    if bs.length < k then none
    else some (⟨ofDigitsBE 16 ((bs.take k).map hexValue) % 16 ^ k, mod_lt _ (by positivity)⟩, bs.drop k)
  parse_print n rest _ := by
    have hl : ((digitsBE 16 k n).map hexDigit).length = k := by simp [length_digitsBE]
    have hv : ((digitsBE 16 k n).map hexDigit).map hexValue = digitsBE 16 k n := by
      rw [List.map_map]
      exact (List.map_congr_left fun d hd =>
        (hexDigit_eq (lt_of_mem_digitsBE (by decide) hd)).1).trans (List.map_id _)
    rw [if_neg (by simp [length_digitsBE]), List.take_left' hl, List.drop_left' hl, hv, ofDigitsBE_digitsBE]
    simp [mod_eq_of_lt n.isLt]
  null_not_mem n h := by
    obtain ⟨d, hd, h0⟩ := List.mem_map.mp h
    exact (hexDigit_eq (lt_of_mem_digitsBE (by decide) hd)).2 h0

/-! ## Lengths -/

theorem length_nat {k n} (hk : 0 < k) (h : n < 10 ^ k) : (nat.print n).length ≤ k :=
  (length_map _).trans_le (length_decimal hk h)

variable (c : Codec α)

@[simp] theorem length_between (l hl r a) :
    ((between l c r hl).print a).length = l.length + ((c.print a).length + r.text.length) := by
  simp [between]

@[simp] theorem length_pair (sep) (d : Codec β) (p) :
    ((c.pair sep d).print p).length = (c.print p.1).length + (sep.text.length + (d.print p.2).length) := by
  simp [pair]

@[simp] theorem length_image (f : α → Option β) (g h b) :
    ((c.image f g h).print b).length = (c.print (g b)).length := rfl

@[simp] theorem length_ascii (s : String) : (ascii s).length = s.toList.length := by simp [ascii]

@[simp] theorem length_hex (k n) : ((hex k).print n).length = k := by simp [hex, length_digitsBE]

@[simp] theorem length_mark (t ht h0) : (mark t ht h0).text.length = t.length := rfl

end Codec

/-! ## Little-endian numbers

Numbers as a fixed count of bytes, the least significant one first. The number that bytes spell is
`Nat.ofDigits 256`.
-/

def leBytes : Nat → Nat → List UInt8
  | 0, _ => []
  | k + 1, n => UInt8.ofNat n :: leBytes k (n / 256)

@[simp]
theorem length_leBytes (k n : Nat) : (leBytes k n).length = k := by
  induction k generalizing n with
  | zero => rfl
  | succ k ih => simp [leBytes, ih]

theorem ofDigits_leBytes (k n : Nat) : ofDigits 256 ((leBytes k n).map UInt8.toNat) = n % 256 ^ k := by
  induction k generalizing n with
  | zero => simp [leBytes, mod_one]
  | succ k ih =>
    rw [leBytes, List.map_cons, ofDigits_cons, ih, pow_succ', mod_mul, UInt8.toNat_ofNat']

theorem leBytes_ofDigits (bs : List UInt8) : leBytes bs.length (ofDigits 256 (bs.map UInt8.toNat)) = bs := by
  induction bs with
  | nil => rfl
  | cons b bs ih =>
    have hb := b.toNat_lt
    rw [List.length_cons, List.map_cons, ofDigits_cons, leBytes]
    rw [add_mul_div_left _ _ (by decide), div_eq_of_lt hb, zero_add, ih]
    congr 1
    apply UInt8.toNat_inj.mp
    rw [UInt8.toNat_ofNat', add_mul_mod_self_left, mod_eq_of_lt hb]

theorem ofDigits_lt {bs : List UInt8} {k : Nat} (h : bs.length = k) : ofDigits 256 (bs.map UInt8.toNat) < 256 ^ k := by
  rw [← leBytes_ofDigits bs, ofDigits_leBytes, h]
  exact mod_lt _ (by positivity)

end PandaGen.Lib
