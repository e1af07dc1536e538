import PandaGen.Lib.Codec

/-!
# JSON strings and optional values

Codecs for JSON strings as they are written without optional escapes, and for values that may be `null`.
-/

namespace PandaGen.Lib

open List UInt8

namespace Codec

/-! ## Characters -/

def shortEscapes : List (UInt8 × Char) :=
  [(34, '"'), (92, '\\'), (98, '\x08'), (102, '\x0c'), (110, '\n'), (114, '\r'), (116, '\t')]

/-- A character inside a string. Quotes, backslashes and control characters are escaped. -/
def escape (c : Char) : List UInt8 :=
  match shortEscapes.find? (·.2 = c) with
  | some (b, _) => [92, b]
  | none =>
    if c.toNat < 32 then [92, 117, 48, 48, hexDigit (c.toNat / 16), hexDigit (c.toNat % 16)]
    else String.utf8EncodeChar c

def unescape : List UInt8 → Option (Char × List UInt8)
  | 117 :: a :: b :: c :: d :: rest => some (Char.ofNat (ofDigitsBE 16 ([a, b, c, d].map hexValue)), rest)
  | b :: rest => (shortEscapes.find? (·.1 = b)).map fun (_, c) => (c, rest)
  | [] => none

def decodeChar (bs : List UInt8) : Option (Char × List UInt8) :=
  ((bs.take 4).toByteArray.utf8DecodeChar? 0).map fun c => (c, bs.drop c.utf8Size)

def parseChar (bs : List UInt8) : Option (Char × List UInt8) :=
  if bs.head? = some 92 then unescape bs.tail else decodeChar bs

variable (c : Char)

theorem decodeChar_append (rest : List UInt8) : decodeChar (String.utf8EncodeChar c ++ rest) = some (c, rest) := by
  have hlen := String.length_utf8EncodeChar c
  have htake : (String.utf8EncodeChar c ++ rest).take 4 = String.utf8EncodeChar c ++ rest.take (4 - c.utf8Size) := by
    rw [take_append, hlen, take_of_length_le (by have := c.utf8Size_le_four; omega)]
  rw [decodeChar, htake, toByteArray_append, ByteArray.utf8DecodeChar?_utf8EncodeChar_append, Option.map_some,
    drop_left' hlen]

theorem mem_utf8EncodeChar {c b} (hb : b ∈ String.utf8EncodeChar c) : b.toNat = c.toNat ∨ 128 ≤ b.toNat := by
  have hv : c.val.toNat = c.toNat := rfl
  simp only [String.utf8EncodeChar, hv] at hb
  split at hb
  · left
    rw [mem_singleton.mp hb, toNat_ofNat']
    omega
  · right
    split at hb
    · simp only [mem_cons, not_mem_nil, or_false] at hb
      rcases hb with rfl | rfl <;> rw [toNat_ofNat'] <;> omega
    · split at hb
      · simp only [mem_cons, not_mem_nil, or_false] at hb
        rcases hb with rfl | rfl | rfl <;> rw [toNat_ofNat'] <;> omega
      · simp only [mem_cons, not_mem_nil, or_false] at hb
        rcases hb with rfl | rfl | rfl | rfl <;> rw [toNat_ofNat'] <;> omega

theorem escape_cases : (∃ b, (b, c) ∈ shortEscapes ∧ escape c = [92, b]) ∨
    (c.toNat < 32 ∧ escape c = [92, 117, 48, 48, hexDigit (c.toNat / 16), hexDigit (c.toNat % 16)]) ∨
    (¬ c.toNat < 32 ∧ c ≠ '"' ∧ c ≠ '\\' ∧ escape c = String.utf8EncodeChar c) := by
  rw [escape]
  cases h : shortEscapes.find? (·.2 = c) with
  | some p =>
    obtain ⟨b, c'⟩ := p
    obtain rfl : c' = c := by simpa using find?_some h
    exact .inl ⟨b, mem_of_find?_eq_some h, rfl⟩
  | none =>
    by_cases hc : c.toNat < 32
    · exact .inr (.inl ⟨hc, if_pos hc⟩)
    · refine .inr (.inr ⟨hc, ?_, ?_, if_neg hc⟩)
      · rintro rfl
        revert h
        decide
      · rintro rfl
        revert h
        decide

theorem head?_utf8EncodeChar {c rest b} (hb : b.toNat < 128) (h : (String.utf8EncodeChar c ++ rest).head? = some b) :
    c = Char.ofNat b.toNat := by
  have hne : String.utf8EncodeChar c ≠ [] := by
    rw [ne_eq, ← length_eq_zero_iff, String.length_utf8EncodeChar]
    exact Nat.ne_of_gt c.utf8Size_pos
  rw [head?_append_of_ne_nil _ hne] at h
  rcases mem_utf8EncodeChar (mem_of_mem_head? h) with heq | hle
  · rw [heq, Char.ofNat_toNat]
  · omega

theorem parseChar_escape (rest : List UInt8) : parseChar (escape c ++ rest) = some (c, rest) := by
  rcases escape_cases c with ⟨b, hb, he⟩ | ⟨hc, he⟩ | ⟨_, _, hc, he⟩
  · rw [he]
    simp only [shortEscapes, mem_cons, Prod.mk.injEq, not_mem_nil, or_false] at hb
    rcases hb with ⟨rfl, rfl⟩ | ⟨rfl, rfl⟩ | ⟨rfl, rfl⟩ | ⟨rfl, rfl⟩ | ⟨rfl, rfl⟩ | ⟨rfl, rfl⟩ | ⟨rfl, rfl⟩ <;> rfl
  · rw [he]
    have hval : ofDigitsBE 16 ([48, 48, hexDigit (c.toNat / 16), hexDigit (c.toNat % 16)].map hexValue) = c.toNat := by
      simp only [map_cons, map_nil, (hexDigit_eq (show c.toNat / 16 < 16 by omega)).1,
        (hexDigit_eq (show c.toNat % 16 < 16 by omega)).1]
      rw [show hexValue 48 = 0 from rfl, ofDigitsBE]
      simp only [foldl_cons, foldl_nil]
      omega
    show some (Char.ofNat _, rest) = _
    rw [hval, Char.ofNat_toNat]
  · rw [he, parseChar, if_neg fun h => hc (head?_utf8EncodeChar (by decide) h)]
    exact decodeChar_append c rest

theorem head?_escape (rest : List UInt8) : (escape c ++ rest).head? ≠ some 34 := by
  rcases escape_cases c with ⟨b, _, he⟩ | ⟨_, he⟩ | ⟨_, hc, _, he⟩
  · simp [he]
  · simp [he]
  · rw [he]
    exact fun h => hc (head?_utf8EncodeChar (by decide) h)

theorem null_not_mem_escape : (0 : UInt8) ∉ escape c := by
  rcases escape_cases c with ⟨b, hb, he⟩ | ⟨hc, he⟩ | ⟨hc, _, _, he⟩
  · rw [he]
    revert hb
    simp only [shortEscapes, mem_cons, Prod.mk.injEq, not_mem_nil, or_false]
    rintro (⟨rfl, _⟩ | ⟨rfl, _⟩ | ⟨rfl, _⟩ | ⟨rfl, _⟩ | ⟨rfl, _⟩ | ⟨rfl, _⟩ | ⟨rfl, _⟩) <;> decide
  · have h1 := (hexDigit_eq (show c.toNat / 16 < 16 by omega)).2
    have h2 := (hexDigit_eq (show c.toNat % 16 < 16 by omega)).2
    simp [he, Ne.symm h1, Ne.symm h2]
  · rw [he]
    intro hmem
    have := mem_utf8EncodeChar hmem
    have h0 : (0 : UInt8).toNat = 0 := rfl
    omega

/-! ## Strings -/

/-- The characters up to the closing quote; `fuel` bounds their number. -/
def parseChars : Nat → List UInt8 → Option (List Char × List UInt8)
  | 0, _ => none
  | fuel + 1, bs =>
    if bs.head? = some 34 then some ([], bs.tail)
    else
      match parseChar bs with
      | some (c, bs) => (parseChars fuel bs).map fun (cs, bs) => (c :: cs, bs)
      | none => none

theorem parseChars_escape (cs : List Char) (rest : List UInt8) {fuel} (hf : cs.length < fuel) :
    parseChars fuel (cs.flatMap escape ++ 34 :: rest) = some (cs, rest) := by
  induction cs generalizing fuel with
  | nil =>
    obtain ⟨fuel, rfl⟩ := Nat.exists_eq_add_of_lt hf
    simp [parseChars]
  | cons c cs ih =>
    cases fuel with
    | zero => simp at hf
    | succ fuel =>
      have hi := @ih fuel (by simpa using hf)
      rw [flatMap_cons, append_assoc, parseChars, if_neg (head?_escape c _), parseChar_escape]
      simp [hi]

theorem length_le_flatMap_escape (cs : List Char) : cs.length ≤ (cs.flatMap escape).length := by
  induction cs with
  | nil => simp
  | cons c cs ih =>
    have hpos : 0 < (escape c).length := by
      rcases escape_cases c with ⟨b, _, he⟩ | ⟨_, he⟩ | ⟨_, _, _, he⟩
      · simp [he]
      · simp [he]
      · rw [he, String.length_utf8EncodeChar]
        exact c.utf8Size_pos
    simp only [flatMap_cons, length_append, length_cons]
    omega

def string : Codec String where
  print s := 34 :: (s.toList.flatMap escape ++ [34])
  parse bs := do
    let bs ← eat [34] bs
    let (cs, bs) ← parseChars bs.length bs
    some (String.ofList cs, bs)
  parse_print s rest _ := by
    have hle := length_le_flatMap_escape s.toList
    simp only [cons_append, append_assoc, eat, if_pos, bind, Option.bind_some, nil_append]
    have hlt : s.toList.length < (s.toList.flatMap escape ++ 34 :: rest).length := by
      rw [length_append, length_cons]
      omega
    rw [parseChars_escape s.toList rest hlt, Option.bind_some, String.ofList_toList]
  null_not_mem s := by
    simp only [mem_cons, mem_append, mem_flatMap, not_mem_nil, or_false, not_or]
    refine ⟨by decide, ?_, by decide⟩
    rintro ⟨c, _, hc⟩
    exact null_not_mem_escape c hc

variable {α : Type}

def nullable (c : Codec α) (hc : ∀ a rest, eat (ascii "null") (c.print a ++ rest) = none) : Codec (Option α) where
  print
    | some a => c.print a
    | none => ascii "null"
  parse bs :=
    match eat (ascii "null") bs with
    | some bs => some (none, bs)
    | none => (c.parse bs).map fun (a, bs) => (some a, bs)
  parse_print a rest hr := by
    cases a with
    | none => simp only [eat_append]
    | some a => simp only [hc, c.parse_print a rest hr, Option.map_some]
  null_not_mem a := by
    cases a with
    | none => exact (by decide : (0 : UInt8) ∉ ascii "null")
    | some a => exact c.null_not_mem a

end Codec

end PandaGen.Lib
