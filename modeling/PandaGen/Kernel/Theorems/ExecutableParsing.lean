import PandaGen.Kernel.Loader

/-!
# When parsing an executable panics
-/

namespace PandaGen.Kernel.Executable

open Lib Proc Nat

variable {data : Slice} {offset n : Nat}

/-! ## The cursor -/

section Cursor

variable {α : Type} {Q : Except (Fault ExecutableError) α → Nat → Prop}

theorem post_advance {f} (h : offset + n < 2 ^ 64) : (advance n >>= f).Post offset Q ↔ (f ()).Post (offset + n) Q := by
  rw [post_bind, advance]
  simp only [post_bind, post_get, post_okOrPanic, checkedAdd, if_pos h, post_set]

theorem post_peek {f} (h : offset + n ≤ data.len) :
    (peek data n >>= f).Post offset Q ↔ (f (data.leAt offset n)).Post offset Q := by
  rw [post_bind, peek]
  simp only [post_bind, post_get, post_okOrPanic, Slice.fromLeBytes_eq h]

theorem post_ensure {f} (h : offset + n < 2 ^ 64) : (ensure data n >>= f).Post offset Q ↔
      if data.len < offset + n then Q (.error (.err .fileTooShort)) offset else (f ()).Post offset Q := by
  rw [post_bind, ensure]
  simp only [post_bind, post_get, post_okOrPanic, checkedAdd, if_pos h, post_failIf]

end Cursor

/-! ## Sections -/

def typeAt (data : Slice) (offset : Nat) : Except ExecutableError SectionType :=
  SectionType.fromU32 (data.leAt offset 4)

def endAt (data : Slice) (offset : Nat) : Nat := offset + 16 + data.leAt (offset + 4) 8

def Overflows (data : Slice) (offset : Nat) : Prop :=
  (typeAt data offset = .ok .text ∨ typeAt data offset = .ok .data) ∧ 2 ^ 64 ≤ endAt data offset

def nextHeader (data : Slice) (offset : Nat) : Option Nat :=
  match typeAt data offset with
  | .error _ => none
  | .ok .bss => some (offset + 16)
  | .ok _ => if endAt data offset ≤ data.len then some (endAt data offset) else none

def headersFrom (data : Slice) : Nat → Nat → List Nat
  | 0, _ => []
  | count + 1, offset =>
    if data.len < offset + 16 then [] else offset :: (nextHeader data offset).elim [] (headersFrom data count)

inductive SectionRead (data : Slice) (offset : Nat) : Except (Fault ExecutableError) Section → Nat → Prop
  | short : data.len < offset + 16 → SectionRead data offset (.error (.err .fileTooShort)) offset
  | invalid {e} : ¬ data.len < offset + 16 → typeAt data offset = .error e →
      SectionRead data offset (.error (.err e)) offset
  | overflow : ¬ data.len < offset + 16 → Overflows data offset →
      SectionRead data offset (.error .panic) (offset + 16)
  | cut : ¬ data.len < offset + 16 → ¬ Overflows data offset → nextHeader data offset = none →
      SectionRead data offset (.error (.err .fileTooShort)) (offset + 16)
  | read {s next} : ¬ data.len < offset + 16 → ¬ Overflows data offset → nextHeader data offset = some next →
      next ≤ data.len → (s.sectionType ≠ .bss → s.data.length = s.size) → SectionRead data offset (.ok s) next

theorem readData_post {t} (ht : t ≠ .bss) (size) : (readData data t size).Post offset fun r offset' =>
      if 2 ^ 64 ≤ offset + size then r = .error .panic ∧ offset' = offset
      else if data.len < offset + size then r = .error (.err .fileTooShort) ∧ offset' = offset
      else ∃ bytes, r = .ok bytes ∧ bytes.length = size ∧ offset' = offset + size := by
  rw [readData, if_neg ht]
  split
  · rename_i hoverflow
    rw [post_bind, ensure]
    simp only [post_bind, post_get, post_okOrPanic, checkedAdd, if_neg (not_lt.mpr hoverflow), and_self]
  · rename_i hadd
    rw [not_le] at hadd
    rw [post_ensure hadd]
    split
    · exact ⟨rfl, rfl⟩
    · rename_i hlen
      obtain ⟨bytes, hrange, hlength⟩ := Slice.range_eq (le_add_right offset size) (not_lt.mp hlen)
      simp only [post_bind, post_get, post_okOrPanic, hrange]
      rw [← post_bind, post_advance hadd]
      exact ⟨bytes, rfl, by omega, rfl⟩

theorem readSection_post (h : offset ≤ data.len) : (readSection data).Post offset (SectionRead data offset) := by
  have hlen := data.len_lt
  rw [readSection, post_ensure (by omega)]
  split
  · exact .short ‹_›
  rename_i hshort
  rw [post_peek (by omega), post_bind, post_ofExcept]
  cases htype : SectionType.fromU32 (data.leAt offset 4) with
  | error e => exact .invalid hshort htype
  | ok t =>
    dsimp only [Except.mapError]
    rw [post_advance (by omega), post_peek (by omega), post_advance (by omega), post_peek (by omega),
      post_advance (by omega)]
    by_cases hbss : t = .bss
    · subst hbss
      have hover : ¬ Overflows data offset := by
        rintro ⟨htext | hdata, -⟩
        · cases htype.symm.trans htext
        · cases htype.symm.trans hdata
      rw [readData, if_pos rfl, pure_bind, post_pure]
      exact .read hshort hover (by rw [nextHeader, typeAt, htype]) (by omega) (fun hne => absurd rfl hne)
    · have hkind : typeAt data offset = .ok .text ∨ typeAt data offset = .ok .data := by
        cases t with
        | text => exact .inl htype
        | data => exact .inr htype
        | bss => exact absurd rfl hbss
      have hend : offset + 4 + 8 + 4 + data.leAt (offset + 4) 8 = endAt data offset := rfl
      have hnext : nextHeader data offset =
          if endAt data offset ≤ data.len then some (endAt data offset) else none := by
        rcases hkind with hkind | hkind <;> rw [nextHeader, hkind]
      refine (readData_post hbss _).bind (fun e _ he => ?_) fun bytes _ hbytes => ?_
      · rw [hend] at he
        split at he
        · rename_i hover
          obtain ⟨he, rfl⟩ := he
          cases he
          exact .overflow hshort ⟨hkind, hover⟩
        · rename_i hover
          split at he
          · rename_i hcut
            obtain ⟨he, rfl⟩ := he
            cases he
            exact .cut hshort (fun ho => hover ho.2) (by rw [hnext, if_neg (not_le.mpr hcut)])
          · obtain ⟨_, he, -⟩ := he
            cases he
      · rw [hend] at hbytes
        split at hbytes
        · cases hbytes.1
        · rename_i hover
          split at hbytes
          · cases hbytes.1
          · rename_i hfits
            rw [not_lt] at hfits
            obtain ⟨_, heq, hlength, rfl⟩ := hbytes
            cases heq
            rw [post_pure]
            exact .read hshort (fun ho => hover ho.2) (by rw [hnext, if_pos hfits]) hfits fun _ => hlength

theorem readSections_post (count) (h : offset ≤ data.len) : (readSections data count).Post offset fun r _ =>
      (r = .error .panic ↔ ∃ o ∈ headersFrom data count offset, Overflows data o) ∧
        ∀ sections, r = .ok sections → ∀ s ∈ sections, s.sectionType ≠ .bss → s.data.length = s.size := by
  induction count generalizing offset with
  | zero =>
    simp [readSections, headersFrom]
  | succ count ih =>
    rw [readSections, headersFrom]
    refine (readSection_post h).bind (fun e next he => ?_) fun first next hfirst => ?_
    · cases he with
      | short hshort => simp [if_pos hshort]
      | invalid hshort htype => simp [if_neg hshort, Overflows, nextHeader, htype]
      | overflow hshort hover => simp [if_neg hshort, hover]
      | cut hshort hover hnext => simp [if_neg hshort, hover, hnext]
    · cases hfirst with
      | read hshort hover hnext hle hdata =>
        refine (ih hle).bind (fun e _ he => ?_) fun rest _ hrest => ?_
        · simpa [if_neg hshort, hover, hnext] using he.1
        · rw [post_pure]
          refine ⟨?_, fun sections hsections s hs => ?_⟩
          · simpa [if_neg hshort, hover, hnext] using hrest.1
          · cases hsections
            rcases List.mem_cons.mp hs with rfl | hs
            · exact hdata
            · exact hrest.2 rest rfl s hs

/-! ## Whole files -/

def HeaderValid (data : Slice) : Prop :=
  20 ≤ data.len ∧ data.leAt 0 4 = pexMagic ∧ data.leAt 4 4 = pexVersion ∧ data.leAt 8 8 ≠ 0

instance (data : Slice) : Decidable (HeaderValid data) := by
  unfold HeaderValid
  infer_instance

def headers (data : Slice) : List Nat :=
  if HeaderValid data then headersFrom data (data.leAt 16 4) 20 else []

theorem readHeader_post (data) : (readHeader data).Post 0 fun r offset => match r with
      | .ok _ => 16 ≤ data.len ∧ data.leAt 0 4 = pexMagic ∧ data.leAt 4 4 = pexVersion ∧ data.leAt 8 8 ≠ 0 ∧ offset = 16
      | .error e => e ≠ .panic ∧ ¬ HeaderValid data := by
  rw [readHeader, post_failIf_bind]
  split
  · exact ⟨by simp, fun hv => by have := hv.1; omega⟩
  rw [post_peek (by omega), post_failIf_bind]
  split
  · rename_i hmagic
    exact ⟨by simp, fun hv => hmagic hv.2.1⟩
  rename_i hmagic
  rw [post_advance (by omega), post_peek (by omega), post_failIf_bind]
  split
  · rename_i hversion
    exact ⟨by simp, fun hv => hversion hv.2.2.1⟩
  rename_i hversion
  rw [post_advance (by omega), post_peek (by omega), post_advance (by omega), post_failIf_bind]
  split
  · rename_i hentry
    exact ⟨by simp, fun hv => hv.2.2.2 hentry⟩
  · rename_i hentry
    exact ⟨by omega, not_not.mp hmagic, not_not.mp hversion, hentry, rfl⟩

theorem readExecutable_post (data) : (readExecutable data).Post 0 fun r _ =>
      (r = .error .panic ↔ ∃ o ∈ headers data, Overflows data o) ∧
        ∀ exe, r = .ok exe → ∀ s ∈ exe.sections, s.sectionType ≠ .bss → s.data.length = s.size := by
  refine (readHeader_post data).bind (fun e _ he => ?_) fun entryPoint offset hheader => ?_
  · simp [headers, he.1, he.2]
  · obtain ⟨hfits, hmagic, hversion, hentry, rfl⟩ := hheader
    rw [post_ensure (by omega)]
    split
    · rename_i hshort
      have hinvalid : ¬ HeaderValid data := fun hv => by have := hv.1; omega
      simp [headers, hinvalid]
    · rename_i hcount
      have hvalid : HeaderValid data := ⟨by omega, hmagic, hversion, hentry⟩
      rw [post_peek (by omega), post_advance (by omega), headers, if_pos hvalid]
      refine (readSections_post (data.leAt 16 4) (by omega)).bind (fun e _ he => ?_) fun sections _ hsections => ?_
      · exact ⟨by simpa using he.1, by simp⟩
      · rw [post_pure]
        refine ⟨by simpa using hsections.1, fun exe hexe => ?_⟩
        cases hexe
        exact hsections.2 sections rfl

/-- Parsing panics if and only if it comes to a text or data section whose declared end is past the largest
address. The text and data sections of an accepted file are as long as they declare. -/
theorem parse_panics_iff (data : Slice) : (parse data = none ↔ ∃ o ∈ headers data, Overflows data o) ∧
      ∀ exe, parse data = some (.ok exe) → ∀ s ∈ exe.sections, s.sectionType ≠ .bss → s.data.length = s.size := by
  have hpost := readExecutable_post data
  rw [parse, call]
  rcases he : (readExecutable data).exec 0 with ⟨r, offset⟩
  have hr := hpost.of_exec he
  cases r with
  | ok exe =>
    refine ⟨by simpa using hr.1, fun exe' hexe => ?_⟩
    cases hexe
    exact hr.2 exe rfl
  | error e =>
    cases e with
    | err e | panic => exact ⟨by simpa using hr.1, by simp⟩

/-- A file of 36 bytes with one text section that declares the largest size. -/
def hugeSection : Slice where
  bytes := [0x00, 0x58, 0x45, 0x50, 1, 0, 0, 0, 0, 0x10, 0, 0, 0, 0, 0, 0, 1, 0, 0, 0, 1, 0, 0, 0,
    0xff, 0xff, 0xff, 0xff, 0xff, 0xff, 0xff, 0xff, 5, 0, 0, 0]
  fits := by decide

theorem parse_hugeSection : parse hugeSection = none := by
  decide

end PandaGen.Kernel.Executable
