import Inquiry.Number.Integer
import Inquiry.Proofs.CharacterRuns

/-!
# Integer numerals

An integer is written as an optional sign and one or more digits, and blanks may stand
around it. `Numeral` and `Spaced` say so; reading does it differently. It takes blanks
away from the ends first. Then it goes through the digits with a running number, which
it keeps within 64 bits, and gives up as soon as the number is out of range, whatever
follows.

Giving up early is no stricter than looking at the result, because a digit never brings
a number back: each one multiplies its distance from zero by ten, and adds to it. So the
numbers on the way are no further from zero than the last one, and all are in range if
that one is (`readDigits_eq_ok_iff`).
-/

namespace Inquiry.Number

/-- One or more digits. -/
def IsDigits (ds : List Char) : Prop := ds ≠ [] ∧ ∀ c ∈ ds, c.isDigit = true

/-- The numerals and the numbers that they denote. -/
inductive Numeral : List Char → Int → Prop where
  | plain {ds : List Char} (h : IsDigits ds) : Numeral ds (Nat.ofDigitChars 10 ds 0 : Nat)
  | plus {ds : List Char} (h : IsDigits ds) : Numeral ('+' :: ds) (Nat.ofDigitChars 10 ds 0 : Nat)
  | minus {ds : List Char} (h : IsDigits ds) :
      Numeral ('-' :: ds) (-(Nat.ofDigitChars 10 ds 0 : Nat))

/-- The number is one of 64 bits. -/
def IsWord64 (n : Int) : Prop := Int64.minValue.toInt ≤ n ∧ n ≤ Int64.maxValue.toInt

theorem isWord64_iff (n : Int) :
    IsWord64 n ↔ -9223372036854775808 ≤ n ∧ n ≤ 9223372036854775807 := by
  have hleast : Int64.minValue.toInt = -9223372036854775808 := by decide
  have hgreatest : Int64.maxValue.toInt = 9223372036854775807 := by decide
  rw [IsWord64, hleast, hgreatest]

/-! ## Digits -/

/-- The number with a magnitude and a sign. -/
def signed (negative : Bool) (n : Nat) : Int := if negative then -(n : Int) else n

theorem isWord64_of_le {negative : Bool} {m n : Nat} (h : m ≤ n)
    (hn : IsWord64 (signed negative n)) : IsWord64 (signed negative m) := by
  rw [isWord64_iff] at hn ⊢
  cases negative <;> simp only [signed, Bool.false_eq_true, if_true, if_false] at hn ⊢ <;> omega

theorem le_ofDigitChars (cs : List Char) (n : Nat) : n ≤ Nat.ofDigitChars 10 cs n := by
  induction cs generalizing n with
  | nil => simp
  | cons c rest ih =>
      rw [Nat.ofDigitChars_cons]
      have := ih (10 * n + (c.toNat - '0'.toNat))
      omega

theorem signed_next (negative : Bool) (n d : Nat) :
    (if negative then 10 * signed negative n - d else 10 * signed negative n + d) =
      signed negative (10 * n + d) := by
  cases negative <;> simp only [signed, Bool.false_eq_true, if_true, if_false] <;> omega

/-- Digits are read as the number that they denote, if it is in range. -/
theorem readDigits_eq_ok_iff {negative : Bool} {k : Nat} (hk : IsWord64 (signed negative k))
    (cs : List Char) (n : Int) :
    readDigits negative (signed negative k) cs = .ok n ↔
      (∀ c ∈ cs, c.isDigit = true) ∧ signed negative (Nat.ofDigitChars 10 cs k) = n ∧
        IsWord64 n := by
  induction cs generalizing k with
  | nil =>
      rw [readDigits, Nat.ofDigitChars_nil]
      constructor
      · rintro h
        cases h
        exact ⟨by simp, rfl, hk⟩
      · rintro ⟨-, rfl, -⟩
        rfl
  | cons c rest ih =>
      rw [readDigits]
      by_cases hc : c.isDigit = true
      · rw [if_pos hc, signed_next, Nat.ofDigitChars_cons]
        by_cases hnext : IsWord64 (signed negative (10 * k + digitValue c))
        · rw [if_neg (Int.not_lt.mpr hnext.2), if_neg (Int.not_lt.mpr hnext.1), ih hnext,
            List.forall_mem_cons]
          simp only [hc, true_and]
          rfl
        · -- the number is out of range already, and the rest only takes it further
          constructor
          · intro h
            simp only [] at h
            split at h
            · cases h
            · split at h
              · cases h
              · next hgreatest hleast =>
                  exact absurd ⟨Int.not_lt.mp hleast, Int.not_lt.mp hgreatest⟩ hnext
          · rintro ⟨-, rfl, hn⟩
            exact absurd (isWord64_of_le (le_ofDigitChars rest _) hn) hnext
      · rw [if_neg hc]
        constructor
        · intro h
          cases h
        · rintro ⟨hdigits, -⟩
          exact absurd (hdigits c List.mem_cons_self) hc

theorem readUnsigned_eq_ok_iff (negative : Bool) (cs : List Char) (n : Int) :
    readUnsigned negative cs = .ok n ↔
      IsDigits cs ∧ signed negative (Nat.ofDigitChars 10 cs 0) = n ∧ IsWord64 n := by
  have hzero : signed negative 0 = 0 := by cases negative <;> rfl
  have hword : IsWord64 (signed negative 0) := by
    rw [hzero]
    exact ⟨by decide, by decide⟩
  cases cs with
  | nil =>
      refine ⟨nofun, ?_⟩
      rintro ⟨⟨hne, -⟩, -⟩
      exact absurd rfl hne
  | cons c rest =>
      rw [readUnsigned, ← hzero, readDigits_eq_ok_iff hword, IsDigits]
      simp

/-! ## Signs -/

theorem isDigits_ne_of_cons {c d : Char} {ds : List Char} (h : IsDigits (c :: ds))
    (hd : d.isDigit = false) : c ≠ d := by
  rintro rfl
  have hc := h.2 c List.mem_cons_self
  rw [hd] at hc
  cases hc

/-- An integer is read exactly from its numerals. -/
theorem readInteger_eq_ok_iff (cs : List Char) (n : Int) :
    readInteger cs = .ok n ↔ Numeral cs n ∧ IsWord64 n := by
  constructor
  · intro h
    cases cs with
    | nil => cases h
    | cons c rest =>
        rw [readInteger] at h
        split at h
        · next hc =>
            obtain ⟨hds, rfl, hn⟩ := (readUnsigned_eq_ok_iff _ _ _).mp h
            rw [hc]
            exact ⟨.minus hds, hn⟩
        · split at h
          · next hc =>
              obtain ⟨hds, rfl, hn⟩ := (readUnsigned_eq_ok_iff _ _ _).mp h
              rw [hc]
              exact ⟨.plus hds, hn⟩
          · obtain ⟨hds, rfl, hn⟩ := (readUnsigned_eq_ok_iff _ _ _).mp h
            exact ⟨.plain hds, hn⟩
  · rintro ⟨hnumeral, hn⟩
    cases hnumeral with
    | plus hds =>
        rw [readInteger, if_neg (by decide), if_pos rfl]
        exact (readUnsigned_eq_ok_iff _ _ _).mpr ⟨hds, rfl, hn⟩
    | minus hds =>
        rw [readInteger, if_pos rfl]
        exact (readUnsigned_eq_ok_iff _ _ _).mpr ⟨hds, rfl, hn⟩
    | plain hds =>
        cases cs with
        | nil => exact absurd rfl hds.1
        | cons c rest =>
            rw [readInteger, if_neg (isDigits_ne_of_cons hds rfl),
              if_neg (isDigits_ne_of_cons hds rfl)]
            exact (readUnsigned_eq_ok_iff _ _ _).mpr ⟨hds, rfl, hn⟩

theorem isDigits_toDigits (n : Nat) : IsDigits (Nat.toDigits 10 n) :=
  ⟨Nat.toDigits_ne_nil, fun _ => isDigit_toDigits⟩

/-- The text of an integer is a numeral for it. -/
theorem numeral_toString (n : Int) : Numeral (toString n).toList n := by
  rw [Int.toString_eq_repr, Int.repr_eq_if, Nat.repr_eq_ofList_toDigits,
    Nat.repr_eq_ofList_toDigits]
  split
  · have h := Numeral.plain (isDigits_toDigits n.toNat)
    rw [Nat.ofDigitChars_ten_toDigits, Int.toNat_of_nonneg (by omega)] at h
    rwa [String.toList_ofList]
  · have h := Numeral.minus (isDigits_toDigits (-n).toNat)
    rw [Nat.ofDigitChars_ten_toDigits, Int.toNat_of_nonneg (by omega), Int.neg_neg] at h
    rw [String.toList_append, String.toList_ofList, String.toList_ofList]
    exact h

/-! ## Blanks -/

/-- The text is a numeral, possibly with blanks around it. -/
def Spaced (cs : List Char) (n : Int) : Prop :=
  ∃ before numeral after, cs = before ++ numeral ++ after ∧
    (∀ c ∈ before, Text.isBlank c = true) ∧ (∀ c ∈ after, Text.isBlank c = true) ∧
    Numeral numeral n

theorem Numeral.head {cs : List Char} {n : Int} (h : Numeral cs n) :
    ∀ c ∈ cs.head?, Text.isBlank c = false := by
  intro c hc
  cases h with
  | plus => cases hc; decide
  | minus => cases hc; decide
  | plain hds => exact Text.isBlank_of_isDigit (hds.2 c (List.mem_of_mem_head? hc))

theorem Numeral.last {cs : List Char} {n : Int} (h : Numeral cs n) :
    ∀ c ∈ cs.reverse.head?, Text.isBlank c = false := by
  intro c hc
  have hdigits : ∀ {ds : List Char}, IsDigits ds → ∀ sign, c ∈ (sign ++ ds).getLast? →
      Text.isBlank c = false := by
    rintro ds ⟨hne, hds⟩ sign hlast
    rw [List.getLast?_append, List.getLast?_eq_some_getLast hne, Option.some_or] at hlast
    exact Text.isBlank_of_isDigit (hds c (by cases hlast; exact List.getLast_mem hne))
  rw [List.head?_reverse] at hc
  cases h with
  | plus hds => exact hdigits hds ['+'] hc
  | minus hds => exact hdigits hds ['-'] hc
  | plain hds => exact hdigits hds [] hc

/-- Taking the blanks away from both ends leaves the numeral. -/
theorem numeral_trim_iff (cs : List Char) (n : Int) :
    Numeral (Text.trim cs) n ↔ Spaced cs n := by
  constructor
  · intro h
    refine ⟨cs.takeWhile Text.isBlank, Text.trim cs,
      ((Text.trimStart cs).reverse.takeWhile Text.isBlank).reverse, ?_, ?_, ?_, h⟩
    · rw [Text.trim, Text.trimEnd, List.append_assoc, ← List.reverse_append,
        List.takeWhile_append_dropWhile, List.reverse_reverse, Text.trimStart,
        List.takeWhile_append_dropWhile]
    · exact List.all_eq_true.mp List.all_takeWhile
    · exact fun c hc => List.all_eq_true.mp List.all_takeWhile c (List.mem_reverse.mp hc)
  · rintro ⟨before, numeral, after, rfl, hbefore, hafter, h⟩
    have hne : numeral ≠ [] := by
      rintro rfl
      cases h with
      | plain hds => exact hds.1 rfl
    have hhead : ∀ c ∈ (numeral ++ after).head?, Text.isBlank c = false := by
      rw [List.head?_append, List.head?_eq_some_head hne, Option.some_or]
      rw [← List.head?_eq_some_head hne]
      exact h.head
    rw [Text.trim, Text.trimStart, List.append_assoc, Text.dropWhile_run hbefore hhead, Text.trimEnd,
      List.reverse_append, Text.dropWhile_run (by simpa using hafter) h.last, List.reverse_reverse]
    exact h

end Inquiry.Number
