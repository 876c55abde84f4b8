import Inquiry.Proofs.DateText
import Inquiry.Proofs.DecimalNormal
import Inquiry.Proofs.IntegerNumerals
import Inquiry.Proofs.LiteralForm
import Inquiry.Proofs.NumberOrder
import Mathlib.Data.List.Induction

/-!
# Canonical numerals

The literal of a number shows the number and nothing of the value that held it: not the
width of an integer, the places of a decimal, or the sign of a zero. `Canonical` is the
grammar of such numerals, with the number that each of them denotes.

The grammar is as strict as can be: no two numerals denote one number. It comes down to
coefficients with their places. Digits without a zero in front are those of their value
(`toDigits_ofDigitChars`), so a numeral is given by the coefficient and the number of
places behind its point; and a coefficient that does not end in zero has the fewest
places that there can be for its number. So there is nothing left to choose in writing a
number, and values have one text if and only if they denote one number.
-/

namespace Inquiry

open Number (tenTo tenTo_zero tenTo_succ tenTo_pos)

namespace Number

/-! ## The grammar -/

/-- Digits without a superfluous zero in front. -/
def IsWhole (ds : List Char) : Prop := IsDigits ds ∧ (ds.head? = some '0' → ds = ['0'])

/-- Digits of which the last is not zero. -/
def IsFraction (ds : List Char) : Prop := IsDigits ds ∧ ds.getLast? ≠ some '0'

/-- The canonical numerals without a sign and the numbers that they denote. -/
inductive Magnitude : List Char → ℚ → Prop where
  | whole {ds : List Char} (h : IsWhole ds) : Magnitude ds (Nat.ofDigitChars 10 ds 0 : Nat)
  | point {ds fs : List Char} (h : IsWhole ds) (hf : IsFraction fs) :
      Magnitude (ds ++ '.' :: fs)
        ((Nat.ofDigitChars 10 ds 0 : Nat) + (Nat.ofDigitChars 10 fs 0 : Nat) / tenTo fs.length)

/-- The canonical numerals and the numbers that they denote. Zero has no sign. -/
inductive Canonical : List Char → ℚ → Prop where
  | plain {cs : List Char} {x : ℚ} (h : Magnitude cs x) : Canonical cs x
  | minus {cs : List Char} {x : ℚ} (h : Magnitude cs (-x)) (hx : x ≠ 0) : Canonical ('-' :: cs) x

/-! ## Digits and their values -/

theorem digitChar_digitValue {c : Char} (h : c.isDigit = true) : (digitValue c).digitChar = c := by
  have hrange : 48 ≤ c.toNat ∧ c.toNat ≤ 57 := Char.isDigit_iff_toNat.mp h
  have hvalue : digitValue c = c.toNat - 48 := rfl
  refine Char.toNat_inj.mp ?_
  rw [Nat.toNat_digitChar_of_lt_ten (by omega)]
  omega

theorem digitValue_lt {c : Char} (h : c.isDigit = true) : digitValue c < 10 := by
  have hrange : 48 ≤ c.toNat ∧ c.toNat ≤ 57 := Char.isDigit_iff_toNat.mp h
  have hvalue : digitValue c = c.toNat - 48 := rfl
  omega

theorem ofDigitChars_concat (ds : List Char) (c : Char) :
    Nat.ofDigitChars 10 (ds ++ [c]) 0 = 10 * Nat.ofDigitChars 10 ds 0 + digitValue c := by
  rw [Nat.ofDigitChars_append, Nat.ofDigitChars_cons, Nat.ofDigitChars_nil]
  rfl

/-- Digits without a zero in front are the digits of their value. -/
theorem toDigits_ofDigitChars {ds : List Char} (h : IsWhole ds) :
    Nat.toDigits 10 (Nat.ofDigitChars 10 ds 0) = ds := by
  induction ds using List.reverseRecOn with
  | nil => exact absurd rfl h.1.1
  | append_singleton ds c ih =>
      obtain ⟨⟨-, hdigits⟩, hlead⟩ := h
      have hc : c.isDigit = true := hdigits c (by simp)
      rw [ofDigitChars_concat]
      cases hds : ds with
      | nil =>
          rw [Nat.ofDigitChars_nil, Nat.mul_zero, Nat.zero_add,
            Nat.toDigits_of_lt_base (digitValue_lt hc), digitChar_digitValue hc]
          rfl
      | cons d rest =>
          rw [← hds]
          -- the digits before the last begin with the same digit, which is no zero
          have hhead : (ds ++ [c]).head? = ds.head? := by rw [hds]; rfl
          have hne : ds.head? ≠ some '0' := by
            intro hzero
            have hlength := congrArg List.length (hlead (hhead.trans hzero))
            rw [hds] at hlength
            simp at hlength
          have hwhole : IsWhole ds :=
            ⟨⟨by rw [hds]; exact List.cons_ne_nil d rest, fun e he => hdigits e (by simp [he])⟩,
              fun hzero => absurd hzero hne⟩
          have hpos : 0 < Nat.ofDigitChars 10 ds 0 := by
            refine Nat.pos_of_ne_zero fun hzero => hne ?_
            rw [← ih hwhole, hzero]
            rfl
          rw [← Nat.toDigits_append_toDigits (by decide) hpos (digitValue_lt hc), ih hwhole,
            Nat.toDigits_of_lt_base (digitValue_lt hc), digitChar_digitValue hc]

theorem toDigits_isWhole (n : Nat) : IsWhole (Nat.toDigits 10 n) := by
  refine ⟨isDigits_toDigits n, ?_⟩
  induction n using Nat.strongRecOn with
  | _ n ih =>
      intro hzero
      by_cases hn : n < 10
      · rw [Nat.toDigits_of_lt_base hn] at hzero ⊢
        rw [Option.some.inj hzero]
      · rw [Nat.toDigits_of_base_le (by decide) (by omega)] at hzero
        rw [List.head?_append, List.head?_eq_some_head Nat.toDigits_ne_nil, Option.some_or,
          ← List.head?_eq_some_head] at hzero
        have hdigits := congrArg (Nat.ofDigitChars 10 · 0) (ih (n / 10) (by omega) hzero)
        simp only [Nat.ofDigitChars_ten_toDigits] at hdigits
        have hvalue : Nat.ofDigitChars 10 ['0'] 0 = 0 := rfl
        omega

/-- Digits of the same number and with the same value are the same. -/
theorem eq_of_ofDigitChars {ds es : List Char} (hds : ∀ c ∈ ds, c.isDigit = true)
    (hes : ∀ c ∈ es, c.isDigit = true) (hlength : ds.length = es.length)
    (h : Nat.ofDigitChars 10 ds 0 = Nat.ofDigitChars 10 es 0) : ds = es := by
  -- with a one in front there are no zeros in front
  have hwhole : ∀ {cs : List Char}, (∀ c ∈ cs, c.isDigit = true) → IsWhole ('1' :: cs) := by
    intro cs hcs
    refine ⟨⟨List.cons_ne_nil _ _, fun c hc => ?_⟩, fun hzero => absurd hzero (by simp)⟩
    rcases List.mem_cons.mp hc with rfl | hc
    · rfl
    · exact hcs c hc
  have hone : Nat.ofDigitChars 10 ('1' :: ds) 0 = Nat.ofDigitChars 10 ('1' :: es) 0 := by
    rw [Nat.ofDigitChars_cons, Nat.ofDigitChars_cons, Nat.ofDigitChars_eq_ofDigitChars_zero,
      Nat.ofDigitChars_eq_ofDigitChars_zero (l := es), h, hlength]
  have hcons : '1' :: ds = '1' :: es := by
    rw [← toDigits_ofDigitChars (hwhole hds), hone, toDigits_ofDigitChars (hwhole hes)]
  exact List.tail_eq_of_cons_eq hcons

theorem ofDigitChars_lt {ds : List Char} (h : ∀ c ∈ ds, c.isDigit = true) :
    Nat.ofDigitChars 10 ds 0 < tenTo ds.length := by
  induction ds using List.reverseRecOn with
  | nil => exact tenTo_pos 0
  | append_singleton ds c ih =>
      have hds := ih fun d hd => h d (by simp [hd])
      have hc := digitValue_lt (h c (by simp))
      rw [ofDigitChars_concat, List.length_append, List.length_singleton, tenTo_succ]
      omega

theorem padded_ofDigitChars {fs : List Char} (h : IsDigits fs) :
    Calendar.padded fs.length (Nat.ofDigitChars 10 fs 0) = fs := by
  refine eq_of_ofDigitChars Calendar.isDigit_padded h.2 ?_ Calendar.ofDigitChars_padded
  exact Calendar.length_padded (List.length_pos_iff.mpr h.1) (ofDigitChars_lt h.2)

/-- The last digit of a number is zero if ten divides the number. -/
theorem getLast?_padded (width n : Nat) :
    (Calendar.padded width n).getLast? = some '0' ↔ n % 10 = 0 := by
  have hlast : (Calendar.padded width n).getLast? = some (n % 10).digitChar := by
    rw [Calendar.padded, List.getLast?_append, Nat.toDigits_eq_if (by decide)]
    split
    · next hn => rw [Nat.mod_eq_of_lt hn]; rfl
    · rw [List.getLast?_append]; rfl
  rw [hlast, Option.some_inj, Nat.digitChar_eq_zero]

/-! ## Coefficients with places -/

section

variable {c s : Nat}

theorem digits_of_places (hs : s ≠ 0) : Decimal.digits c s =
    Nat.toDigits 10 (c / tenTo s) ++ '.' :: Calendar.padded s (c % tenTo s) := by
  rw [Decimal.digits, if_neg hs]
  rfl

theorem mod_tenTo_mod_ten (hs : s ≠ 0) : c % tenTo s % 10 = c % 10 := by
  obtain ⟨k, rfl⟩ := Nat.exists_eq_succ_of_ne_zero hs
  exact Nat.mod_mod_of_dvd c ⟨tenTo k, by rw [tenTo_succ, Nat.mul_comm]⟩

/-- A coefficient with the fewest places is written as a canonical numeral. -/
theorem magnitude_digits (h : Decimal.Stripped c s) :
    Magnitude (Decimal.digits c s) (c / tenTo s) := by
  by_cases hs : s = 0
  · subst hs
    have hwhole := Magnitude.whole (toDigits_isWhole c)
    rw [Nat.ofDigitChars_ten_toDigits] at hwhole
    simpa [Decimal.digits] using hwhole
  · have hlength := Calendar.length_padded (Nat.pos_of_ne_zero hs) (Nat.mod_lt c (tenTo_pos s))
    have hfraction : IsFraction (Calendar.padded s (c % tenTo s)) := by
      refine ⟨⟨Calendar.padded_ne_nil, Calendar.isDigit_padded⟩, ?_⟩
      rw [Ne, getLast?_padded, mod_tenTo_mod_ten hs]
      exact h.resolve_left hs
    have hpoint := Magnitude.point (toDigits_isWhole (c / tenTo s)) hfraction
    rw [Nat.ofDigitChars_ten_toDigits, Calendar.ofDigitChars_padded, hlength] at hpoint
    have hvalue : (c : ℚ) / tenTo s = (c / tenTo s : Nat) + (c % tenTo s : Nat) / tenTo s := by
      have hunit := Decimal.tenTo_ne_zero s
      rw [div_eq_iff hunit, add_mul, div_mul_cancel₀ _ hunit]
      exact_mod_cast (Nat.div_add_mod' c (tenTo s)).symm
    rw [digits_of_places hs, hvalue]
    exact hpoint

/-- A canonical numeral is written for a coefficient with the fewest places. -/
theorem Magnitude.eq_digits {cs : List Char} {x : ℚ} (h : Magnitude cs x) :
    ∃ c s, Decimal.Stripped c s ∧ cs = Decimal.digits c s ∧ x = c / tenTo s := by
  cases h with
  | whole h =>
      refine ⟨Nat.ofDigitChars 10 cs 0, 0, .inl rfl, ?_, by simp⟩
      simp [Decimal.digits, toDigits_ofDigitChars h]
  | @point ds fs h hf =>
      have hs : fs.length ≠ 0 := fun hzero => hf.1.1 (List.eq_nil_of_length_eq_zero hzero)
      have hlt := ofDigitChars_lt hf.1.2
      generalize hw : Nat.ofDigitChars 10 ds 0 = w
      generalize hn : Nat.ofDigitChars 10 fs 0 = n at hlt
      have hdiv : (w * tenTo fs.length + n) / tenTo fs.length = w := by
        rw [Nat.mul_comm, Nat.mul_add_div (tenTo_pos _), Nat.div_eq_of_lt hlt, Nat.add_zero]
      have hmod : (w * tenTo fs.length + n) % tenTo fs.length = n := by
        rw [Nat.mul_add_mod_self_right, Nat.mod_eq_of_lt hlt]
      refine ⟨w * tenTo fs.length + n, fs.length, .inr ?_, ?_, ?_⟩
      · have hlast := getLast?_padded fs.length n
        rw [← hn, padded_ofDigitChars hf.1] at hlast
        rw [← mod_tenTo_mod_ten hs, hmod, ← hn]
        exact fun hzero => hf.2 (hlast.mpr hzero)
      · rw [digits_of_places hs, hdiv, hmod, ← hw, ← hn, toDigits_ofDigitChars h,
          padded_ofDigitChars hf.1]
      · push_cast
        rw [add_div, mul_div_cancel_right₀ _ (Decimal.tenTo_ne_zero _)]

end

/-! ## One numeral for each number -/

theorem Magnitude.nonneg {cs : List Char} {x : ℚ} (h : Magnitude cs x) : 0 ≤ x := by
  obtain ⟨c, s, -, -, rfl⟩ := h.eq_digits
  exact div_nonneg (Nat.cast_nonneg c) (Nat.cast_nonneg (tenTo s))

theorem Magnitude.unique {cs ds : List Char} {x : ℚ} (h : Magnitude cs x) (h' : Magnitude ds x) :
    cs = ds := by
  obtain ⟨c, s, hstripped, rfl, hx⟩ := h.eq_digits
  obtain ⟨c', s', hstripped', rfl, hx'⟩ := h'.eq_digits
  have heq : c * tenTo s' = c' * tenTo s := by
    have hquotient := hx.symm.trans hx'
    rw [div_eq_div_iff (Decimal.tenTo_ne_zero s) (Decimal.tenTo_ne_zero s')] at hquotient
    exact_mod_cast hquotient
  obtain ⟨rfl, rfl⟩ := hstripped.eq hstripped' heq
  rfl

/-- The number is read off the digits before and behind the point. -/
theorem Magnitude.eq_value {cs : List Char} {x : ℚ} (h : Magnitude cs x) :
    x = (Nat.ofDigitChars 10 (cs.takeWhile Char.isDigit) 0 : Nat) +
      (Nat.ofDigitChars 10 (cs.dropWhile Char.isDigit).tail 0 : Nat) /
        tenTo (cs.dropWhile Char.isDigit).tail.length := by
  cases h with
  | whole h =>
      have htake := @Text.takeWhile_run Char.isDigit cs [] h.1.2 nofun
      have hdrop := @Text.dropWhile_run Char.isDigit cs [] h.1.2 nofun
      rw [List.append_nil] at htake hdrop
      rw [htake, hdrop]
      simp
  | @point ds fs h hf =>
      have hpoint : ∀ c ∈ ('.' :: fs).head?, c.isDigit = false := by
        intro c hc
        cases hc
        rfl
      rw [Text.takeWhile_run h.1.2 hpoint, Text.dropWhile_run h.1.2 hpoint, List.tail_cons]

theorem Magnitude.head_ne_minus {cs : List Char} {x : ℚ} : ¬Magnitude ('-' :: cs) x := by
  intro h
  obtain ⟨c, s, -, hdigits, -⟩ := h.eq_digits
  have hhead := (Decimal.digits_isNumeral c s).1
  rw [← hdigits] at hhead
  cases hhead

/-- There is a point in the numerals of the numbers that are not whole. -/
theorem Magnitude.point_mem_iff {cs : List Char} {x : ℚ} (h : Magnitude cs x) :
    '.' ∈ cs ↔ ¬∃ n : ℤ, x = n := by
  obtain ⟨c, s, hstripped, rfl, rfl⟩ := h.eq_digits
  by_cases hs : s = 0
  · subst hs
    have hwhole : ∃ n : ℤ, (c : ℚ) / tenTo 0 = n := ⟨c, by simp⟩
    have hmem : '.' ∉ Decimal.digits c 0 := by
      intro hmem
      exact absurd (isDigit_toDigits hmem) (by decide)
    exact ⟨fun hpoint => absurd hpoint hmem, fun hnone => absurd hwhole hnone⟩
  · refine ⟨fun _ => ?_, fun _ => by rw [digits_of_places hs]; simp⟩
    rintro ⟨n, hn⟩
    rw [div_eq_iff (Decimal.tenTo_ne_zero s)] at hn
    have hdvd : (10 : Int) ∣ c := by
      obtain ⟨k, rfl⟩ := Nat.exists_eq_succ_of_ne_zero hs
      have hc : (c : Int) = n * tenTo (k + 1) := by exact_mod_cast hn
      rw [hc, tenTo_succ, Nat.cast_mul, ← Int.mul_assoc]
      exact Int.dvd_mul_left _ _
    exact hstripped.resolve_left hs (by omega)

theorem Canonical.unique {cs ds : List Char} {x : ℚ} (h : Canonical cs x)
    (h' : Canonical ds x) : cs = ds := by
  have hzero : 0 ≤ -x → 0 ≤ x → x = 0 := fun hneg hpos => le_antisymm (neg_nonneg.mp hneg) hpos
  cases h with
  | plain h =>
      cases h' with
      | plain h' => exact h.unique h'
      | minus h' hx => exact absurd (hzero h'.nonneg h.nonneg) hx
  | minus h hx =>
      cases h' with
      | plain h' => exact absurd (hzero h.nonneg h'.nonneg) hx
      | minus h' _ => rw [h.unique h']

theorem Canonical.denotes_one {cs : List Char} {x y : ℚ} (h : Canonical cs x)
    (h' : Canonical cs y) : x = y := by
  cases h with
  | plain h =>
      cases h' with
      | plain h' => exact h.eq_value.trans h'.eq_value.symm
      | minus _ _ => exact absurd h Magnitude.head_ne_minus
  | minus h _ =>
      cases h' with
      | plain h' => exact absurd h' Magnitude.head_ne_minus
      | minus h' _ => exact neg_injective (h.eq_value.trans h'.eq_value.symm)

theorem Canonical.point_mem_iff {cs : List Char} {x : ℚ} (h : Canonical cs x) :
    '.' ∈ cs ↔ ¬∃ n : ℤ, x = n := by
  cases h with
  | plain h => exact h.point_mem_iff
  | @minus cs _ h _ =>
      have hneg : (∃ n : ℤ, -x = n) ↔ ∃ n : ℤ, x = n := by
        constructor
        · rintro ⟨n, hn⟩
          exact ⟨-n, by rw [Int.cast_neg, ← hn, neg_neg]⟩
        · rintro ⟨n, rfl⟩
          exact ⟨-n, by rw [Int.cast_neg]⟩
      rw [← hneg, ← h.point_mem_iff]
      simp

/-! ## The texts of values -/

theorem canonical_int (n : Int) : Canonical (toString n).toList n := by
  rw [Int.toString_eq_repr, Int.repr_eq_if, Nat.repr_eq_ofList_toDigits,
    Nat.repr_eq_ofList_toDigits]
  split
  · next hn =>
      have hwhole := Magnitude.whole (toDigits_isWhole n.toNat)
      rw [Nat.ofDigitChars_ten_toDigits] at hwhole
      have hcast : ((n.toNat : Nat) : ℚ) = n := by exact_mod_cast Int.toNat_of_nonneg hn
      rw [String.toList_ofList, ← hcast]
      exact .plain hwhole
  · next hn =>
      have hwhole := Magnitude.whole (toDigits_isWhole (-n).toNat)
      rw [Nat.ofDigitChars_ten_toDigits] at hwhole
      have hcast : (((-n).toNat : Nat) : ℚ) = -n := by
        exact_mod_cast Int.toNat_of_nonneg (by omega : 0 ≤ -n)
      rw [hcast] at hwhole
      have hne : (n : ℚ) ≠ 0 := Int.cast_ne_zero.mpr (by omega)
      rw [String.toList_append, String.toList_ofList, String.toList_ofList]
      exact .minus hwhole hne

end Number

namespace Decimal

open Number (Canonical Magnitude)

theorem same_iff_toRat (a b : Decimal) : a.same b = true ↔ a.toRat = b.toRat := by
  rw [same, beq_iff_eq, (order_compares a b).eq_eq]

theorem toRat_normalize (d : Decimal) : d.normalize.toRat = d.toRat :=
  ((same_iff_toRat d d.normalize).mp (normalize_same d)).symm

/-- A decimal with the fewest places is written as a canonical numeral, if zero has no
sign. -/
theorem canonical_text {d : Decimal} (h : Stripped d.coefficient d.scale)
    (hsign : d.negative = true → d.coefficient ≠ 0) : Canonical d.text.toList d.toRat := by
  have hmagnitude := Number.magnitude_digits h
  rw [text, toRat, signed]
  cases hnegative : d.negative with
  | false =>
      simp only [Bool.false_eq_true, if_false, String.toList_ofList, Int.cast_natCast]
      exact .plain hmagnitude
  | true =>
      simp only [if_true, String.toList_append, String.toList_ofList, Int.cast_neg,
        Int.cast_natCast, neg_div]
      have hne : (d.coefficient : ℚ) / tenTo d.scale ≠ 0 :=
        div_ne_zero (Nat.cast_ne_zero.mpr (hsign hnegative)) (tenTo_ne_zero d.scale)
      exact .minus (by rwa [neg_neg]) (neg_ne_zero.mpr hne)

theorem normalize_stripped (d : Decimal) : Stripped d.normalize.coefficient d.normalize.scale := by
  rw [normalize]
  split
  · exact .inl rfl
  · exact stripZeros_stripped d.coefficient d.scale

theorem normalize_negative {d : Decimal} (h : d.normalize.negative = true) :
    d.normalize.coefficient ≠ 0 := by
  intro hzero
  rw [normalize_of_zero (coefficient_of_same hzero (same_symm (normalize_same d)))] at h
  cases h

end Decimal

namespace Statement

open Number (Canonical)

theorem written_canonical {v : Value} {x : ℚ} (h : v.number? = some x) :
    ∃ text, v.literalText? = some text ∧ Canonical text.toList x := by
  rcases Value.number?_cases h with ⟨d, rfl, rfl⟩ | ⟨n, hn, rfl⟩
  · have hcanonical := d.normalize.canonical_text d.normalize_stripped Decimal.normalize_negative
    rw [d.toRat_normalize] at hcanonical
    exact ⟨_, rfl, hcanonical⟩
  · have htext : v.literalText? = some (toString n) := by
      cases v with
      | int16 w | int32 w | int64 w | uint8 w => cases hn; rfl
      | _ => cases hn
    exact ⟨_, htext, Number.canonical_int n⟩

theorem Literal.ofValue_of_written {v : Value} {text : String} (h : v.literalText? = some text) :
    Literal.ofValue v = .ok (.constant v text h) := by
  rw [Literal.ofValue]
  split
  · next other hother =>
      obtain rfl := Option.some.inj (hother.symm.trans h)
      rfl
  · next hnone =>
      rw [h] at hnone
      cases hnone

theorem literal_canonical {v : Value} {x : ℚ} (h : v.number? = some x) :
    ∃ l, Literal.ofValue v = .ok l ∧ Canonical l.text.toList x := by
  obtain ⟨text, htext, hcanonical⟩ := written_canonical h
  exact ⟨_, Literal.ofValue_of_written htext, hcanonical⟩

/-- Integers and decimals have literals, and the text of the literal is the only canonical
numeral for the number, with a point if the number is not whole. So two of them have one
text if and only if they denote one number. -/
theorem numerals_canonical :
    (∀ v x, v.number? = some x → ∃ l, Literal.ofValue v = .ok l ∧
      (∀ cs, Canonical cs x ↔ cs = l.text.toList) ∧
      ('.' ∈ l.text.toList ↔ ¬∃ n : ℤ, x = n)) ∧
    ∀ v w x y l m, v.number? = some x → w.number? = some y → Literal.ofValue v = .ok l →
      Literal.ofValue w = .ok m → (l.text = m.text ↔ x = y) := by
  constructor
  · intro v x hv
    obtain ⟨l, hl, hcanonical⟩ := literal_canonical hv
    refine ⟨l, hl, fun cs => ⟨fun h => h.unique hcanonical, ?_⟩, hcanonical.point_mem_iff⟩
    rintro rfl
    exact hcanonical
  · intro v w x y l m hv hw hl hm
    obtain ⟨l', hl', hx⟩ := literal_canonical hv
    obtain ⟨m', hm', hy⟩ := literal_canonical hw
    obtain rfl := Except.ok.inj (hl.symm.trans hl')
    obtain rfl := Except.ok.inj (hm.symm.trans hm')
    constructor
    · intro heq
      rw [heq] at hx
      exact hx.denotes_one hy
    · rintro rfl
      exact String.toList_inj.mp (hx.unique hy)

/-- A zero behind the point is needed and those at the end are not; zero has no sign,
whatever its places. -/
theorem numerals_canonical_zeros :
    (∃ l, Literal.ofValue (.decimal ⟨true, 500, 4, by decide, by decide⟩) = .ok l ∧
      l.text.toList = ['-', '0', '.', '0', '5']) ∧
    ∃ l m, Literal.ofValue (.decimal ⟨true, 0, 28, by decide, by decide⟩) = .ok l ∧
      Literal.ofValue (.uint8 0) = .ok m ∧ l.text = m.text := by
  obtain ⟨hnumerals, htexts⟩ := numerals_canonical
  constructor
  · have hvalue : Decimal.toRat ⟨true, 500, 4, by decide, by decide⟩ = -(5 / 100) := by
      norm_num [Decimal.toRat, Decimal.signed, Number.tenTo]
    have hpoint : Number.Magnitude ['0', '.', '0', '5'] (5 / 100) := by
      have h : Number.Magnitude (['0'] ++ '.' :: ['0', '5']) _ :=
        .point ⟨⟨by simp, by simp⟩, by simp⟩ ⟨⟨by simp, by simp⟩, by simp⟩
      simpa [Nat.ofDigitChars, Number.tenTo] using h
    obtain ⟨l, hl, hunique, -⟩ :=
      hnumerals (.decimal ⟨true, 500, 4, by decide, by decide⟩) _ (congrArg some hvalue)
    refine ⟨l, hl, ((hunique _).mp (.minus ?_ (by norm_num))).symm⟩
    rwa [neg_neg]
  · obtain ⟨l, hl, -⟩ := hnumerals (.decimal ⟨true, 0, 28, by decide, by decide⟩) _ rfl
    obtain ⟨m, hm, -⟩ := hnumerals (.uint8 0) _ rfl
    refine ⟨l, m, hl, hm, (htexts _ _ _ _ l m rfl rfl hl hm).mpr ?_⟩
    simp [Decimal.toRat, Decimal.signed]

end Statement

end Inquiry
