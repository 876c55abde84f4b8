import Inquiry.Proofs.DecimalValue
import Inquiry.Proofs.ExactArithmetic
import Inquiry.Proofs.IntegerNumerals

/-!
# Conversion to integers is exact

An integer may come from another integer, from a decimal with any number of places, or
from a text. `Denotes` says which number that is, each time by the meaning of the value
and not by how it is converted. Conversion gives that number or fails: it never rounds
a fraction, cuts a number off or lets it wrap around.

Conversion has two ranges, since every number passes through 64 bits on its way to its
kind. Both are in the statement, although the second makes the first superfluous.
-/

namespace Inquiry.Value

open Host (typeOfValue)
open Number (Spaced IsWord64)

/-- The value denotes the number. -/
inductive Denotes : Value → ℚ → Prop where
  | integer {v : Value} {n : Int} (h : v.integer? = some n) : Denotes v n
  | decimal (d : Decimal) : Denotes (.decimal d) d.toRat
  | numeral {s : String} {n : Int} (h : Spaced s.toList n) : Denotes (.string s) n

/-- Whether the value is an integer, a decimal or a text. -/
def isExact : Value → Bool
  | int16 _ | int32 _ | int64 _ | uint8 _ | decimal _ | string _ => true
  | _ => false

/-! ## Whole numbers -/

theorem denotes_integer_iff {v : Value} {m : Int} (hv : v.integer? = some m) (n : Int) :
    v.Denotes n ↔ m = n := by
  constructor
  · intro h
    generalize hq : (n : ℚ) = q at h
    cases h with
    | integer h =>
        rw [hv] at h
        cases h
        exact_mod_cast hq.symm
    | decimal d => cases hv
    | numeral h => cases hv
  · rintro rfl
    exact .integer hv

theorem denotes_decimal_iff (d : Decimal) (n : Int) : (decimal d).Denotes n ↔ d.toRat = n := by
  constructor
  · intro h
    generalize hq : (n : ℚ) = q at h
    cases h with
    | integer h => cases h
    | decimal d => rfl
  · intro h
    rw [← h]
    exact .decimal d

theorem denotes_string_iff (s : String) (n : Int) :
    (string s).Denotes n ↔ Spaced s.toList n := by
  constructor
  · intro h
    generalize hq : (n : ℚ) = q at h
    cases h with
    | integer h => cases h
    | numeral h =>
        obtain rfl : n = _ := by exact_mod_cast hq
        exact h
  · exact .numeral

theorem isExact_of_integer? {v : Value} {n : Int} (h : v.integer? = some n) :
    v.isExact = true := by
  cases v with
  | int16 | int32 | int64 | uint8 => rfl
  | _ => cases h

theorem isInt64_iff_isWord64 (n : Int) : isInt64 n = true ↔ IsWord64 n := by
  simp [isInt64, IsWord64]

theorem isWord64_of_integer? {v : Value} {n : Int} (h : v.integer? = some n) : IsWord64 n := by
  rw [integer?_eq_int64?] at h
  obtain ⟨w, -, rfl⟩ := Option.map_eq_some_iff.mp h
  exact ⟨w.minValue_le_toInt, w.toInt_le⟩

/-- The whole number that is found for a value is the one that it denotes, if that has
64 bits. -/
theorem whole_eq_ok_some_iff {v : Value} (hv : v.isExact = true) (n : Int) :
    v.whole = .ok (some n) ↔ v.Denotes n ∧ IsWord64 n := by
  have hinteger : ∀ m, v.integer? = some m → v.whole = .ok v.integer? →
      (v.whole = .ok (some n) ↔ v.Denotes n ∧ IsWord64 n) := by
    intro m hm hwhole
    rw [hwhole, hm, denotes_integer_iff hm, Except.ok.injEq, Option.some_inj]
    constructor
    · rintro rfl
      exact ⟨rfl, isWord64_of_integer? hm⟩
    · exact And.left
  cases v with
  | int16 w | int32 w | int64 w | uint8 w =>
      exact hinteger _ rfl (by rw [integer?_eq_int64?]; rfl)
  | decimal d =>
      rw [whole, denotes_decimal_iff, ← Decimal.toInt?_eq_some_iff, ← isInt64_iff_isWord64,
        Except.ok.injEq, Option.filter_eq_some_iff]
  | string s =>
      rw [whole, denotes_string_iff, ← Number.numeral_trim_iff, ← Number.readInteger_eq_ok_iff]
      cases Number.readInteger (Text.trim s.toList) with
      | ok m => simp
      | error f => simp
  | _ => cases hv

/-! ## Integers of a kind -/

theorem eq_of_integer? {v w : Value} {k : Kind} {n : Int} (hv : v.integer? = some n)
    (hw : w.integer? = some n) (hvk : typeOfValue v = .scalar k)
    (hwk : typeOfValue w = .scalar k) : v = w := by
  cases v <;> cases hv <;> cases hvk <;> cases w <;> cases hwk <;>
    simp only [integer?, Option.some_inj, Int.natCast_inj] at hw
  · rw [Int16.toInt_inj.mp hw]
  · rw [Int32.toInt_inj.mp hw]
  · rw [Int64.toInt_inj.mp hw]
  · rw [UInt8.toNat_inj.mp hw]

/-- The value of a kind for a number is the one of that kind which holds it. -/
theorem ofWhole?_eq_some_iff {k : Kind} {least greatest : Int}
    (hk : k.bounds? = some (least, greatest)) (n : Int) (w : Value) :
    ofWhole? k n = some w ↔ (least ≤ n ∧ n ≤ greatest) ∧ typeOfValue w = .scalar k ∧
      w.integer? = some n := by
  by_cases hn : least ≤ n ∧ n ≤ greatest
  · obtain ⟨u, hu, hholds, htype⟩ := ofWhole?_within hk hn
    rw [hu, Option.some_inj]
    constructor
    · rintro rfl
      exact ⟨hn, htype, hholds⟩
    · rintro ⟨-, htype', hholds'⟩
      exact eq_of_integer? hholds hholds' htype htype'
  · rw [ofWhole?_eq hk, if_neg hn]
    refine ⟨nofun, ?_⟩
    rintro ⟨hn', -⟩
    exact absurd hn' hn

/-- An integer, a decimal or a text converts to an integer kind if it denotes a number
of the kind, and to that number. -/
theorem convert_integer_iff {v : Value} {k : Kind} {least greatest : Int}
    (hk : k.bounds? = some (least, greatest)) (hv : v.isExact = true) (w : Value) :
    v.convert k = .ok w ↔ ∃ n : Int, v.Denotes n ∧ IsWord64 n ∧ (least ≤ n ∧ n ≤ greatest) ∧
      typeOfValue w = .scalar k ∧ w.integer? = some n := by
  have hnull : v.isNull = false := by
    cases v with
    | null => cases hv
    | _ => rfl
  simp only [convert_of_bounds hk hnull, toInteger_eq_ok_iff, whole_eq_ok_some_iff hv,
    ofWhole?_eq_some_iff hk, and_assoc]

/-! ## Converting once more -/

theorem convert_of_toInteger {v w : Value} {k : Kind} {least greatest : Int}
    (hk : k.bounds? = some (least, greatest)) (h : v.toInteger k = .ok w) :
    w.convert k = .ok w := by
  obtain ⟨n, -, hw⟩ := (toInteger_eq_ok_iff v w k).mp h
  obtain ⟨hn, htype, hholds⟩ := (ofWhole?_eq_some_iff hk n w).mp hw
  exact (convert_integer_iff hk (isExact_of_integer? hholds) w).mpr
    ⟨n, .integer hholds, isWord64_of_integer? hholds, hn, htype, hholds⟩

/-- A converted value converts to itself, where no digits are lost to rounding. -/
theorem convert_convert {v w : Value} {k : Kind} (hsingle : k ≠ .single) (hdouble : k ≠ .double)
    (h : v.convert k = .ok w) : w.convert k = .ok w := by
  by_cases hnull : v.isNull = true
  · cases v with
    | null =>
        cases h
        rfl
    | _ => cases hnull
  · rw [convert_of_not_null (Bool.eq_false_of_not_eq_true hnull)] at h
    cases k with
    | single => exact absurd rfl hsingle
    | double => exact absurd rfl hdouble
    | string | bool | char | dateTime | decimal =>
        obtain ⟨a, rfl⟩ := Host.map_eq_ok h
        rfl
    | int16 | int32 | int64 | uint8 => exact convert_of_toInteger rfl h

/-! ## Exactness -/

theorem toDecimal_integer {v : Value} {n : Int} (h : v.integer? = some n) :
    ∃ d, v.convert .decimal = .ok (.decimal d) ∧ d.toRat = n := by
  have hconvert : v.convert .decimal =
      (orConversion v "Decimal" (v.int64?.map Decimal.ofInt64)).map decimal := by
    cases v with
    | int16 | int32 | int64 | uint8 => rfl
    | _ => cases h
  rw [integer?_eq_int64?] at h
  obtain ⟨w, hw, rfl⟩ := Option.map_eq_some_iff.mp h
  refine ⟨.ofInt64 w, ?_, Decimal.toRat_ofInt64 w⟩
  rw [hconvert, hw]
  rfl

/-- Conversion to an integer kind gives the number that an integer, a decimal or a text
denotes, if it is a whole number of 64 bits and of the kind, and else it fails.
Conversion of an integer to a decimal keeps the number. A conversion that succeeds can
be repeated without a change, except to floating-point kinds. -/
theorem convert_exact (v : Value) (k : Kind) :
    (∀ least greatest, k.bounds? = some (least, greatest) → v.isExact = true → ∀ w,
      v.convert k = .ok w ↔
        ∃ n : Int, v.Denotes n ∧
          (-9223372036854775808 ≤ n ∧ n ≤ 9223372036854775807) ∧
          (least ≤ n ∧ n ≤ greatest) ∧ typeOfValue w = .scalar k ∧ w.integer? = some n) ∧
    (∀ n : Int, v.integer? = some n → ∃ d, v.convert .decimal = .ok (.decimal d) ∧ d.toRat = n) ∧
    (∀ w, k ≠ .single → k ≠ .double → v.convert k = .ok w → w.convert k = .ok w) := by
  refine ⟨?_, fun n hn => toDecimal_integer hn, fun w => convert_convert⟩
  intro least greatest hk hv w
  simp only [convert_integer_iff hk hv, Number.isWord64_iff]

/-- The least number of 16 bits, as a text between an em space and a tab. -/
theorem convert_exact_leastInt16 :
    (string "\u2003-32768\t").convert .int16 = .ok (int16 Int16.minValue) ∧
      (int16 Int16.minValue).convert .int16 = .ok (int16 Int16.minValue) ∧
      ∃ d, (int16 Int16.minValue).convert .decimal = .ok (.decimal d) ∧
        d.toRat = (-32768 : Int) := by
  have hspaced : Spaced "\u2003-32768\t".toList (-32768) :=
    ⟨['\u2003'], ['-', '3', '2', '7', '6', '8'], ['\t'], by decide, by simp [Text.isBlank],
      by simp [Text.isBlank], .minus ⟨by simp, by simp [Char.isDigit]⟩⟩
  have hconvert := ((convert_exact (string "\u2003-32768\t") .int16).1 (-32768) 32767 rfl rfl
    (int16 Int16.minValue)).mpr
      ⟨-32768, .numeral hspaced, by decide, by decide, rfl, by decide⟩
  exact ⟨hconvert,
    (convert_exact (string "\u2003-32768\t") .int16).2.2 _ (by decide) (by decide) hconvert,
    (convert_exact (int16 Int16.minValue) .int16).2.1 (-32768) (by decide)⟩

end Inquiry.Value
