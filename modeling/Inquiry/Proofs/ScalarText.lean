import Inquiry.Proofs.IntegerConversion

/-!
# Scalars survive their text

The text of a scalar is read back as the same scalar. For integers this is a matter of
numerals: the text is a numeral for the number, there are no blanks in it that reading
would take away, and the number is in the range of its kind. A character is a text of
one character, whichever it is: reading a character takes nothing away, so a blank stays
a blank. So two scalars of one kind with one text are one scalar.
-/

namespace Inquiry.Value

open Host (typeOfValue)

theorem scalarText?_integer {v : Value} {n : Int} (h : v.integer? = some n) :
    v.scalarText? = some (toString n) := by
  cases v with
  | int16 w | int32 w | int64 w | uint8 w =>
      cases h
      rfl
  | _ => cases h

/-- An integer is in the range of its kind. -/
theorem within_of_integer? {v : Value} {n : Int} (h : v.integer? = some n) :
    ∃ k least greatest, typeOfValue v = .scalar k ∧ k.bounds? = some (least, greatest) ∧
      least ≤ n ∧ n ≤ greatest := by
  cases v with
  | int16 w =>
      cases h
      have := w.le_toInt
      have := w.toInt_lt
      exact ⟨.int16, _, _, rfl, rfl, by omega, by omega⟩
  | int32 w =>
      cases h
      have := w.le_toInt
      have := w.toInt_lt
      exact ⟨.int32, _, _, rfl, rfl, by omega, by omega⟩
  | int64 w =>
      cases h
      have := w.le_toInt
      have := w.toInt_lt
      exact ⟨.int64, _, _, rfl, rfl, by omega, by omega⟩
  | uint8 w =>
      cases h
      have := w.toNat_lt
      exact ⟨.uint8, _, _, rfl, rfl, by omega, by omega⟩
  | _ => cases h

theorem convert_text_integer {v : Value} {k : Kind} {n : Int} (h : v.integer? = some n)
    (hk : typeOfValue v = .scalar k) :
    v.convert .string = .ok (.string (toString n)) ∧ (string (toString n)).convert k = .ok v := by
  constructor
  · have hconvert : v.convert .string = (orConversion v "String" v.scalarText?).map string := by
      cases v with
      | int16 | int32 | int64 | uint8 => rfl
      | _ => cases h
    rw [hconvert, scalarText?_integer h]
    rfl
  · obtain ⟨k', least, greatest, hk', hbounds, hn⟩ := within_of_integer? h
    obtain rfl : k = k' := Host.Ty.scalar.inj (hk.symm.trans hk')
    exact (convert_integer_iff hbounds rfl v).mpr
      ⟨n, .numeral ⟨[], _, [], by simp, nofun, nofun, Number.numeral_toString n⟩,
        isWord64_of_integer? h, hn, hk, h⟩

theorem truth?_text (b : Bool) : (string (if b then "true" else "false")).truth? = some b := by
  cases b with
  | true => rfl
  | false => rfl

theorem char?_text (c : Char) : (string (String.ofList [c])).char? = some c := by
  rw [char?, String.toList_ofList]

theorem exists_text {v : Value} {k : Kind} (hv : typeOfValue v = .scalar k)
    (hk : k ∈ [Kind.int16, .int32, .int64, .uint8, .bool, .char, .string]) :
    ∃ s, v.convert .string = .ok (.string s) ∧ (string s).convert k = .ok v := by
  cases v with
  | int16 w | int32 w | int64 w | uint8 w => exact ⟨_, convert_text_integer rfl hv⟩
  | bool b =>
      cases hv
      refine ⟨_, rfl, ?_⟩
      show (orConversion _ "Bool" (truth? _)).map bool = _
      rw [truth?_text]
      rfl
  | char c =>
      cases hv
      refine ⟨_, rfl, ?_⟩
      show (orConversion _ "Char" (char? _)).map char = _
      rw [char?_text]
      rfl
  | string s =>
      cases hv
      exact ⟨s, rfl, rfl⟩
  | _ => cases hv <;> simp at hk

/-- The text of an integer, a truth value, a character or a string converts back to it,
and no other value of its kind has this text. -/
theorem text_converts_back {v : Value} {k : Kind} (hv : typeOfValue v = .scalar k)
    (hk : k ∈ [Kind.int16, .int32, .int64, .uint8, .bool, .char, .string]) :
    ∃ s, v.convert .string = .ok (.string s) ∧ (string s).convert k = .ok v ∧
      ∀ w, typeOfValue w = .scalar k → w.convert .string = .ok (.string s) → w = v := by
  obtain ⟨s, htext, hback⟩ := exists_text hv hk
  refine ⟨s, htext, hback, fun w hw hwtext => ?_⟩
  obtain ⟨s', htext', hback'⟩ := exists_text hw hk
  rw [hwtext] at htext'
  cases htext'
  rw [hback] at hback'
  cases hback'
  rfl

/-- The least number of 64 bits has no positive counterpart, and a tab is a blank. -/
theorem text_converts_back_leastInt64_tab :
    (∃ s, (int64 Int64.minValue).convert .string = .ok (.string s) ∧
      (string s).convert .int64 = .ok (int64 Int64.minValue)) ∧
    ∃ s, (char '\t').convert .string = .ok (.string s) ∧ (string s).convert .char = .ok (char '\t') := by
  obtain ⟨s, hs, hback, -⟩ :=
    text_converts_back (v := int64 Int64.minValue) (k := .int64) rfl (by decide)
  obtain ⟨t, ht, hback', -⟩ := text_converts_back (v := char '\t') (k := .char) rfl (by decide)
  exact ⟨⟨s, hs, hback⟩, ⟨t, ht, hback'⟩⟩

end Inquiry.Value
