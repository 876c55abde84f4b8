import Inquiry.Proofs.CharacterRuns
import Inquiry.Proofs.Reading

/-!
# The forms of literals

A literal is a word, a string between quotes, a number or a point in time. The
texts of numbers come from six kinds of values and three algorithms, but they
share one form: an optional sign, a digit, then digits and points.
-/

namespace Inquiry

/-- The characters are a digit, followed by digits and points. -/
def IsNumeral (cs : List Char) : Prop :=
  cs.head?.any Char.isDigit = true ∧ ∀ c ∈ cs, c.isDigit = true ∨ c = '.'

theorem toDigits_isNumeral (m : Nat) : IsNumeral (Nat.toDigits 10 m) := by
  constructor
  · cases hd : Nat.toDigits 10 m with
    | nil => exact absurd hd Nat.toDigits_ne_nil
    | cons d ds => exact isDigit_toDigits (m := m) (by rw [hd]; exact List.mem_cons_self)
  · exact fun c hc => .inl (isDigit_toDigits hc)

theorem IsNumeral.append {cs ds : List Char} (h : IsNumeral cs)
    (hds : ∀ c ∈ ds, c.isDigit = true ∨ c = '.') : IsNumeral (cs ++ ds) := by
  refine ⟨?_, fun c hc => (List.mem_append.mp hc).elim (h.2 c) (hds c)⟩
  cases cs with
  | nil => exact absurd h.1 (by simp)
  | cons c cs => exact h.1

theorem mem_zeros {c : Char} {k : Nat} (h : c ∈ List.replicate k '0') : c.isDigit = true := by
  rw [List.eq_of_mem_replicate h]
  rfl

theorem Decimal.digits_isNumeral (coefficient scale : Nat) :
    IsNumeral (Decimal.digits coefficient scale) := by
  rw [Decimal.digits]
  split
  · exact toDigits_isNumeral _
  · refine (toDigits_isNumeral _).append fun c hc => ?_
    rcases List.mem_cons.mp hc with rfl | hc
    · exact .inr rfl
    · exact .inl ((List.mem_append.mp hc).elim mem_zeros isDigit_toDigits)

theorem Binary.Shortest.positional_isNumeral (s : Binary.Shortest) : IsNumeral s.positional := by
  have hds := toDigits_isNumeral s.digits
  simp only [Binary.Shortest.positional]
  split
  · exact hds.append fun c hc => .inl (mem_zeros hc)
  · split
    · next hplaces =>
        constructor
        · -- at least one digit stands before the point
          rw [List.head?_append, List.head?_take, if_neg (by omega)]
          cases hd : (Nat.toDigits 10 s.digits).head? with
          | none =>
              rw [IsNumeral, hd] at hds
              exact absurd hds.1 (by simp)
          | some d =>
              rw [IsNumeral, hd] at hds
              exact hds.1
        · intro c hc
          rcases List.mem_append.mp hc with hc | hc
          · exact hds.2 c (List.mem_of_mem_take hc)
          · rcases List.mem_cons.mp hc with rfl | hc
            · exact .inr rfl
            · exact hds.2 c (List.mem_of_mem_drop hc)
    · refine ⟨rfl, fun c hc => ?_⟩
      rcases List.mem_cons.mp hc with rfl | hc
      · exact .inl rfl
      rcases List.mem_cons.mp hc with rfl | hc
      · exact .inr rfl
      · exact .inl ((List.mem_append.mp hc).elim mem_zeros isDigit_toDigits)

namespace Statement

/-- The forms in which literals are written. -/
inductive LiteralForm : String → Prop where
  | word {w : String} (h : w ∈ constantWords) : LiteralForm w
  | quoted (s : String) : LiteralForm (Text.quote s)
  | number {cs : List Char} (h : IsNumeral cs) : LiteralForm (String.ofList cs)
  | negative {cs : List Char} (h : IsNumeral cs) : LiteralForm ("-" ++ String.ofList cs)
  | dateTime {parts : List Char} (h : ∀ c ∈ parts, c ≠ ')') :
      LiteralForm ("DATETIME(" ++ String.ofList parts ++ ")")

theorem LiteralForm.signed {cs : List Char} (h : IsNumeral cs) (negative : Bool) :
    LiteralForm (if negative then "-" ++ String.ofList cs else String.ofList cs) := by
  cases negative with
  | true => exact .negative h
  | false => exact .number h

theorem LiteralForm.nat (m : Nat) : LiteralForm (toString m) := by
  rw [Nat.toString_eq_repr, Nat.repr_eq_ofList_toDigits]
  exact .number (toDigits_isNumeral m)

theorem LiteralForm.int (i : Int) : LiteralForm (toString i) := by
  rw [Int.toString_eq_repr, Int.repr_eq_if, Nat.repr_eq_ofList_toDigits,
    Nat.repr_eq_ofList_toDigits]
  split
  · exact .number (toDigits_isNumeral _)
  · exact .negative (toDigits_isNumeral _)

theorem LiteralForm.single {x : Single} (h : x.isFinite = true) : LiteralForm x.text := by
  rw [Single.isFinite] at h
  rw [Single.text]
  split at h
  · next negative _ _ hx =>
      rw [hx]
      exact .signed (Binary.Shortest.positional_isNumeral _) negative
  · cases h

theorem LiteralForm.double {x : Double} (h : x.isFinite = true) : LiteralForm x.text := by
  rw [Double.isFinite] at h
  rw [Double.text]
  split at h
  · next negative _ _ hx =>
      rw [hx]
      exact .signed (Binary.Shortest.positional_isNumeral _) negative
  · cases h

theorem toString_nat_ne_paren (m : Nat) : ∀ c ∈ (toString m).toList, c ≠ ')' := by
  intro c hc
  rw [Nat.toString_eq_repr, Nat.toList_repr] at hc
  rintro rfl
  exact absurd (isDigit_toDigits hc) (by decide)

theorem toString_int_ne_paren (i : Int) : ∀ c ∈ (toString i).toList, c ≠ ')' := by
  intro c hc
  rw [Int.toString_eq_repr, Int.repr_eq_if] at hc
  split at hc
  · exact toString_nat_ne_paren _ c hc
  · rw [String.toList_append] at hc
    rcases List.mem_append.mp hc with hc | hc
    · rintro rfl
      exact absurd hc (by decide)
    · exact toString_nat_ne_paren _ c hc

theorem ne_paren_comma {text : String} (m : Nat) (h : ∀ c ∈ text.toList, c ≠ ')') :
    ∀ c ∈ (text ++ ", " ++ toString m).toList, c ≠ ')' := by
  intro c hc
  rw [String.toList_append, String.toList_append] at hc
  rcases List.mem_append.mp hc with hc | hc
  · rcases List.mem_append.mp hc with hc | hc
    · exact h c hc
    · rintro rfl
      exact absurd hc (by decide)
  · exact toString_nat_ne_paren m c hc

theorem literalForm_of_written {v : Value} {text : String} (h : v.literalText? = some text) :
    LiteralForm text := by
  cases v with
  | null => cases h; exact .word (by decide)
  | bool b => cases b <;> cases h <;> exact .word (by decide)
  | string s => cases h; exact .quoted s
  | char c => cases h; exact .quoted _
  | int16 i => cases h; exact .int i.toInt
  | int32 i => cases h; exact .int i.toInt
  | int64 i => cases h; exact .int i.toInt
  | uint8 m => cases h; exact .nat m.toNat
  | decimal d => cases h; exact .signed (Decimal.digits_isNumeral _ _) d.normalize.negative
  | single x =>
      rw [Value.literalText?] at h
      split at h
      · next hx => cases h; exact .single hx
      · cases h
  | double x =>
      rw [Value.literalText?] at h
      split at h
      · next hx => cases h; exact .double hx
      · cases h
  | dateTime t =>
      have hparts := ne_paren_comma t.time.second (ne_paren_comma t.time.minute
        (ne_paren_comma t.time.hour (ne_paren_comma t.date.day
          (ne_paren_comma t.date.month (toString_int_ne_paren t.date.year)))))
      have hform := LiteralForm.dateTime hparts
      rw [String.ofList_toList] at hform
      cases h
      simpa only [String.append_assoc] using hform
  | list _ => cases h
  | record _ => cases h

theorem Literal.form (l : Literal) : LiteralForm l.text := by
  cases l with
  | constant v text written => exact literalForm_of_written written
  | period kind => exact .word (by cases kind <;> decide)

/-- Only numbers begin with a digit. -/
theorem Literal.head_text {l : Literal} (h : l.value.isNumeric = false) :
    l.text.toList.head?.any Char.isDigit = false := by
  cases l with
  | period kind => cases kind <;> rfl
  | constant v text written =>
      cases v with
      | null => cases written; rfl
      | bool b => cases b <;> cases written <;> rfl
      | string s => cases written; simp [Literal.text, Text.quote]
      | char c => cases written; simp [Literal.text, Text.quote]
      | dateTime t => cases written; simp [Literal.text]
      | list _ => cases written
      | record _ => cases written
      | int16 _ | int32 _ | int64 _ | uint8 _ | single _ | double _ | decimal _ => cases h

end Statement

end Inquiry
