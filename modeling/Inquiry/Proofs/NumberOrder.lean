import Inquiry.Proofs.DecimalValue
import Inquiry.Proofs.ExactArithmetic
import Mathlib.Algebra.Order.Field.Basic
import Mathlib.Algebra.Order.Ring.Rat
import Mathlib.Order.Compare

/-!
# Comparing numbers

An integer and a decimal, or two decimals with different places, are brought to one
kind before folding compares them, and which kind that is depends on both. So three
constants may be compared in three kinds, and it is not obvious that the answers fit
together. They do because every one of them is the answer for the numbers that the
constants denote: 64-bit integers become decimals without loss, and decimals are
compared after each is multiplied by the places of the other.

`Relation.Holds` is the meaning of a relation, and `Relation.Orders` says what it takes
for relations to be those of a total order.
-/

namespace Inquiry

open Number (tenTo tenTo_pos)
open Statement (Relation)

/-- The number that an integer or a decimal denotes. -/
def Value.number? : Value → Option ℚ
  | .decimal d => some d.toRat
  | v => v.integer?.map fun n => (n : ℚ)

theorem Value.number?_cases {v : Value} {x : ℚ} (h : v.number? = some x) :
    (∃ d, v = .decimal d ∧ d.toRat = x) ∨ ∃ n : Int, v.integer? = some n ∧ (n : ℚ) = x := by
  cases v with
  | decimal d => exact .inl ⟨d, rfl, Option.some.inj h⟩
  | int16 w | int32 w | int64 w | uint8 w => exact .inr ⟨_, rfl, Option.some.inj h⟩
  | _ => cases h

/-! ## Relations between numbers -/

namespace Statement.Relation

/-- The relation holds between two numbers. -/
def Holds (op : Relation) (x y : ℚ) : Prop :=
  match op with
  | eq => x = y
  | ne => x ≠ y
  | gt => x > y
  | ge => x ≥ y
  | lt => x < y
  | le => x ≤ y

instance (op : Relation) (x y : ℚ) : Decidable (op.Holds x y) :=
  match op with
  | eq => inferInstanceAs (Decidable (x = y))
  | ne => inferInstanceAs (Decidable (x ≠ y))
  | gt => inferInstanceAs (Decidable (x > y))
  | ge => inferInstanceAs (Decidable (x ≥ y))
  | lt => inferInstanceAs (Decidable (x < y))
  | le => inferInstanceAs (Decidable (x ≤ y))

theorem holds_commute (op : Relation) (x y : ℚ) : op.commute.Holds y x ↔ op.Holds x y := by
  cases op with
  | eq => exact eq_comm
  | ne => exact ne_comm
  | gt | ge | lt | le => exact Iff.rfl

/-- The relations are those of a total order: all of them but inequality are transitive,
and of less, equal and greater exactly one holds. -/
structure Orders {α : Type} (related : Relation → α → α → Prop) : Prop where
  reflexive : ∀ a, related le a a
  antisymmetric : ∀ a b, related le a b → related le b a → related eq a b
  transitive : ∀ op a b c, op ≠ ne → related op a b → related op b c → related op a c
  total : ∀ a b, related le a b ∨ related le b a
  trichotomy : ∀ a b,
    related lt a b ∧ ¬related eq a b ∧ ¬related gt a b ∨
      ¬related lt a b ∧ related eq a b ∧ ¬related gt a b ∨
        ¬related lt a b ∧ ¬related eq a b ∧ related gt a b
  complement : ∀ a b, (related ne a b ↔ ¬related eq a b) ∧
    (related ge a b ↔ ¬related lt a b) ∧ (related le a b ↔ ¬related gt a b)
  commute : ∀ op a b, related op.commute b a ↔ related op a b

/-- Things that stand for numbers are ordered as the numbers are. -/
theorem orders_of_number {α : Type} (number : α → ℚ) :
    Orders fun op a b => op.Holds (number a) (number b) where
  reflexive a := le_refl (number a)
  antisymmetric a b := le_antisymm
  transitive op a b c hop hab hbc := by
    cases op with
    | eq => exact Eq.trans hab hbc
    | ne => exact absurd rfl hop
    | gt => exact gt_trans hab hbc
    | ge => exact ge_trans hab hbc
    | lt => exact lt_trans hab hbc
    | le => exact le_trans hab hbc
  total a b := le_total (number a) (number b)
  trichotomy a b := by
    rcases lt_trichotomy (number a) (number b) with h | h | h
    · exact .inl ⟨h, h.ne, h.not_gt⟩
    · exact .inr (.inl ⟨h.not_lt, h, h.not_gt⟩)
    · exact .inr (.inr ⟨h.not_gt, h.ne', h⟩)
  complement a b := ⟨Iff.rfl, not_lt.symm, not_lt.symm⟩
  commute op a b := op.holds_commute (number a) (number b)

end Statement.Relation

/-! ## The order of operands -/

/-- Decimals are ordered as the numbers that they denote, whatever their places. -/
theorem Decimal.order_compares (a b : Decimal) : (a.order b).Compares a.toRat b.toRat := by
  have hunit : (0 : ℚ) < tenTo a.scale * tenTo b.scale :=
    mul_pos (Nat.cast_pos.mpr (tenTo_pos a.scale)) (Nat.cast_pos.mpr (tenTo_pos b.scale))
  -- both numbers are counted in units of the last place of the product
  have ha : a.toRat = ((a.signed * tenTo b.scale : Int) : ℚ) / (tenTo a.scale * tenTo b.scale) := by
    push_cast
    rw [mul_div_mul_right _ _ (tenTo_ne_zero b.scale), toRat]
  have hb : b.toRat = ((b.signed * tenTo a.scale : Int) : ℚ) / (tenTo a.scale * tenTo b.scale) := by
    push_cast
    rw [mul_comm (tenTo a.scale : ℚ), mul_div_mul_right _ _ (tenTo_ne_zero a.scale), toRat]
  have hmono : StrictMono fun n : Int => (n : ℚ) / (tenTo a.scale * tenTo b.scale) :=
    Int.cast_strictMono.div_const hunit
  rw [ha, hb]
  exact hmono.compares.mpr ((compare_iff _ _).mp rfl)

namespace Host

/-- The number that an operand denotes, unless it is a floating-point number. -/
def Operand.number? : Operand → Option ℚ
  | .whole n => some n.toInt
  | .decimal d => some d.toRat
  | .float _ => none

theorem operand_of_number? {v : Value} {x : ℚ} (h : v.number? = some x) :
    ∃ o, Operand.ofValue? v = some o ∧ o.number? = some x := by
  rcases Value.number?_cases h with ⟨d, rfl, hd⟩ | ⟨n, hn, rfl⟩
  · exact ⟨.decimal d, rfl, congrArg some hd⟩
  · obtain ⟨w, hw, rfl⟩ := whole_of_integer? hn
    exact ⟨.whole w, hw, rfl⟩

/-- Bringing two operands to one kind keeps their numbers. -/
theorem Operand.compare?_compares {a b : Operand} {x y : ℚ} (ha : a.number? = some x)
    (hb : b.number? = some y) : ∃ o, a.compare? b = some o ∧ o.Compares x y := by
  cases a with
  | float _ => cases ha
  | whole m =>
      cases ha
      cases b with
      | float _ => cases hb
      | whole n =>
          cases hb
          exact ⟨_, rfl, Int.cast_strictMono.compares.mpr ((compare_iff _ _).mp rfl)⟩
      | decimal e =>
          cases hb
          have horder := Decimal.order_compares (.ofInt64 m) e
          rw [Decimal.toRat_ofInt64] at horder
          exact ⟨_, rfl, horder⟩
  | decimal d =>
      cases ha
      cases b with
      | float _ => cases hb
      | whole n =>
          cases hb
          have horder := Decimal.order_compares d (.ofInt64 n)
          rw [Decimal.toRat_ofInt64] at horder
          exact ⟨_, rfl, horder⟩
      | decimal e =>
          cases hb
          exact ⟨_, rfl, Decimal.order_compares d e⟩

theorem compareValues?_compares {a b : Value} {x y : ℚ} (ha : a.number? = some x)
    (hb : b.number? = some y) : ∃ o, compareValues? a b = some o ∧ o.Compares x y := by
  obtain ⟨m, hm, hmx⟩ := operand_of_number? ha
  obtain ⟨n, hn, hny⟩ := operand_of_number? hb
  have hcompare : compareValues? a b = m.compare? n := by simp only [compareValues?, hm, hn]
  rw [hcompare]
  exact Operand.compare?_compares hmx hny

/-- A relation is read off an order as it holds between the numbers. -/
theorem holds_iff {o : Ordering} {x y : ℚ} (h : o.Compares x y) (op : Relation) :
    holds op (some o) = true ↔ op.Holds x y := by
  cases op with
  | eq => simpa [holds, Relation.Holds] using h.eq_eq
  | ne => simpa [holds, Relation.Holds] using not_congr h.eq_eq
  | gt => simpa [holds, Relation.Holds] using h.eq_gt
  | lt => simpa [holds, Relation.Holds] using h.eq_lt
  | ge =>
      have hge : x ≥ y ↔ o = .gt ∨ o = .eq := by
        rw [h.eq_gt, h.eq_eq, ge_iff_le, le_iff_lt_or_eq, @eq_comm _ y]
      simp [holds, Relation.Holds, hge]
  | le =>
      have hle : x ≤ y ↔ o = .lt ∨ o = .eq := by rw [h.eq_lt, h.eq_eq, le_iff_lt_or_eq]
      simp [holds, Relation.Holds, hle]

/-! ## Folded comparisons -/

/-- A constant that holds an integer or a decimal, of whatever static type. -/
structure NumberConstant where
  value : Value
  type : Ty
  number : ℚ
  denotes : value.number? = some number

namespace NumberConstant

def expr (a : NumberConstant) : Expr := .constant a.value a.type

/-- The comparison of two constants. -/
def compared (a : NumberConstant) (op : Relation) (b : NumberConstant) : Expr :=
  .binary a.expr (.relation op) b.expr

theorem fold_compared (a b : NumberConstant) (op : Relation) :
    (a.compared op b).fold = .ok (.ofValue (.bool (decide (op.Holds a.number b.number)))) := by
  obtain ⟨o, ho, hcompares⟩ := compareValues?_compares a.denotes b.denotes
  have hholds : holds op o = decide (op.Holds a.number b.number) :=
    Bool.eq_iff_iff.mpr ((holds_iff hcompares op).trans decide_eq_true_iff.symm)
  show foldRelation a.expr (.relation op) b.expr = _
  rw [expr, expr, foldRelation, compareValues, ho, hholds]
  rfl

theorem fold_compared_true (a b : NumberConstant) (op : Relation) :
    (a.compared op b).fold = .ok (.ofValue (.bool true)) ↔ op.Holds a.number b.number := by
  rw [fold_compared]
  simp [Expr.ofValue, typeOfValue]

end NumberConstant

/-- Integers and decimals are compared as the numbers that they denote, in whatever kinds
they come. So their comparisons are those of a total order, and exchanging the operands
together with the relation changes nothing. -/
theorem comparisons_exact :
    (∀ (a b : NumberConstant) (op : Relation),
      (a.compared op b).fold = .ok (.ofValue (.bool (decide (op.Holds a.number b.number))))) ∧
    Relation.Orders (fun op (a b : NumberConstant) =>
      (a.compared op b).fold = .ok (.ofValue (.bool true))) ∧
    ∀ (a b : NumberConstant) (op : Relation),
      (b.compared op.commute a).fold = (a.compared op b).fold := by
  refine ⟨NumberConstant.fold_compared, ?_, fun a b op => ?_⟩
  · simp only [NumberConstant.fold_compared_true]
    exact Relation.orders_of_number NumberConstant.number
  · rw [NumberConstant.fold_compared, NumberConstant.fold_compared,
      decide_eq_decide.mpr (op.holds_commute a.number b.number)]

/-- A debt in units of the last place as a constant. -/
def debt (units : UInt8) : NumberConstant where
  value := .decimal ⟨true, units.toNat, 28, Nat.lt_trans units.toNat_lt (by decide), by decide⟩
  type := .scalar .decimal
  number := -units.toNat / tenTo 28
  denotes := by simp [Value.number?, Decimal.toRat, Decimal.signed]

/-- A byte as a constant. -/
def byte (n : UInt8) : NumberConstant := ⟨.uint8 n, .scalar .uint8, (n.toNat : Int), rfl⟩

/-- The least number of 64 bits as a constant. -/
def leastWord : NumberConstant :=
  ⟨.int64 Int64.minValue, .scalar .int64, (Int64.minValue.toInt : Int), rfl⟩

/-- The sign of a zero does not count, a unit of the last place does, and the order goes
through three kinds. -/
theorem comparisons_exact_debt :
    ((debt 0).compared .eq (byte 0)).fold = .ok (.ofValue (.bool true)) ∧
    ((debt 1).compared .eq (byte 0)).fold = .ok (.ofValue (.bool false)) ∧
    (leastWord.compared .le (byte 0)).fold = .ok (.ofValue (.bool true)) := by
  obtain ⟨hexact, horders, -⟩ := comparisons_exact
  have hunits : (tenTo 28 : ℚ) = 10000000000000000000000000000 := by norm_cast
  have hleast : (Int64.minValue.toInt : ℚ) = -9223372036854775808 := by norm_cast
  have hzero : Relation.Holds .eq (debt 0).number (byte 0).number := by
    simp [debt, byte, Relation.Holds]
  have hunit : ¬Relation.Holds .eq (debt 1).number (byte 0).number := by
    simp [debt, byte, Relation.Holds, hunits]
  have hword : Relation.Holds .le leastWord.number (debt 1).number := by
    show (Int64.minValue.toInt : ℚ) ≤ -((1 : Nat) : ℚ) / tenTo 28
    rw [hunits, hleast]
    norm_num
  have hdebt : Relation.Holds .le (debt 1).number (byte 0).number := by
    show -((1 : Nat) : ℚ) / tenTo 28 ≤ ((0 : Nat) : Int)
    rw [hunits]
    norm_num
  refine ⟨?_, ?_, horders.transitive .le leastWord (debt 1) (byte 0) (by decide) ?_ ?_⟩
  · rw [hexact, decide_eq_true hzero]
  · rw [hexact, decide_eq_false hunit]
  · rw [hexact, decide_eq_true hword]
  · rw [hexact, decide_eq_true hdebt]

end Host

end Inquiry
