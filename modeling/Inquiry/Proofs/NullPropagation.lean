import Inquiry.Proofs.ExactArithmetic
import Inquiry.Proofs.FilterConjunction
import Inquiry.Proofs.FoldNormal

/-!
# Null in constant arithmetic

A constant may be null and still have a numeric type. Arithmetic with a null is
null, so an expression over constants is known whether there are nulls in it or
not, and a comparison with it can be lowered to a test for null. A sign is the
exception. Folding takes the negative of numbers only, and a null under a sign
stays there: the sign is not folded, nor is anything above it, and a comparison
with the whole is lowered to a relation with a null in it, which is never true.

So there are two questions to ask of the tree, and both are answered without
folding. `holdsNull` says whether there is a null in it, `negatesNull` whether
one stands below a sign. An expression that folds becomes a constant exactly if
none does, and the constant is null exactly if the tree holds one. The induction
carries both halves at once, because the sign needs the value of its operand and
the operator needs to know that a part is no constant.
-/

namespace Inquiry

open Statement (Arith Relation)

namespace Host

/-! ## Nulls in a tree -/

/-- A constant has a numeric type, and it holds a number or null. -/
def IsQuantity (v : Value) (t : Ty) : Prop :=
  t.isNumeric = true ∧ (v.isNumeric = true ∨ v.isNull = true)

/-- Whether there is a null in the arithmetic. -/
def Expr.holdsNull : Expr → Bool
  | .constant v _ => v.isNull
  | .binary lhs (.arith _) rhs => lhs.holdsNull || rhs.holdsNull
  | .negate operand => operand.holdsNull
  | _ => false

/-- Whether there is a null below a sign. -/
def Expr.negatesNull : Expr → Bool
  | .binary lhs (.arith _) rhs => lhs.negatesNull || rhs.negatesNull
  | .negate operand => operand.holdsNull
  | _ => false

theorem Expr.Computes.isNumeric {e : Expr} (h : e.Computes IsQuantity) :
    e.type.isNumeric = true := by
  match e with
  | .constant _ _ => exact h.1
  | .binary l (.arith _) r => exact Expr.Computes.isNumeric (e := l) h.1
  | .negate x => exact Expr.Computes.isNumeric (e := x) h

/-! ## Converting numbers -/

theorem ofWhole?_isNumeric {k : Kind} {n : Int} {v : Value} (h : Value.ofWhole? k n = some v) :
    v.isNumeric = true := by
  rw [Value.ofWhole?.eq_def] at h
  split at h
  all_goals first | cases h | (split at h <;> cases h; rfl)

theorem toInteger_isNumeric {v w : Value} {k : Kind} (h : v.toInteger k = .ok w) :
    w.isNumeric = true := by
  obtain ⟨n, -, hw⟩ := (Value.toInteger_eq_ok_iff v w k).mp h
  exact ofWhole?_isNumeric hw

/-- What converts to a numeric type is a number, unless it was null. -/
theorem convertTo_isNumeric {t : Ty} {v w : Value} (ht : t.isNumeric = true)
    (hv : v.isNull = false) (h : convertTo v t = .ok w) : w.isNumeric = true := by
  cases t with
  | scalar k =>
      have hconvert : v.convertScalar k = .ok w := by
        rw [← h]
        exact (Value.convert_of_not_null hv k).symm
      cases k with
      | int16 | int32 | int64 | uint8 => exact toInteger_isNumeric hconvert
      | single | double | decimal =>
          obtain ⟨a, rfl⟩ := map_eq_ok hconvert
          rfl
      | _ => cases ht
  | _ => cases ht

theorem Operand.toValue_isNull (x : Operand) : x.toValue.isNull = false := by
  cases x <;> rfl

/-! ## One node -/

/-- The expression is a constant of the type: null, or else a number. -/
def Known (t : Ty) (null : Bool) (e : Expr) : Prop :=
  ∃ v, e = .constant v t ∧ if null then v = .null else v.isNumeric = true

theorem Known.isConstant {t : Ty} {null : Bool} {e : Expr} (h : Known t null e) :
    e.isConstant = true := by
  obtain ⟨v, rfl, _⟩ := h
  rfl

theorem isNull_of_isNumeric {v : Value} (h : v.isNumeric = true) : v.isNull = false := by
  cases v with
  | null => cases h
  | _ => rfl

theorem IsQuantity.known {v : Value} {t : Ty} (h : IsQuantity v t) :
    Known t v.isNull (.constant v t) := by
  refine ⟨v, rfl, ?_⟩
  rcases h.2 with hnumber | hnull
  · rw [isNull_of_isNumeric hnumber]
    exact hnumber
  · rw [hnull]
    cases v with
    | null => rfl
    | _ => cases hnull

theorem foldNumbers_known {t : Ty} {l r e : Expr} {a b : Value} {op : Arith}
    (ht : t.isNumeric = true) (h : (a.isNumeric && b.isNumeric) = true)
    (hf : foldNumbers t l (.arith op) r a b = .ok e) : Known t false e := by
  have hconstant := foldNumbers_constant h hf
  rw [foldNumbers.eq_def] at hf
  split at hf
  · obtain ⟨result, _, hf⟩ := bind_eq_ok.mp hf
    obtain ⟨v, hv, hf⟩ := bind_eq_ok.mp hf
    cases hf
    exact ⟨v, rfl, convertTo_isNumeric ht result.toValue_isNull hv⟩
  · cases hf
    cases hconstant

/-- Arithmetic on known operands is known, and null if one of them is. -/
theorem foldArith_known {t s u : Ty} {l r e : Expr} {m n : Bool} {op : Arith}
    (ht : t.isNumeric = true) (hl : Known s m l) (hr : Known u n r)
    (hf : foldArith t l (.arith op) r = .ok e) : Known t (m || n) e := by
  obtain ⟨a, rfl, ha⟩ := hl
  obtain ⟨b, rfl, hb⟩ := hr
  rw [foldArith] at hf
  by_cases hnull : (a.isNull || b.isNull) = true
  · rw [if_pos hnull] at hf
    cases hf
    cases m with
    | true => exact ⟨.null, rfl, rfl⟩
    | false =>
        cases n with
        | true => exact ⟨.null, rfl, rfl⟩
        | false => simp [isNull_of_isNumeric ha, isNull_of_isNumeric hb] at hnull
  · rw [if_neg hnull] at hf
    cases m with
    | true =>
        obtain rfl : a = .null := ha
        exact absurd rfl hnull
    | false =>
        cases n with
        | true =>
            obtain rfl : b = .null := hb
            simp [Value.isNull] at hnull
        | false =>
            have hnumbers : (a.isNumeric && b.isNumeric) = true := Bool.and_eq_true_iff.mpr ⟨ha, hb⟩
            exact foldNumbers_known ht hnumbers hf

/-- An operand that is no constant leaves the operator as it is. -/
theorem foldArith_unknown {t : Ty} {l r : Expr} {op : Arith}
    (h : l.isConstant = false ∨ r.isConstant = false) :
    foldArith t l (.arith op) r = .ok (.binary l (.arith op) r) := by
  apply foldArith_kept
  rw [Expr.isRedex]
  split
  · next a b ha hb =>
      cases l <;> cases ha
      cases r <;> cases hb
      simp [Expr.isConstant] at h
  · rfl

/-- A number has a negative. -/
theorem foldNegate_known {t s : Ty} {x e : Expr} (ht : t.isNumeric = true) (hx : Known s false x)
    (hf : foldNegate t x = .ok e) : Known t false e := by
  obtain ⟨a, rfl, ha⟩ := hx
  have hconstant := foldNegate_constant (x := .constant a s) ha hf
  rw [foldNegate.eq_def] at hf
  split at hf
  · obtain ⟨result, _, hf⟩ := bind_eq_ok.mp hf
    obtain ⟨v, hv, hf⟩ := bind_eq_ok.mp hf
    cases hf
    exact ⟨v, rfl, convertTo_isNumeric ht result.toValue_isNull hv⟩
  · cases hf
    cases hconstant

/-- Null has no negative, and neither has what is no constant. -/
theorem foldNegate_unknown {t : Ty} {x : Expr} (h : x.isConstant = false ∨ ∃ s, Known s true x) :
    foldNegate t x = .ok (.negate x) := by
  apply foldNegate_kept
  rcases h with h | ⟨s, v, rfl, rfl⟩
  · cases x <;> first | rfl | cases h
  · rfl

/-! ## Trees -/

theorem Expr.holdsNull_of_negatesNull {e : Expr} (h : e.negatesNull = true) :
    e.holdsNull = true := by
  match e with
  | .binary l (.arith _) r =>
      rw [Expr.negatesNull, Bool.or_eq_true] at h
      rw [Expr.holdsNull, Bool.or_eq_true]
      exact h.imp Expr.holdsNull_of_negatesNull Expr.holdsNull_of_negatesNull
  | .negate x => exact h

/-- An expression over constants that folds is known if no sign stands over a
null, and otherwise it is no constant. -/
theorem Expr.Computes.fold_known {e e' : Expr} (h : e.Computes IsQuantity)
    (hf : e.fold = .ok e') :
    if e.negatesNull then e'.isConstant = false else Known e.type e.holdsNull e' := by
  match e with
  | .constant v t =>
      cases Expr.fold_constant.mp hf
      exact IsQuantity.known h
  | .binary l (.arith op) r =>
      obtain ⟨l', hl, r', hr, hf⟩ := Expr.fold_binary.mp hf
      have hl := Expr.Computes.fold_known (e := l) h.1 hl
      have hr := Expr.Computes.fold_known (e := r) h.2 hr
      by_cases hunknown : (Expr.binary l (.arith op) r).negatesNull = true
      · rw [if_pos hunknown]
        rw [Expr.negatesNull, Bool.or_eq_true] at hunknown
        have hpart : l'.isConstant = false ∨ r'.isConstant = false :=
          hunknown.imp (fun hneg => by rwa [if_pos hneg] at hl) fun hneg => by
            rwa [if_pos hneg] at hr
        have hkept : foldArith l.type l' (.arith op) r' = .ok (.binary l' (.arith op) r') :=
          foldArith_unknown hpart
        cases hkept.symm.trans hf
        rfl
      · rw [if_neg hunknown]
        rw [Expr.negatesNull, Bool.or_eq_true, not_or] at hunknown
        rw [if_neg hunknown.1] at hl
        rw [if_neg hunknown.2] at hr
        exact foldArith_known (Expr.Computes.isNumeric (e := l) h.1) hl hr hf
  | .negate x =>
      obtain ⟨x', hx, hf⟩ := Expr.fold_negate.mp hf
      have hx := Expr.Computes.fold_known (e := x) h hx
      by_cases hunknown : x.holdsNull = true
      · have hpart : x'.isConstant = false ∨ ∃ s, Known s true x' := by
          by_cases hneg : x.negatesNull = true
          · exact .inl (by rwa [if_pos hneg] at hx)
          · rw [if_neg hneg, hunknown] at hx
            exact .inr ⟨_, hx⟩
        rw [Expr.negatesNull, if_pos hunknown]
        cases (foldNegate_unknown hpart).symm.trans hf
        rfl
      · have hneg : ¬x.negatesNull = true :=
          fun hneg => hunknown (Expr.holdsNull_of_negatesNull hneg)
        rw [if_neg hneg, Bool.eq_false_iff.mpr hunknown] at hx
        rw [Expr.negatesNull, if_neg hunknown, Expr.holdsNull, Bool.eq_false_iff.mpr hunknown]
        exact foldNegate_known (Expr.Computes.isNumeric (e := x) h) hx hf

theorem Expr.Computes.fold_isConstant_iff {e e' : Expr} (h : e.Computes IsQuantity)
    (hf : e.fold = .ok e') : e'.isConstant = true ↔ e.negatesNull = false := by
  have hknown := h.fold_known hf
  cases hneg : e.negatesNull with
  | true =>
      rw [hneg, if_pos rfl] at hknown
      simp [hknown]
  | false =>
      rw [hneg, if_neg Bool.false_ne_true] at hknown
      simp [hknown.isConstant]

/-- A comparison is known if both of its sides are. -/
theorem fold_comparison_isConstant_iff {e d c : Expr} {op : Relation}
    (he : e.Computes IsQuantity) (hd : d.Computes IsQuantity)
    (hf : (Expr.binary e (.relation op) d).fold = .ok c) :
    c.isConstant = true ↔ e.negatesNull = false ∧ d.negatesNull = false := by
  obtain ⟨e', he', d', hd', hf⟩ := Expr.fold_binary.mp hf
  rw [foldBinary_relation] at hf
  rw [← he.fold_isConstant_iff he', ← hd.fold_isConstant_iff hd', ← Bool.and_eq_true_iff]
  cases hredex : (Expr.binary e' (.relation op) d').isRedex with
  | true =>
      have hboth : (e'.isConstant && d'.isConstant) = true := hredex
      rw [foldRelation_constant hredex hf, hboth]
  | false =>
      rw [foldRelation_kept hredex] at hf
      cases hf
      rw [Expr.isRedex] at hredex
      rw [hredex]
      exact Iff.rfl

end Host

namespace Lower

open Host (Expr IsQuantity)

/-! ## Comparisons with a null -/

/-- The comparison is lowered to a test whether the operand is null, or is not;
any other comparison is refused. -/
def TestsNull (s : Mapping) (comparison operand : Expr) (op : Relation) : Prop :=
  ∀ ps c after, condition s comparison ps = (.ok c, after) ↔
    ∃ x, lowerValue s operand .parameters ps = (.ok x, after) ∧
      (op = .eq ∧ c = .isNull x true ∨ op = .ne ∧ c = .isNull x false)

theorem lowerNullTest_success {whole : Expr} {op : Relation} {operand : Lowered} {p : Placement}
    {ps after : Parameters} {c : Statement.Condition} :
    lowerNullTest whole op operand p ps = (.ok c, after) ↔
      ∃ x, operand p ps = (.ok x, after) ∧
        (op = .eq ∧ c = .isNull x true ∨ op = .ne ∧ c = .isNull x false) := by
  rw [lowerNullTest, bind_eq_success]
  constructor
  · rintro ⟨x, mid, hx, hc⟩
    cases op with
    | eq =>
        obtain ⟨rfl, rfl⟩ := pure_eq_success.mp hc
        exact ⟨x, hx, .inl ⟨rfl, rfl⟩⟩
    | ne =>
        obtain ⟨rfl, rfl⟩ := pure_eq_success.mp hc
        exact ⟨x, hx, .inr ⟨rfl, rfl⟩⟩
    | _ => exact absurd hc refuse_ne_success
  · rintro ⟨x, hx, ⟨rfl, rfl⟩ | ⟨rfl, rfl⟩⟩
    · exact ⟨x, after, hx, rfl⟩
    · exact ⟨x, after, hx, rfl⟩

theorem condition_of_fold {s : Mapping} {e e' : Expr} (h : e.fold = .ok e') :
    condition s e = lowerCondition s e' .parameters := by
  rw [condition, h]
  rfl

/-- A comparison of what is no constant with a null tests it for null, on
whichever side the null stands. -/
theorem testsNull_of_fold {s : Mapping} {x x' e : Expr} {t : Host.Ty} (op : Relation)
    (hx : x.fold = .ok x') (hopen : x'.isConstant = false)
    (he : e.fold = .ok (.constant .null t)) :
    TestsNull s (.binary x (.relation op) e) x' op ∧
      TestsNull s (.binary e (.relation op) x) x' op := by
  have hnull : x'.isNull = false := by
    cases x' with
    | constant v t => cases hopen
    | _ => rfl
  constructor
  · have hfold : (Expr.binary x (.relation op) e).fold
        = .ok (.binary x' (.relation op) (.constant .null t)) := by
      refine Expr.fold_binary.mpr ⟨x', hx, _, he, ?_⟩
      exact Host.foldRelation_kept (by rw [Expr.isRedex, hopen]; rfl)
    intro ps c after
    rw [condition_of_fold hfold, lowerCondition_relation, lowerRelation, hnull]
    exact lowerNullTest_success
  · have hfold : (Expr.binary e (.relation op) x).fold
        = .ok (.binary (.constant .null t) (.relation op) x') := by
      refine Expr.fold_binary.mpr ⟨_, he, x', hx, ?_⟩
      exact Host.foldRelation_kept (by rw [Expr.isRedex, hopen, Bool.and_false])
    intro ps c after
    rw [condition_of_fold hfold, lowerCondition_relation, lowerRelation, hnull]
    exact lowerNullTest_success

/-- Arithmetic over numeric constants that folds becomes a constant of its type
if no sign stands over a null, and only then. The constant is null if there is a
null in the expression, and else it is a number. A comparison of two such
expressions becomes a constant if both of them do. Where there is a null, but
none below a sign, a comparison with anything that is no constant is a test for
null, and never a relation. -/
theorem arithmetic_known {e e' : Expr} (h : e.Computes IsQuantity) (hf : e.fold = .ok e') :
    (e'.isConstant = true ↔ e.negatesNull = false) ∧
      (e.negatesNull = false → Host.Known e.type e.holdsNull e') ∧
      (∀ d op c, d.Computes IsQuantity → (Expr.binary e (.relation op) d).fold = .ok c →
        (c.isConstant = true ↔ e.negatesNull = false ∧ d.negatesNull = false)) ∧
      (e.holdsNull = true → e.negatesNull = false →
        ∀ s x x' op, x.fold = .ok x' → x'.isConstant = false →
          TestsNull s (.binary x (.relation op) e) x' op ∧
            TestsNull s (.binary e (.relation op) x) x' op) := by
  have hknown : e.negatesNull = false → Host.Known e.type e.holdsNull e' := by
    intro hneg
    have hknown := h.fold_known hf
    rwa [hneg, if_neg Bool.false_ne_true] at hknown
  refine ⟨h.fold_isConstant_iff hf, hknown, ?_, ?_⟩
  · intro d op c hd hc
    exact Host.fold_comparison_isConstant_iff h hd hc
  · intro hnull hneg s x x' op hx hopen
    obtain ⟨v, rfl, hv⟩ := hknown hneg
    rw [hnull, if_pos rfl] at hv
    rw [hv] at hf
    exact testsNull_of_fold op hx hopen hf

/-- Twice a price that is not known. -/
def unknownPrice : Expr :=
  .binary (.ofValue (.int32 2)) (.arith .mul) (.constant .null (.scalar .decimal))

def pricedAt (e : Expr) : Expr :=
  .binary (.get (.input .row) "Price" (some .int32)) (.relation .eq) e

theorem arithmetic_known_unknownPrice :
    unknownPrice.Computes IsQuantity ∧
      unknownPrice.fold = .ok (.constant .null (.scalar .int32)) ∧
      unknownPrice.holdsNull = true ∧ unknownPrice.negatesNull = false ∧
      condition .empty (pricedAt unknownPrice) (.start "p") =
        (.ok (.isNull (.field .defaultTable ⟨"Price"⟩) true), .start "p") := by
  have hcomputes : unknownPrice.Computes IsQuantity := ⟨⟨rfl, .inl rfl⟩, rfl, .inr rfl⟩
  have hfold : unknownPrice.fold = .ok (.constant .null (.scalar .int32)) := rfl
  obtain ⟨_, _, _, htests⟩ := arithmetic_known hcomputes hfold
  refine ⟨hcomputes, hfold, rfl, rfl, ?_⟩
  have hprice := (htests rfl rfl .empty (.get (.input .row) "Price" (some .int32)) _ .eq rfl rfl).1
  exact (hprice (.start "p") _ _).mpr ⟨_, rfl, .inl ⟨rfl, rfl⟩⟩

/-- The negative of a price that is not known. -/
def unknownDiscount : Expr := .negate (.constant .null (.scalar .int32))

/-- A null below a sign is not folded, and a comparison with it is a relation. -/
theorem unknownDiscount_stays :
    unknownDiscount.Computes IsQuantity ∧ unknownDiscount.fold = .ok unknownDiscount ∧
      unknownDiscount.isConstant = false ∧
      condition .empty (pricedAt unknownDiscount) (.start "p") =
        (.ok (.relation (.field .defaultTable ⟨"Price"⟩) .eq (.negate (.literal .null))),
          .start "p") :=
  ⟨⟨rfl, .inr rfl⟩, rfl, rfl, rfl⟩

end Lower

end Inquiry
