import Inquiry.Proofs.FoldType

/-!
# Folding reaches a normal form

Folding simplifies a node after its parts, and some of its rules answer with a
part: the other operand of a connective, the branch that is taken, the side of
a coalesce that is not null. Such an answer lands under a parent that has not
been simplified yet, so nothing new can appear above it; and it is a folded
expression itself, so nothing is left below it. This is the whole argument, and
it needs neither types nor values.

`isRedex` says where folding has something to do at all, node by node. Each
rule is described by two statements about it: where the node is no redex, the
rule keeps the node; where it is one, the rule gives a constant or one of the
parts. Both halves of the theory are read off these statements. A folded
expression has no redex, and an expression without a redex folds to itself, so
the expressions that folding leaves alone are exactly those without a redex.
-/

namespace Inquiry.Host

/-! ## Redexes -/

/-- Whether folding has something to do at the node itself: a relation between
two constants, arithmetic on two numbers or with a null, a connective with a
constant truth value, a coalesce whose first side is known, a conditional whose
test is decided, the negation of a truth value or of a number, a conversion of
a constant to an object or a scalar, an array of constants. -/
def Expr.isRedex : Expr → Bool
  | .binary lhs (.relation _) rhs => lhs.isConstant && rhs.isConstant
  | .binary lhs (.arith _) rhs =>
      match lhs.value?, rhs.value? with
      | some a, some b => a.isNull || b.isNull || (a.isNumeric && b.isNumeric)
      | _, _ => false
  | .binary lhs (.logic _) rhs => lhs.bool?.isSome || rhs.bool?.isSome
  | .binary lhs .coalesce _ => lhs.isConstant
  | .conditional test _ _ => test.bool?.isSome
  | .not operand => operand.bool?.isSome
  | .negate operand => operand.value?.any Value.isNumeric
  | .convert operand type => operand.isConstant && (type.isObject || type.isScalar)
  | .array _ items => items.all Expr.isConstant
  | .call .. | .constant .. | .input _ | .member .. | .construct .. | .typeIs .. => false

/-- No node of the expression is a redex. -/
def Expr.Normal (e : Expr) : Prop := e.Everywhere fun x => x.isRedex = false

/-- The answer of a rule at a redex: a constant, or one of the folded parts. -/
def Reduct (parts : List Expr) (e : Expr) : Prop := e.isConstant = true ∨ e ∈ parts

theorem Expr.Normal.of_isConstant {e : Expr} (h : e.isConstant = true) : e.Normal := by
  cases e with
  | constant v t => exact (rfl : (Expr.constant v t).isRedex = false)
  | _ => cases h

theorem Reduct.normal {parts : List Expr} {e : Expr} (h : Reduct parts e)
    (hparts : ∀ x ∈ parts, x.Normal) : e.Normal := by
  rcases h with hconstant | hpart
  · exact .of_isConstant hconstant
  · exact hparts e hpart

/-! ## One rule after the other -/

/-- The values with which folding can count are the numeric ones. -/
theorem Operand.ofValue?_isSome (v : Value) : (Operand.ofValue? v).isSome = v.isNumeric := by
  cases v <;> rfl

theorem Operand.ofValue?_eq_none {v : Value} (h : v.isNumeric = false) :
    Operand.ofValue? v = none := by
  rw [← Operand.ofValue?_isSome] at h
  exact Option.isSome_eq_false_iff.mp h |> Option.isNone_iff_eq_none.mp

theorem foldLogic_kept {l r : Expr} {op : Statement.Connective}
    (h : (Expr.binary l (.logic op) r).isRedex = false) :
    foldLogic l op r = .binary l (.logic op) r := by
  rw [Expr.isRedex, Bool.or_eq_false_iff, Option.isSome_eq_false_iff, Option.isSome_eq_false_iff,
    Option.isNone_iff_eq_none, Option.isNone_iff_eq_none] at h
  simp [foldLogic, h.1, h.2]

theorem foldLogic_reduct {l r : Expr} {op : Statement.Connective}
    (h : (Expr.binary l (.logic op) r).isRedex = true) : Reduct [l, r] (foldLogic l op r) := by
  rw [foldLogic]
  split
  · exact .inl rfl
  · split
    · exact .inr (by simp)
    · split
      · exact .inr (by simp)
      · next hl hr =>
          rw [Expr.isRedex, Bool.or_eq_true] at h
          exact absurd h (not_or.mpr ⟨hl, hr⟩)

theorem foldCoalesce_kept {l r : Expr} (h : (Expr.binary l .coalesce r).isRedex = false) :
    foldCoalesce l r = .binary l .coalesce r := by
  cases l with
  | constant v t => cases h
  | _ => rfl

theorem foldCoalesce_reduct {l r : Expr} (h : (Expr.binary l .coalesce r).isRedex = true) :
    Reduct [l, r] (foldCoalesce l r) := by
  rw [foldCoalesce.eq_def]
  split
  · exact .inr (by simp)
  · exact .inl rfl
  · next hl =>
      cases l with
      | constant v t => exact absurd rfl (hl v t)
      | _ => cases h

theorem foldRelation_kept {l r : Expr} {op : Statement.Relation}
    (h : (Expr.binary l (.relation op) r).isRedex = false) :
    foldRelation l (.relation op) r = .ok (.binary l (.relation op) r) := by
  rw [foldRelation.eq_def]
  split
  · cases h
  · rfl

theorem foldRelation_constant {l r e : Expr} {op : Statement.Relation}
    (h : (Expr.binary l (.relation op) r).isRedex = true)
    (hf : foldRelation l (.relation op) r = .ok e) : e.isConstant = true := by
  rw [foldRelation.eq_def] at hf
  split at hf
  · obtain ⟨result, _, hf⟩ := bind_eq_ok.mp hf
    cases hf
    rfl
  · next hboth =>
      rw [Expr.isRedex, Bool.and_eq_true] at h
      cases l with
      | constant a s =>
          cases r with
          | constant b t => exact absurd rfl (hboth a s b t rfl)
          | _ => cases h.2
      | _ => cases h.1

theorem foldNumbers_kept {type : Ty} {l r : Expr} {op : Statement.Arith} {a b : Value}
    (h : (a.isNumeric && b.isNumeric) = false) :
    foldNumbers type l (.arith op) r a b = .ok (.binary l (.arith op) r) := by
  rw [foldNumbers.eq_def]
  split
  · next x y hx hy =>
      rw [← Operand.ofValue?_isSome, ← Operand.ofValue?_isSome, hx, hy] at h
      cases h
  · rfl

theorem foldArith_kept {type : Ty} {l r : Expr} {op : Statement.Arith}
    (h : (Expr.binary l (.arith op) r).isRedex = false) :
    foldArith type l (.arith op) r = .ok (.binary l (.arith op) r) := by
  rw [foldArith.eq_def]
  split
  · next a _ b _ =>
      rw [Expr.isRedex] at h
      obtain ⟨hnull, hnumeric⟩ := Bool.or_eq_false_iff.mp h
      rw [if_neg (by simp [hnull]), foldNumbers_kept hnumeric]
  · rfl

theorem foldNumbers_constant {type : Ty} {l r e : Expr} {op : Statement.Arith} {a b : Value}
    (h : (a.isNumeric && b.isNumeric) = true)
    (hf : foldNumbers type l (.arith op) r a b = .ok e) : e.isConstant = true := by
  rw [foldNumbers.eq_def] at hf
  split at hf
  · obtain ⟨result, _, hf⟩ := bind_eq_ok.mp hf
    obtain ⟨v, _, hf⟩ := bind_eq_ok.mp hf
    cases hf
    rfl
  · next hnone =>
      rw [Bool.and_eq_true, ← Operand.ofValue?_isSome, ← Operand.ofValue?_isSome,
        Option.isSome_iff_exists, Option.isSome_iff_exists] at h
      obtain ⟨⟨x, hx⟩, y, hy⟩ := h
      exact absurd hy (hnone x y hx)

theorem foldArith_constant {type : Ty} {l r e : Expr} {op : Statement.Arith}
    (h : (Expr.binary l (.arith op) r).isRedex = true)
    (hf : foldArith type l (.arith op) r = .ok e) : e.isConstant = true := by
  rw [foldArith.eq_def] at hf
  split at hf
  · next a _ b _ =>
      split at hf
      · cases hf
        rfl
      · next hnull =>
          rw [Expr.isRedex] at h
          exact foldNumbers_constant (((Bool.or_eq_true _ _).mp h).resolve_left hnull) hf
  · next hboth =>
      rw [Expr.isRedex.eq_def] at h
      cases l with
      | constant a s =>
          cases r with
          | constant b t => exact absurd rfl (hboth a s b t rfl)
          | _ => cases h
      | _ => cases h

/-- An operator keeps a node that is no redex. -/
theorem foldBinary_kept {type : Ty} {l r : Expr} {op : Operator}
    (h : (Expr.binary l op r).isRedex = false) : foldBinary type l op r = .ok (.binary l op r) := by
  cases op with
  | relation op => rw [foldBinary_relation, foldRelation_kept h]
  | logic op => rw [foldBinary_logic, foldLogic_kept h]
  | arith op => rw [foldBinary_arith, foldArith_kept h]
  | coalesce => rw [foldBinary_coalesce, foldCoalesce_kept h]

theorem foldBinary_reduct {type : Ty} {l r e : Expr} {op : Operator}
    (h : (Expr.binary l op r).isRedex = true) (hf : foldBinary type l op r = .ok e) :
    Reduct [l, r] e := by
  cases op with
  | relation op => exact .inl (foldRelation_constant h hf)
  | logic op =>
      rw [foldBinary_logic] at hf
      cases hf
      exact foldLogic_reduct h
  | arith op => exact .inl (foldArith_constant h hf)
  | coalesce => cases hf; exact foldCoalesce_reduct h

theorem foldConditional_kept {t y n : Expr} (h : (Expr.conditional t y n).isRedex = false) :
    foldConditional t y n = .conditional t y n := by
  rw [Expr.isRedex, Option.isSome_eq_false_iff, Option.isNone_iff_eq_none] at h
  rw [foldConditional, h]

theorem foldConditional_reduct {t y n : Expr} (h : (Expr.conditional t y n).isRedex = true) :
    Reduct [y, n] (foldConditional t y n) := by
  rw [foldConditional.eq_def]
  split
  · exact .inr (by simp)
  · exact .inr (by simp)
  · next hnone => rw [Expr.isRedex, hnone] at h; cases h

theorem foldConvert_kept {x : Expr} {type : Ty} (h : (Expr.convert x type).isRedex = false) :
    foldConvert x type = .ok (.convert x type) := by
  rw [foldConvert.eq_def]
  split
  · rw [Expr.isRedex, Expr.isConstant, Bool.true_and] at h
    rw [if_neg (by simp [h])]
  · rfl

theorem foldConvert_constant {x e : Expr} {type : Ty} (h : (Expr.convert x type).isRedex = true)
    (hf : foldConvert x type = .ok e) : e.isConstant = true := by
  rw [Expr.isRedex, Bool.and_eq_true] at h
  cases x with
  | constant v t =>
      rw [foldConvert, if_pos h.2] at hf
      obtain ⟨converted, _, hf⟩ := bind_eq_ok.mp hf
      cases hf
      rfl
  | _ => cases h.1

theorem foldArray_kept {item : Ty} {xs : List Expr} (h : (Expr.array item xs).isRedex = false) :
    foldArray item xs = .array item xs := by
  rw [Expr.isRedex] at h
  rw [foldArray, if_neg (by simp [h])]

theorem foldArray_constant {item : Ty} {xs : List Expr} (h : (Expr.array item xs).isRedex = true) :
    (foldArray item xs).isConstant = true := by
  rw [Expr.isRedex] at h
  rw [foldArray, if_pos h]
  rfl

theorem foldNot_kept {x : Expr} (h : (Expr.not x).isRedex = false) : foldNot x = .not x := by
  rw [Expr.isRedex, Option.isSome_eq_false_iff, Option.isNone_iff_eq_none] at h
  rw [foldNot, h]

theorem foldNot_constant {x : Expr} (h : (Expr.not x).isRedex = true) :
    (foldNot x).isConstant = true := by
  rw [foldNot.eq_def]
  split
  · rfl
  · next hnone => rw [Expr.isRedex, hnone] at h; cases h

theorem foldNegate_kept {type : Ty} {x : Expr} (h : (Expr.negate x).isRedex = false) :
    foldNegate type x = .ok (.negate x) := by
  cases x with
  | constant v t => rw [foldNegate, Expr.value?, Option.bind_some, Operand.ofValue?_eq_none h]
  | _ => rfl

theorem foldNegate_constant {type : Ty} {x e : Expr} (h : (Expr.negate x).isRedex = true)
    (hf : foldNegate type x = .ok e) : e.isConstant = true := by
  rw [foldNegate.eq_def] at hf
  split at hf
  · obtain ⟨result, _, hf⟩ := bind_eq_ok.mp hf
    obtain ⟨v, _, hf⟩ := bind_eq_ok.mp hf
    cases hf
    rfl
  · next hnone =>
      cases x with
      | constant v t =>
          have hsome : (Operand.ofValue? v).isSome = true := (Operand.ofValue?_isSome v).trans h
          rw [Expr.value?, Option.bind_some] at hnone
          rw [hnone] at hsome
          cases hsome
      | _ => cases h

/-! ## Folded expressions have no redex -/

mutual

/-- A folded expression has no redex, at any depth. -/
theorem Expr.fold_normal {e e' : Expr} (hf : e.fold = .ok e') : e'.Normal := by
  match e with
  | .binary l op r =>
      obtain ⟨l', hl, r', hr, hf⟩ := Expr.fold_binary.mp hf
      have hl := Expr.fold_normal hl
      have hr := Expr.fold_normal hr
      cases h : (Expr.binary l' op r').isRedex with
      | true => exact (foldBinary_reduct h hf).normal (by simp [hl, hr])
      | false =>
          rw [foldBinary_kept h] at hf
          cases hf
          exact ⟨h, hl, hr⟩
  | .call method args =>
      obtain ⟨as, has, rfl⟩ := Expr.fold_call.mp hf
      exact ⟨rfl, foldAll_normal has⟩
  | .conditional t y n =>
      obtain ⟨t', ht, y', hy, n', hn, rfl⟩ := Expr.fold_conditional.mp hf
      have hy := Expr.fold_normal hy
      have hn := Expr.fold_normal hn
      cases h : (Expr.conditional t' y' n').isRedex with
      | true => exact (foldConditional_reduct h).normal (by simp [hy, hn])
      | false => rw [foldConditional_kept h]; exact ⟨h, Expr.fold_normal ht, hy, hn⟩
  | .constant v t =>
      cases Expr.fold_constant.mp hf
      exact .of_isConstant rfl
  | .convert x t =>
      obtain ⟨x', hx, hf⟩ := Expr.fold_convert.mp hf
      have hx := Expr.fold_normal hx
      cases h : (Expr.convert x' t).isRedex with
      | true => exact .of_isConstant (foldConvert_constant h hf)
      | false =>
          rw [foldConvert_kept h] at hf
          cases hf
          exact ⟨h, hx⟩
  | .input t =>
      cases Expr.fold_input.mp hf
      exact (rfl : (Expr.input t).isRedex = false)
  | .member x ref t =>
      obtain ⟨x', hx, rfl⟩ := Expr.fold_member.mp hf
      exact ⟨rfl, Expr.fold_normal hx⟩
  | .construct t ms =>
      obtain ⟨ms', hms, rfl⟩ := Expr.fold_construct.mp hf
      exact ⟨rfl, foldMembers_normal hms⟩
  | .array item xs =>
      obtain ⟨xs', hxs, rfl⟩ := Expr.fold_array.mp hf
      cases h : (Expr.array item xs').isRedex with
      | true => exact .of_isConstant (foldArray_constant h)
      | false => rw [foldArray_kept h]; exact ⟨h, foldAll_normal hxs⟩
  | .typeIs x record =>
      obtain ⟨x', hx, rfl⟩ := Expr.fold_typeIs.mp hf
      exact ⟨rfl, Expr.fold_normal hx⟩
  | .not x =>
      obtain ⟨x', hx, rfl⟩ := Expr.fold_not.mp hf
      have hx := Expr.fold_normal hx
      cases h : (Expr.not x').isRedex with
      | true => exact .of_isConstant (foldNot_constant h)
      | false => rw [foldNot_kept h]; exact ⟨h, hx⟩
  | .negate x =>
      obtain ⟨x', hx, hf⟩ := Expr.fold_negate.mp hf
      have hx := Expr.fold_normal hx
      cases h : (Expr.negate x').isRedex with
      | true => exact .of_isConstant (foldNegate_constant h hf)
      | false =>
          rw [foldNegate_kept h] at hf
          cases hf
          exact ⟨h, hx⟩

theorem foldAll_normal {es es' : List Expr} (hf : foldAll es = .ok es') :
    everywhereAll (fun x => x.isRedex = false) es' := by
  match es with
  | [] => cases foldAll_nil.mp hf; trivial
  | e :: rest =>
      obtain ⟨e', he, rest', hrest, rfl⟩ := foldAll_cons.mp hf
      exact ⟨Expr.fold_normal he, foldAll_normal hrest⟩

theorem foldMembers_normal {ms ms' : List (String × Expr)} (hf : foldMembers ms = .ok ms') :
    everywhereMembers (fun x => x.isRedex = false) ms' := by
  match ms with
  | [] => cases foldMembers_nil.mp hf; trivial
  | (name, e) :: rest =>
      obtain ⟨e', he, rest', hrest, rfl⟩ := foldMembers_cons.mp hf
      exact ⟨Expr.fold_normal he, foldMembers_normal hrest⟩

end

/-! ## Expressions without a redex fold to themselves -/

mutual

/-- Folding leaves an expression without a redex as it is. -/
theorem Expr.fold_of_normal {e : Expr} (h : e.Normal) : e.fold = .ok e := by
  match e with
  | .binary l op r =>
      obtain ⟨hnode, hl, hr⟩ := h
      exact Expr.fold_binary.mpr
        ⟨l, Expr.fold_of_normal hl, r, Expr.fold_of_normal hr, foldBinary_kept hnode⟩
  | .call method args =>
      exact Expr.fold_call.mpr ⟨args, foldAll_eq h.2, rfl⟩
  | .conditional t y n =>
      obtain ⟨hnode, ht, hy, hn⟩ := h
      exact Expr.fold_conditional.mpr
        ⟨t, Expr.fold_of_normal ht, y, Expr.fold_of_normal hy, n, Expr.fold_of_normal hn,
          foldConditional_kept hnode⟩
  | .constant v t => exact Expr.fold_constant.mpr rfl
  | .convert x t => exact Expr.fold_convert.mpr ⟨x, Expr.fold_of_normal h.2, foldConvert_kept h.1⟩
  | .input t => exact Expr.fold_input.mpr rfl
  | .member x ref t => exact Expr.fold_member.mpr ⟨x, Expr.fold_of_normal h.2, rfl⟩
  | .construct t ms => exact Expr.fold_construct.mpr ⟨ms, foldMembers_eq h.2, rfl⟩
  | .array item xs => exact Expr.fold_array.mpr ⟨xs, foldAll_eq h.2, foldArray_kept h.1⟩
  | .typeIs x record => exact Expr.fold_typeIs.mpr ⟨x, Expr.fold_of_normal h.2, rfl⟩
  | .not x => exact Expr.fold_not.mpr ⟨x, Expr.fold_of_normal h.2, foldNot_kept h.1⟩
  | .negate x => exact Expr.fold_negate.mpr ⟨x, Expr.fold_of_normal h.2, foldNegate_kept h.1⟩

theorem foldAll_eq {es : List Expr} (h : everywhereAll (fun x => x.isRedex = false) es) :
    foldAll es = .ok es := by
  match es with
  | [] => exact foldAll_nil.mpr rfl
  | e :: rest =>
      exact foldAll_cons.mpr ⟨e, Expr.fold_of_normal h.1, rest, foldAll_eq h.2, rfl⟩

theorem foldMembers_eq {ms : List (String × Expr)}
    (h : everywhereMembers (fun x => x.isRedex = false) ms) : foldMembers ms = .ok ms := by
  match ms with
  | [] => exact foldMembers_nil.mpr rfl
  | (name, e) :: rest =>
      exact foldMembers_cons.mpr ⟨e, Expr.fold_of_normal h.1, rest, foldMembers_eq h.2, rfl⟩

end

/-- The expressions that folding leaves alone are those without a redex. -/
theorem Expr.fold_eq_self_iff {e : Expr} : e.fold = .ok e ↔ e.Normal :=
  ⟨fold_normal, fold_of_normal⟩

end Inquiry.Host
