import Inquiry.Proofs.FoldType

/-!
# Folding is partial evaluation

An expression over the input is folded before any row is there. Whether that
is harmless is a question about two orders of doing things: put the values of
a row in place of its accessors and then fold, or fold first, put the values
in, and fold what is left. The second order finds the answer of the first one
whenever the first one finishes.

The proof follows the expression. A part that folded to a constant keeps that
constant when values are put in, so a node that folding has already decided is
decided the same way later. A node that folding has kept is folded again with
the parts it would have had anyway. What is left are the connectives with one
constant operand, which folding has replaced by the other operand: there the
later fold never sees the connective, and it gives the same constant only
because that operand is known to be a condition. This is where the static
types are needed, and why the trees have to be `RegularNode` everywhere.
-/

namespace Inquiry.Host

/-! ## Values for accessors -/

/-- The name and the kind of an accessor call: a field of the input by a
constant name. -/
def accessor? : Method → List Expr → Option (String × Option Kind)
  | .getValue kind, [.input _, .constant (.string name) _] => some (name, kind)
  | _, _ => none

mutual

/-- The expression with values in place of accessor calls, each as a constant
of the static type of its call. -/
def Expr.substitute (values : String → Option Kind → Value) : Expr → Expr
  | .binary lhs op rhs => .binary (lhs.substitute values) op (rhs.substitute values)
  | .call method args =>
      match accessor? method args with
      | some (name, kind) => .constant (values name kind) method.type
      | none => .call method (substituteAll values args)
  | .conditional test yes no =>
      .conditional (test.substitute values) (yes.substitute values) (no.substitute values)
  | .constant v type => .constant v type
  | .convert operand type => .convert (operand.substitute values) type
  | .input type => .input type
  | .member base ref type => .member (base.substitute values) ref type
  | .construct type members => .construct type (substituteMembers values members)
  | .array item items => .array item (substituteAll values items)
  | .typeIs operand record => .typeIs (operand.substitute values) record
  | .not operand => .not (operand.substitute values)
  | .negate operand => .negate (operand.substitute values)

/-- Several expressions with values in place of accessor calls. -/
def substituteAll (values : String → Option Kind → Value) : List Expr → List Expr
  | [] => []
  | e :: rest => e.substitute values :: substituteAll values rest

/-- The members of a construction with values in place of accessor calls. -/
def substituteMembers (values : String → Option Kind → Value) :
    List (String × Expr) → List (String × Expr)
  | [] => []
  | (name, e) :: rest => (name, e.substitute values) :: substituteMembers values rest

end

/-- A call that reads a field reads it from the input, by a constant name. -/
def AccessorNode : Expr → Prop
  | .call (.getValue kind) args => ∃ name, accessor? (.getValue kind) args = some (name, kind)
  | _ => True

/-- What is asked of a node: its operands agree, and it reads fields only from
the input. -/
def RegularNode (e : Expr) : Prop := AgreeingNode e ∧ AccessorNode e

section

variable {values : String → Option Kind → Value}

/-! ## Substitution and types -/

theorem Expr.substitute_type (e : Expr) : (e.substitute values).type = e.type := by
  match e with
  | .binary l op r =>
      rw [substitute, Expr.type, substitute_type l, substitute_type r]
      rfl
  | .call method args =>
      rw [substitute]
      split <;> rfl
  | .conditional t y n =>
      rw [substitute, Expr.type, substitute_type y]
      rfl
  | .negate x =>
      rw [substitute, Expr.type, substitute_type x]
      rfl
  | .constant _ _ | .input _ => rw [substitute]
  | .convert _ _ | .member _ _ _ | .construct _ _ | .array _ _ | .typeIs _ _ | .not _ =>
      rw [substitute]
      rfl

mutual

/-- Values leave the types of operands alone, so operands still agree. -/
theorem Expr.substitute_agreeing (e : Expr) (h : e.Everywhere RegularNode) :
    (e.substitute values).Everywhere AgreeingNode := by
  match e with
  | .binary l op r =>
      obtain ⟨hnode, hl, hr⟩ := h
      rw [Expr.substitute]
      refine ⟨?_, l.substitute_agreeing hl, r.substitute_agreeing hr⟩
      cases op with
      | relation | arith => trivial
      | logic =>
          exact ⟨(l.substitute_type).trans hnode.1.1, (r.substitute_type).trans hnode.1.2⟩
      | coalesce =>
          have hsame : l.type = r.type := hnode.1
          show (l.substitute values).type = (r.substitute values).type
          rw [Expr.substitute_type, Expr.substitute_type, hsame]
  | .call method args =>
      obtain ⟨hnode, hargs⟩ := h
      rw [Expr.substitute]
      split
      · trivial
      · exact ⟨trivial, substituteAll_agreeing args hargs⟩
  | .conditional t y n =>
      obtain ⟨hnode, ht, hy, hn⟩ := h
      have hsame : y.type = n.type := hnode.1
      rw [Expr.substitute]
      refine ⟨?_, t.substitute_agreeing ht, y.substitute_agreeing hy, n.substitute_agreeing hn⟩
      show (y.substitute values).type = (n.substitute values).type
      rw [Expr.substitute_type, Expr.substitute_type, hsame]
  | .constant _ _ | .input _ =>
      rw [Expr.substitute]
      trivial
  | .convert x _ | .member x _ _ | .typeIs x _ | .not x | .negate x =>
      obtain ⟨_, hx⟩ := h
      rw [Expr.substitute]
      exact ⟨trivial, x.substitute_agreeing hx⟩
  | .construct _ ms =>
      obtain ⟨_, hms⟩ := h
      rw [Expr.substitute]
      exact ⟨trivial, substituteMembers_agreeing ms hms⟩
  | .array _ xs =>
      obtain ⟨_, hxs⟩ := h
      rw [Expr.substitute]
      exact ⟨trivial, substituteAll_agreeing xs hxs⟩

theorem substituteAll_agreeing (es : List Expr) (h : everywhereAll RegularNode es) :
    everywhereAll AgreeingNode (substituteAll values es) := by
  match es with
  | [] => trivial
  | e :: rest =>
      obtain ⟨he, hrest⟩ := h
      exact ⟨e.substitute_agreeing he, substituteAll_agreeing rest hrest⟩

theorem substituteMembers_agreeing (ms : List (String × Expr))
    (h : everywhereMembers RegularNode ms) :
    everywhereMembers AgreeingNode (substituteMembers values ms) := by
  match ms with
  | [] => trivial
  | (_, e) :: rest =>
      obtain ⟨he, hrest⟩ := h
      exact ⟨e.substitute_agreeing he, substituteMembers_agreeing rest hrest⟩

end

/-! ## One node, folded early or late

In these lemmas `l'` and `r'` are the folded operands, and `a` and `b` are what
they fold to once the values are in place. -/

theorem eq_of_constant {v : Value} {t : Ty} {a : Expr}
    (h : ((Expr.constant v t).substitute values).fold = .ok a) : Expr.constant v t = a := by
  rw [Expr.substitute] at h
  exact Expr.fold_constant.mp h

theorem Expr.eq_of_bool {e : Expr} {b : Bool} (h : e.bool? = some b) :
    e = .constant (.bool b) e.type := by
  rw [bool?.eq_def] at h
  split at h
  · cases h
    rfl
  · cases h

theorem eq_of_bool {l' a : Expr} {b : Bool} (h : l'.bool? = some b)
    (hl : (l'.substitute values).fold = .ok a) : l' = a := by
  rw [Expr.eq_of_bool h] at hl ⊢
  exact eq_of_constant hl

/-- The constant that does not decide leaves the other operand, also where that
is the constant that does: both are the same constant then. -/
theorem foldLogic_left {a b : Expr} {op : Statement.Connective}
    (ha : a.bool? = some !(op == .or)) (hb : b.type = .bool) : foldLogic a op b = b := by
  rw [foldLogic]
  split
  · next h =>
      have hdecides : b.bool? = some (op == .or) := by simpa [ha] using h
      rw [Expr.eq_of_bool hdecides, hb]
      rfl
  · rw [if_pos (by rw [ha]; rfl)]

theorem foldLogic_right {a b : Expr} {op : Statement.Connective}
    (hb : b.bool? = some !(op == .or)) (ha : a.type = .bool) (htb : b.type = .bool) :
    foldLogic a op b = a := by
  cases hv : a.bool? with
  | none =>
      rw [foldLogic, hv, hb]
      simp
  | some v =>
      rw [Expr.eq_of_bool hv, Expr.eq_of_bool hb, ha, htb]
      cases op <;> cases v <;> rfl

theorem foldLogic_decided {a b : Expr} {op : Statement.Connective}
    (h : a.bool? = some (op == .or) ∨ b.bool? = some (op == .or)) :
    foldLogic a op b = .ofValue (.bool (op == .or)) := by
  rw [foldLogic, if_pos (by simpa using h)]

theorem fold_kept {l' r' a b : Expr} (op : Operator) (hl : (l'.substitute values).fold = .ok a)
    (hr : (r'.substitute values).fold = .ok b) :
    ((Expr.binary l' op r').substitute values).fold
      = foldBinary (op.type l'.type r'.type) a op b := by
  rw [Expr.substitute, Expr.fold, hl, hr, Expr.substitute_type, Expr.substitute_type]
  rfl

theorem foldLogic_substitute {l' r' a b : Expr} (op : Statement.Connective)
    (hl : (l'.substitute values).fold = .ok a) (hr : (r'.substitute values).fold = .ok b)
    (ha : a.type = .bool) (hb : b.type = .bool) :
    ((foldLogic l' op r').substitute values).fold = .ok (foldLogic a op b) := by
  rw [foldLogic]
  split
  · -- an operand decided early, and it decides late
    next h =>
      rw [foldLogic_decided]
      · rfl
      · rcases (by simpa using h : l'.bool? = some (op == .or) ∨ r'.bool? = some (op == .or))
          with h | h
        · exact .inl (eq_of_bool h hl ▸ h)
        · exact .inr (eq_of_bool h hr ▸ h)
  · next h =>
      have hundecided : ∀ v, l'.bool? = some v ∨ r'.bool? = some v → v = !(op == .or) := by
        intro v hv
        rw [Bool.eq_not]
        rintro rfl
        exact h (by simpa using hv)
      split
      · next hsome =>
          obtain ⟨v, hv⟩ := Option.isSome_iff_exists.mp hsome
          obtain rfl := eq_of_bool hv hl
          rw [hundecided v (.inl hv)] at hv
          rw [hr, foldLogic_left hv hb]
      · split
        · next hsome =>
            obtain ⟨v, hv⟩ := Option.isSome_iff_exists.mp hsome
            obtain rfl := eq_of_bool hv hr
            rw [hundecided v (.inr hv)] at hv
            rw [hl, foldLogic_right hv ha hb]
        · rw [fold_kept (.logic op) hl hr, foldBinary_logic]

theorem foldCoalesce_substitute {l' r' a b : Expr}
    (hl : (l'.substitute values).fold = .ok a) (hr : (r'.substitute values).fold = .ok b) :
    ((foldCoalesce l' r').substitute values).fold = .ok (foldCoalesce a b) := by
  rw [foldCoalesce.eq_def l' r']
  split
  · obtain rfl := eq_of_constant hl
    exact hr
  · next v t hv =>
      obtain rfl := eq_of_constant hl
      rw [hl, foldCoalesce.eq_def]
      split
      · next heq => cases heq; exact (hv rfl).elim
      · next heq => cases heq; rfl
      · next heq => exact absurd rfl (heq _ _)
  · exact fold_kept .coalesce hl hr

theorem foldRelation_substitute {l' r' a b e q : Expr} {op : Statement.Relation}
    (hl : (l'.substitute values).fold = .ok a) (hr : (r'.substitute values).fold = .ok b)
    (he : foldRelation l' (.relation op) r' = .ok e) (hq : foldRelation a (.relation op) b = .ok q) :
    (e.substitute values).fold = .ok q := by
  rw [foldRelation.eq_def] at he
  split at he
  · obtain rfl := eq_of_constant hl
    obtain rfl := eq_of_constant hr
    obtain ⟨result, hresult, he⟩ := bind_eq_ok.mp he
    cases he
    rw [foldRelation, hresult] at hq
    cases hq
    rfl
  · cases he
    rw [fold_kept (.relation op) hl hr]
    exact hq

/-- Arithmetic gives a constant or keeps the node. -/
theorem foldArith_cases {t : Ty} {l r e : Expr} {op : Operator} (h : foldArith t l op r = .ok e) :
    (∃ v, e = .constant v t) ∨ e = .binary l op r := by
  rw [foldArith.eq_def] at h
  split at h
  · split at h
    · cases h
      exact .inl ⟨_, rfl⟩
    · rw [foldNumbers.eq_def] at h
      split at h
      · obtain ⟨result, _, h⟩ := bind_eq_ok.mp h
        obtain ⟨v, _, h⟩ := bind_eq_ok.mp h
        cases h
        exact .inl ⟨v, rfl⟩
      · cases h
        exact .inr rfl
  · cases h
    exact .inr rfl

theorem foldArith_substitute {l' r' a b e q : Expr} {op : Statement.Arith}
    (hl : (l'.substitute values).fold = .ok a) (hr : (r'.substitute values).fold = .ok b)
    (he : foldArith l'.type l' (.arith op) r' = .ok e)
    (hq : foldArith l'.type a (.arith op) b = .ok q) : (e.substitute values).fold = .ok q := by
  rcases foldArith_cases he with ⟨v, rfl⟩ | rfl
  · -- only two constants give a constant, and they are still there
    rw [foldArith.eq_def] at he
    split at he
    · obtain rfl := eq_of_constant hl
      obtain rfl := eq_of_constant hr
      rw [foldArith, he] at hq
      cases hq
      rfl
    · cases he
  · rw [fold_kept (.arith op) hl hr]
    exact hq

theorem foldConvert_substitute {x' a e q : Expr} {t : Ty}
    (hx : (x'.substitute values).fold = .ok a) (he : foldConvert x' t = .ok e)
    (hq : foldConvert a t = .ok q) : (e.substitute values).fold = .ok q := by
  have hkept : ((Expr.convert x' t).substitute values).fold = .ok q := by
    rw [Expr.substitute, Expr.fold, hx]
    exact hq
  rw [foldConvert.eq_def] at he
  split at he
  · obtain rfl := eq_of_constant hx
    split at he
    · next h =>
        rw [foldConvert, if_pos h, he] at hq
        obtain ⟨v, _, he⟩ := bind_eq_ok.mp he
        cases he
        cases hq
        rfl
    · cases he
      exact hkept
  · cases he
    exact hkept

theorem foldConditional_substitute {t' y' n' a b c : Expr}
    (ht : (t'.substitute values).fold = .ok a) (hy : (y'.substitute values).fold = .ok b)
    (hn : (n'.substitute values).fold = .ok c) :
    ((foldConditional t' y' n').substitute values).fold = .ok (foldConditional a b c) := by
  rw [foldConditional.eq_def t' y' n']
  split
  · next h =>
      obtain rfl := eq_of_bool h ht
      rw [hy, foldConditional, h]
  · next h =>
      obtain rfl := eq_of_bool h ht
      rw [hn, foldConditional, h]
  · rw [Expr.substitute, Expr.fold, ht, hy, hn]
    rfl

theorem foldNot_substitute {x' a : Expr} (hx : (x'.substitute values).fold = .ok a) :
    ((foldNot x').substitute values).fold = .ok (foldNot a) := by
  rw [foldNot.eq_def x']
  split
  · next h =>
      obtain rfl := eq_of_bool h hx
      rw [foldNot, h]
      rfl
  · rw [Expr.substitute, Expr.fold, hx]
    rfl

theorem foldNegate_substitute {x' a e q : Expr} (hx : (x'.substitute values).fold = .ok a)
    (he : foldNegate x'.type x' = .ok e) (hq : foldNegate x'.type a = .ok q) :
    (e.substitute values).fold = .ok q := by
  rw [foldNegate.eq_def] at he
  split at he
  · next n h =>
      -- only a constant has a number
      have hconstant : x' = a := by
        cases x' with
        | constant => exact eq_of_constant hx
        | _ => cases h
      subst hconstant
      rw [foldNegate, h] at hq
      simp only at hq
      rw [he] at hq
      obtain ⟨result, _, he⟩ := bind_eq_ok.mp he
      obtain ⟨v, _, he⟩ := bind_eq_ok.mp he
      cases he
      cases hq
      rfl
  · cases he
    rw [Expr.substitute, Expr.fold, hx, Expr.substitute_type]
    exact hq

theorem foldAll_constants {xs as : List Expr} (hxs : foldAll (substituteAll values xs) = .ok as)
    (h : xs.all Expr.isConstant = true) : xs = as := by
  induction xs generalizing as with
  | nil => exact foldAll_nil.mp hxs
  | cons x xs ih =>
      rw [List.all_cons, Bool.and_eq_true] at h
      obtain ⟨a, ha, rest, hrest, rfl⟩ := foldAll_cons.mp hxs
      rw [ih hrest h.2]
      cases x with
      | constant => rw [eq_of_constant ha]
      | _ => cases h.1

theorem foldArray_substitute {item : Ty} {xs' as : List Expr}
    (hxs : foldAll (substituteAll values xs') = .ok as) :
    ((foldArray item xs').substitute values).fold = .ok (foldArray item as) := by
  by_cases h : xs'.all Expr.isConstant = true
  · obtain rfl := foldAll_constants hxs h
    rw [foldArray, if_pos h]
    rfl
  · rw [foldArray, if_neg h, Expr.substitute, Expr.fold, hxs]
    rfl

/-! ## Whole expressions -/

/-- What is left of a folded operand of a regular node is a condition wherever
the operand is one. -/
theorem fold_substituted_type {e a : Expr} (h : e.Everywhere RegularNode)
    (ha : (e.substitute values).fold = .ok a) : a.type = e.type := by
  rw [Expr.fold_type (e.substitute_agreeing h) ha, Expr.substitute_type]

theorem accessor_fold {method : Method} {args : List Expr} {x : String × Option Kind}
    (h : accessor? method args = some x) : foldAll args = .ok args := by
  rw [accessor?.eq_def] at h
  split at h
  · rfl
  · cases h

mutual

theorem Expr.substitute_fold {e e' q : Expr} (h : e.Everywhere RegularNode)
    (he : e.fold = .ok e') (hq : (e.substitute values).fold = .ok q) :
    (e'.substitute values).fold = .ok q := by
  match e with
  | .binary l op r =>
      obtain ⟨hnode, hl, hr⟩ := h
      obtain ⟨l', hl', r', hr', he⟩ := Expr.fold_binary.mp he
      rw [Expr.substitute] at hq
      obtain ⟨a, ha, b, hb, hq⟩ := Expr.fold_binary.mp hq
      have hla := Expr.substitute_fold hl hl' ha
      have hrb := Expr.substitute_fold hr hr' hb
      rw [Expr.substitute_type, Expr.substitute_type] at hq
      cases op with
      | relation op => exact foldRelation_substitute hla hrb he hq
      | logic op =>
          rw [foldBinary_logic] at he hq
          cases he
          cases hq
          exact foldLogic_substitute op hla hrb ((fold_substituted_type hl ha).trans hnode.1.1)
            ((fold_substituted_type hr hb).trans hnode.1.2)
      | arith op =>
          have htype : l'.type = l.type := Expr.fold_type (hl.mono fun _ h => h.1) hl'
          have he : foldArith l.type l' (.arith op) r' = .ok e' := he
          have hq : foldArith l.type a (.arith op) b = .ok q := hq
          rw [← htype] at he hq
          exact foldArith_substitute hla hrb he hq
      | coalesce =>
          cases he
          cases hq
          exact foldCoalesce_substitute hla hrb
  | .call method args =>
      obtain ⟨hnode, hargs⟩ := h
      obtain ⟨args', hargs', rfl⟩ := Expr.fold_call.mp he
      cases hacc : accessor? method args with
      | some x =>
          rw [accessor_fold hacc] at hargs'
          cases hargs'
          exact hq
      | none =>
          -- a call that reads no field of the input reads no field at all
          have hnone : ∀ as, accessor? method as = none := by
            intro as
            cases method with
            | getValue kind =>
                obtain ⟨name, hname⟩ := hnode.2
                rw [hname] at hacc
                cases hacc
            | _ => rfl
          rw [Expr.substitute, hnone] at hq ⊢
          obtain ⟨as, has, rfl⟩ := Expr.fold_call.mp hq
          exact Expr.fold_call.mpr ⟨as, substituteAll_fold hargs hargs' has, rfl⟩
  | .conditional t y n =>
      obtain ⟨_, ht, hy, hn⟩ := h
      obtain ⟨t', ht', y', hy', n', hn', rfl⟩ := Expr.fold_conditional.mp he
      rw [Expr.substitute] at hq
      obtain ⟨a, ha, b, hb, c, hc, rfl⟩ := Expr.fold_conditional.mp hq
      exact foldConditional_substitute (Expr.substitute_fold ht ht' ha)
        (Expr.substitute_fold hy hy' hb) (Expr.substitute_fold hn hn' hc)
  | .constant v t =>
      cases Expr.fold_constant.mp he
      exact hq
  | .convert x t =>
      obtain ⟨_, hx⟩ := h
      obtain ⟨x', hx', he⟩ := Expr.fold_convert.mp he
      rw [Expr.substitute] at hq
      obtain ⟨a, ha, hq⟩ := Expr.fold_convert.mp hq
      exact foldConvert_substitute (Expr.substitute_fold hx hx' ha) he hq
  | .input t =>
      cases Expr.fold_input.mp he
      exact hq
  | .member x ref t =>
      obtain ⟨_, hx⟩ := h
      obtain ⟨x', hx', rfl⟩ := Expr.fold_member.mp he
      rw [Expr.substitute] at hq ⊢
      obtain ⟨a, ha, rfl⟩ := Expr.fold_member.mp hq
      exact Expr.fold_member.mpr ⟨a, Expr.substitute_fold hx hx' ha, rfl⟩
  | .construct t ms =>
      obtain ⟨_, hms⟩ := h
      obtain ⟨ms', hms', rfl⟩ := Expr.fold_construct.mp he
      rw [Expr.substitute] at hq ⊢
      obtain ⟨as, has, rfl⟩ := Expr.fold_construct.mp hq
      exact Expr.fold_construct.mpr ⟨as, substituteMembers_fold hms hms' has, rfl⟩
  | .array item xs =>
      obtain ⟨_, hxs⟩ := h
      obtain ⟨xs', hxs', rfl⟩ := Expr.fold_array.mp he
      rw [Expr.substitute] at hq
      obtain ⟨as, has, rfl⟩ := Expr.fold_array.mp hq
      exact foldArray_substitute (substituteAll_fold hxs hxs' has)
  | .typeIs x record =>
      obtain ⟨_, hx⟩ := h
      obtain ⟨x', hx', rfl⟩ := Expr.fold_typeIs.mp he
      rw [Expr.substitute] at hq ⊢
      obtain ⟨a, ha, rfl⟩ := Expr.fold_typeIs.mp hq
      exact Expr.fold_typeIs.mpr ⟨a, Expr.substitute_fold hx hx' ha, rfl⟩
  | .not x =>
      obtain ⟨_, hx⟩ := h
      obtain ⟨x', hx', rfl⟩ := Expr.fold_not.mp he
      rw [Expr.substitute] at hq
      obtain ⟨a, ha, rfl⟩ := Expr.fold_not.mp hq
      exact foldNot_substitute (Expr.substitute_fold hx hx' ha)
  | .negate x =>
      obtain ⟨_, hx⟩ := h
      obtain ⟨x', hx', he⟩ := Expr.fold_negate.mp he
      rw [Expr.substitute] at hq
      obtain ⟨a, ha, hq⟩ := Expr.fold_negate.mp hq
      have htype : x'.type = x.type := Expr.fold_type (hx.mono fun _ h => h.1) hx'
      rw [Expr.substitute_type, ← htype] at hq
      rw [← htype] at he
      exact foldNegate_substitute (Expr.substitute_fold hx hx' ha) he hq

theorem substituteAll_fold {es es' qs : List Expr} (h : everywhereAll RegularNode es)
    (he : foldAll es = .ok es') (hq : foldAll (substituteAll values es) = .ok qs) :
    foldAll (substituteAll values es') = .ok qs := by
  match es with
  | [] =>
      cases foldAll_nil.mp he
      exact hq
  | e :: rest =>
      obtain ⟨hnode, hrest⟩ := h
      obtain ⟨e', he', rest', hrest', rfl⟩ := foldAll_cons.mp he
      rw [substituteAll] at hq ⊢
      obtain ⟨a, ha, as, has, rfl⟩ := foldAll_cons.mp hq
      exact foldAll_cons.mpr
        ⟨a, Expr.substitute_fold hnode he' ha, as, substituteAll_fold hrest hrest' has, rfl⟩

theorem substituteMembers_fold {ms ms' qs : List (String × Expr)}
    (h : everywhereMembers RegularNode ms) (he : foldMembers ms = .ok ms')
    (hq : foldMembers (substituteMembers values ms) = .ok qs) :
    foldMembers (substituteMembers values ms') = .ok qs := by
  match ms with
  | [] =>
      cases foldMembers_nil.mp he
      exact hq
  | (name, e) :: rest =>
      obtain ⟨hnode, hrest⟩ := h
      obtain ⟨e', he', rest', hrest', rfl⟩ := foldMembers_cons.mp he
      rw [substituteMembers] at hq ⊢
      obtain ⟨a, ha, as, has, rfl⟩ := foldMembers_cons.mp hq
      exact foldMembers_cons.mpr
        ⟨a, Expr.substitute_fold hnode he' ha, as, substituteMembers_fold hrest hrest' has, rfl⟩

end

/-- Folding before the values of the input are known never changes what an
expression evaluates to once they are: the early fold followed by the late one
gives what the late fold alone gives, value and static type alike. -/
theorem fold_substitute_fold (values : String → Option Kind → Value) {e e' r : Expr}
    (h : e.Everywhere RegularNode) (he : e.fold = .ok e')
    (hr : (e.substitute values).fold = .ok r) :
    (e'.substitute values).fold = .ok r ∧ e'.type = e.type ∧ r.type = e.type :=
  ⟨Expr.substitute_fold h he hr, Expr.fold_type (h.mono fun _ h => h.1) he,
    fold_substituted_type h hr⟩

end

/-- A sum is compared, and the comparison is joined to a flag and a constant. -/
def guardedSum : Expr :=
  .binary (.ofValue (.bool true)) (.logic .and)
    (.binary
      (.binary
        (.binary (.get (.input .row) "A" (some .int32)) (.arith .add)
          (.binary (.ofValue (.int32 2)) (.arith .mul) (.ofValue (.int32 3))))
        (.relation .gt) (.ofValue (.int32 10)))
      (.logic .or) (.get (.input .row) "B" (some .bool)))

theorem fold_substitute_fold_guardedSum :
    let values : String → Option Kind → Value :=
      fun name _ => if name = "A" then .int32 5 else .bool false
    let folded : Expr :=
      .binary
        (.binary
          (.binary (.get (.input .row) "A" (some .int32)) (.arith .add)
            (.constant (.int32 6) (.scalar .int32)))
          (.relation .gt) (.ofValue (.int32 10)))
        (.logic .or) (.get (.input .row) "B" (some .bool))
    guardedSum.fold = .ok folded ∧
      (guardedSum.substitute values).fold = .ok (.ofValue (.bool true)) ∧
      (folded.substitute values).fold = .ok (.ofValue (.bool true)) := by
  intro values folded
  have hregular : guardedSum.Everywhere RegularNode := by
    simp [guardedSum, Expr.get, Expr.ofValue, Expr.Everywhere, everywhereAll, RegularNode,
      AgreeingNode, AccessorNode, accessor?, Expr.type, Operator.type, Method.type, typeOfValue]
  have hfolded : guardedSum.fold = .ok folded := rfl
  have hvalue : (guardedSum.substitute values).fold = .ok (.ofValue (.bool true)) := rfl
  exact ⟨hfolded, hvalue, (fold_substitute_fold values hregular hfolded hvalue).1⟩

end Inquiry.Host
