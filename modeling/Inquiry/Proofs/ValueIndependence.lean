import Inquiry.Compiler
import Inquiry.Proofs.Placement
import Inquiry.Proofs.WellFormed
import Mathlib.Data.List.Forall2

/-!
# The text of a condition does not depend on its parameters

Two predicates that differ only in the values of constants are compiled into
the same text. That is what parameters are for, and it is not obvious from the
code: constants are looked at in many places. A comparison asks whether one is
null, a condition whether one is a truth value, a value position whether one is
a record, and conversions go by static types. In all of them the question is
about the variant of the value or the type of the constant, and `Alike` fixes
both.

Some arguments are written into the text as they are: the names of accessors,
sizes, lists of values, patterns and the bounds of a range. There two
predicates that are alike are the same.

The proof runs both predicates side by side. `Twin` says of two computations
that they fail together or give one result, and what each of them registers on
the way. The parameters of a predicate are read off its tree: `Binding` lists
what they stand for. Not all of them stand for constants, for a boolean value
that is tested is compared with a parameter of its own.
-/

namespace Inquiry.Host

/-- Whether the argument of a method at the given place is written into the text. -/
def Method.inline : Method → Nat → Bool
  | .getValue _, 1 => true
  | .toNumber, 1 | .toText, 1 | .toDecimal, 1 | .toDecimal, 2 => true
  | .isIn, 1 | .inHierarchy, 1 | .notIn, 1 | .contains, 0 => true
  | .like, 1 | .like, 2 | .notLike, 1 | .notLike, 2 => true
  | .between, 1 | .between, 2 | .notBetween, 1 | .notBetween, 2 => true
  | _, _ => false

mutual

/-- Two expressions that are the same but for the values of constants, which are
of one variant and have one type. -/
inductive Alike : Expr → Expr → Prop where
  | binary {l l' r r' : Expr} (op : Operator) (hl : Alike l l') (hr : Alike r r') :
      Alike (.binary l op r) (.binary l' op r')
  | call {es es' : List Expr} (method : Method) (h : AlikeFrom method.inline 0 es es') :
      Alike (.call method es) (.call method es')
  | conditional {t t' y y' n n' : Expr} (ht : Alike t t') (hy : Alike y y') (hn : Alike n n') :
      Alike (.conditional t y n) (.conditional t' y' n')
  | constant {v v' : Value} (type : Ty) (h : v.variant = v'.variant) :
      Alike (.constant v type) (.constant v' type)
  | convert {x x' : Expr} (type : Ty) (h : Alike x x') : Alike (.convert x type) (.convert x' type)
  | input (type : Ty) : Alike (.input type) (.input type)
  | member {x x' : Expr} (ref : MemberRef) (type : Ty) (h : Alike x x') :
      Alike (.member x ref type) (.member x' ref type)
  | construct {ms ms' : List (String × Expr)} (type : Ty) (hnames : ms.map (·.1) = ms'.map (·.1))
      (h : AlikeFrom (fun _ => false) 0 (ms.map (·.2)) (ms'.map (·.2))) :
      Alike (.construct type ms) (.construct type ms')
  | array {es es' : List Expr} (item : Ty) (h : AlikeFrom (fun _ => false) 0 es es') :
      Alike (.array item es) (.array item es')
  | typeIs {x x' : Expr} (record : Nat) (h : Alike x x') :
      Alike (.typeIs x record) (.typeIs x' record)
  | not {x x' : Expr} (h : Alike x x') : Alike (.not x) (.not x')
  | negate {x x' : Expr} (h : Alike x x') : Alike (.negate x) (.negate x')

/-- The items of two lists are alike one by one, and the same where `same` says so.
Places are counted from the given number. -/
inductive AlikeFrom : (Nat → Bool) → Nat → List Expr → List Expr → Prop where
  | nil {same : Nat → Bool} {i : Nat} : AlikeFrom same i [] []
  | cons {same : Nat → Bool} {i : Nat} {e e' : Expr} {es es' : List Expr} (he : Alike e e')
      (hsame : same i = true → e = e') (hes : AlikeFrom same (i + 1) es es') :
      AlikeFrom same i (e :: es) (e' :: es')

end

theorem isNull_eq_of_variant {v w : Value} (h : v.variant = w.variant) : v.isNull = w.isNull := by
  have hvariant : ∀ u : Value, u.isNull = (u.variant == "Null") := by intro u; cases u <;> rfl
  rw [hvariant, hvariant, h]

theorem isRecord_eq_of_variant {v w : Value} (h : v.variant = w.variant) :
    v.isRecord = w.isRecord := by
  have hvariant : ∀ u : Value, u.isRecord = (u.variant == "Record") := by intro u; cases u <;> rfl
  rw [hvariant, hvariant, h]

theorem isBool_eq_of_variant {v w : Value} (h : v.variant = w.variant) :
    v.bool?.isSome = w.bool?.isSome := by
  have hvariant : ∀ u : Value, u.bool?.isSome = (u.variant == "Bool") := by intro u; cases u <;> rfl
  rw [hvariant, hvariant, h]

/-- Static types do not depend on values. -/
theorem Alike.type_eq {e e' : Expr} (h : Alike e e') : e.type = e'.type := by
  match e with
  | .binary l op r =>
      cases h with
      | binary _ hl hr => rw [Expr.type, Expr.type, hl.type_eq, hr.type_eq]
  | .conditional _ y _ =>
      cases h with
      | conditional _ hy _ => exact hy.type_eq
  | .negate x =>
      cases h with
      | negate hx => exact hx.type_eq
  | .call .. | .constant .. | .convert .. | .input .. | .member .. | .construct .. | .array ..
  | .typeIs .. | .not .. => cases h; rfl

theorem Alike.isNull_eq {e e' : Expr} (h : Alike e e') : e.isNull = e'.isNull := by
  have hconstant : ∀ v t, (Expr.constant v t).isNull = v.isNull := by
    intro v t
    cases v <;> rfl
  cases h with
  | constant type hv => rw [hconstant, hconstant, isNull_eq_of_variant hv]
  | _ => rfl

end Inquiry.Host

namespace Inquiry.Lower

open Host (Alike AlikeFrom Method)

/-! ## What parameters stand for -/

/-- What a parameter stands for: a constant of the predicate, or the truth with
which a boolean value is compared that stands as a condition. -/
inductive Binding where
  | constant (v : Value)
  | truth

namespace Binding

def value : Binding → Value
  | constant v => v
  | truth => .bool true

/-- Bindings of one place in two predicates that are alike. -/
def Corresponds : Binding → Binding → Prop
  | constant v, constant w => v.variant = w.variant
  | truth, truth => True
  | _, _ => False

end Binding

mutual

/-- The bindings of an expression in a value position, in the order of the text. -/
def valueBindings : Host.Expr → List Binding
  | .binary l _ r => valueBindings l ++ valueBindings r
  | .call method args => argumentBindings method.inline 0 args
  | .conditional t y n => conditionBindings t ++ (valueBindings y ++ valueBindings n)
  | .constant v _ => if v.isNull then [] else [.constant v]
  | .convert x _ | .member x _ _ | .negate x => valueBindings x
  | .input _ | .construct _ _ | .array _ _ | .typeIs _ _ | .not _ => []

/-- The bindings of an expression that stands as a condition. -/
def conditionBindings : Host.Expr → List Binding
  | .binary l (.relation _) r => valueBindings l ++ valueBindings r
  | .binary l (.logic _) r => conditionBindings l ++ conditionBindings r
  | .binary l (.arith _) r | .binary l .coalesce r =>
      (valueBindings l ++ valueBindings r) ++ [.truth]
  | .call method args =>
      argumentBindings method.inline 0 args ++ if isPredicate method then [] else [.truth]
  | .conditional t y n =>
      (conditionBindings t ++ (valueBindings y ++ valueBindings n)) ++ [.truth]
  | .constant v _ => (if v.isNull then [] else [.constant v]) ++ [.truth]
  | .convert x _ | .member x _ _ | .negate x => valueBindings x ++ [.truth]
  | .typeIs x _ => valueBindings x
  | .not x => conditionBindings x
  | .input _ | .construct _ _ | .array _ _ => [.truth]

/-- The bindings of arguments, but for those that are written into the text. -/
def argumentBindings (same : Nat → Bool) : Nat → List Host.Expr → List Binding
  | _, [] => []
  | i, e :: rest => (if same i then [] else valueBindings e) ++ argumentBindings same (i + 1) rest

end

/-! ## Two runs side by side -/

/-- From lists of one length and one stem, both computations fail or both give one
result, after registering corresponding bindings. -/
def Twin {α : Type} (m n : Lowering α) (bs cs : List Binding) : Prop :=
  ∀ ps qs : Parameters, ps.stem = qs.stem → ps.entries.length = qs.entries.length →
    (∃ err err', (m ps).1 = .error err ∧ (n qs).1 = .error err') ∨
      List.Forall₂ Binding.Corresponds bs cs ∧
        ∃ a, m ps = (.ok a, ps.addAll (bs.map Binding.value)) ∧
          n qs = (.ok a, qs.addAll (cs.map Binding.value))

section Rules

variable {α β : Type} {m n : Lowering α} {bs cs : List Binding}

theorem Twin.lift (r : Except Error α) : Twin (lift r) (lift r) [] [] := by
  intro ps qs _ _
  cases r with
  | error err => exact .inl ⟨err, err, rfl, rfl⟩
  | ok a => exact .inr ⟨.nil, a, rfl, rfl⟩

theorem Twin.pure (a : α) : Twin (Pure.pure a) (Pure.pure a) [] [] := Twin.lift (.ok a)

theorem Twin.call (func : Statement.Function) (args : List Statement.Expr) :
    Twin (call func args) (call func args) [] [] :=
  Twin.lift _

/-- Failures need not agree in what they say. -/
theorem Twin.error (err err' : Error) :
    Twin (α := α) (Lower.lift (.error err)) (Lower.lift (.error err')) bs cs :=
  fun _ _ _ _ => .inl ⟨err, err', rfl, rfl⟩

theorem Twin.refuse (r : Refusal) (e e' : Host.Expr) :
    Twin (α := α) (refuse r e) (refuse r e') bs cs :=
  Twin.error _ _

theorem length_addAll (ps : Parameters) (vs : List Value) :
    (ps.addAll vs).entries.length = ps.entries.length + vs.length := by
  have hfresh : (ps.fresh vs).length = vs.length := by
    rw [← List.length_map (f := Parameter.value), Parameters.fresh_values]
  rw [Parameters.addAll_entries, List.length_append, hfresh]

theorem Twin.bind {k l : α → Lowering β} {bs' cs' : List Binding} (hm : Twin m n bs cs)
    (hk : ∀ a, Twin (k a) (l a) bs' cs') : Twin (m >>= k) (n >>= l) (bs ++ bs') (cs ++ cs') := by
  intro ps qs hstem hlength
  rw [bind_apply, bind_apply]
  rcases hm ps qs hstem hlength with ⟨err, err', hps, hqs⟩ | ⟨hbs, a, hps, hqs⟩
  · left
    rcases hmp : m ps with ⟨_ | _, _⟩ <;> rw [hmp] at hps <;> cases hps
    rcases hnq : n qs with ⟨_ | _, _⟩ <;> rw [hnq] at hqs <;> cases hqs
    exact ⟨err, err', rfl, rfl⟩
  · rw [hps, hqs]
    -- corresponding bindings are of one number, so the lists stay of one length
    have hstem' : (ps.addAll (bs.map Binding.value)).stem =
        (qs.addAll (cs.map Binding.value)).stem := by
      rw [Parameters.addAll_stem, Parameters.addAll_stem, hstem]
    have hlength' : (ps.addAll (bs.map Binding.value)).entries.length =
        (qs.addAll (cs.map Binding.value)).entries.length := by
      rw [length_addAll, length_addAll, List.length_map, List.length_map, hbs.length_eq, hlength]
    rcases hk a _ _ hstem' hlength' with hfail | ⟨hbs', b, hps', hqs'⟩
    · exact .inl hfail
    · refine .inr ⟨List.rel_append hbs hbs', b, ?_, ?_⟩
      · simpa only [List.map_append, Parameters.addAll_append] using hps'
      · simpa only [List.map_append, Parameters.addAll_append] using hqs'

/-- In sequence with something that registers nothing. -/
theorem Twin.followed {k l : α → Lowering β} (hm : Twin m n bs cs)
    (hk : ∀ a, Twin (k a) (l a) [] []) : Twin (m >>= k) (n >>= l) bs cs := by
  have hbind := hm.bind hk
  rwa [List.append_nil, List.append_nil] at hbind

theorem Twin.map (hm : Twin m n bs cs) (f : α → β) :
    Twin (m >>= fun a => Pure.pure (f a)) (n >>= fun a => Pure.pure (f a)) bs cs :=
  hm.followed fun a => Twin.pure (f a)

theorem Twin.pad (hm : Twin m n bs cs) : Twin m n (bs ++ []) (cs ++ []) := by
  rwa [List.append_nil, List.append_nil]

theorem Twin.register {v w : Value} (h : v.variant = w.variant) :
    Twin (register v) (register w) [.constant v] [.constant w] := by
  intro ps qs hstem hlength
  refine .inr ⟨.cons h .nil, ps.nextName, rfl, ?_⟩
  have hname : ps.nextName = qs.nextName := by
    rw [Parameters.nextName, Parameters.nextName, hstem, hlength]
  rw [hname]
  rfl

end Rules

/-! ## Value expressions -/

theorem lowerConstant_twin {v w : Value} (h : v.variant = w.variant) :
    Twin (lowerConstant v .parameters) (lowerConstant w .parameters)
      (if v.isNull then [] else [.constant v]) (if w.isNull then [] else [.constant w]) := by
  rw [lowerConstant, lowerConstant, ← Host.isRecord_eq_of_variant h, ← Host.isNull_eq_of_variant h]
  cases v.isRecord with
  | true => exact Twin.error _ _
  | false =>
      cases v.isNull with
      | true => exact Twin.pure _
      | false => exact (Twin.register h).map fun name => Statement.Expr.param ⟨name⟩

theorem asTable_twin {e e' : Host.Expr} (h : Alike e e') {value value' : Lowering Statement.Expr}
    (hv : Twin value value' (valueBindings e) (valueBindings e')) :
    Twin (asTable e value) (asTable e' value') (valueBindings e) (valueBindings e') := by
  cases h with
  | input type =>
      rw [asTable, asTable, valueBindings]
      cases type.isRecord with
      | true => exact Twin.pure _
      | false => exact Twin.refuse _ _ _
  | member ref type _ =>
      rw [asTable, asTable]
      cases type.isRecord with
      | true => exact hv
      | false => exact Twin.refuse _ _ _
  | convert type _ =>
      cases type with
      | record id => exact hv
      | _ => exact Twin.refuse _ _ _
  | call method _ =>
      cases method with
      | toRecord id => exact hv
      | _ => exact Twin.refuse _ _ _
  | _ => exact Twin.refuse _ _ _

section

variable {lhs lhs' rhs rhs' operand operand' : Lowered} {bs bs' cs cs' : List Binding}

theorem lowerPair_twin (make : Statement.Expr → Statement.Expr → Statement.Expr)
    (hl : Twin (lhs .parameters) (lhs' .parameters) bs cs)
    (hr : Twin (rhs .parameters) (rhs' .parameters) bs' cs') :
    Twin (lowerPair lhs rhs make .parameters) (lowerPair lhs' rhs' make .parameters)
      (bs ++ bs') (cs ++ cs') :=
  hl.bind fun l => hr.map (make l)

theorem lowerBinary_twin (whole whole' : Host.Expr) (op : Host.Operator)
    (hl : Twin (lhs .parameters) (lhs' .parameters) bs cs)
    (hr : Twin (rhs .parameters) (rhs' .parameters) bs' cs') :
    Twin (lowerBinary whole op lhs rhs .parameters) (lowerBinary whole' op lhs' rhs' .parameters)
      (bs ++ bs') (cs ++ cs') := by
  cases op with
  | arith op => exact lowerPair_twin _ hl hr
  | coalesce => exact hl.bind fun l => hr.followed fun r => Twin.call _ _
  | relation _ | logic _ => exact Twin.refuse _ _ _

theorem lowerCast_twin (type : Except Error Statement.CastType)
    (h : Twin (operand .parameters) (operand' .parameters) bs cs) :
    Twin (lowerCast type operand .parameters) (lowerCast type operand' .parameters) bs cs :=
  (Twin.lift type).bind fun t => h.map fun x => Statement.Expr.cast x t

theorem lowerNegate_twin (h : Twin (operand .parameters) (operand' .parameters) bs cs) :
    Twin (lowerNegate operand .parameters) (lowerNegate operand' .parameters) bs cs :=
  h.map Statement.Expr.negate

theorem lowerFunction_twin (func : Statement.Function) (others : List Statement.Expr)
    (h : Twin (operand .parameters) (operand' .parameters) bs cs) :
    Twin (lowerFunction func operand others .parameters)
      (lowerFunction func operand' others .parameters) bs cs :=
  h.followed fun x => Twin.call func (x :: others)

end

/-- The arguments of two calls, which run side by side and are the same where
they are written into the text. -/
inductive TwinArguments (same : Nat → Bool) : Nat → List Argument → List Argument → Prop where
  | nil {i : Nat} : TwinArguments same i [] []
  | cons {i : Nat} {a a' : Argument} {rest rest' : List Argument} (halike : Alike a.1 a'.1)
      (h : Twin (a.2 .parameters) (a'.2 .parameters) (valueBindings a.1) (valueBindings a'.1))
      (hsame : same i = true → a = a') (hrest : TwinArguments same (i + 1) rest rest') :
      TwinArguments same i (a :: rest) (a' :: rest')

theorem lowerGet_twin (whole whole' : Host.Expr) {record record' : Argument} (name : Host.Expr)
    (halike : Alike record.1 record'.1)
    (h : Twin (record.2 .parameters) (record'.2 .parameters) (valueBindings record.1)
      (valueBindings record'.1)) :
    Twin (lowerGet whole record name .parameters) (lowerGet whole' record' name .parameters)
      (valueBindings record.1 ++ []) (valueBindings record'.1 ++ []) := by
  refine (asTable_twin halike h).bind fun table => ?_
  split
  · exact Twin.pure _
  · exact Twin.refuse _ _ _

/-- The bindings of the arguments of a call. -/
abbrev bindingsOf (method : Method) (args : List Argument) : List Binding :=
  argumentBindings method.inline 0 (args.map (·.1))

theorem lowerCall_twin (s : Mapping) (whole whole' : Host.Expr) (method : Method)
    {args args' : List Argument} (h : TwinArguments method.inline 0 args args') :
    Twin (lowerCall s whole method args .parameters) (lowerCall s whole' method args' .parameters)
      (bindingsOf method args) (bindingsOf method args') := by
  cases method with
  | getValue kind =>
      rcases h with _ | ⟨halike, hx, _, _ | ⟨_, _, hname, _ | _⟩⟩
      · exact Twin.refuse _ _ _
      · exact Twin.refuse _ _ _
      · obtain rfl := hname rfl
        exact lowerGet_twin whole whole' _ halike hx
      · exact Twin.refuse _ _ _
  | toNumber | toText =>
      rcases h with _ | ⟨_, hx, _, _ | ⟨_, _, hsize, _ | _⟩⟩
      · exact Twin.refuse _ _ _
      · exact Twin.refuse _ _ _
      · obtain rfl := hsize rfl
        exact (lowerCast_twin _ hx).pad
      · exact Twin.refuse _ _ _
  | toDecimal =>
      rcases h with _ | ⟨_, hx, _, _ | ⟨_, _, hsize, _ | ⟨_, _, hprecision, _ | _⟩⟩⟩
      · exact Twin.refuse _ _ _
      · exact Twin.refuse _ _ _
      · exact Twin.refuse _ _ _
      · obtain rfl := hsize rfl
        obtain rfl := hprecision rfl
        exact (lowerCast_twin _ hx).pad
      · exact Twin.refuse _ _ _
  | toRecord id =>
      rcases h with _ | ⟨_, hx, _, _ | _⟩
      · exact Twin.refuse _ _ _
      · exact (lowerCast_twin _ hx).pad
      · exact Twin.refuse _ _ _
  | substring =>
      rcases h with _ | ⟨_, ht, _, _ | ⟨_, hi, _, _ | ⟨_, hn, _, _ | _⟩⟩⟩
      · exact Twin.refuse _ _ _
      · exact Twin.refuse _ _ _
      · exact Twin.refuse _ _ _
      · exact ht.bind fun t => hi.bind fun i =>
          (hn.followed fun n => Twin.call .substring [t, i, n]).pad
      · exact Twin.refuse _ _ _
  | datePart _ | beginOfPeriod _ | endOfPeriod _ =>
      rcases h with _ | ⟨_, hx, _, _ | _⟩
      · exact Twin.refuse _ _ _
      · exact (lowerFunction_twin _ _ hx).pad
      · exact Twin.refuse _ _ _
  | isIn | inHierarchy | notIn | contains | like | notLike | between | notBetween =>
      exact Twin.refuse _ _ _

theorem lowerConvert_twin (s : Mapping) {e e' : Host.Expr} (h : Alike e e') (t : Host.Ty)
    {value value' : Lowered} {bs cs : List Binding}
    (hv : Twin (value .parameters) (value' .parameters) bs cs) :
    Twin (lowerConvert s e t value .parameters) (lowerConvert s e' t value' .parameters) bs cs := by
  rw [lowerConvert, lowerConvert, h.type_eq]
  split
  · exact hv
  · split
    · exact lowerCast_twin _ hv
    · split
      · exact hv
      · exact Twin.error _ _

theorem lowerMember_twin (s : Mapping) {e e' : Host.Expr} (h : Alike e e') (ref : Host.MemberRef)
    {value value' : Lowered}
    (hv : Twin (value .parameters) (value' .parameters) (valueBindings e) (valueBindings e')) :
    Twin (lowerMember s e ref value .parameters) (lowerMember s e' ref value' .parameters)
      (valueBindings e) (valueBindings e') := by
  cases ref with
  | datePart part => exact lowerFunction_twin _ _ hv
  | field id =>
      exact (asTable_twin h hv).followed fun table =>
        (Twin.lift (fieldOf s id)).map fun name => Statement.Expr.field table ⟨name⟩

theorem isConditional_eq {e e' : Host.Expr} (h : Alike e e') :
    isConditional e = isConditional e' := by
  cases h <;> rfl

theorem lowerConditional_twin {test test' : LoweredCondition} {yes yes' : Lowered}
    {no no' : Argument} {bs bs' bs'' cs cs' cs'' : List Binding} (halike : Alike no.1 no'.1)
    (ht : Twin (test .parameters) (test' .parameters) bs cs)
    (hy : Twin (yes .parameters) (yes' .parameters) bs' cs')
    (hn : Twin (no.2 .parameters) (no'.2 .parameters) bs'' cs'') :
    Twin (lowerConditional test yes no .parameters) (lowerConditional test' yes' no' .parameters)
      (bs ++ (bs' ++ bs'')) (cs ++ (cs' ++ cs'')) := by
  rw [lowerConditional, lowerConditional, isConditional_eq halike]
  exact ht.bind fun c => hy.bind fun v => hn.followed fun rest => Twin.lift _

/-! ## Conditions -/

theorem lowerNullTest_twin (whole whole' : Host.Expr) (op : Statement.Relation)
    {operand operand' : Lowered} {bs cs : List Binding}
    (h : Twin (operand .parameters) (operand' .parameters) bs cs) :
    Twin (lowerNullTest whole op operand .parameters) (lowerNullTest whole' op operand' .parameters)
      bs cs := by
  cases op with
  | eq => exact h.map fun x => Statement.Condition.isNull x true
  | ne => exact h.map fun x => Statement.Condition.isNull x false
  | gt | ge | lt | le => exact h.followed fun _ => Twin.refuse _ _ _

theorem valueBindings_null {e e' : Host.Expr} (h : Alike e e') (hnull : e.isNull = true) :
    valueBindings e = [] ∧ valueBindings e' = [] := by
  have hempty : ∀ e : Host.Expr, e.isNull = true → valueBindings e = [] := by
    intro e he
    unfold Host.Expr.isNull at he
    split at he
    · rfl
    · cases he
  exact ⟨hempty e hnull, hempty e' (h.isNull_eq.symm.trans hnull)⟩

theorem lowerRelation_twin (whole whole' : Host.Expr) (op : Statement.Relation)
    {lhs lhs' rhs rhs' : Argument} (hal : Alike lhs.1 lhs'.1) (har : Alike rhs.1 rhs'.1)
    (hl : Twin (lhs.2 .parameters) (lhs'.2 .parameters) (valueBindings lhs.1)
      (valueBindings lhs'.1))
    (hr : Twin (rhs.2 .parameters) (rhs'.2 .parameters) (valueBindings rhs.1)
      (valueBindings rhs'.1)) :
    Twin (lowerRelation whole op lhs rhs .parameters)
      (lowerRelation whole' op lhs' rhs' .parameters)
      (valueBindings lhs.1 ++ valueBindings rhs.1)
      (valueBindings lhs'.1 ++ valueBindings rhs'.1) := by
  rw [lowerRelation, lowerRelation, ← hal.isNull_eq, ← har.isNull_eq]
  cases hlnull : lhs.1.isNull with
  | false =>
      cases hrnull : rhs.1.isNull with
      | false => exact hl.bind fun l => hr.map fun r => Statement.Condition.relation l op r
      | true =>
          obtain ⟨hnil, hnil'⟩ := valueBindings_null har hrnull
          rw [hnil, hnil']
          exact (lowerNullTest_twin whole whole' op hl).pad
  | true =>
      cases hrnull : rhs.1.isNull with
      | false =>
          obtain ⟨hnil, hnil'⟩ := valueBindings_null hal hlnull
          rw [hnil, hnil']
          exact lowerNullTest_twin whole whole' op hr
      | true => exact Twin.refuse _ _ _

theorem lowerIn_twin (values : Host.Expr) (positive hierarchy : Bool) {operand operand' : Lowered}
    {bs cs : List Binding} (h : Twin (operand .parameters) (operand' .parameters) bs cs) :
    Twin (lowerIn operand values positive hierarchy .parameters)
      (lowerIn operand' values positive hierarchy .parameters) (bs ++ []) (cs ++ []) :=
  h.bind fun x => (Twin.lift (valueList values)).map fun vs =>
    Statement.Condition.inList x vs positive hierarchy

/-- Both predicates have the same pattern and the same escape. -/
theorem lowerLike_twin (whole whole' : Host.Expr) {operand operand' : Lowered}
    (pattern : Host.Expr) {escape escape' : List Argument} (positive : Bool)
    {bs bs' cs cs' : List Binding}
    (hescape : Twin (lift (escapeOf whole escape)) (lift (escapeOf whole' escape')) bs' cs')
    (h : Twin (operand .parameters) (operand' .parameters) bs cs) :
    Twin (lowerLike whole operand pattern escape positive .parameters)
      (lowerLike whole' operand' pattern escape' positive .parameters) (bs ++ bs') (cs ++ cs') := by
  refine h.bind fun x => ?_
  split
  · exact Twin.refuse _ _ _
  · exact hescape.map fun c => Statement.Condition.like x _ c positive

theorem lowerBetween_twin {operand operand' start stop : Lowered} (positive : Bool)
    {lower upper : Except Error Statement.Expr} {bs cs : List Binding}
    (hstart : start .literals = lift lower) (hstop : stop .literals = lift upper)
    (h : Twin (operand .parameters) (operand' .parameters) bs cs) :
    Twin (lowerBetween operand start stop positive .parameters)
      (lowerBetween operand' start stop positive .parameters) (bs ++ []) (cs ++ []) := by
  rw [lowerBetween, lowerBetween, hstart, hstop]
  exact h.bind fun x => (Twin.lift lower).bind fun a => (Twin.lift upper).map fun b =>
    Statement.Condition.between x a b positive

theorem lowerFlag_twin {e e' : Host.Expr} (h : Alike e e') {value value' : Lowered}
    {bs cs : List Binding} (hv : Twin (value .parameters) (value' .parameters) bs cs) :
    Twin (lowerFlag e value .parameters) (lowerFlag e' value' .parameters)
      (bs ++ [.truth]) (cs ++ [.truth]) := by
  rw [lowerFlag, lowerFlag, h.type_eq]
  split
  · have htruth : Twin (lowerConstant (.bool true) .parameters)
        (lowerConstant (.bool true) .parameters) [.truth] [.truth] := by
      intro ps qs hstem hlength
      have hname : ps.nextName = qs.nextName := by
        rw [Parameters.nextName, Parameters.nextName, hstem, hlength]
      exact .inr ⟨.cons trivial .nil, .param ⟨ps.nextName⟩, rfl, by rw [hname]; rfl⟩
    exact hv.bind fun l => htruth.map fun r => Statement.Condition.relation l .eq r
  · exact Twin.refuse _ _ _

theorem lowerFlag_twin_nil {e e' : Host.Expr} (h : Alike e e') {value value' : Lowered}
    (hv : Twin (value .parameters) (value' .parameters) [] []) :
    Twin (lowerFlag e value .parameters) (lowerFlag e' value' .parameters) [.truth] [.truth] :=
  lowerFlag_twin h hv

theorem lowerTypeTest_twin (s : Mapping) {operand operand' : Lowered} (record : Nat)
    {bs cs : List Binding} (h : Twin (operand .parameters) (operand' .parameters) bs cs) :
    Twin (lowerTypeTest s operand record .parameters) (lowerTypeTest s operand' record .parameters)
      bs cs :=
  h.followed fun x => (Twin.lift (tableOf s record)).map fun table =>
    Statement.Condition.refs x table

theorem lowerLogic_twin {lhs lhs' rhs rhs' : LoweredCondition} (op : Statement.Connective)
    {bs bs' cs cs' : List Binding} (hl : Twin (lhs .parameters) (lhs' .parameters) bs cs)
    (hr : Twin (rhs .parameters) (rhs' .parameters) bs' cs') :
    Twin (lowerLogic lhs op rhs .parameters) (lowerLogic lhs' op rhs' .parameters)
      (bs ++ bs') (cs ++ cs') :=
  hl.bind fun l => hr.map fun r => Statement.Condition.logic l op r

/-- An escape is read without looking at the whole. -/
theorem escapeOf_one (a : Argument) :
    (∃ c, ∀ whole, escapeOf whole [a] = .ok (some c)) ∨
      ∀ whole, escapeOf whole [a] = .error (Refusal.dynamicEscape.ofExpr whole) := by
  obtain ⟨e, m⟩ := a
  cases e with
  | constant v t =>
      cases v with
      | char c => exact .inl ⟨c, fun _ => rfl⟩
      | _ => exact .inr fun _ => rfl
  | _ => exact .inr fun _ => rfl

theorem escapeOf_twin (whole whole' : Host.Expr) {same : Nat → Bool} (hplace : same 2 = true)
    {escape escape' : List Argument} (h : TwinArguments same 2 escape escape') :
    Twin (lift (escapeOf whole escape)) (lift (escapeOf whole' escape'))
      (argumentBindings same 2 (escape.map (·.1)))
      (argumentBindings same 2 (escape'.map (·.1))) := by
  rcases h with _ | @⟨_, a, _, _, _, _, _, hsame, _ | _⟩
  · exact Twin.lift (.ok none)
  · obtain rfl := hsame hplace
    have hnone : argumentBindings same 2 [a.1] = [] := by
      rw [argumentBindings, argumentBindings, hplace]
      rfl
    rcases escapeOf_one a with ⟨c, hc⟩ | herror
    · rw [hc, hc, List.map_cons, List.map_nil, hnone]
      exact Twin.lift _
    · rw [herror, herror]
      exact Twin.error _ _
  · simp only [escapeOf]
    exact Twin.error _ _

theorem lowerPredicate_twin (whole whole' : Host.Expr) (method : Method)
    (hmethod : isPredicate method = true) {args args' : List Argument}
    (h : TwinArguments method.inline 0 args args')
    (hliterals : ∀ a ∈ args, ∃ plain, a.2 .literals = lift plain) :
    Twin (lowerPredicate whole method args .parameters)
      (lowerPredicate whole' method args' .parameters)
      (bindingsOf method args) (bindingsOf method args') := by
  cases method with
  | isIn | inHierarchy | notIn =>
      rcases h with _ | ⟨_, hx, _, _ | ⟨_, _, hvalues, _ | _⟩⟩
      · exact Twin.refuse _ _ _
      · exact Twin.refuse _ _ _
      · obtain rfl := hvalues rfl
        exact lowerIn_twin _ _ _ hx
      · exact Twin.refuse _ _ _
  | contains =>
      rcases h with _ | ⟨_, _, hvalues, _ | ⟨_, hx, _, _ | _⟩⟩
      · exact Twin.refuse _ _ _
      · exact Twin.refuse _ _ _
      · obtain rfl := hvalues rfl
        exact lowerIn_twin _ _ _ hx
      · exact Twin.refuse _ _ _
  | like | notLike =>
      rcases h with _ | ⟨_, hx, _, _ | ⟨_, _, hpattern, hescape⟩⟩
      · exact Twin.refuse _ _ _
      · exact Twin.refuse _ _ _
      · obtain rfl := hpattern rfl
        exact lowerLike_twin whole whole' _ _ (escapeOf_twin whole whole' rfl hescape) hx
  | between | notBetween =>
      rcases h with _ | ⟨_, hx, _, _ | ⟨_, _, hstart, _ | ⟨_, _, hstop, _ | _⟩⟩⟩
      · exact Twin.refuse _ _ _
      · exact Twin.refuse _ _ _
      · exact Twin.refuse _ _ _
      · obtain rfl := hstart rfl
        obtain rfl := hstop rfl
        obtain ⟨lower, hlower⟩ := hliterals _ (List.mem_cons_of_mem _ List.mem_cons_self)
        obtain ⟨upper, hupper⟩ := hliterals _
          (List.mem_cons_of_mem _ (List.mem_cons_of_mem _ List.mem_cons_self))
        exact lowerBetween_twin _ hlower hupper hx
      · exact Twin.refuse _ _ _
  | _ => cases hmethod

/-! ## Expressions -/

theorem lowerArguments_literals (s : Mapping) (es : List Host.Expr) :
    ∀ a ∈ lowerArguments s es, ∃ plain, a.2 .literals = lift plain := by
  induction es with
  | nil =>
      rw [lowerArguments]
      intro a ha
      cases ha
  | cons e es ih =>
      rw [lowerArguments]
      intro a ha
      rcases List.mem_cons.mp ha with rfl | ha
      · exact lowerValue_literals s e
      · exact ih a ha

mutual

theorem lowerValue_twin (s : Mapping) {e e' : Host.Expr} (h : Alike e e') :
    Twin (lowerValue s e .parameters) (lowerValue s e' .parameters) (valueBindings e)
      (valueBindings e') := by
  match e with
  | .binary l op r =>
      cases h with
      | binary _ hl hr =>
          rw [lowerValue, lowerValue, valueBindings, valueBindings]
          exact lowerBinary_twin _ _ op (lowerValue_twin s hl) (lowerValue_twin s hr)
  | .call method args =>
      cases h with
      | @call _ args' _ hargs =>
          have hcall := lowerCall_twin s (.call method args) (.call method args') method
            (lowerArguments_twin s hargs)
          rw [bindingsOf, bindingsOf, lowerArguments_map_fst, lowerArguments_map_fst] at hcall
          rw [lowerValue, lowerValue, valueBindings, valueBindings]
          exact hcall
  | .conditional t y n =>
      cases h with
      | conditional ht hy hn =>
          rw [lowerValue, lowerValue, valueBindings, valueBindings]
          exact lowerConditional_twin hn (lowerCondition_twin s ht) (lowerValue_twin s hy)
            (lowerValue_twin s hn)
  | .constant v type =>
      cases h with
      | constant _ hv =>
          rw [lowerValue, lowerValue, valueBindings, valueBindings]
          exact lowerConstant_twin hv
  | .convert x type =>
      cases h with
      | convert _ hx =>
          rw [lowerValue, lowerValue, valueBindings, valueBindings]
          exact lowerConvert_twin s hx type (lowerValue_twin s hx)
  | .member x ref type =>
      cases h with
      | member _ _ hx =>
          rw [lowerValue, lowerValue, valueBindings, valueBindings]
          exact lowerMember_twin s hx ref (lowerValue_twin s hx)
  | .negate x =>
      cases h with
      | negate hx =>
          rw [lowerValue, lowerValue, valueBindings, valueBindings]
          exact lowerNegate_twin (lowerValue_twin s hx)
  | .input type =>
      cases h
      rw [lowerValue]
      exact Twin.error _ _
  | .construct _ _ | .array _ _ | .typeIs _ _ | .not _ =>
      cases h
      rw [lowerValue, lowerValue]
      exact Twin.error _ _

theorem lowerCondition_twin (s : Mapping) {e e' : Host.Expr} (h : Alike e e') :
    Twin (lowerCondition s e .parameters) (lowerCondition s e' .parameters) (conditionBindings e)
      (conditionBindings e') := by
  match e with
  | .binary l (.relation op) r =>
      cases h with
      | binary _ hl hr =>
          rw [lowerCondition_relation, lowerCondition_relation, conditionBindings,
            conditionBindings]
          exact lowerRelation_twin _ _ op hl hr (lowerValue_twin s hl) (lowerValue_twin s hr)
  | .binary l (.logic op) r =>
      cases h with
      | binary _ hl hr =>
          rw [lowerCondition_logic, lowerCondition_logic, conditionBindings,
            conditionBindings]
          exact lowerLogic_twin op (lowerCondition_twin s hl) (lowerCondition_twin s hr)
  | .binary l (.arith op) r =>
      cases h with
      | binary _ hl hr =>
          rw [lowerCondition_arith, lowerCondition_arith, conditionBindings,
            conditionBindings]
          exact lowerFlag_twin (.binary _ hl hr)
            (lowerBinary_twin _ _ _ (lowerValue_twin s hl) (lowerValue_twin s hr))
  | .binary l .coalesce r =>
      cases h with
      | binary _ hl hr =>
          rw [lowerCondition_coalesce, lowerCondition_coalesce, conditionBindings,
            conditionBindings]
          exact lowerFlag_twin (.binary _ hl hr)
            (lowerBinary_twin _ _ _ (lowerValue_twin s hl) (lowerValue_twin s hr))
  | .call method args =>
      cases h with
      | @call _ args' _ hargs =>
          have htwins := lowerArguments_twin s hargs
          rw [lowerCondition, lowerCondition, conditionBindings, conditionBindings]
          split
          · next hmethod =>
              have hcall := lowerPredicate_twin (.call method args) (.call method args') method
                hmethod htwins (lowerArguments_literals s args)
              rw [bindingsOf, bindingsOf, lowerArguments_map_fst, lowerArguments_map_fst] at hcall
              exact hcall.pad
          · have hcall := lowerCall_twin s (.call method args) (.call method args') method htwins
            rw [bindingsOf, bindingsOf, lowerArguments_map_fst, lowerArguments_map_fst] at hcall
            exact lowerFlag_twin (.call method hargs) hcall
  | .conditional t y n =>
      cases h with
      | conditional ht hy hn =>
          rw [lowerCondition, lowerCondition, conditionBindings, conditionBindings]
          exact lowerFlag_twin (.conditional ht hy hn) (lowerConditional_twin hn
            (lowerCondition_twin s ht) (lowerValue_twin s hy) (lowerValue_twin s hn))
  | .constant v type =>
      cases h with
      | constant _ hv =>
          rw [lowerCondition, lowerCondition, conditionBindings, conditionBindings,
            ← Host.isBool_eq_of_variant hv]
          split
          · exact Twin.refuse _ _ _
          · exact lowerFlag_twin (.constant type hv) (lowerConstant_twin hv)
  | .convert x type =>
      cases h with
      | convert _ hx =>
          rw [lowerCondition, lowerCondition, conditionBindings, conditionBindings]
          exact lowerFlag_twin (.convert type hx)
            (lowerConvert_twin s hx type (lowerValue_twin s hx))
  | .member x ref type =>
      cases h with
      | member _ _ hx =>
          rw [lowerCondition, lowerCondition, conditionBindings, conditionBindings]
          exact lowerFlag_twin (.member ref type hx)
            (lowerMember_twin s hx ref (lowerValue_twin s hx))
  | .typeIs x record =>
      cases h with
      | typeIs _ hx =>
          rw [lowerCondition, lowerCondition, conditionBindings, conditionBindings]
          exact lowerTypeTest_twin s record (lowerValue_twin s hx)
  | .not x =>
      cases h with
      | not hx =>
          rw [lowerCondition, lowerCondition, conditionBindings, conditionBindings]
          exact (lowerCondition_twin s hx).map Statement.Condition.not
  | .negate x =>
      cases h with
      | negate hx =>
          rw [lowerCondition, lowerCondition, conditionBindings, conditionBindings]
          exact lowerFlag_twin (.negate hx) (lowerNegate_twin (lowerValue_twin s hx))
  | .input type =>
      cases h
      rw [lowerCondition, conditionBindings]
      refine lowerFlag_twin_nil (.input type) ?_
      exact Twin.error _ _
  | .construct type ms =>
      cases h with
      | construct _ hnames hms =>
          rw [lowerCondition, lowerCondition, conditionBindings, conditionBindings]
          refine lowerFlag_twin_nil (.construct type hnames hms) ?_
          exact Twin.error _ _
  | .array item es =>
      cases h with
      | array _ hes =>
          rw [lowerCondition, lowerCondition, conditionBindings, conditionBindings]
          refine lowerFlag_twin_nil (.array item hes) ?_
          exact Twin.refuse _ _ _

theorem lowerArguments_twin (s : Mapping) {same : Nat → Bool} {i : Nat} {es es' : List Host.Expr}
    (h : AlikeFrom same i es es') :
    TwinArguments same i (lowerArguments s es) (lowerArguments s es') := by
  match es with
  | [] =>
      cases h
      rw [lowerArguments]
      exact .nil
  | e :: rest =>
      cases h with
      | cons he hsame hes =>
          rw [lowerArguments, lowerArguments]
          exact .cons he (lowerValue_twin s he) (fun hi => by rw [hsame hi])
            (lowerArguments_twin s hes)

end

/-- Names are given by number, whatever the values are. -/
theorem fresh_names {ps qs : Parameters} (hstem : ps.stem = qs.stem)
    (hlength : ps.entries.length = qs.entries.length) {vs ws : List Value}
    (h : vs.length = ws.length) : (ps.fresh vs).map (·.name) = (qs.fresh ws).map (·.name) := by
  induction vs generalizing ps qs ws with
  | nil =>
      rw [List.eq_nil_of_length_eq_zero h.symm]
      rfl
  | cons v vs ih =>
      cases ws with
      | nil => cases h
      | cons w ws =>
          have hname : ps.nextName = qs.nextName := by
            rw [Parameters.nextName, Parameters.nextName, hstem, hlength]
          have hstem' : (ps.add v).stem = (qs.add w).stem := hstem
          have hlength' : (ps.add v).entries.length = (qs.add w).entries.length := by
            rw [Parameters.add, Parameters.add, List.length_append, List.length_append, hlength]
            rfl
          rw [Parameters.fresh, Parameters.fresh, List.map_cons, List.map_cons, hname,
            ih hstem' hlength' (Nat.succ.inj h)]

end Inquiry.Lower

namespace Inquiry.Compiler

open Host (Alike)
open Lower (Binding conditionBindings Parameters)

theorem compileCondition_folded {e : Host.Expr} (h : e.fold = .ok e) (s : Mapping) (stem : String) :
    compileCondition ⟨s, stem⟩ e =
      match Lower.lowerCondition s e .parameters (Parameters.start stem) with
      | (.ok condition, ps) => .ok ⟨condition.render, ps.entries⟩
      | (.error err, _) => .error err := by
  rw [compileCondition, Lower.condition, h]
  rfl

/-- Two predicates that are alike are compiled into one text with the same names
for its parameters, or not at all. The parameters stand for the constants of
the predicates, place by place, and for the truth with which a tested value is
compared. -/
theorem compileCondition_alike (s : Mapping) (stem : String) {e₁ e₂ : Host.Expr} (h : Alike e₁ e₂)
    (h₁ : e₁.fold = .ok e₁) (h₂ : e₂.fold = .ok e₂) :
    (∃ err₁ err₂, compileCondition ⟨s, stem⟩ e₁ = .error err₁ ∧
        compileCondition ⟨s, stem⟩ e₂ = .error err₂) ∨
      ∃ c₁ c₂, compileCondition ⟨s, stem⟩ e₁ = .ok c₁ ∧ compileCondition ⟨s, stem⟩ e₂ = .ok c₂ ∧
        c₁.text = c₂.text ∧ c₁.params.map (·.name) = c₂.params.map (·.name) ∧
        c₁.params.map (·.value) = (conditionBindings e₁).map Binding.value ∧
        c₂.params.map (·.value) = (conditionBindings e₂).map Binding.value ∧
        List.Forall₂ Binding.Corresponds (conditionBindings e₁) (conditionBindings e₂) := by
  rw [compileCondition_folded h₁, compileCondition_folded h₂]
  rcases Lower.lowerCondition_twin s h (.start stem) (.start stem) rfl rfl with
    ⟨err₁, err₂, hrun₁, hrun₂⟩ | ⟨hbindings, c, hrun₁, hrun₂⟩
  · left
    rcases hm : Lower.lowerCondition s e₁ .parameters (.start stem) with ⟨_ | _, _⟩ <;>
      rw [hm] at hrun₁ <;> cases hrun₁
    rcases hn : Lower.lowerCondition s e₂ .parameters (.start stem) with ⟨_ | _, _⟩ <;>
      rw [hn] at hrun₂ <;> cases hrun₂
    exact ⟨err₁, err₂, rfl, rfl⟩
  · right
    rw [hrun₁, hrun₂]
    refine ⟨_, _, rfl, rfl, rfl, ?_, ?_, ?_, hbindings⟩
    · rw [Parameters.addAll_entries, Parameters.addAll_entries]
      refine Lower.fresh_names rfl rfl ?_
      rw [List.length_map, List.length_map, hbindings.length_eq]
    · rw [Parameters.addAll_entries]
      exact Parameters.fresh_values _ _
    · rw [Parameters.addAll_entries]
      exact Parameters.fresh_values _ _

/-- Goods with a code above a price that are not hidden. -/
def offered (code : String) (price : Int32) : Host.Expr :=
  .binary
    (.binary (.binary (.get (.input .row) "Code" (some .string)) (.relation .eq)
      (.ofValue (.string code))) (.logic .and)
      (.binary (.get (.input .row) "Price" (some .int32)) (.relation .gt)
        (.ofValue (.int32 price))))
    (.logic .and) (.not (.get (.input .row) "Hidden" (some .bool)))

theorem offered_alike (code code' : String) (price price' : Int32) :
    Alike (offered code price) (offered code' price') := by
  have hget : ∀ name kind, Alike (.get (.input .row) name kind) (.get (.input .row) name kind) :=
    fun name kind => .call _ (.cons (.input _) nofun (.cons (.constant _ rfl) (fun _ => rfl) .nil))
  exact .binary _ (.binary _ (.binary _ (hget _ _) (.constant _ rfl))
    (.binary _ (hget _ _) (.constant _ rfl))) (.not (hget _ _))

theorem compileCondition_alike_offered :
    ∃ c₁ c₂, compileCondition ⟨.empty, "p"⟩ (offered "\"" 5) = .ok c₁ ∧
      compileCondition ⟨.empty, "p"⟩ (offered "&p1" 7) = .ok c₂ ∧ c₁.text = c₂.text ∧
      c₁.params.map (·.value) = [.string "\"", .int32 5, .bool true] ∧
      c₂.params.map (·.value) = [.string "&p1", .int32 7, .bool true] := by
  rcases compileCondition_alike .empty "p" (offered_alike "\"" "&p1" 5 7) rfl rfl with
    ⟨_, _, herror, _⟩ | ⟨c₁, c₂, hc₁, hc₂, htext, _, hvalues₁, hvalues₂, _⟩
  · cases herror
  · exact ⟨c₁, c₂, hc₁, hc₂, htext, hvalues₁, hvalues₂⟩

/-- A boolean field, tested as it is. -/
def tested : Host.Expr := .get (.input .row) "Flag" (some .bool)

/-- The parameter that a tested value is compared with is no constant of the
predicate. -/
theorem tested_parameter :
    tested.fold = .ok tested ∧ Alike tested tested ∧
      compileCondition ⟨.empty, "p"⟩ tested =
        .ok ⟨"Flag = &p1", [⟨"p1", .bool true⟩]⟩ ∧
      tested.Everywhere fun e => e.value? ≠ some (.bool true) := by
  refine ⟨rfl, ?_, rfl, nofun, nofun, nofun, trivial⟩
  exact .call _ (.cons (.input _) nofun (.cons (.constant _ rfl) (fun _ => rfl) .nil))

end Inquiry.Compiler
