import Inquiry.Proofs.Failures
import Inquiry.Proofs.LowerRegistration

/-!
# What lowering may write

The types of statements allow much that has no meaning in the query language: a
function with too few arguments, a CASE without a branch, the default table as
a value, a bound of BETWEEN that refers to a parameter. Host expressions do
nothing to keep such statements out, for any tree is a host expression.

`WellFormed` says what a statement has to look like, part by part, and `Gives`
is the contract that lowering keeps: from whatever list of parameters it
starts, a result that it returns is well formed, and a failure with which it
ends is `Ordinary`. Nothing that lowering calls on the way may stop the program,
and arithmetic is asked of operators of arithmetic only. The operations that
can stop look at their arguments before they do, so the contract has to be
carried to the place of each call: a function has as many arguments as it
takes, a CASE has a branch, and what is compared is a relation.

The names of fields and tables come from outside: from accessor calls, and from
the mapping. Whatever is known of all of them is known of the names in a
statement, and `WellFormed` carries it along as its parameter.
-/

namespace Inquiry

/-- Whether a value may stand in the text of a query: lists and records may
not, and floating-point numbers have to be finite. -/
def Value.isWritable : Value → Bool
  | .list _ | .record _ => false
  | .single x => x.isFinite
  | .double x => x.isFinite
  | _ => true

theorem Value.isWritable_of_written {v : Value} {text : String} (h : v.literalText? = some text) :
    v.isWritable = true := by
  cases v with
  | list _ | record _ => cases h
  | single x | double x =>
      rw [Value.literalText?] at h
      split at h
      · assumption
      · cases h
  | _ => rfl

/-- All names of tables and fields in the mapping have a property. -/
structure Mapping.Named (named : String → Prop) (s : Mapping) : Prop where
  table : ∀ id table, s.table? id = some table → named table
  field : ∀ id r, s.record? id = some r → ∀ m ∈ r.members, ∀ field, m.field = some field →
    named field

namespace Statement

/-- The table that a type refers to, if it does, has a property. -/
def CastType.Named (named : String → Prop) : CastType → Prop
  | .table name => named name
  | _ => True

mutual

/-- A value expression as lowering writes it, with names of fields and tables
that have a property. -/
def Expr.WellFormed (named : String → Prop) : Expr → Prop
  | .arith _ lhs rhs => lhs.WellFormed named ∧ rhs.WellFormed named
  | .case branches default =>
      branches ≠ [] ∧ BranchesWellFormed named branches ∧ default.WellFormed named
  | .cast operand type => operand.WellFormed named ∧ type.Named named
  | .field table name => (table = .defaultTable ∨ table.WellFormed named) ∧ named name.text
  | .call func args => args.length = func.arity ∧ AllWellFormed named args
  | .literal l => l.value.isWritable = true
  | .negate operand => operand.WellFormed named
  | .param _ => True
  -- what only a whole query may have, or nothing at all
  | .aggregate _ _ | .allColumns | .columnGroup _ _ | .count _ _ | .countRows _ | .defaultTable =>
      False

/-- A condition as lowering writes it. -/
def Condition.WellFormed (named : String → Prop) : Condition → Prop
  | .between operand start stop _ =>
      operand.WellFormed named ∧ (start.WellFormed named ∧ start.params = []) ∧
        stop.WellFormed named ∧ stop.params = []
  | .inList operand values _ _ =>
      operand.WellFormed named ∧ values ≠ [] ∧ (∀ v ∈ values, v.isLiteral = true) ∧
        AllWellFormed named values
  | .isNull operand _ => operand.WellFormed named
  | .like operand _ _ _ => operand.WellFormed named
  | .logic lhs _ rhs => lhs.WellFormed named ∧ rhs.WellFormed named
  | .not operand => operand.WellFormed named
  | .refs operand table => operand.WellFormed named ∧ named table
  | .relation lhs _ rhs => lhs.WellFormed named ∧ rhs.WellFormed named

/-- All of several expressions are well formed. -/
def AllWellFormed (named : String → Prop) : List Expr → Prop
  | [] => True
  | e :: rest => e.WellFormed named ∧ AllWellFormed named rest

/-- The tests and values of all branches of a CASE are well formed. -/
def BranchesWellFormed (named : String → Prop) : List (Condition × Expr) → Prop
  | [] => True
  | (test, value) :: rest =>
      test.WellFormed named ∧ value.WellFormed named ∧ BranchesWellFormed named rest

end

section

variable {named : String → Prop}

theorem allWellFormed_iff {es : List Expr} :
    AllWellFormed named es ↔ ∀ e ∈ es, e.WellFormed named := by
  induction es with
  | nil => simp [AllWellFormed]
  | cons e es ih => simp [AllWellFormed, ih]

theorem Literal.value_isWritable (l : Literal) : l.value.isWritable = true := by
  cases l with
  | constant v text written => exact Value.isWritable_of_written written
  | period kind => rfl

theorem Condition.wellFormed_all {cs : List Condition} {c : Condition}
    (h : ∀ c ∈ cs, c.WellFormed named) (hc : Condition.all? cs = some c) : c.WellFormed named := by
  have hfold : ∀ (cs : List Condition) (acc : Condition), acc.WellFormed named →
      (∀ c ∈ cs, c.WellFormed named) →
      (cs.foldl (fun acc next => .logic acc .and next) acc).WellFormed named := by
    intro cs
    induction cs with
    | nil => intro acc hacc _; exact hacc
    | cons c cs ih =>
        intro acc hacc hcs
        exact ih _ ⟨hacc, hcs c List.mem_cons_self⟩ fun d hd => hcs d (List.mem_cons_of_mem c hd)
  cases cs with
  | nil => cases hc
  | cons first rest =>
      cases hc
      exact hfold rest first (h first List.mem_cons_self) fun d hd =>
        h d (List.mem_cons_of_mem first hd)

end

end Statement

namespace Host

mutual

/-- What holds of every expression holds everywhere in an expression. -/
theorem Expr.everywhere_of_forall {P : Expr → Prop} (h : ∀ e, P e) (e : Expr) :
    e.Everywhere P := by
  match e with
  | .binary l _ r => exact ⟨h _, l.everywhere_of_forall h, r.everywhere_of_forall h⟩
  | .conditional t y n =>
      exact ⟨h _, t.everywhere_of_forall h, y.everywhere_of_forall h, n.everywhere_of_forall h⟩
  | .call _ es | .array _ es => exact ⟨h _, everywhereAll_of_forall h es⟩
  | .construct _ ms => exact ⟨h _, everywhereMembers_of_forall h ms⟩
  | .convert x _ | .member x _ _ | .typeIs x _ | .not x | .negate x =>
      exact ⟨h _, x.everywhere_of_forall h⟩
  | .constant _ _ | .input _ => exact h _

theorem everywhereAll_of_forall {P : Expr → Prop} (h : ∀ e, P e) (es : List Expr) :
    everywhereAll P es := by
  match es with
  | [] => trivial
  | e :: rest => exact ⟨e.everywhere_of_forall h, everywhereAll_of_forall h rest⟩

theorem everywhereMembers_of_forall {P : Expr → Prop} (h : ∀ e, P e)
    (ms : List (String × Expr)) : everywhereMembers P ms := by
  match ms with
  | [] => trivial
  | (_, e) :: rest => exact ⟨e.everywhere_of_forall h, everywhereMembers_of_forall h rest⟩

end

/-- The constant name by which an accessor call reads a field has a property. -/
def NamedAccess (named : String → Prop) : Expr → Prop
  | .call (.getValue _) [_, .constant (.string field) _] => named field
  | _ => True

end Host

namespace Lower

open Statement (Expr Condition)
open Host (NamedAccess)

/-! ## The contract -/

/-- From whatever list the computation starts, a result has the property and a
failure is ordinary. -/
def Gives {α : Type} (P : α → Prop) (m : Lowering α) : Prop := ∀ ps, Delivers P (m ps).1

section Rules

variable {α β : Type} {P : α → Prop} {Q : β → Prop}

theorem Gives.lift {r : Except Error α} (h : Delivers P r) : Gives P (lift r) := fun _ => h

theorem Gives.pure {a : α} (h : P a) : Gives P (Pure.pure a) := Gives.lift (r := .ok a) h

theorem Gives.fail {e : Error} (h : e.Ordinary) : Gives P (Lower.lift (.error e)) := Gives.lift h

theorem Gives.refuse (r : Refusal) (e : Host.Expr) : Gives P (refuse r e) :=
  Gives.fail (Error.ordinary_raised rfl)

theorem Gives.bind {m : Lowering α} {k : α → Lowering β} (hm : Gives P m)
    (hk : ∀ a, P a → Gives Q (k a)) : Gives Q (m >>= k) := by
  intro ps
  have hfirst := hm ps
  rw [bind_apply]
  rcases hrun : m ps with ⟨e | a, after⟩ <;> rw [hrun] at hfirst
  · exact hfirst
  · exact hk a hfirst after

/-- Nothing comes after a failure. -/
theorem Gives.fail_bind {e : Error} {k : α → Lowering β} (h : e.Ordinary) :
    Gives Q (Lower.lift (.error e) >>= k) :=
  (Gives.fail (P := fun _ => False) h).bind fun _ => False.elim

theorem Gives.mono {R : α → Prop} {m : Lowering α} (hm : Gives P m) (h : ∀ a, P a → R a) :
    Gives R m :=
  fun ps => (hm ps).mono h

/-- What an inline computation gives refers to nothing, besides. -/
theorem Gives.inline {refs : α → List Statement.Name} {m : Lowering α} (hm : Gives P m)
    (h : Inline refs m) : Gives (fun a => P a ∧ refs a = []) m := by
  intro ps
  have hresult := hm ps
  obtain ⟨_, _, _, _, hok⟩ := h ps
  cases hrun : (m ps).1 with
  | error e => exact hresult.failure hrun
  | ok a => exact ⟨hresult.result hrun, hok a hrun⟩

end Rules

section

variable {named : String → Prop}

/-- A lowered value is well formed, for either placement of its constants. -/
def ValueForm (named : String → Prop) (m : Lowered) : Prop :=
  ∀ p, Gives (Expr.WellFormed named) (m p)

/-- A lowered condition is well formed, for either placement of its constants. -/
def ConditionForm (named : String → Prop) (m : LoweredCondition) : Prop :=
  ∀ p, Gives (Condition.WellFormed named) (m p)

/-! ## Value expressions -/

theorem ofValue_literal (v : Value) :
    Delivers (fun e => e.isLiteral = true ∧ e.WellFormed named) (Expr.ofValue v) := by
  refine Delivers.map (P := fun _ => True) ?_ fun l _ => ⟨rfl, l.value_isWritable⟩
  rw [Statement.Literal.ofValue]
  split
  · trivial
  · exact Error.ordinary_raised rfl

/-- A function with the arguments that it takes is no misuse. -/
theorem Gives.call {func : Statement.Function} {args : List Expr} (h : args.length = func.arity)
    (hargs : Statement.AllWellFormed named args) :
    Gives (Expr.WellFormed named) (call func args) := by
  rw [Lower.call, Expr.callOf_eq_ok.mpr ⟨h, rfl⟩]
  exact Gives.pure ⟨h, hargs⟩

theorem lowerConstant_form (v : Value) : ValueForm named (lowerConstant v) := by
  intro p
  rw [lowerConstant.eq_def]
  split
  · exact Gives.fail (Error.ordinary_raised rfl)
  · split
    · exact Gives.pure rfl
    · cases p with
      | parameters =>
          have hregister : Gives (fun _ => True) (register v) := fun _ => trivial
          exact hregister.bind fun _ _ => Gives.pure trivial
      | literals => exact (Gives.lift (ofValue_literal v)).mono fun _ he => he.2

theorem lowerRecord_form (usage : String) : ValueForm named (lowerRecord usage) :=
  fun _ => Gives.fail (Error.ordinary_raised rfl)

/-- The default table is given out as a table only. -/
theorem asTable_gives {base : Host.Expr} {value : Lowering Expr}
    (h : Gives (Expr.WellFormed named) value) :
    Gives (fun t => t = .defaultTable ∨ t.WellFormed named) (asTable base value) := by
  have hvalue : Gives (fun t => t = .defaultTable ∨ t.WellFormed named) value :=
    h.mono fun _ ht => .inr ht
  rw [asTable.eq_def]
  split
  · split
    · exact Gives.pure (.inl rfl)
    · exact Gives.refuse _ _
  · split
    · exact hvalue
    · exact Gives.refuse _ _
  · exact hvalue
  · exact hvalue
  · exact Gives.refuse _ _

theorem lowerPair_form {lhs rhs : Lowered} {make : Expr → Expr → Expr}
    (hl : ValueForm named lhs) (hr : ValueForm named rhs)
    (hmake : ∀ l r, l.WellFormed named → r.WellFormed named → (make l r).WellFormed named) :
    ValueForm named (lowerPair lhs rhs make) :=
  fun p => (hl p).bind fun l hl => (hr p).bind fun r hr => Gives.pure (hmake l r hl hr)

theorem lowerBinary_form (whole : Host.Expr) (op : Host.Operator) {lhs rhs : Lowered}
    (hl : ValueForm named lhs) (hr : ValueForm named rhs) :
    ValueForm named (lowerBinary whole op lhs rhs) := by
  cases op with
  | arith op => exact lowerPair_form hl hr fun _ _ hl hr => ⟨hl, hr⟩
  | coalesce =>
      exact fun p => (hl p).bind fun _ hl => (hr p).bind fun _ hr =>
        Gives.call rfl ⟨hl, hr, trivial⟩
  | relation _ | logic _ => exact fun _ => Gives.refuse _ _

theorem lowerCast_form {type : Except Error Statement.CastType} {operand : Lowered}
    (ht : Delivers (Statement.CastType.Named named) type) (h : ValueForm named operand) :
    ValueForm named (lowerCast type operand) :=
  fun p => (Gives.lift ht).bind fun _ ht => (h p).bind fun _ hx => Gives.pure ⟨hx, ht⟩

theorem lowerNegate_form {operand : Lowered} (h : ValueForm named operand) :
    ValueForm named (lowerNegate operand) :=
  fun p => (h p).bind fun _ hx => Gives.pure hx

theorem lowerFunction_form {func : Statement.Function} {operand : Lowered} {others : List Expr}
    (harity : others.length + 1 = func.arity) (h : ValueForm named operand)
    (hothers : Statement.AllWellFormed named others) :
    ValueForm named (lowerFunction func operand others) :=
  fun p => (h p).bind fun _ hx => Gives.call harity ⟨hx, hothers⟩

theorem arity_datePart (part : Host.DatePart) : part.function.arity = 1 := by
  cases part <;> rfl

theorem lowerGet_form {kind : Option Kind} {record : Argument} {name : Host.Expr}
    (whole : Host.Expr)
    (hname : NamedAccess named (.call (.getValue kind) [record.1, name]))
    (h : ValueForm named record.2) : ValueForm named (lowerGet whole record name) := by
  intro p
  refine (asTable_gives (h p)).bind fun table htable => ?_
  cases name with
  | constant v _ =>
      cases v with
      | string field => exact Gives.pure ⟨htable, hname⟩
      | _ => exact Gives.refuse _ _
  | _ => exact Gives.refuse _ _

theorem sizeOf_delivers (e : Host.Expr) : Delivers (fun _ => True) (sizeOf e) := by
  rw [sizeOf.eq_def]
  split
  · next v _ =>
      rw [Value.toSize.eq_def]
      split
      · split
        · trivial
        · exact Error.ordinary_raised rfl
      · exact Error.ordinary_raised rfl
  · exact Error.ordinary_raised rfl

theorem tableOf_named {s : Mapping} (hs : s.Named named) (id : Nat) :
    Delivers named (tableOf s id) := by
  rw [tableOf.eq_def]
  split
  · next table htable => exact hs.table id table htable
  · exact Error.ordinary_raised rfl

theorem fieldOf_named {s : Mapping} (hs : s.Named named) (id : Host.MemberId) :
    Delivers named (fieldOf s id) := by
  rw [fieldOf.eq_def]
  split
  · exact Error.ordinary_raised rfl
  · next r hr =>
      split
      · exact Error.ordinary_raised rfl
      · next m hm =>
          split
          · next f hf =>
              rw [Record.member?] at hm
              split at hm
              · exact hs.field id.record r hr m (List.mem_of_getElem? hm) f hf
              · cases hm
          · exact Error.ordinary_raised rfl

theorem castType_named {s : Mapping} (hs : s.Named named) (t : Host.Ty) :
    Delivers (Statement.CastType.Named named) (castType s t) := by
  rw [castType.eq_def]
  split
  · trivial
  · trivial
  · trivial
  · exact (tableOf_named hs _).map fun _ htable => htable
  · split
    · trivial
    · exact Error.ordinary_raised rfl

/-- The arguments of a call are well formed one by one. -/
def ArgumentForms (named : String → Prop) (args : List Argument) : Prop :=
  ∀ a ∈ args, ValueForm named a.2

theorem lowerCall_form {s : Mapping} (hs : s.Named named) (whole : Host.Expr)
    (method : Host.Method) {args : List Argument}
    (haccess : NamedAccess named (.call method (args.map (·.1)))) (h : ArgumentForms named args) :
    ValueForm named (lowerCall s whole method args) := by
  intro p
  rw [lowerCall.eq_def]
  split
  · exact lowerGet_form whole haccess (h _ (by simp)) p
  · refine lowerCast_form ?_ (h _ (by simp)) p
    exact (sizeOf_delivers _).map fun _ _ => trivial
  · refine lowerCast_form ?_ (h _ (by simp)) p
    exact (sizeOf_delivers _).bind fun _ _ => (sizeOf_delivers _).bind fun _ _ => trivial
  · refine lowerCast_form ?_ (h _ (by simp)) p
    exact (sizeOf_delivers _).map fun _ _ => trivial
  · refine lowerCast_form ?_ (h _ (by simp)) p
    exact (tableOf_named hs _).map fun _ htable => htable
  · next text start length =>
      refine (h text (by simp) p).bind fun t ht => ?_
      refine (h start (by simp) p).bind fun i hi => ?_
      exact (h length (by simp) p).bind fun n hn => Gives.call rfl ⟨ht, hi, hn, trivial⟩
  · refine lowerFunction_form ?_ (h _ (by simp)) ?_ p
    · exact (arity_datePart _).symm
    · trivial
  · refine lowerFunction_form rfl (h _ (by simp)) ?_ p
    exact ⟨rfl, trivial⟩
  · refine lowerFunction_form rfl (h _ (by simp)) ?_ p
    exact ⟨rfl, trivial⟩
  · exact Gives.refuse _ _

theorem lowerConvert_form {s : Mapping} (hs : s.Named named) (operand : Host.Expr) (t : Host.Ty)
    {value : Lowered} (h : ValueForm named value) :
    ValueForm named (lowerConvert s operand t value) := by
  intro p
  rw [lowerConvert]
  split
  · exact h p
  · split
    · exact lowerCast_form (castType_named hs t) h p
    · split
      · exact h p
      · exact Gives.fail (Error.ordinary_raised rfl)

theorem lowerMember_form {s : Mapping} (hs : s.Named named) (base : Host.Expr)
    (ref : Host.MemberRef) {value : Lowered} (h : ValueForm named value) :
    ValueForm named (lowerMember s base ref value) := by
  intro p
  cases ref with
  | field id =>
      refine (asTable_gives (h p)).bind fun table htable => ?_
      exact (Gives.lift (fieldOf_named hs id)).bind fun name hname =>
        Gives.pure ⟨htable, hname⟩
  | datePart part =>
      refine lowerFunction_form ?_ h ?_ p
      · exact (arity_datePart part).symm
      · trivial

/-- What goes on after the first branch of a CASE is well formed, continued or
not. -/
theorem caseTail_form {rest : Expr} (continues : Bool) (h : rest.WellFormed named) :
    Statement.BranchesWellFormed named (caseTail continues rest).1 ∧
      (caseTail continues rest).2.WellFormed named := by
  rw [caseTail.eq_def]
  split
  · exact ⟨h.2.1, h.2.2⟩
  · exact ⟨trivial, h⟩

theorem lowerConditional_form {test : LoweredCondition} {yes : Lowered} {no : Argument}
    (hc : ConditionForm named test) (hy : ValueForm named yes) (hn : ValueForm named no.2) :
    ValueForm named (lowerConditional test yes no) :=
  fun p => (hc p).bind fun _ hc => (hy p).bind fun _ hv => (hn p).bind fun _ hrest =>
    have htail := caseTail_form (isConditional no.1) hrest
    Gives.lift ⟨List.cons_ne_nil _ _, ⟨hc, hv, htail.1⟩, htail.2⟩

/-! ## Conditions -/

theorem lowerNullTest_form (whole : Host.Expr) (op : Statement.Relation) {operand : Lowered}
    (h : ValueForm named operand) : ConditionForm named (lowerNullTest whole op operand) := by
  intro p
  refine (h p).bind fun x hx => ?_
  cases op with
  | eq | ne => exact Gives.pure hx
  | gt | ge | lt | le => exact Gives.refuse _ _

theorem lowerRelation_form (whole : Host.Expr) (op : Statement.Relation) {lhs rhs : Argument}
    (hl : ValueForm named lhs.2) (hr : ValueForm named rhs.2) :
    ConditionForm named (lowerRelation whole op lhs rhs) := by
  intro p
  rw [lowerRelation.eq_def]
  split
  · exact (hl p).bind fun l hl => (hr p).bind fun r hr => Gives.pure ⟨hl, hr⟩
  · exact lowerNullTest_form whole op hl p
  · exact lowerNullTest_form whole op hr p
  · exact Gives.refuse _ _

theorem mapM_ofValue_literals (vs : List Value) :
    Delivers (fun es => es.length = vs.length ∧ ∀ e ∈ es, e.isLiteral = true ∧ e.WellFormed named)
      (vs.mapM Expr.ofValue) := by
  induction vs with
  | nil => exact ⟨rfl, nofun⟩
  | cons v vs ih =>
      rw [List.mapM_cons]
      refine (@ofValue_literal named v).bind fun e he => ih.bind fun rest hrest => ?_
      refine ⟨by simp [hrest.1], fun d hd => ?_⟩
      rcases List.mem_cons.mp hd with rfl | hd
      · exact he
      · exact hrest.2 d hd

theorem valueList_form (e : Host.Expr) :
    Delivers (fun es => es ≠ [] ∧ (∀ v ∈ es, v.isLiteral = true) ∧
      Statement.AllWellFormed named es) (valueList e) := by
  rw [valueList.eq_def]
  split
  · next vs _ =>
      split
      · exact Error.ordinary_raised rfl
      · next hvs =>
          refine (@mapM_ofValue_literals named vs).mono fun es hes => ?_
          obtain ⟨hlength, hall⟩ := hes
          refine ⟨?_, fun v hv => (hall v hv).1,
            Statement.allWellFormed_iff.mpr fun v hv => (hall v hv).2⟩
          rintro rfl
          exact hvs (List.isEmpty_iff.mpr (List.eq_nil_of_length_eq_zero hlength.symm))
  · exact Error.ordinary_raised rfl

theorem lowerIn_form {operand : Lowered} (values : Host.Expr) (positive hierarchy : Bool)
    (h : ValueForm named operand) :
    ConditionForm named (lowerIn operand values positive hierarchy) :=
  fun p => (h p).bind fun _ hx => (Gives.lift (valueList_form values)).bind fun _ hvs =>
    Gives.pure ⟨hx, hvs⟩

theorem escapeOf_delivers (whole : Host.Expr) (escape : List Argument) :
    Delivers (fun _ => True) (escapeOf whole escape) := by
  rw [escapeOf.eq_def]
  split
  · trivial
  · trivial
  · exact Error.ordinary_raised rfl
  · exact Error.ordinary_raised rfl

theorem lowerLike_form (whole : Host.Expr) {operand : Lowered} (pattern : Host.Expr)
    (escape : List Argument) (positive : Bool) (h : ValueForm named operand) :
    ConditionForm named (lowerLike whole operand pattern escape positive) := by
  intro p
  refine (h p).bind fun x hx => ?_
  split
  · exact Gives.refuse _ _
  · exact (Gives.lift (escapeOf_delivers whole escape)).bind fun _ _ => Gives.pure hx

/-- The bounds are lowered with literals, and so they refer to nothing. -/
theorem lowerBetween_form {operand start stop : Lowered} (positive : Bool)
    (hx : ValueForm named operand) (ha : ValueForm named start) (hb : ValueForm named stop)
    (hta : Tracked Expr.params start) (htb : Tracked Expr.params stop) :
    ConditionForm named (lowerBetween operand start stop positive) :=
  fun p => (hx p).bind fun _ hx => ((ha .literals).inline hta.inline).bind fun _ ha =>
    ((hb .literals).inline htb.inline).bind fun _ hb => Gives.pure ⟨hx, ha, hb⟩

theorem lowerPredicate_form (whole : Host.Expr) (method : Host.Method) {args : List Argument}
    (h : ArgumentForms named args) (ht : ArgumentsTracked args) :
    ConditionForm named (lowerPredicate whole method args) := by
  intro p
  rw [lowerPredicate.eq_def]
  split
  · exact lowerIn_form _ _ _ (h _ (by simp)) p
  · exact lowerIn_form _ _ _ (h _ (by simp)) p
  · exact lowerIn_form _ _ _ (h _ (by simp)) p
  · exact lowerIn_form _ _ _ (h _ (by simp)) p
  · exact lowerLike_form _ _ _ _ (h _ (by simp)) p
  · exact lowerLike_form _ _ _ _ (h _ (by simp)) p
  · exact lowerBetween_form _ (h _ (by simp)) (h _ (by simp)) (h _ (by simp)) (ht _ (by simp))
      (ht _ (by simp)) p
  · exact lowerBetween_form _ (h _ (by simp)) (h _ (by simp)) (h _ (by simp)) (ht _ (by simp))
      (ht _ (by simp)) p
  · exact Gives.refuse _ _

theorem lowerFlag_form (whole : Host.Expr) {value : Lowered} (h : ValueForm named value) :
    ConditionForm named (lowerFlag whole value) := by
  intro p
  rw [lowerFlag]
  split
  · exact (h p).bind fun _ hl => (lowerConstant_form (.bool true) p).bind fun _ hr =>
      Gives.pure ⟨hl, hr⟩
  · exact Gives.refuse _ _

theorem lowerTypeTest_form {s : Mapping} (hs : s.Named named) {operand : Lowered} (record : Nat)
    (h : ValueForm named operand) : ConditionForm named (lowerTypeTest s operand record) :=
  fun p => (h p).bind fun _ hx => (Gives.lift (tableOf_named hs record)).bind fun _ ht =>
    Gives.pure ⟨hx, ht⟩

theorem lowerLogic_form {lhs rhs : LoweredCondition} (op : Statement.Connective)
    (hl : ConditionForm named lhs) (hr : ConditionForm named rhs) :
    ConditionForm named (lowerLogic lhs op rhs) :=
  fun p => (hl p).bind fun _ hl => (hr p).bind fun _ hr => Gives.pure ⟨hl, hr⟩

theorem lowerNot_form {operand : LoweredCondition} (h : ConditionForm named operand) :
    ConditionForm named (lowerNot operand) :=
  fun p => (h p).bind fun _ hc => Gives.pure hc

/-! ## Expressions -/

theorem lowerArguments_map_fst (s : Mapping) (es : List Host.Expr) :
    (lowerArguments s es).map (·.1) = es := by
  induction es with
  | nil => rw [lowerArguments]; rfl
  | cons e es ih => rw [lowerArguments, List.map_cons, ih]

mutual

theorem lowerValue_form {s : Mapping} (hs : s.Named named) (e : Host.Expr)
    (h : e.Everywhere (NamedAccess named)) : ValueForm named (lowerValue s e) := by
  match e with
  | .binary lhs op rhs =>
      rw [lowerValue]
      exact lowerBinary_form _ op (lowerValue_form hs lhs h.2.1) (lowerValue_form hs rhs h.2.2)
  | .call method args =>
      rw [lowerValue]
      refine lowerCall_form hs _ method ?_ (lowerArguments_form hs args h.2)
      rw [lowerArguments_map_fst]
      exact h.1
  | .conditional test yes no =>
      rw [lowerValue]
      exact lowerConditional_form (lowerCondition_form hs test h.2.1)
        (lowerValue_form hs yes h.2.2.1) (lowerValue_form hs no h.2.2.2)
  | .constant v _ =>
      rw [lowerValue]
      exact lowerConstant_form v
  | .convert operand type =>
      rw [lowerValue]
      exact lowerConvert_form hs operand type (lowerValue_form hs operand h.2)
  | .member base ref _ =>
      rw [lowerValue]
      exact lowerMember_form hs base ref (lowerValue_form hs base h.2)
  | .negate operand =>
      rw [lowerValue]
      exact lowerNegate_form (lowerValue_form hs operand h.2)
  | .input _ | .construct _ _ =>
      rw [lowerValue]
      exact lowerRecord_form _
  | .array _ _ | .typeIs _ _ | .not _ =>
      rw [lowerValue]
      exact fun _ => Gives.refuse _ _

theorem lowerCondition_form {s : Mapping} (hs : s.Named named) (e : Host.Expr)
    (h : e.Everywhere (NamedAccess named)) : ConditionForm named (lowerCondition s e) := by
  match e with
  | .binary lhs (.relation op) rhs =>
      rw [lowerCondition_relation]
      exact lowerRelation_form _ op (lowerValue_form hs lhs h.2.1) (lowerValue_form hs rhs h.2.2)
  | .binary lhs (.logic op) rhs =>
      rw [lowerCondition_logic]
      exact lowerLogic_form op (lowerCondition_form hs lhs h.2.1) (lowerCondition_form hs rhs h.2.2)
  | .binary lhs (.arith op) rhs =>
      rw [lowerCondition_arith]
      exact lowerFlag_form _
        (lowerBinary_form _ _ (lowerValue_form hs lhs h.2.1) (lowerValue_form hs rhs h.2.2))
  | .binary lhs .coalesce rhs =>
      rw [lowerCondition_coalesce]
      exact lowerFlag_form _
        (lowerBinary_form _ _ (lowerValue_form hs lhs h.2.1) (lowerValue_form hs rhs h.2.2))
  | .call method args =>
      rw [lowerCondition]
      have hargs := lowerArguments_form hs args h.2
      split
      · exact lowerPredicate_form _ method hargs (lowerArguments_tracked s args)
      · refine lowerFlag_form _ (lowerCall_form hs _ method ?_ hargs)
        rw [lowerArguments_map_fst]
        exact h.1
  | .conditional test yes no =>
      rw [lowerCondition]
      exact lowerFlag_form _ (lowerConditional_form (lowerCondition_form hs test h.2.1)
        (lowerValue_form hs yes h.2.2.1) (lowerValue_form hs no h.2.2.2))
  | .constant v _ =>
      rw [lowerCondition]
      split
      · exact fun _ => Gives.refuse _ _
      · exact lowerFlag_form _ (lowerConstant_form v)
  | .convert operand type =>
      rw [lowerCondition]
      exact lowerFlag_form _ (lowerConvert_form hs operand type (lowerValue_form hs operand h.2))
  | .member base ref _ =>
      rw [lowerCondition]
      exact lowerFlag_form _ (lowerMember_form hs base ref (lowerValue_form hs base h.2))
  | .input _ | .construct _ _ =>
      rw [lowerCondition]
      exact lowerFlag_form _ (lowerRecord_form _)
  | .array _ _ =>
      rw [lowerCondition]
      exact lowerFlag_form _ fun _ => Gives.refuse _ _
  | .typeIs operand record =>
      rw [lowerCondition]
      exact lowerTypeTest_form hs record (lowerValue_form hs operand h.2)
  | .not operand =>
      rw [lowerCondition]
      exact lowerNot_form (lowerCondition_form hs operand h.2)
  | .negate operand =>
      rw [lowerCondition]
      exact lowerFlag_form _ (lowerNegate_form (lowerValue_form hs operand h.2))

theorem lowerArguments_form {s : Mapping} (hs : s.Named named) (es : List Host.Expr)
    (h : Host.everywhereAll (NamedAccess named) es) :
    ArgumentForms named (lowerArguments s es) := by
  match es with
  | [] =>
      rw [lowerArguments]
      exact nofun
  | e :: rest =>
      rw [lowerArguments]
      intro a ha
      rcases List.mem_cons.mp ha with rfl | ha
      · exact lowerValue_form hs e h.1
      · exact lowerArguments_form hs rest h.2 a ha

end

end

end Lower

end Inquiry
