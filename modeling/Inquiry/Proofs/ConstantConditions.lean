import Inquiry.Proofs.Failures
import Inquiry.Proofs.FoldNormal
import Inquiry.Proofs.Registration

/-!
# Constants that stand as conditions

The query language has no word for a condition that is always true or always
false, so lowering refuses a truth value in the place of a condition. A place
of this kind is the whole of a condition, an operand of a connective, what a
negation negates, and the test of a conditional, however deep inside a value.
Folding has been there before: of all these places only the first one can still
hold a truth value, because in the others it would have been a redex.

The refusal is the only trace that the truth value leaves. Nothing catches it,
and nothing else is refused for the same reason, so the statement is about the
errors of lowering: `Evades` says that no run of a computation ends with this
refusal. It is kept by sequencing, and each lowering function needs one short
lemma about the errors of its own.
-/

namespace Inquiry.Lower

open Host (Expr everywhereAll)

/-! ## The contract -/

/-- The error says that a constant was used as a condition. -/
def BlamesConstant (err : Error) : Prop := ∃ subject, err = Refusal.constantCondition.error subject

/-- No failure says that a constant was used as a condition. -/
abbrev Unblaming {α : Type} (r : Except Error α) : Prop := FailsOnly (¬BlamesConstant ·) r

/-- No run of the computation ends because a constant was used as a condition. -/
def Evades {α : Type} (m : Lowering α) : Prop := ∀ ps, Unblaming (m ps).1

theorem Refusal.message_eq_constantCondition {r : Refusal}
    (h : r.message = Refusal.constantCondition.message) : r = .constantCondition := by
  cases r with
  | constantCondition => rfl
  | _ => exact absurd h (by decide)

/-- Each refusal gives its own reason. -/
theorem Refusal.not_blamesConstant {r : Refusal} (h : r ≠ .constantCondition) (subject : String) :
    ¬BlamesConstant (r.error subject) := by
  rintro ⟨other, heq⟩
  injection heq with heq
  injection heq with hmessage _
  exact h (Refusal.message_eq_constantCondition hmessage)

/-- An error that is no refusal at all blames no constant. -/
theorem not_blamesConstant_of_cause {cause : Cause}
    (h : ∀ message subject, cause ≠ .unsupported message subject) :
    ¬BlamesConstant (.raised cause) := by
  rintro ⟨subject, heq⟩
  injection heq with heq
  exact h _ _ heq

/-- A broken contract is no refusal. -/
theorem not_blamesConstant_misuse (m : Misuse) : ¬BlamesConstant (.misuse m) :=
  not_blamesConstant_of_cause nofun

section Rules

variable {α β : Type}

theorem Evades.lift {r : Except Error α} (h : Unblaming r) : Evades (lift r) := fun _ => h

theorem Evades.pure (a : α) : Evades (Pure.pure a : Lowering α) := Evades.lift (FailsOnly.ok a)

theorem Evades.error {err : Error} (h : ¬BlamesConstant err) :
    Evades (Lower.lift (.error err) : Lowering α) :=
  Evades.lift (FailsOnly.error h)

theorem Evades.refuse {r : Refusal} (h : r ≠ .constantCondition) (e : Expr) :
    Evades (refuse r e : Lowering α) :=
  Evades.error (Refusal.not_blamesConstant h _)

theorem Evades.recordUsage (usage : String) :
    Evades (Lower.lift (.error (.recordUsage usage)) : Lowering α) :=
  Evades.error (not_blamesConstant_of_cause nofun)

theorem Evades.call (func : Statement.Function) (args : List Statement.Expr) :
    Evades (call func args) := by
  rw [Lower.call, Statement.Expr.callOf]
  split
  · exact Evades.pure _
  · exact Evades.error (not_blamesConstant_misuse _)

theorem Evades.register (v : Value) : Evades (register v) := fun _ => FailsOnly.ok _

theorem Evades.bind {m : Lowering α} {f : α → Lowering β} (hm : Evades m)
    (hf : ∀ a, Evades (f a)) : Evades (m >>= f) := by
  intro ps
  have hfirst := hm ps
  rw [bind_apply]
  rcases hrun : m ps with ⟨e | a, after⟩ <;> rw [hrun] at hfirst
  · exact FailsOnly.error (hfirst e rfl)
  · exact hf a after

end Rules

/-! ## What is looked up -/

/-- An error of a kind of its own that is no refusal. -/
theorem Unblaming.raised {α : Type} {cause : Cause}
    (h : ∀ message subject, cause ≠ .unsupported message subject) :
    Unblaming (.error (.raised cause) : Except Error α) :=
  FailsOnly.error (not_blamesConstant_of_cause h)

theorem Unblaming.refusal {α : Type} {r : Refusal} (h : r ≠ .constantCondition)
    (subject : String) : Unblaming (.error (r.error subject) : Except Error α) :=
  FailsOnly.error (Refusal.not_blamesConstant h subject)

theorem sizeOf_evades (e : Expr) : Unblaming (sizeOf e) := by
  rw [sizeOf.eq_def]
  split
  · rw [Value.toSize]
    split
    · split
      · exact FailsOnly.ok _
      · exact Unblaming.raised nofun
    · exact Unblaming.raised nofun
  · exact Unblaming.refusal (by decide) _

theorem tableOf_evades (s : Mapping) (id : Nat) : Unblaming (tableOf s id) := by
  rw [tableOf.eq_def]
  split
  · exact FailsOnly.ok _
  · exact Unblaming.refusal (by decide) _

theorem fieldOf_evades (s : Mapping) (id : Host.MemberId) : Unblaming (fieldOf s id) := by
  rw [fieldOf.eq_def]
  split
  · exact Unblaming.raised nofun
  · split
    · exact Unblaming.raised nofun
    · split
      · exact FailsOnly.ok _
      · exact Unblaming.raised nofun

theorem castType_evades (s : Mapping) (t : Host.Ty) : Unblaming (castType s t) := by
  rw [castType.eq_def]
  split
  · exact FailsOnly.ok _
  · exact FailsOnly.ok _
  · exact FailsOnly.ok _
  · exact (tableOf_evades s _).map _
  · split
    · exact FailsOnly.ok _
    · exact Unblaming.raised nofun

theorem ofValue_evades (v : Value) : Unblaming (Statement.Expr.ofValue v) := by
  refine FailsOnly.map ?_ _
  rw [Statement.Literal.ofValue.eq_def]
  split
  · exact FailsOnly.ok _
  · exact Unblaming.raised nofun

theorem mapM_ofValue_evades (vs : List Value) : Unblaming (vs.mapM Statement.Expr.ofValue) := by
  induction vs with
  | nil => exact FailsOnly.ok _
  | cons v vs ih =>
      rw [List.mapM_cons]
      exact (ofValue_evades v).bind fun _ => ih.bind fun _ => FailsOnly.ok _

theorem valueList_evades (e : Expr) : Unblaming (valueList e) := by
  rw [valueList.eq_def]
  split
  · split
    · exact Unblaming.refusal (by decide) _
    · exact mapM_ofValue_evades _
  · exact Unblaming.refusal (by decide) _

theorem escapeOf_evades (whole : Expr) (args : List Argument) : Unblaming (escapeOf whole args) := by
  rw [escapeOf.eq_def]
  split
  · exact FailsOnly.ok _
  · exact FailsOnly.ok _
  · exact Unblaming.refusal (by decide) _
  · exact Unblaming.refusal (by decide) _

/-! ## Value expressions -/

/-- Whether its constants become parameters or literals, no run of the lowered
form ends because a constant was used as a condition. -/
def EvadesBoth {α : Type} (m : Placement → Lowering α) : Prop := ∀ p, Evades (m p)

theorem lowerConstant_evades (v : Value) : EvadesBoth (lowerConstant v) := by
  intro p
  rw [lowerConstant.eq_def]
  split
  · exact Evades.recordUsage _
  · split
    · exact Evades.pure _
    · cases p with
      | parameters => exact (Evades.register v).bind fun _ => Evades.pure _
      | literals => exact Evades.lift (ofValue_evades v)

theorem asTable_evades {base : Expr} {value : Lowering Statement.Expr} (h : Evades value) :
    Evades (asTable base value) := by
  rw [asTable.eq_def]
  split
  · split
    · exact Evades.pure _
    · exact Evades.refuse (by decide) _
  · split
    · exact h
    · exact Evades.refuse (by decide) _
  · exact h
  · exact h
  · exact Evades.refuse (by decide) _

theorem lowerPair_evades {lhs rhs : Lowered}
    (make : Statement.Expr → Statement.Expr → Statement.Expr) (hl : EvadesBoth lhs)
    (hr : EvadesBoth rhs) : EvadesBoth (lowerPair lhs rhs make) :=
  fun p => (hl p).bind fun _ => (hr p).bind fun _ => Evades.pure _

theorem lowerBinary_evades (whole : Expr) (op : Host.Operator) {lhs rhs : Lowered}
    (hl : EvadesBoth lhs) (hr : EvadesBoth rhs) : EvadesBoth (lowerBinary whole op lhs rhs) := by
  cases op with
  | arith op => exact lowerPair_evades _ hl hr
  | coalesce => exact fun p => (hl p).bind fun _ => (hr p).bind fun _ => Evades.call _ _
  | relation _ | logic _ => exact fun _ => Evades.refuse (by decide) _

theorem lowerCast_evades {type : Except Error Statement.CastType} {operand : Lowered}
    (ht : Unblaming type) (h : EvadesBoth operand) :
    EvadesBoth (lowerCast type operand) :=
  fun p => (Evades.lift ht).bind fun _ => (h p).bind fun _ => Evades.pure _

theorem lowerNegate_evades {operand : Lowered} (h : EvadesBoth operand) :
    EvadesBoth (lowerNegate operand) :=
  fun p => (h p).bind fun _ => Evades.pure _

theorem lowerFunction_evades (func : Statement.Function) {operand : Lowered}
    (others : List Statement.Expr) (h : EvadesBoth operand) :
    EvadesBoth (lowerFunction func operand others) :=
  fun p => (h p).bind fun _ => Evades.call _ _

theorem lowerGet_evades (whole : Expr) {record : Argument} (name : Expr)
    (h : EvadesBoth record.2) : EvadesBoth (lowerGet whole record name) := by
  intro p
  refine (asTable_evades (h p)).bind fun table => ?_
  split
  · exact Evades.pure _
  · exact Evades.refuse (by decide) _

theorem lowerCall_evades (s : Mapping) (whole : Expr) (method : Host.Method)
    {args : List Argument} (h : ∀ a ∈ args, EvadesBoth a.2) :
    EvadesBoth (lowerCall s whole method args) := by
  intro p
  rw [lowerCall.eq_def]
  split
  · exact lowerGet_evades whole _ (h _ (by simp)) p
  · exact lowerCast_evades ((sizeOf_evades _).map _) (h _ (by simp)) p
  · refine lowerCast_evades ?_ (h _ (by simp)) p
    exact (sizeOf_evades _).bind fun _ => (sizeOf_evades _).bind fun _ => FailsOnly.ok _
  · exact lowerCast_evades ((sizeOf_evades _).map _) (h _ (by simp)) p
  · exact lowerCast_evades ((tableOf_evades s _).map _) (h _ (by simp)) p
  · next text start length =>
      refine (h text (by simp) p).bind fun _ => ?_
      exact (h start (by simp) p).bind fun _ => (h length (by simp) p).bind fun _ => Evades.call _ _
  · exact lowerFunction_evades _ _ (h _ (by simp)) p
  · exact lowerFunction_evades _ _ (h _ (by simp)) p
  · exact lowerFunction_evades _ _ (h _ (by simp)) p
  · refine Evades.refuse ?_ _
    split <;> decide

theorem lowerConvert_evades (s : Mapping) (operand : Expr) (t : Host.Ty) {value : Lowered}
    (h : EvadesBoth value) : EvadesBoth (lowerConvert s operand t value) := by
  intro p
  rw [lowerConvert]
  split
  · exact h p
  · split
    · exact lowerCast_evades (castType_evades s t) h p
    · split
      · exact h p
      · exact Evades.error (not_blamesConstant_of_cause nofun)

theorem lowerMember_evades (s : Mapping) (base : Expr) (ref : Host.MemberRef) {value : Lowered}
    (h : EvadesBoth value) : EvadesBoth (lowerMember s base ref value) := by
  intro p
  cases ref with
  | field id =>
      refine (asTable_evades (h p)).bind fun _ => ?_
      exact (Evades.lift (fieldOf_evades s id)).bind fun _ => Evades.pure _
  | datePart part => exact lowerFunction_evades _ _ h p

theorem lowerConditional_evades {test : LoweredCondition} {yes : Lowered} {no : Argument}
    (ht : EvadesBoth test) (hy : EvadesBoth yes) (hn : EvadesBoth no.2) :
    EvadesBoth (lowerConditional test yes no) :=
  fun p => (ht p).bind fun _ => (hy p).bind fun _ => (hn p).bind fun _ => Evades.pure _

/-! ## Conditions -/

theorem lowerNullTest_evades (whole : Expr) (op : Statement.Relation) {operand : Lowered}
    (h : EvadesBoth operand) : EvadesBoth (lowerNullTest whole op operand) := by
  intro p
  refine (h p).bind fun x => ?_
  cases op with
  | eq | ne => exact Evades.pure _
  | gt | ge | lt | le => exact Evades.refuse (by decide) _

theorem lowerRelation_evades (whole : Expr) (op : Statement.Relation) {lhs rhs : Argument}
    (hl : EvadesBoth lhs.2) (hr : EvadesBoth rhs.2) :
    EvadesBoth (lowerRelation whole op lhs rhs) := by
  intro p
  rw [lowerRelation.eq_def]
  split
  · exact (hl p).bind fun _ => (hr p).bind fun _ => Evades.pure _
  · exact lowerNullTest_evades whole op hl p
  · exact lowerNullTest_evades whole op hr p
  · exact Evades.refuse (by decide) _

theorem lowerIn_evades {operand : Lowered} (values : Expr) (positive hierarchy : Bool)
    (h : EvadesBoth operand) : EvadesBoth (lowerIn operand values positive hierarchy) :=
  fun p => (h p).bind fun _ => (Evades.lift (valueList_evades _)).bind fun _ => Evades.pure _

theorem lowerLike_evades (whole : Expr) {operand : Lowered} (pattern : Expr)
    (escape : List Argument) (positive : Bool) (h : EvadesBoth operand) :
    EvadesBoth (lowerLike whole operand pattern escape positive) := by
  intro p
  refine (h p).bind fun x => ?_
  split
  · exact Evades.refuse (by decide) _
  · exact (Evades.lift (escapeOf_evades _ _)).bind fun _ => Evades.pure _

theorem lowerBetween_evades {operand start stop : Lowered} (positive : Bool)
    (hx : EvadesBoth operand) (ha : EvadesBoth start) (hb : EvadesBoth stop) :
    EvadesBoth (lowerBetween operand start stop positive) :=
  fun p => (hx p).bind fun _ => (ha .literals).bind fun _ => (hb .literals).bind fun _ =>
    Evades.pure _

theorem lowerPredicate_evades (whole : Expr) (method : Host.Method) {args : List Argument}
    (h : ∀ a ∈ args, EvadesBoth a.2) : EvadesBoth (lowerPredicate whole method args) := by
  intro p
  rw [lowerPredicate.eq_def]
  split
  · exact lowerIn_evades _ _ _ (h _ (by simp)) p
  · exact lowerIn_evades _ _ _ (h _ (by simp)) p
  · exact lowerIn_evades _ _ _ (h _ (by simp)) p
  · exact lowerIn_evades _ _ _ (h _ (by simp)) p
  · exact lowerLike_evades _ _ _ _ (h _ (by simp)) p
  · exact lowerLike_evades _ _ _ _ (h _ (by simp)) p
  · exact lowerBetween_evades _ (h _ (by simp)) (h _ (by simp)) (h _ (by simp)) p
  · exact lowerBetween_evades _ (h _ (by simp)) (h _ (by simp)) (h _ (by simp)) p
  · exact Evades.refuse (by decide) _

theorem lowerFlag_evades (whole : Expr) {value : Lowered} (h : EvadesBoth value) :
    EvadesBoth (lowerFlag whole value) := by
  intro p
  rw [lowerFlag]
  split
  · exact (h p).bind fun _ => (lowerConstant_evades _ p).bind fun _ => Evades.pure _
  · exact Evades.refuse (by decide) _

theorem lowerTypeTest_evades (s : Mapping) {operand : Lowered} (record : Nat)
    (h : EvadesBoth operand) : EvadesBoth (lowerTypeTest s operand record) :=
  fun p => (h p).bind fun _ => (Evades.lift (tableOf_evades s _)).bind fun _ => Evades.pure _

theorem lowerLogic_evades {lhs rhs : LoweredCondition} (op : Statement.Connective)
    (hl : EvadesBoth lhs) (hr : EvadesBoth rhs) : EvadesBoth (lowerLogic lhs op rhs) :=
  fun p => (hl p).bind fun _ => (hr p).bind fun _ => Evades.pure _

theorem lowerNot_evades {operand : LoweredCondition} (h : EvadesBoth operand) :
    EvadesBoth (lowerNot operand) :=
  fun p => (h p).bind fun _ => Evades.pure _

/-! ## Expressions without a redex -/

theorem bool?_of_not_redex {x : Expr} (h : x.bool?.isSome = false) : x.bool? = none :=
  Option.isNone_iff_eq_none.mp (Option.isSome_eq_false_iff.mp h)

mutual

/-- A value without a redex has no truth value in the place of a condition. -/
theorem lowerValue_evades (s : Mapping) {e : Expr} (h : e.Normal) :
    EvadesBoth (lowerValue s e) := by
  match e with
  | .binary lhs op rhs =>
      rw [lowerValue]
      exact lowerBinary_evades _ op (lowerValue_evades s h.2.1) (lowerValue_evades s h.2.2)
  | .call method args =>
      rw [lowerValue]
      exact lowerCall_evades s _ method (lowerArguments_evades s h.2)
  | .conditional test yes no =>
      rw [lowerValue]
      have htest := lowerCondition_evades s h.2.1 (bool?_of_not_redex h.1)
      exact lowerConditional_evades htest (lowerValue_evades s h.2.2.1)
        (lowerValue_evades s h.2.2.2)
  | .constant v _ =>
      rw [lowerValue]
      exact lowerConstant_evades v
  | .convert operand type =>
      rw [lowerValue]
      exact lowerConvert_evades s operand type (lowerValue_evades s h.2)
  | .member base ref _ =>
      rw [lowerValue]
      exact lowerMember_evades s base ref (lowerValue_evades s h.2)
  | .negate operand =>
      rw [lowerValue]
      exact lowerNegate_evades (lowerValue_evades s h.2)
  | .input _ | .construct _ _ =>
      rw [lowerValue]
      exact fun _ => Evades.recordUsage _
  | .array _ _ | .typeIs _ _ | .not _ =>
      rw [lowerValue]
      exact fun _ => Evades.refuse (by decide) _

/-- A condition without a redex has a truth value in the place of a condition
only if it is one. -/
theorem lowerCondition_evades (s : Mapping) {e : Expr} (h : e.Normal) (hb : e.bool? = none) :
    EvadesBoth (lowerCondition s e) := by
  match e with
  | .binary lhs (.relation op) rhs =>
      rw [lowerCondition_relation]
      exact lowerRelation_evades _ op (lowerValue_evades s h.2.1) (lowerValue_evades s h.2.2)
  | .binary lhs (.logic op) rhs =>
      obtain ⟨hnode, hl, hr⟩ := h
      obtain ⟨hlhs, hrhs⟩ := Bool.or_eq_false_iff.mp hnode
      rw [lowerCondition_logic]
      exact lowerLogic_evades op (lowerCondition_evades s hl (bool?_of_not_redex hlhs))
        (lowerCondition_evades s hr (bool?_of_not_redex hrhs))
  | .binary lhs (.arith op) rhs =>
      rw [lowerCondition_arith]
      exact lowerFlag_evades _
        (lowerBinary_evades _ _ (lowerValue_evades s h.2.1) (lowerValue_evades s h.2.2))
  | .binary lhs .coalesce rhs =>
      rw [lowerCondition_coalesce]
      exact lowerFlag_evades _
        (lowerBinary_evades _ _ (lowerValue_evades s h.2.1) (lowerValue_evades s h.2.2))
  | .call method args =>
      rw [lowerCondition]
      have hargs := lowerArguments_evades s h.2
      split
      · exact lowerPredicate_evades _ method hargs
      · exact lowerFlag_evades _ (lowerCall_evades s _ method hargs)
  | .conditional test yes no =>
      rw [lowerCondition]
      have htest := lowerCondition_evades s h.2.1 (bool?_of_not_redex h.1)
      exact lowerFlag_evades _ (lowerConditional_evades htest (lowerValue_evades s h.2.2.1)
        (lowerValue_evades s h.2.2.2))
  | .constant v type =>
      have hv : ¬v.bool?.isSome = true := by
        cases v with
        | bool b => cases hb
        | _ => exact Bool.false_ne_true
      rw [lowerCondition, if_neg hv]
      exact lowerFlag_evades _ (lowerConstant_evades v)
  | .convert operand type =>
      rw [lowerCondition]
      exact lowerFlag_evades _ (lowerConvert_evades s operand type (lowerValue_evades s h.2))
  | .member base ref _ =>
      rw [lowerCondition]
      exact lowerFlag_evades _ (lowerMember_evades s base ref (lowerValue_evades s h.2))
  | .input _ | .construct _ _ =>
      rw [lowerCondition]
      exact lowerFlag_evades _ fun _ => Evades.recordUsage _
  | .array _ _ =>
      rw [lowerCondition]
      exact lowerFlag_evades _ fun _ => Evades.refuse (by decide) _
  | .typeIs operand record =>
      rw [lowerCondition]
      exact lowerTypeTest_evades s record (lowerValue_evades s h.2)
  | .not operand =>
      rw [lowerCondition]
      exact lowerNot_evades (lowerCondition_evades s h.2 (bool?_of_not_redex h.1))
  | .negate operand =>
      rw [lowerCondition]
      exact lowerFlag_evades _ (lowerNegate_evades (lowerValue_evades s h.2))

theorem lowerArguments_evades (s : Mapping) {es : List Expr}
    (h : everywhereAll (fun x => x.isRedex = false) es) :
    ∀ a ∈ lowerArguments s es, EvadesBoth a.2 := by
  match es with
  | [] =>
      rw [lowerArguments]
      exact nofun
  | e :: rest =>
      rw [lowerArguments]
      intro a ha
      rcases List.mem_cons.mp ha with rfl | ha
      · exact lowerValue_evades s h.1
      · exact lowerArguments_evades s h.2 a ha

end

/-! ## Folded conditions -/

/-- A truth value in the place of a condition is refused at once. -/
theorem lowerCondition_of_bool {s : Mapping} {e : Expr} (h : e.bool?.isSome = true) (p : Placement) :
    lowerCondition s e p = refuse .constantCondition e := by
  cases e with
  | constant v type =>
      cases v with
      | bool b => rw [lowerCondition, Value.bool?, Option.isSome_some, if_pos rfl]
      | _ => cases h
  | _ => cases h

/-- Folding is done after one pass: what it returns folds to itself and has no
redex at any depth. In particular a condition that has been folded is refused
for a constant that stands as a condition exactly if it is a truth value as a
whole, and then it is the whole condition that the refusal names. -/
theorem fold_reaches_normal {e e' : Expr} (h : e.fold = .ok e') :
    e'.fold = .ok e' ∧ e'.Normal ∧
      ∀ s ps subject, (condition s e ps).1 = .error (Refusal.constantCondition.error subject) ↔
        e'.bool?.isSome = true ∧ subject = e'.text := by
  have hnormal := Expr.fold_normal h
  refine ⟨Expr.fold_of_normal hnormal, hnormal, fun s ps subject => ?_⟩
  have hrun : condition s e ps = lowerCondition s e' .parameters ps := by
    rw [condition, bind_apply, lift, h]
  rw [hrun]
  cases hb : e'.bool? with
  | none =>
      refine ⟨fun herr => ?_, nofun⟩
      exact absurd ⟨subject, rfl⟩ (lowerCondition_evades s hnormal hb .parameters ps _ herr)
  | some b =>
      rw [lowerCondition_of_bool (by rw [hb]; rfl)]
      constructor
      · intro herr
        injection herr with herr
        injection herr with herr
        injection herr with _ hsubject
        exact ⟨rfl, hsubject.symm⟩
      · rintro ⟨_, rfl⟩
        rfl

/-- A decided conditional around a comparison and a flag, each joined to what
can be computed. -/
def decidedOffer : Expr :=
  .conditional
    (.binary (.ofValue (.int32 1)) (.relation .lt) (.ofValue (.int32 2)))
    (.binary
      (.binary (.get (.input .row) "Price" (some .int32)) (.relation .gt)
        (.binary (.ofValue (.int32 2)) (.arith .mul) (.ofValue (.int32 3))))
      (.logic .and)
      (.binary (.not (.ofValue (.bool false))) (.logic .and)
        (.get (.input .row) "Offered" (some .bool))))
    (.ofValue (.bool false))

theorem fold_reaches_normal_decidedOffer :
    let folded : Expr :=
      .binary
        (.binary (.get (.input .row) "Price" (some .int32)) (.relation .gt)
          (.constant (.int32 6) (.scalar .int32)))
        (.logic .and) (.get (.input .row) "Offered" (some .bool))
    decidedOffer.fold = .ok folded ∧ folded.fold = .ok folded ∧ folded.Normal ∧
      ∀ subject, (condition .empty decidedOffer (.start "p")).1 ≠
        .error (Refusal.constantCondition.error subject) := by
  intro folded
  have hfold : decidedOffer.fold = .ok folded := rfl
  obtain ⟨hsame, hnormal, hcondition⟩ := fold_reaches_normal hfold
  exact ⟨hfold, hsame, hnormal, fun subject h => nomatch ((hcondition _ _ subject).mp h).1⟩

end Inquiry.Lower
