import Inquiry.Proofs.Registration

/-!
# Every lowering keeps the contract

One lemma for each lowering function, in the order of the modules that define
them: the forms of values, the forms of conditions, and then the mutual
recursion that ties them together. The lemmas about forms assume nothing about
the parts but that they are tracked, so the recursion only has to say which
form an expression has.

At the end stand the requests. Only their filters may register anything; the
columns, the sort keys and the operand of an aggregate are lowered with
literals and therefore refer to nothing, which is why the parameters of a query
are those of its condition although its columns come first in the text.
-/

namespace Inquiry.Lower

/-! ## Value expressions -/

open Statement (Expr Condition)

theorem ofValue_params {v : Value} {e : Expr} (h : Expr.ofValue v = .ok e) : e.params = [] := by
  unfold Expr.ofValue at h
  cases hl : Statement.Literal.ofValue v with
  | error _ => rw [hl] at h; cases h
  | ok l => rw [hl] at h; cases h; rfl

theorem lowerConstant_tracked (v : Value) : Tracked Expr.params (lowerConstant v) := by
  intro p
  rw [lowerConstant.eq_def]
  split
  · exact Registers.lift nofun
  · next hrecord =>
      split
      · exact Registers.pure refer_nil
      · next hnull =>
          cases p with
          | parameters =>
              refine (Registers.register (R := fun new name => new.map (·.name) = [name])
                ⟨by simpa using hnull, by simpa using hrecord⟩ fun _ => rfl).bind ?_
              intro name new hnew
              refine Registers.pure ?_
              rw [List.append_nil]
              exact hnew.symm
          | literals =>
              refine Registers.lift fun e he => ?_
              rw [ofValue_params he]
              exact refer_nil

theorem lowerRecord_tracked (usage : String) : Tracked Expr.params (lowerRecord usage) :=
  fun _ => Registers.lift nofun

/-- The table of an access is the default one, which refers to nothing, or the
value itself. -/
theorem asTable_registers {p : Placement} {base : Host.Expr} {value : Lowering Expr}
    (h : Registers p value fun new x => Refer x.params new) :
    Registers p (asTable base value) fun new x => Refer x.params new := by
  rw [asTable.eq_def]
  split
  · split
    · exact Registers.pure refer_nil
    · exact Registers.refuse _ _
  · split
    · exact h
    · exact Registers.refuse _ _
  · exact h
  · exact h
  · exact Registers.refuse _ _

theorem lowerPair_tracked {lhs rhs : Lowered} {make : Expr → Expr → Expr}
    (hl : Tracked Expr.params lhs) (hr : Tracked Expr.params rhs)
    (hmake : ∀ l r, (make l r).params = l.params ++ r.params) :
    Tracked Expr.params (lowerPair lhs rhs make) := by
  intro p
  refine (hl p).bind fun l new hnew => (hr p).bind fun r more hmore => Registers.pure ?_
  rw [hmake]
  exact hnew.append hmore.append_nil

theorem lowerBinary_tracked (whole : Host.Expr) (op : Host.Operator) {lhs rhs : Lowered}
    (hl : Tracked Expr.params lhs) (hr : Tracked Expr.params rhs) :
    Tracked Expr.params (lowerBinary whole op lhs rhs) := by
  intro p
  rw [lowerBinary.eq_def]
  split
  · exact lowerPair_tracked hl hr (fun _ _ => Expr.params_arith _ _ _) p
  · refine (hl p).bind fun l new hnew => (hr p).bind fun r more hmore => Registers.call ?_
    simpa using hnew.append hmore
  · exact Registers.refuse _ _
  · exact Registers.refuse _ _

theorem lowerCast_tracked (type : Except Error Statement.CastType) {operand : Lowered}
    (h : Tracked Expr.params operand) : Tracked Expr.params (lowerCast type operand) := by
  intro p
  refine (Registers.lift (Q := fun new _ => new = []) fun _ _ => rfl).bind ?_
  rintro t _ rfl
  refine (h p).bind fun x new hnew => Registers.pure ?_
  rw [Expr.params_cast]
  exact hnew.append_nil

theorem lowerNegate_tracked {operand : Lowered} (h : Tracked Expr.params operand) :
    Tracked Expr.params (lowerNegate operand) :=
  fun p => (h p).bind fun _ _ hnew => Registers.pure hnew.append_nil

theorem lowerFunction_tracked (func : Statement.Function) {operand : Lowered} {others : List Expr}
    (h : Tracked Expr.params operand) (hothers : others.flatMap Expr.params = []) :
    Tracked Expr.params (lowerFunction func operand others) := by
  intro p
  refine (h p).bind fun x new hnew => Registers.call ?_
  rw [Expr.params_call, List.flatMap_cons, hothers, List.append_nil]
  exact hnew.append_nil

theorem lowerGet_tracked (whole : Host.Expr) {record : Argument} (name : Host.Expr)
    (h : Tracked Expr.params record.2) : Tracked Expr.params (lowerGet whole record name) := by
  intro p
  refine (asTable_registers (h p)).bind fun table new hnew => ?_
  split
  · exact Registers.pure hnew.append_nil
  · exact Registers.refuse _ _

/-- The arguments of a call are tracked one by one. -/
def ArgumentsTracked (args : List Argument) : Prop := ∀ a ∈ args, Tracked Expr.params a.2

theorem lowerCall_tracked (s : Mapping) (whole : Host.Expr) (method : Host.Method)
    {args : List Argument} (h : ArgumentsTracked args) :
    Tracked Expr.params (lowerCall s whole method args) := by
  intro p
  rw [lowerCall.eq_def]
  split
  · exact lowerGet_tracked _ _ (h _ (by simp)) p
  · exact lowerCast_tracked _ (h _ (by simp)) p
  · exact lowerCast_tracked _ (h _ (by simp)) p
  · exact lowerCast_tracked _ (h _ (by simp)) p
  · exact lowerCast_tracked _ (h _ (by simp)) p
  · next text start length =>
      refine (h text (by simp) p).bind fun t new hnew => ?_
      refine (h start (by simp) p).bind fun i more hmore => ?_
      refine (h length (by simp) p).bind fun n rest hrest => Registers.call ?_
      simpa using hnew.append (hmore.append hrest)
  · exact lowerFunction_tracked _ (h _ (by simp)) rfl p
  · exact lowerFunction_tracked _ (h _ (by simp)) rfl p
  · exact lowerFunction_tracked _ (h _ (by simp)) rfl p
  · exact Registers.refuse _ _

theorem lowerConvert_tracked (s : Mapping) (operand : Host.Expr) (t : Host.Ty) {value : Lowered}
    (h : Tracked Expr.params value) : Tracked Expr.params (lowerConvert s operand t value) := by
  intro p
  rw [lowerConvert]
  split
  · exact h p
  · split
    · exact lowerCast_tracked _ h p
    · split
      · exact h p
      · exact Registers.lift nofun

theorem lowerMember_tracked (s : Mapping) (base : Host.Expr) (ref : Host.MemberRef) {value : Lowered}
    (h : Tracked Expr.params value) : Tracked Expr.params (lowerMember s base ref value) := by
  intro p
  rw [lowerMember.eq_def]
  split
  · refine (asTable_registers (h p)).bind fun table new hnew => ?_
    refine (Registers.lift (Q := fun new _ => new = []) fun _ _ => rfl).bind ?_
    rintro name _ rfl
    refine Registers.pure ?_
    rw [Expr.params_field]
    simpa using hnew
  · exact lowerFunction_tracked _ h rfl p

/-- What goes on after the first branch refers to what the rest refers to:
flattening keeps the order. -/
theorem params_caseTail (continues : Bool) (rest : Expr) :
    (Expr.case (caseTail continues rest).1 (caseTail continues rest).2).params = rest.params := by
  rw [caseTail.eq_def]
  split
  · rfl
  · simp

theorem lowerConditional_tracked {test : LoweredCondition} {yes : Lowered} {no : Argument}
    (hc : Tracked Condition.params test) (hy : Tracked Expr.params yes)
    (hn : Tracked Expr.params no.2) : Tracked Expr.params (lowerConditional test yes no) := by
  intro p
  refine (hc p).bind fun c new hnew => (hy p).bind fun v more hmore => ?_
  refine (hn p).bind fun d rest hrest => Registers.pure ?_
  have htail := params_caseTail (isConditional no.1) d
  rw [Expr.params_case] at htail
  rw [Expr.params_case, List.flatMap_cons, List.append_assoc, htail]
  simpa using hnew.append (hmore.append hrest)

/-! ## Conditions -/

theorem lowerNullTest_tracked (whole : Host.Expr) (op : Statement.Relation) {operand : Lowered}
    (h : Tracked Expr.params operand) :
    Tracked Condition.params (lowerNullTest whole op operand) := by
  intro p
  refine (h p).bind fun x new hnew => ?_
  split
  · exact Registers.pure hnew.append_nil
  · exact Registers.pure hnew.append_nil
  · exact Registers.refuse _ _

theorem lowerRelation_tracked (whole : Host.Expr) (op : Statement.Relation) {lhs rhs : Argument}
    (hl : Tracked Expr.params lhs.2) (hr : Tracked Expr.params rhs.2) :
    Tracked Condition.params (lowerRelation whole op lhs rhs) := by
  intro p
  rw [lowerRelation.eq_def]
  split
  · refine (hl p).bind fun l new hnew => (hr p).bind fun r more hmore => Registers.pure ?_
    rw [Condition.params_relation]
    exact hnew.append hmore.append_nil
  · exact lowerNullTest_tracked _ _ hl p
  · exact lowerNullTest_tracked _ _ hr p
  · exact Registers.refuse _ _

theorem mapM_ofValue_params {vs : List Value} {es : List Expr}
    (h : vs.mapM Expr.ofValue = .ok es) : es.flatMap Expr.params = [] := by
  induction vs generalizing es with
  | nil => cases h; rfl
  | cons v vs ih =>
      rw [List.mapM_cons] at h
      cases hv : Expr.ofValue v with
      | error _ => rw [hv] at h; cases h
      | ok e =>
          rw [hv] at h
          cases hvs : vs.mapM Expr.ofValue with
          | error _ => rw [hvs] at h; cases h
          | ok rest =>
              rw [hvs] at h
              cases h
              rw [List.flatMap_cons, ofValue_params hv, ih hvs]
              rfl

theorem valueList_params {e : Host.Expr} {es : List Expr} (h : valueList e = .ok es) :
    es.flatMap Expr.params = [] := by
  rw [valueList.eq_def] at h
  split at h
  · split at h
    · cases h
    · exact mapM_ofValue_params h
  · cases h

theorem lowerIn_tracked {operand : Lowered} (values : Host.Expr) (positive hierarchy : Bool)
    (h : Tracked Expr.params operand) :
    Tracked Condition.params (lowerIn operand values positive hierarchy) := by
  intro p
  refine (h p).bind fun x new hnew => ?_
  refine (Registers.lift (Q := fun new es => new = [] ∧ es.flatMap Expr.params = [])
    fun es hes => ⟨rfl, valueList_params hes⟩).bind ?_
  rintro es _ ⟨rfl, hes⟩
  refine Registers.pure ?_
  rw [Condition.params_inList, hes]
  simpa using hnew

theorem lowerLike_tracked (whole : Host.Expr) {operand : Lowered} (pattern : Host.Expr)
    (escape : List Argument) (positive : Bool) (h : Tracked Expr.params operand) :
    Tracked Condition.params (lowerLike whole operand pattern escape positive) := by
  intro p
  refine (h p).bind fun x new hnew => ?_
  split
  · exact Registers.refuse _ _
  · refine (Registers.lift (Q := fun new _ => new = []) fun _ _ => rfl).bind ?_
    rintro c _ rfl
    refine Registers.pure ?_
    simpa using hnew

/-- The bounds are lowered with literals whatever stands around them. -/
theorem lowerBetween_tracked {operand start stop : Lowered} (positive : Bool)
    (hx : Tracked Expr.params operand) (ha : Tracked Expr.params start)
    (hb : Tracked Expr.params stop) :
    Tracked Condition.params (lowerBetween operand start stop positive) := by
  intro p
  refine (hx p).bind fun x new hnew => ?_
  refine (ha .literals).ofLiterals.bind ?_
  rintro a _ ⟨rfl, ha⟩
  refine (hb .literals).ofLiterals.bind ?_
  rintro b _ ⟨rfl, hb⟩
  refine Registers.pure ?_
  simpa using hnew.append (ha.append hb)

theorem lowerPredicate_tracked (whole : Host.Expr) (method : Host.Method) {args : List Argument}
    (h : ArgumentsTracked args) : Tracked Condition.params (lowerPredicate whole method args) := by
  intro p
  rw [lowerPredicate.eq_def]
  split
  · exact lowerIn_tracked _ _ _ (h _ (by simp)) p
  · exact lowerIn_tracked _ _ _ (h _ (by simp)) p
  · exact lowerIn_tracked _ _ _ (h _ (by simp)) p
  · exact lowerIn_tracked _ _ _ (h _ (by simp)) p
  · exact lowerLike_tracked _ _ _ _ (h _ (by simp)) p
  · exact lowerLike_tracked _ _ _ _ (h _ (by simp)) p
  · exact lowerBetween_tracked _ (h _ (by simp)) (h _ (by simp)) (h _ (by simp)) p
  · exact lowerBetween_tracked _ (h _ (by simp)) (h _ (by simp)) (h _ (by simp)) p
  · exact Registers.refuse _ _

/-- The constant that a flag is compared with is registered like any other. -/
theorem lowerFlag_tracked (whole : Host.Expr) {value : Lowered} (h : Tracked Expr.params value) :
    Tracked Condition.params (lowerFlag whole value) := by
  intro p
  rw [lowerFlag]
  split
  · refine (h p).bind fun l new hnew => ?_
    refine (lowerConstant_tracked (.bool true) p).bind fun r more hmore => Registers.pure ?_
    rw [Condition.params_relation]
    exact hnew.append hmore.append_nil
  · exact Registers.refuse _ _

theorem lowerTypeTest_tracked (s : Mapping) {operand : Lowered} (record : Nat)
    (h : Tracked Expr.params operand) :
    Tracked Condition.params (lowerTypeTest s operand record) := by
  intro p
  refine (h p).bind fun x new hnew => ?_
  refine (Registers.lift (Q := fun new _ => new = []) fun _ _ => rfl).bind ?_
  rintro table _ rfl
  refine Registers.pure ?_
  simpa using hnew

theorem lowerLogic_tracked {lhs rhs : LoweredCondition} (op : Statement.Connective)
    (hl : Tracked Condition.params lhs) (hr : Tracked Condition.params rhs) :
    Tracked Condition.params (lowerLogic lhs op rhs) := by
  intro p
  refine (hl p).bind fun l new hnew => (hr p).bind fun r more hmore => Registers.pure ?_
  rw [Condition.params_logic]
  exact hnew.append hmore.append_nil

theorem lowerNot_tracked {operand : LoweredCondition} (h : Tracked Condition.params operand) :
    Tracked Condition.params (lowerNot operand) := by
  intro p
  exact (h p).bind fun c new hnew => Registers.pure hnew.append_nil

/-! ## Expressions -/

mutual

theorem lowerValue_tracked (s : Mapping) (e : Host.Expr) :
    Tracked Expr.params (lowerValue s e) := by
  match e with
  | .binary lhs op rhs =>
      rw [lowerValue]
      exact lowerBinary_tracked _ op (lowerValue_tracked s lhs) (lowerValue_tracked s rhs)
  | .call method args =>
      rw [lowerValue]
      exact lowerCall_tracked s _ method (lowerArguments_tracked s args)
  | .conditional test yes no =>
      rw [lowerValue]
      exact lowerConditional_tracked (lowerCondition_tracked s test) (lowerValue_tracked s yes)
        (lowerValue_tracked s no)
  | .constant v _ =>
      rw [lowerValue]
      exact lowerConstant_tracked v
  | .convert operand type =>
      rw [lowerValue]
      exact lowerConvert_tracked s operand type (lowerValue_tracked s operand)
  | .member base ref _ =>
      rw [lowerValue]
      exact lowerMember_tracked s base ref (lowerValue_tracked s base)
  | .negate operand =>
      rw [lowerValue]
      exact lowerNegate_tracked (lowerValue_tracked s operand)
  | .input _ | .construct _ _ =>
      rw [lowerValue]
      exact lowerRecord_tracked _
  | .array _ _ | .typeIs _ _ | .not _ =>
      rw [lowerValue]
      exact fun _ => Registers.refuse _ _

theorem lowerCondition_tracked (s : Mapping) (e : Host.Expr) :
    Tracked Condition.params (lowerCondition s e) := by
  match e with
  | .binary lhs (.relation op) rhs =>
      rw [lowerCondition_relation]
      exact lowerRelation_tracked _ op (lowerValue_tracked s lhs) (lowerValue_tracked s rhs)
  | .binary lhs (.logic op) rhs =>
      rw [lowerCondition_logic]
      exact lowerLogic_tracked op (lowerCondition_tracked s lhs) (lowerCondition_tracked s rhs)
  | .binary lhs (.arith op) rhs =>
      rw [lowerCondition_arith]
      exact lowerFlag_tracked _
        (lowerBinary_tracked _ _ (lowerValue_tracked s lhs) (lowerValue_tracked s rhs))
  | .binary lhs .coalesce rhs =>
      rw [lowerCondition_coalesce]
      exact lowerFlag_tracked _
        (lowerBinary_tracked _ _ (lowerValue_tracked s lhs) (lowerValue_tracked s rhs))
  | .call method args =>
      rw [lowerCondition]
      split
      · exact lowerPredicate_tracked _ method (lowerArguments_tracked s args)
      · exact lowerFlag_tracked _ (lowerCall_tracked s _ method (lowerArguments_tracked s args))
  | .conditional test yes no =>
      rw [lowerCondition]
      exact lowerFlag_tracked _
        (lowerConditional_tracked (lowerCondition_tracked s test) (lowerValue_tracked s yes)
          (lowerValue_tracked s no))
  | .constant v _ =>
      rw [lowerCondition]
      split
      · exact fun _ => Registers.refuse _ _
      · exact lowerFlag_tracked _ (lowerConstant_tracked v)
  | .convert operand type =>
      rw [lowerCondition]
      exact lowerFlag_tracked _
        (lowerConvert_tracked s operand type (lowerValue_tracked s operand))
  | .member base ref _ =>
      rw [lowerCondition]
      exact lowerFlag_tracked _ (lowerMember_tracked s base ref (lowerValue_tracked s base))
  | .input _ | .construct _ _ =>
      rw [lowerCondition]
      exact lowerFlag_tracked _ (lowerRecord_tracked _)
  | .array _ _ =>
      rw [lowerCondition]
      exact lowerFlag_tracked _ fun _ => Registers.refuse _ _
  | .typeIs operand record =>
      rw [lowerCondition]
      exact lowerTypeTest_tracked s record (lowerValue_tracked s operand)
  | .not operand =>
      rw [lowerCondition]
      exact lowerNot_tracked (lowerCondition_tracked s operand)
  | .negate operand =>
      rw [lowerCondition]
      exact lowerFlag_tracked _ (lowerNegate_tracked (lowerValue_tracked s operand))

theorem lowerArguments_tracked (s : Mapping) (es : List Host.Expr) :
    ArgumentsTracked (lowerArguments s es) := by
  match es with
  | [] =>
      rw [lowerArguments]
      exact nofun
  | e :: rest =>
      rw [lowerArguments]
      intro a ha
      rcases List.mem_cons.mp ha with rfl | ha
      · exact lowerValue_tracked s e
      · exact lowerArguments_tracked s rest a ha

end

/-! ## Parts of a request

A part with literals for its constants is inline; what is folded first is so,
too, because folding registers nothing. -/

theorem Inline.folded {α : Type} {refs : α → List Statement.Name} {e : Host.Expr}
    {f : Host.Expr → Lowering α} (h : ∀ folded, Inline refs (f folded)) :
    Inline refs (lift e.fold >>= f) :=
  (Registers.lift (Q := fun _ _ => True) fun _ _ => trivial).bind fun folded _ _ => h folded

theorem value_inline (s : Mapping) (e : Host.Expr) : Inline Expr.params (value s e) :=
  Inline.folded fun folded => (lowerValue_tracked s folded).inline

theorem sortKey_inline (s : Mapping) (e : Host.Expr) (direction : Statement.Direction) :
    Inline (fun k => k.expr.params) (sortKey s e direction) :=
  Registers.bind (value_inline s e) fun _ _ hkey => Registers.pure hkey

theorem lowerMembers_inline (s : Mapping) (members : List (String × Host.Expr)) (position : Nat) :
    Inline (fun cs => cs.1.flatMap Expr.params) (lowerMembers s .literals position members) := by
  induction members generalizing position with
  | nil => exact Registers.pure rfl
  | cons m rest ih =>
      obtain ⟨name, e⟩ := m
      rw [lowerMembers]
      split
      · exact Registers.bind (Q := fun _ _ => False) (Registers.lift nofun) nofun
      · refine Registers.bind (lowerValue_tracked s e).inline fun column _ hcolumn => ?_
        refine Registers.bind (ih (position + 1)) fun others _ hothers => Registers.pure ?_
        show (column :: others.1).flatMap Expr.params = []
        rw [List.flatMap_cons, hcolumn]
        exact hothers

theorem lowerProjection_inline (s : Mapping) (e : Host.Expr) :
    Inline (fun q => q.columns.flatMap Expr.params) (lowerProjection s e .literals) := by
  rw [lowerProjection.eq_def]
  split
  · split
    · exact Registers.lift nofun
    · exact Registers.bind (lowerMembers_inline s _ 0) fun _ _ hcolumns => Registers.pure hcolumns
  · split
    · exact Registers.lift nofun
    · refine Registers.bind (lowerValue_tracked s e).inline fun column _ hcolumn => Registers.pure ?_
      show [column].flatMap Expr.params = []
      rw [List.flatMap_cons, hcolumn]
      rfl

theorem projection_inline (s : Mapping) (e : Host.Expr) :
    Inline (fun q => q.columns.flatMap Expr.params) (projection s e) :=
  Inline.folded fun folded => lowerProjection_inline s folded

theorem sortKeys_inline (s : Mapping) (keys : List (Host.Expr × Statement.Direction)) :
    Inline (fun ks => ks.flatMap fun k => k.expr.params) (sortKeys s keys) := by
  induction keys with
  | nil => exact Registers.pure rfl
  | cons k rest ih =>
      obtain ⟨e, direction⟩ := k
      rw [sortKeys]
      refine Registers.bind (sortKey_inline s e direction) ?_
      intro key _ (hkey : key.expr.params = [])
      refine Registers.bind ih fun others _ hothers => Registers.pure ?_
      show (key :: others).flatMap (fun k => k.expr.params) = []
      rw [List.flatMap_cons, hkey]
      exact hothers

theorem orderOf_inline (s : Mapping) (plan : Plan) :
    Inline (fun o => (o.getD []).flatMap fun k => k.expr.params) (orderOf s plan) := by
  rw [orderOf]
  split
  · exact Registers.pure rfl
  · refine Registers.bind (sortKeys_inline s plan.order) fun keys _ hkeys => ?_
    refine (Registers.lift (Q := fun _ checked => checked = keys) fun checked h => ?_).bind ?_
    · rw [Statement.SortKey.check] at h
      split at h
      · cases h
      · cases h; rfl
    · rintro checked _ rfl
      exact Registers.pure hkeys

theorem columnsOf_inline (s : Mapping) (plan : Plan) :
    Inline (fun c => c.1.columns.flatMap Expr.params) (columnsOf s plan) := by
  rw [columnsOf.eq_def]
  split
  · exact Registers.pure rfl
  · next e _ =>
      refine Registers.bind (projection_inline s e) fun projected _ hprojected => ?_
      refine (Registers.lift (Q := fun _ select => select.columns = projected.columns)
        fun select h => ?_).bind fun select _ hselect => Registers.pure ?_
      · rw [Statement.Select.ofColumns] at h
        split at h
        · cases h
        · cases h; rfl
      · show select.columns.flatMap Expr.params = []
        rw [hselect]
        exact hprojected

theorem onlyColumn_inline (s : Mapping) (e : Host.Expr) : Inline Expr.params (onlyColumn s e) := by
  refine Inline.folded fun folded => ?_
  split
  · exact (lowerValue_tracked s _).inline
  · exact Registers.refuse _ _
  · exact (lowerValue_tracked s _).inline

theorem countColumn_inline (s : Mapping) (plan : Plan) (a : Aggregation) :
    Inline Expr.params (countColumn s plan a) := by
  rw [countColumn]
  split
  · split
    · exact Registers.lift nofun
    · exact Registers.bind (onlyColumn_inline s _) fun _ _ hcolumn => Registers.pure hcolumn
  · exact Registers.pure rfl

theorem aggregateOperand_inline (s : Mapping) (plan : Plan) (a : Aggregation) :
    Inline Expr.params (aggregateOperand s plan a) := by
  rw [aggregateOperand.eq_def]
  split
  · exact Registers.refuse _ _
  · exact value_inline s _
  · exact onlyColumn_inline s _
  · exact Registers.lift nofun

theorem aggregateColumn_inline (s : Mapping) (plan : Plan) (a : Aggregation) :
    Inline Expr.params (aggregateColumn s plan a) := by
  rw [aggregateColumn.eq_def]
  split
  · exact countColumn_inline s plan a
  · split
    · exact Registers.lift nofun
    · refine Registers.bind (aggregateOperand_inline s plan a) fun _ _ hoperand => ?_
      exact (Registers.lift (Q := fun _ _ => True) fun _ _ => trivial).bind fun _ _ _ =>
        Registers.pure hoperand

/-- The parameters to which a query refers outside its filter. -/
def outsideFilter (q : Statement.Query × Option Reader) : List Statement.Name :=
  q.1.select.columns.flatMap Expr.params ++ (q.1.order.getD []).flatMap fun k => k.expr.params

theorem lowerPlan_inline (s : Mapping) (plan : Plan) :
    Inline outsideFilter (lowerPlan s plan) := by
  rw [lowerPlan.eq_def]
  split
  · refine Registers.bind (columnsOf_inline s plan) fun columns _ hcolumns => ?_
    refine Registers.bind (orderOf_inline s plan) fun order _ horder => Registers.pure ?_
    exact List.append_eq_nil_iff.mpr ⟨hcolumns, horder⟩
  · next a _ =>
      refine Registers.bind (aggregateColumn_inline s plan a) fun column _ hcolumn =>
        Registers.pure ?_
      simpa [outsideFilter, Statement.Select.single] using hcolumn

/-! ## Conditions and requests -/

theorem condition_registers (s : Mapping) (e : Host.Expr) :
    Registers .parameters (condition s e) fun new c => Refer c.params new := by
  refine (Registers.lift (Q := fun new _ => new = []) fun _ _ => rfl).bind ?_
  rintro folded _ rfl
  exact lowerCondition_tracked s folded .parameters

theorem lowerFilters_registers (s : Mapping) (filters : List Host.Expr) :
    Registers .parameters (lowerFilters s filters)
      fun new cs => Refer (cs.flatMap Condition.params) new := by
  induction filters with
  | nil => exact Registers.pure refer_nil
  | cons e rest ih =>
      rw [lowerFilters]
      refine (Registers.lift (Q := fun new _ => new = []) fun _ _ => rfl).bind ?_
      rintro folded _ rfl
      split
      · exact ih
      · exact Registers.refuse _ _
      · refine (lowerCondition_tracked s folded .parameters).bind fun c new hnew => ?_
        refine ih.bind fun others more hmore => Registers.pure ?_
        rw [List.flatMap_cons]
        exact hnew.append hmore.append_nil

theorem filter_registers (s : Mapping) (filters : List Host.Expr) :
    Registers .parameters (filter s filters)
      fun new c => Refer ((c.map Condition.params).getD []) new := by
  refine (lowerFilters_registers s filters).bind fun cs new hnew => Registers.pure ?_
  rw [Condition.params_all]
  exact hnew.append_nil

/-- A query refers to exactly what its filters registered. -/
theorem request_registers (s : Mapping) (r : Request) :
    Registers .parameters (request s r) fun new q => Refer q.1.params new := by
  refine (Registers.lift (Q := fun new _ => new = []) fun _ _ => rfl).bind ?_
  rintro plan _ rfl
  refine (Registers.lift (Q := fun new _ => new = []) fun _ _ => rfl).bind ?_
  rintro source _ rfl
  refine (filter_registers s plan.conditions).bind fun c new hnew => ?_
  refine (lowerPlan_inline s plan).registers.bind ?_
  rintro ⟨query, reader⟩ _ ⟨rfl, hquery⟩
  obtain ⟨hcolumns, horder⟩ := List.append_eq_nil_iff.mp hquery
  refine Registers.pure ?_
  rw [Statement.Query.params_eq, hcolumns, horder]
  simpa using hnew

end Inquiry.Lower
