import Inquiry.Proofs.SessionParameters
import Inquiry.Proofs.StepOrder
import Inquiry.Proofs.WellFormed

/-!
# The form of a compiled query

A query has parts that no expression may have: all columns of the source, and
the aggregate that makes it a query for a single value. Which of them it has is
decided by the plan of its request, and `Query.WellFormed` says how. The rest
of a query are conditions and expressions, and those come from lowering.

The expressions of a request are folded before they are lowered. What has to be
known of their names is therefore asked of the folded expression, and only if
there is one; `Readable` says so. Folding has failures of its own, and all of
them have to do with constants; `FoldSafe` says so.
-/

namespace Inquiry

open Host (NamedAccess)

namespace Statement

/-- The column of a query for a single value, by what it computes. -/
def Summarises (named : String → Prop) : Summary → Expr → Prop
  | .count, .countRows distinct => distinct = false
  | .count, .count operand distinct => operand.WellFormed named ∧ distinct = true
  | .total func, .aggregate g operand => g = func ∧ operand.WellFormed named
  | _, _ => False

/-- The columns of a query for a plan, and whether rows are read from it. -/
def ColumnsFor (named : String → Prop) (plan : Plan) (columns : List Expr)
    (reader : Option Reader) : Prop :=
  match plan.aggregation, plan.projection with
  | some a, _ => (∃ column, columns = [column] ∧ Summarises named a.func column) ∧ reader = none
  | none, some _ => (columns ≠ [] ∧ AllWellFormed named columns) ∧ reader.isSome = true
  | none, none => columns = [.allColumns] ∧ reader = some .raw

/-- A query as it is compiled for a plan, with the reader for its rows. -/
structure Query.WellFormed (named : String → Prop) (plan : Plan) (q : Query)
    (reader : Option Reader) : Prop where
  columns : ColumnsFor named plan q.select.columns reader
  source : ∃ name, q.source = some name ∧ named name
  filter : ∀ c, q.filter = some c → c.WellFormed named
  order : ∀ keys, q.order = some keys → keys ≠ [] ∧ ∀ k ∈ keys, k.expr.WellFormed named
  /-- A query for a single value is neither distinct nor limited nor sorted. -/
  single : plan.aggregation.isSome = true →
    q.select.distinct = false ∧ q.select.top = none ∧ q.order = none

end Statement

/-! ## The expressions of a request -/

/-- The expressions of a step. -/
def Step.exprs : Step → List Host.Expr
  | filter e | orderBy e _ | thenBy e _ | select e => [e]
  | aggregate a => a.operand.toList
  | distinct | take _ => []

/-- The expressions of a plan. -/
def Plan.exprs (plan : Plan) : List Host.Expr :=
  plan.filters ++ plan.order.map (·.1) ++ plan.projection.toList ++
    (plan.aggregation.bind (·.operand)).toList

theorem Plan.mem_exprs_add {plan : Plan} {step : Step} {e : Host.Expr}
    (h : e ∈ (plan.add step).exprs) : e ∈ plan.exprs ∨ e ∈ step.exprs := by
  cases step <;> simp only [Plan.add, Plan.exprs, Step.exprs, List.mem_append, List.map_append,
    List.map_cons, List.map_nil, Option.toList_some, Option.bind_some, List.mem_singleton,
    List.not_mem_nil] at h ⊢ <;> tauto

/-- A plan takes its expressions from its steps. -/
theorem Plan.mem_exprs_foldl {plan : Plan} {steps : List Step} {e : Host.Expr}
    (h : e ∈ (steps.foldl add plan).exprs) : e ∈ plan.exprs ∨ ∃ step ∈ steps, e ∈ step.exprs := by
  induction steps generalizing plan with
  | nil => exact .inl h
  | cons step rest ih =>
      rcases ih h with hplan | ⟨other, hother, he⟩
      · rcases mem_exprs_add hplan with hplan | hstep
        · exact .inl hplan
        · exact .inr ⟨step, List.mem_cons_self, hstep⟩
      · exact .inr ⟨other, List.mem_cons_of_mem step hother, he⟩

theorem Plan.mem_exprs_ofSteps {steps : List Step} {plan : Plan} (h : ofSteps steps = .ok plan)
    {e : Host.Expr} (he : e ∈ plan.exprs) : ∃ step ∈ steps, e ∈ step.exprs := by
  rw [extend_eq_foldl h] at he
  rcases mem_exprs_foldl he with hempty | hsteps
  · cases hempty
  · exact hsteps

/-- Steps that come in the wrong order are refused. -/
theorem Plan.ofSteps_delivers (steps : List Step) :
    Delivers (fun plan => ofSteps steps = .ok plan) (ofSteps steps) := by
  have hextend : ∀ (rest : List Step) (stage : Stage) (plan : Plan),
      Delivers (fun _ => True) (extend stage plan rest) := by
    intro rest
    induction rest with
    | nil => exact fun _ _ => trivial
    | cons step rest ih =>
        intro stage plan
        rw [extend.eq_def]
        dsimp only
        split
        · exact Error.ordinary_raised rfl
        · exact ih _ _
  cases h : ofSteps steps with
  | error e => exact (hextend steps .source empty).failure h
  | ok plan => rfl

theorem Plan.mem_exprs_conditions {plan : Plan} {e : Host.Expr} (h : e ∈ plan.conditions) :
    e ∈ plan.exprs := by
  unfold Plan.conditions at h
  split at h
  · next predicate ha =>
      rw [Plan.exprs, ha]
      rcases List.mem_append.mp h with h | h
      · simp [h]
      · simp [List.mem_singleton.mp h]
  · simp [Plan.exprs, h]

namespace Lower

open Statement (Expr Condition Query)

/-- If the expression folds, the fields that it then reads by name have a
property. -/
def Readable (named : String → Prop) (e : Host.Expr) : Prop :=
  ∀ folded, e.fold = .ok folded → folded.Everywhere (NamedAccess named)

section

variable {named : String → Prop} {s : Mapping}

theorem Gives.folded {α : Type} {P : α → Prop} {e : Host.Expr} {f : Host.Expr → Lowering α}
    (he : Readable named e)
    (h : ∀ folded, folded.Everywhere (NamedAccess named) → Gives P (f folded)) :
    Gives P (Lower.lift e.fold >>= f) :=
  (Gives.lift (e.fold_safe.delivers he)).bind h

theorem value_form (hs : s.Named named) {e : Host.Expr} (he : Readable named e) :
    Gives (Expr.WellFormed named) (value s e) :=
  Gives.folded he fun folded hfolded => lowerValue_form hs folded hfolded .literals

theorem condition_form (hs : s.Named named) {e : Host.Expr} (he : Readable named e) :
    Gives (Condition.WellFormed named) (condition s e) :=
  Gives.folded he fun folded hfolded => lowerCondition_form hs folded hfolded .parameters

theorem sortKey_form (hs : s.Named named) {e : Host.Expr} (he : Readable named e)
    (direction : Statement.Direction) :
    Gives (fun k => k.expr.WellFormed named) (sortKey s e direction) :=
  (value_form hs he).bind fun _ hkey => Gives.pure hkey

/-! ## Projections -/

theorem lowerMembers_form (hs : s.Named named) (p : Placement)
    (members : List (String × Host.Expr)) (position : Nat)
    (h : Host.everywhereMembers (NamedAccess named) members) :
    Gives (fun cs => cs.1.length = members.length ∧ Statement.AllWellFormed named cs.1)
      (lowerMembers s p position members) := by
  induction members generalizing position with
  | nil => exact Gives.pure ⟨rfl, trivial⟩
  | cons m rest ih =>
      obtain ⟨name, e⟩ := m
      rw [lowerMembers]
      split
      · exact Gives.fail_bind (Error.ordinary_raised rfl)
      · refine (lowerValue_form hs e h.1 p).bind fun column hcolumn => ?_
        refine (ih (position + 1) h.2).bind fun others hothers => Gives.pure ?_
        exact ⟨congrArg Nat.succ hothers.1, hcolumn, hothers.2⟩

theorem lowerProjection_form (hs : s.Named named) (p : Placement) {e : Host.Expr}
    (h : e.Everywhere (NamedAccess named)) :
    Gives (fun q => q.columns ≠ [] ∧ Statement.AllWellFormed named q.columns)
      (lowerProjection s e p) := by
  rw [lowerProjection.eq_def]
  split
  · next members =>
      split
      · exact Gives.fail (Error.ordinary_raised rfl)
      · next hmembers =>
          refine (lowerMembers_form hs p members 0 h.2).bind fun columns hcolumns => Gives.pure ?_
          refine ⟨fun hnil => hmembers ?_, hcolumns.2⟩
          have hlength : columns.1.length = members.length := hcolumns.1
          rw [show columns.1 = [] from hnil] at hlength
          exact List.isEmpty_iff.mpr (List.eq_nil_of_length_eq_zero hlength.symm)
  · split
    · exact Gives.fail (Error.ordinary_raised rfl)
    · exact (lowerValue_form hs e h p).bind fun column hcolumn =>
        Gives.pure ⟨by simp, hcolumn, trivial⟩

theorem projection_form (hs : s.Named named) {e : Host.Expr} (he : Readable named e) :
    Gives (fun q => q.columns ≠ [] ∧ Statement.AllWellFormed named q.columns) (projection s e) :=
  Gives.folded he fun _ hfolded => lowerProjection_form hs .literals hfolded

/-! ## Parts of a query -/

theorem sortKeys_form (hs : s.Named named) (keys : List (Host.Expr × Statement.Direction))
    (h : ∀ k ∈ keys, Readable named k.1) :
    Gives (fun ks => ∀ k ∈ ks, k.expr.WellFormed named) (sortKeys s keys) := by
  induction keys with
  | nil => exact Gives.pure nofun
  | cons k rest ih =>
      obtain ⟨e, direction⟩ := k
      rw [sortKeys]
      have he : Readable named e := h (e, direction) List.mem_cons_self
      refine (sortKey_form hs he direction).bind fun key hkey => ?_
      refine (ih fun k hk => h k (List.mem_cons_of_mem _ hk)).bind fun others hothers =>
        Gives.pure fun k hk => ?_
      rcases List.mem_cons.mp hk with rfl | hk
      · exact hkey
      · exact hothers k hk

theorem orderOf_form (hs : s.Named named) {plan : Plan} (h : ∀ e ∈ plan.exprs, Readable named e) :
    Gives (fun o => ∀ keys, o = some keys → keys ≠ [] ∧ ∀ k ∈ keys, k.expr.WellFormed named)
      (orderOf s plan) := by
  rw [orderOf]
  split
  · exact Gives.pure fun keys hkeys => by cases hkeys
  · have hkeys : ∀ k ∈ plan.order, Readable named k.1 := by
      intro k hk
      refine h k.1 ?_
      have : k.1 ∈ plan.order.map (·.1) := List.mem_map_of_mem hk
      simp only [Plan.exprs, List.mem_append]
      exact .inl (.inl (.inr this))
    refine (sortKeys_form hs plan.order hkeys).bind fun keys hwell => ?_
    refine (Gives.lift (P := fun checked => checked = keys ∧ keys ≠ []) ?_).bind ?_
    · rw [Statement.SortKey.check]
      split
      · exact Error.ordinary_raised rfl
      · next hne => exact ⟨rfl, by simpa using hne⟩
    · rintro checked ⟨rfl, hne⟩
      refine Gives.pure fun keys hkeys => ?_
      cases hkeys
      exact ⟨hne, hwell⟩

theorem columnsOf_form (hs : s.Named named) {plan : Plan} (hplan : plan.aggregation = none)
    (h : ∀ e ∈ plan.exprs, Readable named e) :
    Gives (fun c => Statement.ColumnsFor named plan c.1.columns (some c.2)) (columnsOf s plan) := by
  unfold Statement.ColumnsFor
  rw [columnsOf.eq_def, hplan]
  cases hprojection : plan.projection with
  | none => exact Gives.pure ⟨rfl, rfl⟩
  | some e =>
      have he : Readable named e := h e (by simp [Plan.exprs, hprojection])
      refine (projection_form hs he).bind fun projected hprojected => ?_
      refine (Gives.lift (P := fun select => select.columns = projected.columns) ?_).bind
        fun select hselect => Gives.pure ?_
      · rw [Statement.Select.ofColumns]
        split
        · exact Error.ordinary_raised rfl
        · rfl
      · exact ⟨hselect ▸ hprojected, rfl⟩

theorem onlyColumn_form (hs : s.Named named) {e : Host.Expr} (he : Readable named e) :
    Gives (Expr.WellFormed named) (onlyColumn s e) := by
  refine Gives.folded he fun folded hfolded => ?_
  split
  · exact lowerValue_form hs _ hfolded.2.1 .literals
  · exact Gives.refuse _ _
  · exact lowerValue_form hs _ hfolded .literals

theorem refuseAggregation_gives {α : Type} {P : α → Prop} (r : Refusal) (a : Aggregation) :
    Gives P (refuseAggregation r a) :=
  Gives.fail (Error.ordinary_raised rfl)

theorem aggregateOperand_form (hs : s.Named named) {plan : Plan} {a : Aggregation}
    (hprojection : ∀ e, plan.projection = some e → Readable named e)
    (hoperand : ∀ e, a.operand = some e → Readable named e) :
    Gives (Expr.WellFormed named) (aggregateOperand s plan a) := by
  rw [aggregateOperand.eq_def]
  split
  · exact Gives.refuse _ _
  · next e he _ => exact value_form hs (hoperand e he)
  · next e _ he => exact onlyColumn_form hs (hprojection e he)
  · exact refuseAggregation_gives _ _

theorem countColumn_form (hs : s.Named named) {plan : Plan} (a : Aggregation)
    (hprojection : ∀ e, plan.projection = some e → Readable named e) :
    Gives (Statement.Summarises named .count) (countColumn s plan a) := by
  rw [countColumn]
  split
  · split
    · exact refuseAggregation_gives _ _
    · next e he =>
        exact (onlyColumn_form hs (hprojection e he)).bind fun column hcolumn =>
          Gives.pure ⟨hcolumn, rfl⟩
  · exact Gives.pure rfl

/-- A summary that is no count is the aggregate of the same name. -/
theorem summary_aggregate {f : Summary} (hf : f ≠ .count) :
    Delivers (fun func => f = .total func) (Error.ofMisuse f.aggregate) := by
  cases f with
  | count => exact absurd rfl hf
  | total func => rfl

/-- A count becomes a count, and a total the aggregate of the same name. -/
theorem aggregateColumn_form (hs : s.Named named) {plan : Plan} {a : Aggregation}
    (ha : plan.aggregation = some a) (h : ∀ e ∈ plan.exprs, Readable named e) :
    Gives (Statement.Summarises named a.func) (aggregateColumn s plan a) := by
  have hprojection : ∀ e, plan.projection = some e → Readable named e :=
    fun e he => h e (by simp [Plan.exprs, he])
  have hoperand : ∀ e, a.operand = some e → Readable named e :=
    fun e he => h e (by simp [Plan.exprs, ha, he])
  rw [aggregateColumn.eq_def]
  split
  · next hfunc =>
      rw [hfunc]
      exact countColumn_form hs a hprojection
  · next hfunc =>
      split
      · exact refuseAggregation_gives _ _
      · refine (aggregateOperand_form hs hprojection hoperand).bind fun operand hwell => ?_
        refine (Gives.lift (summary_aggregate hfunc)).bind fun func hsame => Gives.pure ?_
        rw [hsame]
        exact ⟨rfl, hwell⟩

/-! ## Queries -/

theorem lowerFilters_form (hs : s.Named named) (filters : List Host.Expr)
    (h : ∀ e ∈ filters, Readable named e) :
    Gives (fun cs => ∀ c ∈ cs, c.WellFormed named) (lowerFilters s filters) := by
  induction filters with
  | nil => exact Gives.pure nofun
  | cons e rest ih =>
      have hrest := ih fun d hd => h d (List.mem_cons_of_mem e hd)
      rw [lowerFilters]
      refine Gives.folded (h e List.mem_cons_self) fun folded hfolded => ?_
      split
      · exact hrest
      · exact Gives.refuse _ _
      · refine (lowerCondition_form hs folded hfolded .parameters).bind fun c hc => ?_
        refine hrest.bind fun others hothers => Gives.pure fun d hd => ?_
        rcases List.mem_cons.mp hd with rfl | hd
        · exact hc
        · exact hothers d hd

theorem filter_form (hs : s.Named named) (filters : List Host.Expr)
    (h : ∀ e ∈ filters, Readable named e) :
    Gives (fun f => ∀ c, f = some c → c.WellFormed named) (filter s filters) :=
  (lowerFilters_form hs filters h).bind fun _ hcs =>
    Gives.pure fun _ hc => Condition.wellFormed_all hcs hc

theorem sourceName_named (hs : s.Named named) {source : Source}
    (hsource : ∀ table, source = .table table → named table) :
    Delivers named (sourceName s source) := by
  cases source with
  | table table => exact hsource table rfl
  | record id => exact tableOf_named hs id

/-- What the plan decides about a query: everything but its source and filter. -/
structure PlanForm (named : String → Prop) (plan : Plan) (q : Query) (reader : Option Reader) :
    Prop where
  columns : Statement.ColumnsFor named plan q.select.columns reader
  order : ∀ keys, q.order = some keys → keys ≠ [] ∧ ∀ k ∈ keys, k.expr.WellFormed named
  single : plan.aggregation.isSome = true →
    q.select.distinct = false ∧ q.select.top = none ∧ q.order = none

theorem lowerPlan_form (hs : s.Named named) {plan : Plan}
    (h : ∀ e ∈ plan.exprs, Readable named e) :
    Gives (fun q => PlanForm named plan q.1 q.2) (lowerPlan s plan) := by
  rw [lowerPlan.eq_def]
  split
  · next ha =>
      refine (columnsOf_form hs ha h).bind fun columns hcolumns => ?_
      refine (orderOf_form hs h).bind fun order horder => Gives.pure ⟨hcolumns, horder, ?_⟩
      intro hsome
      rw [ha] at hsome
      cases hsome
  · next a ha =>
      refine (aggregateColumn_form hs ha h).bind fun column hcolumn =>
        Gives.pure ⟨?_, fun keys hkeys => (by cases hkeys), fun _ => ⟨rfl, rfl, rfl⟩⟩
      unfold Statement.ColumnsFor
      rw [ha]
      exact ⟨⟨column, rfl, hcolumn⟩, rfl⟩

theorem request_form (hs : s.Named named) {r : Request}
    (hsource : ∀ table, r.source = .table table → named table)
    (h : ∀ step ∈ r.steps, ∀ e ∈ step.exprs, Readable named e) :
    Gives (fun q => ∃ plan, Plan.ofSteps r.steps = .ok plan ∧ q.1.WellFormed named plan q.2)
      (request s r) := by
  refine (Gives.lift (Plan.ofSteps_delivers r.steps)).bind fun plan hplan => ?_
  have hexprs : ∀ e ∈ plan.exprs, Readable named e := by
    intro e he
    obtain ⟨step, hstep, he⟩ := Plan.mem_exprs_ofSteps hplan he
    exact h step hstep e he
  refine (Gives.lift (sourceName_named hs hsource)).bind fun source hsource => ?_
  refine (filter_form hs plan.conditions fun e he =>
    hexprs e (Plan.mem_exprs_conditions he)).bind fun condition hcondition => ?_
  refine (lowerPlan_form hs hexprs).bind fun q hq => Gives.pure ⟨plan, hplan, ?_⟩
  exact ⟨hq.columns, ⟨source, rfl, hsource⟩, hcondition, hq.order, hq.single⟩

end

end Lower

/-! ## Compilation -/

namespace Compiler

open Lower (Gives)
open Statement (Expr Condition AllWellFormed)

/-- Nothing is asked of names. -/
def AnyName (_ : String) : Prop := True

theorem named_any (s : Mapping) : s.Named AnyName where
  table _ _ _ := trivial
  field _ _ _ _ _ _ _ := trivial

theorem everywhere_any (e : Host.Expr) : e.Everywhere (NamedAccess AnyName) := by
  refine Host.Expr.everywhere_of_forall (fun e => ?_) e
  unfold NamedAccess
  split <;> trivial

theorem readable_any (e : Host.Expr) : Lower.Readable AnyName e :=
  fun folded _ => everywhere_any folded

theorem request_form_any (s : Mapping) (r : Request) :
    Gives (fun q => ∃ plan, Plan.ofSteps r.steps = .ok plan ∧ q.1.WellFormed AnyName plan q.2)
      (Lower.request s r) :=
  Lower.request_form (named_any s) (fun _ _ => trivial) fun _ _ e _ => readable_any e

/-- What a compiled request is the text of, with the reader that goes with it. -/
theorem compile_eq_ok {s : Mapping} {stem : String} {r : Request} {compiled : Compiled}
    (h : compile ⟨s, stem⟩ r = .ok compiled) :
    ∃ query, (Lower.request s r (.start stem)).1 = .ok (query, compiled.reader) ∧
      compiled.command.text = query.render ∧
      Session.Matches stem query.params compiled.command.params := by
  obtain ⟨query, reader, hrun, htext, hmatches⟩ := Session.compile_matches h
  refine ⟨query, ?_, htext, hmatches⟩
  rw [compile] at h
  rcases hr : Lower.request s r (.start stem) with ⟨_ | ⟨q, other⟩, ps⟩ <;> rw [hr] at h hrun
  · cases h
  · cases h; cases hrun; rfl

theorem request_eq_error {s : Mapping} {stem : String} {r : Request} {err : Error}
    (h : compile ⟨s, stem⟩ r = .error err) : (Lower.request s r (.start stem)).1 = .error err := by
  rw [compile] at h
  rcases hr : Lower.request s r (.start stem) with ⟨_ | ⟨q, other⟩, ps⟩ <;> rw [hr] at h <;> cases h
  rfl

theorem condition_eq_error {s : Mapping} {stem : String} {e : Host.Expr} {err : Error}
    (h : compileCondition ⟨s, stem⟩ e = .error err) :
    (Lower.condition s e (.start stem)).1 = .error err := by
  rw [compileCondition] at h
  rcases hr : Lower.condition s e (.start stem) with ⟨_ | c, ps⟩ <;> rw [hr] at h <;> cases h
  rfl

/-- Nothing that is lowered or compiled is malformed, and nothing stops on the
way, whatever the mapping, the request and the expressions are. Folding fails
for a reason of its constants. A lowering ends with a well-formed result or with
an ordinary error, and so does a compilation; ordinary errors are those that
come from no broken contract and blame no operator of arithmetic. As the parts
of an expression are expressions, lowered in their turn, this is said of every
statement that is built on the way, and not only of those that a compilation
returns in the end. -/
theorem compile_wellFormed (s : Mapping) (stem : String) :
    (∀ e : Host.Expr, Host.FoldSafe e.fold) ∧
      (∀ e p, Gives (Expr.WellFormed AnyName) (Lower.lowerValue s e p)) ∧
      (∀ e p, Gives (Condition.WellFormed AnyName) (Lower.lowerCondition s e p)) ∧
      (∀ e direction, Gives (fun k => k.expr.WellFormed AnyName) (Lower.sortKey s e direction)) ∧
      (∀ e, Gives (fun q => q.columns ≠ [] ∧ AllWellFormed AnyName q.columns)
        (Lower.projection s e)) ∧
      (∀ r, Gives (fun q => ∃ plan, Plan.ofSteps r.steps = .ok plan ∧
        q.1.WellFormed AnyName plan q.2) (Lower.request s r)) ∧
      (∀ r compiled, compile ⟨s, stem⟩ r = .ok compiled →
        ∃ plan query, Plan.ofSteps r.steps = .ok plan ∧
          (Lower.request s r (.start stem)).1 = .ok (query, compiled.reader) ∧
          query.WellFormed AnyName plan compiled.reader ∧
          compiled.command.text = query.render ∧
          Session.Matches stem query.params compiled.command.params) ∧
      (∀ e command, compileCondition ⟨s, stem⟩ e = .ok command →
        ∃ c, (Lower.condition s e (.start stem)).1 = .ok c ∧ c.WellFormed AnyName ∧
          command.text = c.render ∧
          Session.Matches stem c.params command.params) ∧
      (∀ r err, compile ⟨s, stem⟩ r = .error err → err.Ordinary) ∧
      ∀ e err, compileCondition ⟨s, stem⟩ e = .error err → err.Ordinary := by
  have hs := named_any s
  have hcondition := fun e => Lower.condition_form hs (readable_any e)
  refine ⟨fun e => e.fold_safe,
    fun e p => Lower.lowerValue_form hs e (everywhere_any e) p,
    fun e p => Lower.lowerCondition_form hs e (everywhere_any e) p,
    fun e direction => Lower.sortKey_form hs (readable_any e) direction,
    fun e => Lower.projection_form hs (readable_any e), request_form_any s, ?_, ?_, ?_, ?_⟩
  · intro r compiled hcompile
    obtain ⟨query, hrun, htext, hmatches⟩ := compile_eq_ok hcompile
    obtain ⟨plan, hplan, hwell⟩ := (request_form_any s r _).result hrun
    exact ⟨plan, query, hplan, hrun, hwell, htext, hmatches⟩
  · intro e command hcompile
    obtain ⟨c, hrun, htext, hmatches⟩ := Session.compileCondition_matches hcompile
    exact ⟨c, hrun, (hcondition e _).result hrun, htext, hmatches⟩
  · intro r err hcompile
    exact (request_form_any s r _).failure (request_eq_error hcompile)
  · intro e err hcompile
    exact (hcondition e _).failure (condition_eq_error hcompile)

/-- One record, by a number that is not the first, which is read from another
table than its own. -/
def archive : Mapping where
  record? id :=
    if id = 7 then
      some ⟨7, "Goods", "Catalog.Goods", [⟨⟨7, 0⟩, "price", .scalar .int32, some "Price"⟩]⟩
    else none
  table? id := if id = 7 then some "Catalog.Archive" else none

/-- The price of archived goods. -/
def archivedPrice : Host.Expr := .member (.input (.record 7)) (.field ⟨7, 0⟩) (.scalar .int32)

/-- The sum of the prices above a sum of constants. -/
def archivedTotal : Request where
  source := .record 7
  steps :=
    [.filter (.binary archivedPrice (.relation .gt)
      (.binary (.ofValue (.int32 4)) (.arith .add) (.ofValue (.int32 6)))),
     .aggregate ⟨.total .sum, some archivedPrice⟩]

theorem compile_wellFormed_archivedTotal :
    (∃ plan, ∃ query : Statement.Query, Plan.ofSteps archivedTotal.steps = .ok plan ∧
      query.WellFormed AnyName plan none ∧
      query.render = "SELECT SUM(Price) FROM Catalog.Archive WHERE Price > &p1" ∧
      Session.Matches "p" query.params [⟨"p1", .int32 10⟩]) ∧
      (∃ c : Condition, c.WellFormed AnyName ∧ c.render = "Price IS NULL") ∧
      (∃ err, compile ⟨archive, "p"⟩ ⟨.record 0, []⟩ = .error err ∧ err.Ordinary) ∧
      ∃ err, compileCondition ⟨archive, "p"⟩ archivedPrice = .error err ∧ err.Ordinary := by
  obtain ⟨_, _, _, _, _, _, hcompile, hcondition, hfailure, hrefusal⟩ :=
    compile_wellFormed archive "p"
  refine ⟨?_, ?_, ⟨_, rfl, hfailure ⟨.record 0, []⟩ _ rfl⟩, _, rfl, hrefusal archivedPrice _ rfl⟩
  · obtain ⟨plan, query, hplan, _, hwell, htext, hmatches⟩ := hcompile archivedTotal _ rfl
    exact ⟨plan, query, hplan, hwell, htext.symm, hmatches⟩
  · obtain ⟨c, _, hwell, htext, _⟩ :=
      hcondition (.binary archivedPrice (.relation .eq) (.ofValue .null)) _ rfl
    exact ⟨c, hwell, htext.symm⟩

end Compiler

end Inquiry
