import Inquiry.Proofs.CompiledForm

/-!
# Requests for one value

A request that ends in an aggregation returns one value, and two things follow
that its text does not show at first sight.

The operand of a sum, or of an average or an extreme value, can be given in
three ways: with the aggregation, as a projection before it, or as the only
member of a record that is projected. They reach the statement along different
paths. The operand of an aggregation is folded and lowered as a value; a
projection is folded, looked at, and taken apart if it is a record. The paths
meet because a record folds member by member, and because nothing that can fail
is done before the projection is folded. Only a projection that folds to a
record is not an operand, and it is left out below.

Sorting says nothing about one value. The plan keeps its sort keys all the
same, but lowering does not look at them, so that keys without a counterpart do
no harm. A sort only ever brings the walk over the steps further on, and without
it every other step finds a stage that is no later than before.
-/

namespace Inquiry

open Host (Expr)
open Statement (Aggregate)

/-! ## Steps without sorts -/

def Step.isSort (step : Step) : Bool := step.isOrderBy || step.isThenBy

/-- The steps that do not sort. -/
def Step.withoutSorts (steps : List Step) : List Step := steps.filter fun step => !step.isSort

namespace Plan

/-- The plan without its order. -/
def unordered (plan : Plan) : Plan := { plan with order := [] }

theorem unordered_add_sort (plan : Plan) {step : Step} (h : step.isSort = true) :
    (plan.add step).unordered = plan.unordered := by
  cases step <;> first | rfl | cases h

theorem unordered_add (plan : Plan) {step : Step} (h : step.isSort = false) :
    (plan.add step).unordered = plan.unordered.add step := by
  cases step <;> first | rfl | cases h

/-- A step that does not sort may follow any stage before one that it may follow. -/
theorem follows_of_le {stage before : Stage} {step : Step} (h : follows stage step = true)
    (hle : before.rank ≤ stage.rank) (hsort : step.isSort = false) :
    follows before step = true := by
  cases step with
  | filter _ | select _ | distinct | take _ | aggregate _ =>
      simp only [follows, decide_eq_true_eq] at h ⊢
      omega
  | orderBy _ _ | thenBy _ _ => cases hsort

/-- A sort may follow no stage after its own. -/
theorem rank_le_of_follows {stage : Stage} {step : Step} (h : follows stage step = true)
    (hsort : step.isSort = true) : stage.rank ≤ (stageOf step).rank := by
  cases step with
  | orderBy _ _ => exact of_decide_eq_true h
  | thenBy _ _ =>
      obtain rfl : stage = .order := of_decide_eq_true h
      exact Nat.le_refl _
  | _ => cases hsort

/-- What is accepted with its sorts is accepted without them, from the stage
reached or from one before it, and the plans differ in their order only. -/
theorem extend_withoutSorts {stage before : Stage} {plan result : Plan} {steps : List Step}
    (hle : before.rank ≤ stage.rank) (h : extend stage plan steps = .ok result) :
    extend before plan.unordered (Step.withoutSorts steps) = .ok result.unordered := by
  induction steps generalizing stage before plan with
  | nil =>
      cases h
      rfl
  | cons step rest ih =>
      obtain ⟨hnone, hrest⟩ := extend_cons_ok h
      obtain ⟨hfollows, hcount⟩ := (objection?_eq_none_iff stage plan step).mp hnone
      cases hsort : step.isSort with
      | true =>
          have hdrop : Step.withoutSorts (step :: rest) = Step.withoutSorts rest := by
            simp [Step.withoutSorts, hsort]
          have hstage : before.rank ≤ (stageOf step).rank :=
            Nat.le_trans hle (rank_le_of_follows hfollows hsort)
          rw [hdrop, ← unordered_add_sort plan hsort]
          exact ih hstage hrest
      | false =>
          have hkeep : Step.withoutSorts (step :: rest) = step :: Step.withoutSorts rest := by
            simp [Step.withoutSorts, hsort]
          have hobjection : objection? before plan.unordered step = none :=
            (objection?_eq_none_iff _ _ _).mpr ⟨follows_of_le hfollows hle hsort, hcount⟩
          rw [hkeep, extend, hobjection, ← unordered_add plan hsort]
          exact ih (Nat.le_refl _) hrest

/-- What filters and sorts lead to, whatever comes after them: the same
objection, or a plan without projection at a stage before projections. -/
theorem extend_selection {stage : Stage} {plan : Plan} {steps : List Step}
    (hsteps : ∀ step ∈ steps, (step.isFilter || step.isSort) = true)
    (hstage : stage.rank ≤ Stage.order.rank) (hplan : plan.projection = none)
    (hdistinct : plan.distinct = false) :
    (∃ e, ∀ rest, extend stage plan (steps ++ rest) = .error e) ∨
      ∃ reached after, reached.rank ≤ Stage.order.rank ∧ after.projection = none ∧
        after.distinct = false ∧
        ∀ rest, extend stage plan (steps ++ rest) = extend reached after rest := by
  induction steps generalizing stage plan with
  | nil => exact .inr ⟨stage, plan, hstage, hplan, hdistinct, fun _ => rfl⟩
  | cons step rest ih =>
      cases hobjection : objection? stage plan step with
      | some refusal =>
          refine .inl ⟨refusal.error step.outline.line, fun more => ?_⟩
          rw [List.cons_append, extend, hobjection]
      | none =>
          have hextend : ∀ more, extend stage plan (step :: rest ++ more)
              = extend (stageOf step) (plan.add step) (rest ++ more) := by
            intro more
            rw [List.cons_append, extend, hobjection]
          simp only [hextend]
          have hrest := fun s hs => hsteps s (List.mem_cons_of_mem step hs)
          have hstep := hsteps step List.mem_cons_self
          cases step with
          | filter _ => exact ih hrest (show Stage.filter.rank ≤ _ by decide) hplan hdistinct
          | orderBy _ _ | thenBy _ _ =>
              exact ih hrest (Nat.le_refl Stage.order.rank) hplan hdistinct
          | _ => cases hstep

end Plan

/-! ## Plans that lower alike -/

namespace Lower

/-- The steps are refused alike, or their plans have the same conditions and the
same statement. -/
def PlannedAlike (s : Mapping) (steps others : List Step) : Prop :=
  (∃ e, Plan.ofSteps steps = .error e ∧ Plan.ofSteps others = .error e) ∨
    ∃ plan other, Plan.ofSteps steps = .ok plan ∧ Plan.ofSteps others = .ok other ∧
      plan.conditions = other.conditions ∧ lowerPlan s plan = lowerPlan s other

theorem PlannedAlike.compile {c : Compiler} {steps others : List Step}
    (h : PlannedAlike c.mapping steps others) (source : Source) :
    c.compile ⟨source, steps⟩ = c.compile ⟨source, others⟩ := by
  have hrequest : request c.mapping ⟨source, steps⟩ = request c.mapping ⟨source, others⟩ := by
    rcases h with ⟨e, hsteps, hothers⟩ | ⟨plan, other, hsteps, hothers, hconditions, hlower⟩
    · rw [request, request, hsteps, hothers]
    · rw [request, request, hsteps, hothers]
      show (lift (sourceName c.mapping source) >>= fun name =>
        filter c.mapping plan.conditions >>= fun condition =>
          lowerPlan c.mapping plan >>= fun lowered => _) = _
      rw [hconditions, hlower]
      rfl
  rw [Compiler.compile, Compiler.compile, hrequest]

/-! ## The operand of an aggregation -/

/-- A projection that is no record is the operand itself. -/
theorem onlyColumn_value (s : Mapping) {x : Expr}
    (hx : ∀ type members, x.fold ≠ .ok (.construct type members)) : onlyColumn s x = value s x := by
  rw [onlyColumn, value]
  cases hfold : x.fold with
  | error e => rfl
  | ok folded =>
      cases folded with
      | construct type members => exact absurd hfold (hx type members)
      | _ => rfl

/-- The only member of a record is the operand. -/
theorem onlyColumn_member (s : Mapping) (type : Host.Ty) (name : String) (x : Expr) :
    onlyColumn s (.construct type [(name, x)]) = value s x := by
  rw [onlyColumn, value, Expr.fold, Host.foldMembers]
  cases x.fold <;> rfl

/-- A projection, if any, and an aggregation that is no count, as steps. -/
def summary (projection operand : Option Expr) (func : Aggregate) : List Step :=
  projection.toList.map .select ++ [.aggregate ⟨.total func, operand⟩]

/-- The plan that goes on with them. -/
def summarise (plan : Plan) (projection operand : Option Expr) (func : Aggregate) : Plan :=
  { plan with projection := projection, aggregation := some ⟨.total func, operand⟩ }

/-- Before a projection a summary may always follow. -/
theorem extend_summary {stage : Stage} {plan : Plan} (projection operand : Option Expr)
    (func : Aggregate) (hstage : stage.rank ≤ Stage.order.rank) (hplan : plan.projection = none) :
    Plan.extend stage plan (summary projection operand func) =
      .ok (summarise plan projection operand func) := by
  have hselect : ∀ x, Plan.objection? stage plan (.select x) = none := by
    intro x
    cases stage <;> first | rfl | exact absurd hstage (by decide)
  have haggregate : Plan.objection? stage plan (.aggregate ⟨.total func, operand⟩) = none := by
    cases stage <;> first | rfl | exact absurd hstage (by decide)
  cases projection with
  | some x =>
      show Plan.extend stage plan (.select x :: [.aggregate ⟨.total func, operand⟩]) = _
      rw [Plan.extend, hselect]
      rfl
  | none =>
      show Plan.extend stage plan [.aggregate ⟨.total func, operand⟩] = _
      rw [Plan.extend, haggregate, ← hplan]
      rfl

theorem lowerPlan_summarise (s : Mapping) {plan : Plan} (projection operand : Option Expr)
    (func : Aggregate) (hdistinct : plan.distinct = false) :
    lowerPlan s (summarise plan projection operand func) = (do
      let x ← aggregateOperand s (summarise plan projection operand func) ⟨.total func, operand⟩
      pure (⟨Statement.Select.single (.aggregate func x), none, none, none⟩, none)) := by
  show ((if plan.distinct then _ else _) >>= fun column => pure _) = _
  rw [if_neg (by simp [hdistinct]), bind_assoc]
  rfl

/-- Two summaries are planned alike if they have the same operand. -/
theorem plannedAlike_summary {s : Mapping} {steps : List Step} (func : Aggregate)
    (projection operand projection' operand' : Option Expr)
    (hsteps : ∀ step ∈ steps, (step.isFilter || step.isSort) = true)
    (hoperand : ∀ plan plan' : Plan, plan.projection = projection → plan'.projection = projection' →
      aggregateOperand s plan ⟨.total func, operand⟩ =
        aggregateOperand s plan' ⟨.total func, operand'⟩) :
    PlannedAlike s (steps ++ summary projection operand func)
      (steps ++ summary projection' operand' func) := by
  rcases Plan.extend_selection hsteps (show Stage.source.rank ≤ Stage.order.rank by decide)
    (show Plan.empty.projection = none from rfl) rfl with
    ⟨e, he⟩ | ⟨reached, plan, hreached, hprojection, hdistinct, hplan⟩
  · exact .inl ⟨e, he _, he _⟩
  · have hfirst := (hplan _).trans (extend_summary projection operand func hreached hprojection)
    have hsecond := (hplan _).trans (extend_summary projection' operand' func hreached hprojection)
    refine .inr ⟨_, _, hfirst, hsecond, rfl, ?_⟩
    rw [lowerPlan_summarise s projection operand func hdistinct,
      lowerPlan_summarise s projection' operand' func hdistinct]
    exact congrArg (· >>= _) (hoperand _ _ rfl rfl)

/-! ## Sorts -/

/-- Deleting the sorts of a request for one value changes nothing. -/
theorem plannedAlike_withoutSorts (s : Mapping) {steps : List Step} {plan : Plan}
    (hplan : Plan.ofSteps steps = .ok plan) (hone : plan.aggregation.isSome = true) :
    PlannedAlike s steps (Step.withoutSorts steps) := by
  have hunordered := Plan.extend_withoutSorts (Nat.le_refl Stage.source.rank) hplan
  refine .inr ⟨plan, plan.unordered, hplan, hunordered, rfl, ?_⟩
  obtain ⟨a, ha⟩ := Option.isSome_iff_exists.mp hone
  have ha' : plan.unordered.aggregation = some a := ha
  rw [lowerPlan.eq_def, lowerPlan.eq_def, ha, ha']
  rfl

theorem ofSteps_aggregation {steps : List Step} {a : Aggregation} {plan : Plan}
    (h : Plan.ofSteps (steps ++ [.aggregate a]) = .ok plan) : plan.aggregation.isSome = true := by
  have hgroups := (Plan.ofSteps_groups h).aggregation
  cases hplan : plan.aggregation with
  | some _ => rfl
  | none =>
      rw [hplan, List.filterMap_append] at hgroups
      simp [Step.aggregation?] at hgroups

theorem request_reader_none (s : Mapping) (source : Source) (steps : List Step) (a : Aggregation) :
    Gives (fun q => q.2 = none) (request s ⟨source, steps ++ [.aggregate a]⟩) := by
  refine (Compiler.request_form_any s _).mono fun q hq => ?_
  obtain ⟨plan, hplan, hwell⟩ := hq
  obtain ⟨b, hb⟩ := Option.isSome_iff_exists.mp (ofSteps_aggregation hplan)
  have hcolumns := hwell.columns
  unfold Statement.ColumnsFor at hcolumns
  rw [hb] at hcolumns
  exact hcolumns.2

end Lower

namespace Compiler

/-- The operand of an aggregation that is no count is the same in each of its
spellings: with the aggregation, as the only member of a record that is
projected, and as a projection itself unless it folds to a record. The commands
are the same, or the errors. There is no reader in any case, and where the steps
are accepted, deleting all sorts changes nothing. -/
theorem aggregate_spellings (c : Compiler) (source : Source) :
    (∀ (steps : List Step) (func : Aggregate) (x : Expr),
        (∀ step ∈ steps, (step.isFilter || step.isSort) = true) →
        (∀ type name,
          c.compile ⟨source, steps ++
              [Step.select (.construct type [(name, x)]), .aggregate ⟨.total func, none⟩]⟩ =
            c.compile ⟨source, steps ++ [Step.aggregate ⟨.total func, some x⟩]⟩) ∧
          ((∀ type members, x.fold ≠ .ok (.construct type members)) →
            c.compile ⟨source, steps ++ [Step.select x, .aggregate ⟨.total func, none⟩]⟩ =
              c.compile ⟨source, steps ++ [Step.aggregate ⟨.total func, some x⟩]⟩)) ∧
      (∀ (steps : List Step) (a : Aggregation) compiled,
        c.compile ⟨source, steps ++ [Step.aggregate a]⟩ = .ok compiled →
        compiled.reader = none) ∧
      ∀ (steps : List Step) (a : Aggregation) plan,
        Plan.ofSteps (steps ++ [Step.aggregate a]) = .ok plan →
        c.compile ⟨source, steps ++ [Step.aggregate a]⟩ =
          c.compile ⟨source, Step.withoutSorts (steps ++ [Step.aggregate a])⟩ := by
  refine ⟨fun steps func x hsteps => ⟨fun type name => ?_, fun hx => ?_⟩, ?_, ?_⟩
  · have halike := Lower.plannedAlike_summary (s := c.mapping) func
      (some (.construct type [(name, x)])) none none (some x) hsteps ?_
    · exact halike.compile source
    · intro plan plan' hplan hplan'
      rw [Lower.aggregateOperand, Lower.aggregateOperand, hplan, hplan']
      exact Lower.onlyColumn_member c.mapping type name x
  · have halike := Lower.plannedAlike_summary (s := c.mapping) func (some x) none none (some x)
      hsteps ?_
    · exact halike.compile source
    · intro plan plan' hplan hplan'
      rw [Lower.aggregateOperand, Lower.aggregateOperand, hplan, hplan']
      exact Lower.onlyColumn_value c.mapping hx
  · intro steps a compiled hcompile
    obtain ⟨query, hrun, _⟩ := compile_eq_ok hcompile
    exact (Lower.request_reader_none c.mapping source steps a _).result hrun
  · intro steps a plan hplan
    have hone := Lower.ofSteps_aggregation hplan
    exact (Lower.plannedAlike_withoutSorts c.mapping hplan hone).compile source

def goodsPrice : Expr := .get (.input .row) "Price" (some .int32)

/-- Goods above a price, sorted by the whole row, which is no sort key. -/
def sortedGoods : List Step :=
  [.filter (.binary goodsPrice (.relation .gt) (.ofValue (.int32 5))),
    .orderBy (.input .row) .ascending]

/-- The sum of the prices of those goods. -/
def goodsTotal : Compiled :=
  ⟨⟨"SELECT SUM(Price) FROM Goods WHERE Price > &p1", [⟨"p1", .int32 5⟩]⟩, none⟩

theorem aggregate_spellings_goodsTotal :
    compile ⟨.empty, "p"⟩ ⟨.table "Goods", sortedGoods⟩ =
        .error (.recordUsage "the query input is a whole record") ∧
      compile ⟨.empty, "p"⟩ ⟨.table "Goods",
        sortedGoods ++ [Step.aggregate ⟨.total .sum, some goodsPrice⟩]⟩ = .ok goodsTotal ∧
      compile ⟨.empty, "p"⟩ ⟨.table "Goods", sortedGoods ++
        [Step.select goodsPrice, .aggregate ⟨.total .sum, none⟩]⟩ = .ok goodsTotal ∧
      compile ⟨.empty, "p"⟩ ⟨.table "Goods", sortedGoods ++
        [Step.select (.construct .anonymous [("Total", goodsPrice)]),
          .aggregate ⟨.total .sum, none⟩]⟩ = .ok goodsTotal ∧
      goodsTotal.reader = none ∧
      compile ⟨.empty, "p"⟩ ⟨.table "Goods", Step.withoutSorts
        (sortedGoods ++ [Step.aggregate ⟨.total .sum, some goodsPrice⟩])⟩ = .ok goodsTotal := by
  obtain ⟨hspellings, hreader, hsorts⟩ := aggregate_spellings ⟨.empty, "p"⟩ (.table "Goods")
  have hsteps : ∀ step ∈ sortedGoods, (step.isFilter || step.isSort) = true := by
    intro step hstep
    simp only [sortedGoods, List.mem_cons, List.not_mem_nil, or_false] at hstep
    rcases hstep with rfl | rfl <;> rfl
  obtain ⟨hmember, hprojection⟩ := hspellings sortedGoods .sum goodsPrice hsteps
  have hsum : compile ⟨.empty, "p"⟩ ⟨.table "Goods",
      sortedGoods ++ [Step.aggregate ⟨.total .sum, some goodsPrice⟩]⟩ = .ok goodsTotal := rfl
  exact ⟨rfl, hsum, (hprojection nofun).trans hsum, (hmember .anonymous "Total").trans hsum,
    hreader _ _ _ hsum, (hsorts _ _ _ rfl).symm.trans hsum⟩

end Compiler

end Inquiry
