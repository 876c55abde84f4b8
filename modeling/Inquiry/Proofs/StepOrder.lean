import Inquiry.Compiler
import Inquiry.Proofs.Registration
import Mathlib.Computability.Language

/-!
# The order of the steps of a request

`Plan.extend` walks over the steps of a request with a stage in hand and asks
of each step whether it may follow. Seven kinds of steps meet seven stages, and
the comparison differs from kind to kind: a filter may repeat its stage, a
projection may not, a further sort key must find its stage exactly. What the
walk accepts in the end is a regular language, and `arranged` writes it down.

The walk and the language meet one step at a time. To every stage belongs the
language of what may still follow it, `residual`; a step that may follow leads
from the residual of one stage to the residual of the next, and no other step
begins a word of it. One rule is not regular in this sense, because it looks
back: a count with a condition may not follow a projection. It concerns two
steps of the whole request, and the walk knows the first of them from its plan.

The groups of the plan are read off the list of steps without regard to
stages. That a plan holds no second projection or aggregation is what the
stages are for, and `Reached` keeps it.
-/

namespace Inquiry

open Host (Expr)
open Statement (Direction)
open scoped Computability

namespace Step

/-! ## Kinds of steps and what they hold -/

def isFilter : Step → Bool
  | filter _ => true
  | _ => false

def isOrderBy : Step → Bool
  | orderBy _ _ => true
  | _ => false

def isThenBy : Step → Bool
  | thenBy _ _ => true
  | _ => false

def isSelect : Step → Bool
  | select _ => true
  | _ => false

def isDistinct : Step → Bool
  | distinct => true
  | _ => false

def isTake : Step → Bool
  | take _ => true
  | _ => false

def isAggregate : Step → Bool
  | aggregate _ => true
  | _ => false

/-- Whether the step counts under a condition of its own. -/
def isConditionalCount : Step → Bool
  | aggregate a => a.func = .count && a.operand.isSome
  | _ => false

def predicate? : Step → Option Expr
  | filter predicate => some predicate
  | _ => none

/-- The key that the step adds to a sort. -/
def furtherKey? : Step → Option (Expr × Direction)
  | thenBy key direction => some (key, direction)
  | _ => none

def projection? : Step → Option Expr
  | select projection => some projection
  | _ => none

def count? : Step → Option Nat
  | take count => some count
  | _ => none

def aggregation? : Step → Option Aggregation
  | aggregate aggregation => some aggregation
  | _ => none

/-! ## The language -/

/-- The words of one step of a kind. -/
def only (kind : Step → Bool) : Language Step := {steps | ∃ step, kind step = true ∧ steps = [step]}

/-- Filters, then a sort if any, then at most one projection and at most one
DISTINCT, then limits or else at most one aggregation. -/
def arranged : Language Step :=
  (only isFilter)∗ * (1 + only isOrderBy * (only isOrderBy + only isThenBy)∗) *
    (1 + only isSelect) * (1 + only isDistinct) * ((only isTake)∗ + (1 + only isAggregate))

/-- The steps count under a condition, and they project. -/
def CountsProjected (steps : List Step) : Prop :=
  steps.any isConditionalCount = true ∧ steps.any isSelect = true

/-- The steps come in an order in which a query can perform them. -/
def Admissible (steps : List Step) : Prop := steps ∈ arranged ∧ ¬CountsProjected steps

/-- The last sort among the steps: its key, and the further keys after it. -/
def lastSort : List Step → List (Expr × Direction)
  | [] => []
  | orderBy key direction :: rest =>
      if rest.any isOrderBy then lastSort rest
      else (key, direction) :: rest.filterMap furtherKey?
  | _ :: rest => lastSort rest

/-! ## Words of the language, one step at a time -/

section Words

variable {p q : Step → Bool} {l : Language Step} {step : Step} {rest : List Step}

@[simp]
theorem cons_mem_only : step :: rest ∈ only p ↔ p step = true ∧ rest = [] := by
  constructor
  · rintro ⟨first, hfirst, hword⟩
    obtain ⟨rfl, rfl⟩ := List.cons.inj hword
    exact ⟨hfirst, rfl⟩
  · rintro ⟨hstep, rfl⟩
    exact ⟨step, hstep, rfl⟩

theorem only_add : only p + only q = only fun s => p s || q s := by
  ext steps
  constructor
  · rintro (⟨s, hs, rfl⟩ | ⟨s, hs, rfl⟩) <;> exact ⟨s, by simp [hs], rfl⟩
  · rintro ⟨s, hs, rfl⟩
    rcases Bool.or_eq_true_iff.mp hs with hs | hs
    · exact .inl ⟨s, hs, rfl⟩
    · exact .inr ⟨s, hs, rfl⟩

@[simp]
theorem cons_mem_only_mul : step :: rest ∈ only p * l ↔ p step = true ∧ rest ∈ l := by
  rw [Language.mem_mul]
  constructor
  · rintro ⟨_, ⟨first, hfirst, rfl⟩, word, hword, heq⟩
    obtain ⟨rfl, rfl⟩ := List.cons.inj heq
    exact ⟨hfirst, hword⟩
  · rintro ⟨hstep, hrest⟩
    exact ⟨[step], ⟨step, hstep, rfl⟩, rest, hrest, rfl⟩

/-- Steps of a kind in front, or none. -/
theorem star_mul : (only p)∗ * l = l + only p * ((only p)∗ * l) := by
  conv_lhs => rw [← Language.one_add_self_mul_kstar_eq_kstar]
  rw [add_mul, one_mul, mul_assoc]

@[simp]
theorem cons_mem_star_mul :
    step :: rest ∈ (only p)∗ * l ↔ step :: rest ∈ l ∨ p step = true ∧ rest ∈ (only p)∗ * l := by
  conv_lhs => rw [star_mul]
  rw [Language.mem_add, cons_mem_only_mul]

@[simp]
theorem cons_mem_star : step :: rest ∈ (only p)∗ ↔ p step = true ∧ rest ∈ (only p)∗ := by
  conv_lhs => rw [← Language.one_add_self_mul_kstar_eq_kstar]
  rw [Language.mem_add, cons_mem_only_mul, Language.mem_one]
  simp

@[simp]
theorem cons_mem_optional_mul :
    step :: rest ∈ (1 + only p) * l ↔ step :: rest ∈ l ∨ p step = true ∧ rest ∈ l := by
  rw [add_mul, one_mul, Language.mem_add, cons_mem_only_mul]

theorem mem_mul_of_nil {m : Language Step} (h : [] ∈ m) {word : List Step} (hword : word ∈ l) :
    word ∈ m * l :=
  Language.mem_mul.mpr ⟨[], h, word, hword, rfl⟩

end Words

end Step

namespace Plan

open Step

/-! ## What may follow a stage -/

/-- Limits, or else at most one aggregation. -/
def endings : Language Step := (only isTake)∗ + (1 + only isAggregate)

/-- What may follow a sort that is complete. -/
def unsorted : Language Step := (1 + only isSelect) * ((1 + only isDistinct) * endings)

/-- The steps that may follow a stage. -/
def residual : Stage → Language Step
  | .source | .filter => arranged
  | .order => (only fun s => s.isOrderBy || s.isThenBy)∗ * unsorted
  | .select => (1 + only isDistinct) * endings
  | .distinct => endings
  | .take => (only isTake)∗
  | .aggregate => 1

/-- After its filters a request is sorted, or it goes on without a sort. -/
theorem arranged_eq :
    arranged = (only isFilter)∗ * (unsorted + only isOrderBy * residual .order) := by
  rw [arranged, residual, unsorted, endings, only_add]
  simp only [mul_assoc, add_mul, one_mul]

section Derivatives

variable {step : Step} {rest : List Step}

theorem cons_mem_distinct :
    step :: rest ∈ residual .distinct ↔
      step.isTake = true ∧ rest ∈ residual .take ∨
        step.isAggregate = true ∧ rest ∈ residual .aggregate := by
  show step :: rest ∈ (only isTake)∗ + (1 + only isAggregate) ↔ _
  rw [Language.mem_add, Language.mem_add, cons_mem_star, cons_mem_only, Language.mem_one]
  simp [residual, Language.mem_one]

theorem cons_mem_select :
    step :: rest ∈ residual .select ↔
      step :: rest ∈ residual .distinct ∨ step.isDistinct = true ∧ rest ∈ residual .distinct :=
  cons_mem_optional_mul

theorem cons_mem_unsorted :
    step :: rest ∈ unsorted ↔
      step :: rest ∈ residual .select ∨ step.isSelect = true ∧ rest ∈ residual .select :=
  cons_mem_optional_mul

theorem cons_mem_order :
    step :: rest ∈ residual .order ↔
      step :: rest ∈ unsorted ∨
        (step.isOrderBy || step.isThenBy) = true ∧ rest ∈ residual .order :=
  cons_mem_star_mul

theorem cons_mem_arranged :
    step :: rest ∈ arranged ↔
      (step :: rest ∈ unsorted ∨ step.isOrderBy = true ∧ rest ∈ residual .order) ∨
        step.isFilter = true ∧ rest ∈ arranged := by
  conv_lhs => rw [arranged_eq]
  rw [cons_mem_star_mul, Language.mem_add, cons_mem_only_mul, ← arranged_eq]

end Derivatives

/-- Whether a step may follow a stage, whatever the plan. -/
def follows (stage : Stage) : Step → Bool
  | .filter _ => stage.rank ≤ Stage.filter.rank
  | .orderBy _ _ => stage.rank ≤ Stage.order.rank
  | .thenBy _ _ => stage = .order
  | .select _ => stage.rank < Stage.select.rank
  | .distinct => stage.rank < Stage.distinct.rank
  | .take _ => stage.rank < Stage.aggregate.rank
  | .aggregate _ => stage.rank < Stage.take.rank

/-- A word that may follow a stage begins with a step that may follow it, and
goes on with a word that may follow the stage of that step. -/
theorem cons_mem_residual (stage : Stage) (step : Step) (rest : List Step) :
    step :: rest ∈ residual stage ↔ follows stage step = true ∧ rest ∈ residual (stageOf step) := by
  cases stage with
  | source | filter =>
      change step :: rest ∈ arranged ↔ _
      rw [cons_mem_arranged, cons_mem_unsorted, cons_mem_select, cons_mem_distinct]
      cases step <;>
        simp [isFilter, isOrderBy, isSelect, isDistinct, isTake, isAggregate, follows, Stage.rank,
          stageOf]
      rfl
  | order =>
      rw [cons_mem_order, cons_mem_unsorted, cons_mem_select, cons_mem_distinct]
      cases step <;>
        simp [isOrderBy, isThenBy, isSelect, isDistinct, isTake, isAggregate, follows, Stage.rank,
          stageOf]
  | select =>
      rw [cons_mem_select, cons_mem_distinct]
      cases step <;> simp [isDistinct, isTake, isAggregate, follows, Stage.rank, stageOf]
  | distinct =>
      rw [cons_mem_distinct]
      cases step <;> simp [isTake, isAggregate, follows, Stage.rank, stageOf]
  | take =>
      change step :: rest ∈ (only isTake)∗ ↔ _
      rw [cons_mem_star]
      cases step <;> simp [isTake, follows, Stage.rank, stageOf]
      rfl
  | aggregate => cases step <;> simp [residual, Language.mem_one, follows, Stage.rank]

theorem nil_mem_residual (stage : Stage) : [] ∈ residual stage := by
  have hendings : [] ∈ endings := .inl (Language.nil_mem_kstar _)
  have hselect : [] ∈ residual .select := mem_mul_of_nil (.inl Language.nil_mem_one) hendings
  have hunsorted : [] ∈ unsorted := mem_mul_of_nil (.inl Language.nil_mem_one) hselect
  have harranged : [] ∈ arranged := by
    rw [arranged_eq]
    exact mem_mul_of_nil (Language.nil_mem_kstar _) (.inl hunsorted)
  cases stage with
  | source | filter => exact harranged
  | order => exact mem_mul_of_nil (Language.nil_mem_kstar _) hunsorted
  | select => exact hselect
  | distinct => exact hendings
  | take => exact Language.nil_mem_kstar _
  | aggregate => exact Language.nil_mem_one

/-! ## The walk accepts the language -/

/-- A step is refused for its place, or because it counts under a condition
what has been projected. -/
theorem objection?_eq_none_iff (stage : Stage) (plan : Plan) (step : Step) :
    objection? stage plan step = none ↔
      follows stage step = true ∧
        ¬(step.isConditionalCount = true ∧ plan.projection.isSome = true) := by
  cases stage <;> cases step <;>
    simp [objection?, follows, Stage.rank, isConditionalCount]

theorem extend_cons_ok {stage : Stage} {plan result : Plan} {step : Step} {rest : List Step}
    (h : extend stage plan (step :: rest) = .ok result) :
    objection? stage plan step = none ∧
      extend (stageOf step) (plan.add step) rest = .ok result := by
  rw [extend] at h
  cases hobjection : objection? stage plan step with
  | some refusal => rw [hobjection] at h; cases h
  | none => rw [hobjection] at h; exact ⟨rfl, h⟩

theorem add_projection_isSome (plan : Plan) (step : Step) :
    (plan.add step).projection.isSome = (plan.projection.isSome || step.isSelect) := by
  cases step <;> simp [add, isSelect]

/-- Nothing follows a count under a condition. -/
theorem eq_nil_of_isConditionalCount {step : Step} {rest : List Step}
    (hstep : step.isConditionalCount = true) (hrest : rest ∈ residual (stageOf step)) :
    rest = [] := by
  cases step with
  | aggregate _ => exact hrest
  | _ => cases hstep

theorem extend_isOk_iff (stage : Stage) (plan : Plan) (steps : List Step) :
    (∃ result, extend stage plan steps = .ok result) ↔
      steps ∈ residual stage ∧
        ¬(steps.any isConditionalCount = true ∧
          (plan.projection.isSome = true ∨ steps.any isSelect = true)) := by
  induction steps generalizing stage plan with
  | nil => simp [extend, nil_mem_residual]
  | cons step rest ih =>
      have hobjection := objection?_eq_none_iff stage plan step
      rw [cons_mem_residual]
      by_cases hnone : objection? stage plan step = none
      · obtain ⟨hfollows, hlate⟩ := hobjection.mp hnone
        rw [extend, hnone]
        simp only [ih, add_projection_isSome, hfollows, true_and, List.any_cons,
          Bool.or_eq_true_iff]
        refine and_congr_right fun hrest => not_congr ?_
        by_cases hcount : step.isConditionalCount = true
        · -- the step is the last one, and the plan has settled its case
          obtain rfl := eq_nil_of_isConditionalCount hcount hrest
          have hselect : step.isSelect = false := by cases step <;> trivial
          have hplan : ¬plan.projection.isSome = true := fun h => hlate ⟨hcount, h⟩
          simp [hselect, hplan]
        · simp [hcount, or_assoc]
      · have herror : ¬∃ result, extend stage plan (step :: rest) = .ok result :=
          fun ⟨_, hok⟩ => hnone (extend_cons_ok hok).1
        refine iff_of_false herror fun ⟨⟨hfollows, _⟩, hcount⟩ =>
          hnone (hobjection.mpr ⟨hfollows, ?_⟩)
        exact fun ⟨hstep, hplan⟩ => hcount ⟨by simp [hstep], .inl hplan⟩

/-- A refused list of steps is refused for one of them. -/
theorem extend_error {stage : Stage} {plan : Plan} {steps : List Step} {e : Error}
    (h : extend stage plan steps = .error e) :
    ∃ refusal : Lower.Refusal, ∃ step ∈ steps, e = refusal.error step.outline.line := by
  induction steps generalizing stage plan with
  | nil => cases h
  | cons step rest ih =>
      rw [extend] at h
      cases hobjection : objection? stage plan step with
      | some refusal =>
          rw [hobjection] at h
          cases h
          exact ⟨refusal, step, List.mem_cons_self, rfl⟩
      | none =>
          rw [hobjection] at h
          obtain ⟨refusal, other, hother, he⟩ := ih h
          exact ⟨refusal, other, List.mem_cons_of_mem step hother, he⟩

/-! ## The groups of a plan -/

/-- A plan is its steps, added one after the other. -/
theorem extend_eq_foldl {stage : Stage} {plan result : Plan} {steps : List Step}
    (h : extend stage plan steps = .ok result) : result = steps.foldl add plan := by
  induction steps generalizing stage plan with
  | nil => cases h; rfl
  | cons step rest ih => exact ih (extend_cons_ok h).2

theorem foldl_add_filters (plan : Plan) (steps : List Step) :
    (steps.foldl add plan).filters = plan.filters ++ steps.filterMap predicate? := by
  induction steps generalizing plan with
  | nil => simp
  | cons step rest ih =>
      rw [List.foldl_cons, ih]
      cases step <;> simp [add, predicate?, List.filterMap_cons]

theorem foldl_add_distinct (plan : Plan) (steps : List Step) :
    (steps.foldl add plan).distinct = (plan.distinct || steps.any isDistinct) := by
  induction steps generalizing plan with
  | nil => simp
  | cons step rest ih => rw [List.foldl_cons, ih]; cases step <;> simp [add, isDistinct]

/-- A sort replaces the one before it; further keys continue the last one. -/
theorem foldl_add_order (plan : Plan) (steps : List Step) :
    (steps.foldl add plan).order =
      if steps.any isOrderBy then lastSort steps
      else plan.order ++ steps.filterMap furtherKey? := by
  induction steps generalizing plan with
  | nil => simp
  | cons step rest ih =>
      rw [List.foldl_cons, ih]
      cases hrest : rest.any isOrderBy <;> cases step <;>
        simp [add, isOrderBy, furtherKey?, lastSort, List.filterMap_cons, hrest]

theorem foldl_add_take (plan : Plan) (steps : List Step) :
    (steps.foldl add plan).take =
      (steps.filterMap count?).foldl (fun before n => some (limit before n)) plan.take := by
  induction steps generalizing plan with
  | nil => rfl
  | cons step rest ih =>
      rw [List.foldl_cons, ih]
      cases step <;> simp [add, count?, List.filterMap_cons]

/-- Limiting again and again leaves the least count. -/
theorem foldl_limit (counts : List Nat) :
    counts.foldl (fun before n => some (limit before n)) none = counts.min? := by
  have hsome : ∀ (counts : List Nat) (m : Nat),
      counts.foldl (fun before n => some (limit before n)) (some m) =
        some (counts.foldl min m) := by
    intro counts
    induction counts with
    | nil => intro m; rfl
    | cons n counts ih => intro m; exact ih (min m n)
  cases counts with
  | nil => rfl
  | cons n counts => exact hsome counts n

/-- What has been projected or summarised when a stage is reached. -/
structure Reached (stage : Stage) (plan : Plan) : Prop where
  projection : stage.rank < Stage.select.rank → plan.projection = none
  aggregation : stage ≠ .aggregate → plan.aggregation = none

theorem Reached.add {stage : Stage} {plan : Plan} {step : Step} (h : Reached stage plan)
    (hnone : objection? stage plan step = none) : Reached (stageOf step) (plan.add step) := by
  obtain ⟨hfollows, _⟩ := (objection?_eq_none_iff stage plan step).mp hnone
  have hnot : stage ≠ .aggregate := by
    rintro rfl
    cases step <;> cases hfollows
  have haggregation := h.aggregation hnot
  cases step with
  | filter _ | orderBy _ _ =>
      have hrank : stage.rank < Stage.select.rank :=
        Nat.lt_of_le_of_lt (of_decide_eq_true hfollows) (by decide)
      exact ⟨fun _ => h.projection hrank, fun _ => haggregation⟩
  | thenBy _ _ =>
      obtain rfl : stage = .order := of_decide_eq_true hfollows
      exact ⟨fun _ => h.projection (by decide), fun _ => haggregation⟩
  | select _ | distinct | take _ => exact ⟨nofun, fun _ => haggregation⟩
  | aggregate _ => exact ⟨nofun, fun habs => absurd rfl habs⟩

/-- No second projection is accepted, and no second aggregation. -/
theorem extend_single {stage : Stage} {plan result : Plan} {steps : List Step}
    (hreached : Reached stage plan) (h : extend stage plan steps = .ok result) :
    result.projection.toList = plan.projection.toList ++ steps.filterMap projection? ∧
      result.aggregation.toList = plan.aggregation.toList ++ steps.filterMap aggregation? := by
  induction steps generalizing stage plan with
  | nil => cases h; simp
  | cons step rest ih =>
      obtain ⟨hnone, hrest⟩ := extend_cons_ok h
      obtain ⟨hprojection, haggregation⟩ := ih (hreached.add hnone) hrest
      obtain ⟨hfollows, _⟩ := (objection?_eq_none_iff stage plan step).mp hnone
      rw [hprojection, haggregation]
      cases step with
      | select _ =>
          have hplan := hreached.projection (by simpa [follows] using hfollows)
          simp [Plan.add, projection?, aggregation?, List.filterMap_cons, hplan]
      | aggregate _ =>
          have hplan := hreached.aggregation (by rintro rfl; cases hfollows)
          simp [Plan.add, projection?, aggregation?, List.filterMap_cons, hplan]
      | _ => simp [Plan.add, projection?, aggregation?, List.filterMap_cons]

/-- Without a sort there are no further keys. -/
theorem extend_furtherKeys {stage : Stage} {plan result : Plan} {steps : List Step}
    (hstage : stage ≠ .order) (hsort : steps.any isOrderBy = false)
    (h : extend stage plan steps = .ok result) : steps.filterMap furtherKey? = [] := by
  induction steps generalizing stage plan with
  | nil => rfl
  | cons step rest ih =>
      obtain ⟨hnone, hrest⟩ := extend_cons_ok h
      obtain ⟨hfollows, _⟩ := (objection?_eq_none_iff stage plan step).mp hnone
      rw [List.any_cons, Bool.or_eq_false_iff] at hsort
      have hstep : stageOf step ≠ .order := by
        cases step with
        | orderBy _ _ => cases hsort.1
        | thenBy _ _ => exact absurd (of_decide_eq_true hfollows) hstage
        | _ => nofun
      have hkey : step.furtherKey? = none := by
        cases step with
        | thenBy _ _ => exact absurd rfl hstep
        | _ => rfl
      rw [List.filterMap_cons_none hkey]
      exact ih hstep hsort.2 hrest

theorem lastSort_eq_nil {steps : List Step} (h : steps.any isOrderBy = false) :
    lastSort steps = [] := by
  induction steps with
  | nil => rfl
  | cons step rest ih =>
      rw [List.any_cons, Bool.or_eq_false_iff] at h
      cases step with
      | orderBy _ _ => cases h.1
      | _ => exact ih h.2

/-- What a plan has to hold of the steps of a request. -/
structure Groups (plan : Plan) (steps : List Step) : Prop where
  filters : plan.filters = steps.filterMap predicate?
  order : plan.order = lastSort steps
  /-- The projection is the only one that was given, if one was. -/
  projection : plan.projection.toList = steps.filterMap projection?
  distinct : plan.distinct = steps.any isDistinct
  take : plan.take = (steps.filterMap count?).min?
  aggregation : plan.aggregation.toList = steps.filterMap aggregation?

theorem ofSteps_groups {steps : List Step} {plan : Plan} (h : ofSteps steps = .ok plan) :
    plan.Groups steps := by
  have hstart : Reached .source empty := ⟨fun _ => rfl, fun _ => rfl⟩
  have hsingle := extend_single hstart h
  have hplan := extend_eq_foldl h
  refine ⟨?_, ?_, hsingle.1, ?_, ?_, hsingle.2⟩
  · rw [hplan, foldl_add_filters]
    rfl
  · rw [hplan, foldl_add_order]
    cases hsort : steps.any isOrderBy with
    | true => rfl
    | false =>
        rw [extend_furtherKeys (by decide : Stage.source ≠ .order) hsort h, lastSort_eq_nil hsort]
        rfl
  · rw [hplan, foldl_add_distinct]
    rfl
  · rw [hplan, foldl_add_take]
    exact foldl_limit _

theorem ofSteps_isOk_iff (steps : List Step) :
    (∃ plan, ofSteps steps = .ok plan) ↔ Admissible steps := by
  rw [ofSteps, extend_isOk_iff, Admissible, CountsProjected]
  simp [residual, empty]

theorem compile_refused {steps : List Step} (h : ¬Admissible steps) (c : Compiler)
    (source : Source) :
    ∃ refusal : Lower.Refusal, ∃ step ∈ steps,
      c.compile ⟨source, steps⟩ = .error (refusal.error step.outline.line) := by
  cases hplan : ofSteps steps with
  | ok plan => exact absurd ((ofSteps_isOk_iff steps).mp ⟨plan, hplan⟩) h
  | error e =>
      obtain ⟨refusal, step, hstep, rfl⟩ := extend_error hplan
      refine ⟨refusal, step, hstep, ?_⟩
      have hrequest : Lower.request c.mapping ⟨source, steps⟩ (.start c.stem) =
          (.error (refusal.error step.outline.line), .start c.stem) := by
        rw [Lower.request, Lower.bind_apply, hplan]
        rfl
      rw [Compiler.compile, hrequest]

/-- A plan is made of exactly the admissible lists of steps, it holds the steps
by their kind, and a request with any other list does not compile, whatever its
expressions. -/
theorem ofSteps_accepts (steps : List Step) :
    ((∃ plan, ofSteps steps = .ok plan) ↔ Admissible steps) ∧
      (∀ plan, ofSteps steps = .ok plan → plan.Groups steps) ∧
      (¬Admissible steps → ∀ (c : Compiler) (source : Source),
        ∃ message subject, c.compile ⟨source, steps⟩ = .error (.unsupported message subject)) := by
  refine ⟨ofSteps_isOk_iff steps, fun plan h => ofSteps_groups h, fun h c source => ?_⟩
  obtain ⟨refusal, step, _, herror⟩ := compile_refused h c source
  exact ⟨refusal.message, step.outline.line, herror⟩

end Plan

end Inquiry
