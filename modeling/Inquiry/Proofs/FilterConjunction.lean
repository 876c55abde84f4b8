import Inquiry.Proofs.FoldType
import Inquiry.Proofs.Registration
import Inquiry.Proofs.StepOrder

/-!
# A list of filters means their conjunction

The filters of a request are folded and lowered one by one: a filter that is
always true is dropped, one that is always false is refused, and the conditions
of the others are joined by AND at the end. A caller may instead write the
conjunction of the filters as one predicate. That is folded as a whole first,
so that constants disappear by the rules for connectives, and what is left is
lowered in one go.

The two do the same things in a different order, and the order shows in two
places only. A filter that cannot be lowered may stand before one that cannot
be folded, and then the two fail for different reasons; and a computation that
fails may have registered parameters before. So the comparison is between
successful runs: `Agree` says of two computations that they succeed on the same
lists of parameters, with the same result and the same list afterwards. It is
kept by sequencing, and the induction is on the filters from the last one, as
the conjunction is nested to the left.
-/

namespace Inquiry

namespace Host

/-- The conjunction of predicates, nested to the left. -/
def conjunction (first : Expr) (rest : List Expr) : Expr :=
  rest.foldl (fun acc next => .binary acc (.logic .and) next) first

theorem conjunction_append (first : Expr) (rest : List Expr) (last : Expr) :
    conjunction first (rest ++ [last])
      = .binary (conjunction first rest) (.logic .and) last := by
  rw [conjunction, List.foldl_append]
  rfl

/-- The predicate folds to the given truth value. -/
def Expr.FoldsTo (e : Expr) (b : Bool) : Prop :=
  ∃ folded, e.fold = .ok folded ∧ folded.bool? = some b

end Host

namespace Lower

open Host (Expr conjunction)
open Statement (Condition)

/-! ## Successful runs -/

section Runs

variable {α β : Type} {ps after : Parameters}

theorem bind_eq_success {m : Lowering α} {f : α → Lowering β} {b : β} :
    (m >>= f) ps = (.ok b, after) ↔
      ∃ a mid, m ps = (.ok a, mid) ∧ f a mid = (.ok b, after) := by
  rw [bind_apply]
  rcases m ps with ⟨e | a, mid⟩
  · exact ⟨nofun, nofun⟩
  · constructor
    · intro h
      exact ⟨a, mid, rfl, h⟩
    · rintro ⟨_, _, hrun, h⟩
      cases hrun
      exact h

theorem lift_eq_success {r : Except Error α} {a : α} :
    lift r ps = (.ok a, after) ↔ r = .ok a ∧ ps = after := by
  rw [lift, Prod.mk.injEq]

theorem pure_eq_success {a b : α} :
    (pure a : Lowering α) ps = (.ok b, after) ↔ a = b ∧ ps = after := by
  show lift (.ok a) ps = _ ↔ _
  rw [lift_eq_success, Except.ok.injEq]

theorem refuse_ne_success {r : Refusal} {e : Expr} {a : α} :
    (refuse r e : Lowering α) ps ≠ (.ok a, after) := nofun

/-- The computations succeed on the same lists of parameters, with the same
results. -/
def Agree (m n : Lowering α) : Prop :=
  ∀ ps a after, m ps = (.ok a, after) ↔ n ps = (.ok a, after)

theorem Agree.of_eq {m n : Lowering α} (h : m = n) : Agree m n :=
  fun _ _ _ => by rw [h]

theorem Agree.trans {m n o : Lowering α} (h : Agree m n) (h' : Agree n o) : Agree m o :=
  fun ps a after => (h ps a after).trans (h' ps a after)

theorem Agree.bind {m n : Lowering α} (h : Agree m n) (f : α → Lowering β) :
    Agree (m >>= f) (n >>= f) := by
  intro ps b after
  rw [bind_eq_success, bind_eq_success]
  simp only [h ps]

end Runs

/-! ## One filter -/

/-- The condition of a folded filter, and none if it is always true. -/
def settle (s : Mapping) (folded : Expr) : Lowering (Option Condition) :=
  match folded.bool? with
  | some true => pure none
  | some false => refuse .falseFilter folded
  | none => do
      let c ← lowerCondition s folded .parameters
      pure (some c)

/-- One filter on its own. -/
def single (s : Mapping) (e : Expr) : Lowering (Option Condition) := lift e.fold >>= settle s

/-- Two conditions joined by AND, where either may be missing. -/
def conjoin : Option Condition → Option Condition → Option Condition
  | some c, some d => some (.logic c .and d)
  | some c, none => some c
  | none, d => d

theorem settle_true {s : Mapping} {x : Expr} (h : x.bool? = some true) :
    settle s x = pure none := by
  rw [settle, h]

theorem settle_false {s : Mapping} {x : Expr} (h : x.bool? = some false) :
    settle s x = refuse .falseFilter x := by
  rw [settle, h]

theorem settle_none {s : Mapping} {x : Expr} (h : x.bool? = none) :
    settle s x = lowerCondition s x .parameters >>= fun c => pure (some c) := by
  rw [settle, h]

theorem settle_eq_none {s : Mapping} {x : Expr} {ps after : Parameters} :
    settle s x ps = (.ok none, after) ↔ x.bool? = some true ∧ ps = after := by
  cases hx : x.bool? with
  | none =>
      rw [settle_none hx, bind_eq_success]
      simp [pure_eq_success]
  | some b =>
      cases b with
      | true =>
          rw [settle_true hx, pure_eq_success]
          simp
      | false =>
          rw [settle_false hx]
          exact ⟨nofun, nofun⟩

theorem settle_eq_some {s : Mapping} {x : Expr} {c : Condition} {ps after : Parameters} :
    settle s x ps = (.ok (some c), after) ↔
      x.bool? = none ∧ lowerCondition s x .parameters ps = (.ok c, after) := by
  cases hx : x.bool? with
  | none =>
      rw [settle_none hx, bind_eq_success]
      simp [pure_eq_success]
  | some b =>
      cases b with
      | true =>
          rw [settle_true hx, pure_eq_success]
          exact ⟨nofun, nofun⟩
      | false =>
          rw [settle_false hx]
          exact ⟨nofun, nofun⟩

/-- A truth value is no condition. -/
theorem bool?_of_lowerCondition {s : Mapping} {x : Expr} {c : Condition} {p : Placement}
    {ps after : Parameters} (h : lowerCondition s x p ps = (.ok c, after)) : x.bool? = none := by
  cases x with
  | constant v type =>
      rw [lowerCondition] at h
      split at h
      · exact absurd h refuse_ne_success
      · next hv =>
          cases v with
          | bool b => exact absurd rfl hv
          | _ => rfl
  | _ => rfl

/-! ## Folding a conjunction, and joining conditions -/

theorem foldLogic_and (x y : Expr) :
    Host.foldLogic x .and y =
      if x.bool? = some false ∨ y.bool? = some false then .ofValue (.bool false)
      else if x.bool?.isSome then y
      else if y.bool?.isSome then x
      else .binary x (.logic .and) y := by
  have hdeciding : (Statement.Connective.and == .or) = false := rfl
  rw [Host.foldLogic]
  simp only [hdeciding, Bool.or_eq_true, decide_eq_true_eq]

/-- With a false operand neither the conjunction nor the operands settle,
whatever was registered before the failure. -/
theorem settle_foldLogic_false (s : Mapping) {x y : Expr}
    (h : x.bool? = some false ∨ y.bool? = some false) :
    Agree
      (do
        let c ← settle s x
        let d ← settle s y
        pure (conjoin c d))
      (settle s (Host.foldLogic x .and y)) := by
  intro ps r after
  have hfold : (Host.foldLogic x .and y).bool? = some false := by
    rw [foldLogic_and, if_pos h]
    rfl
  rw [settle_false hfold, bind_eq_success]
  simp only [bind_eq_success]
  constructor
  · rintro ⟨c, mid, hx, d, _, hy, _⟩
    rcases h with h | h
    · rw [settle_false h] at hx
      exact absurd hx refuse_ne_success
    · rw [settle_false h] at hy
      exact absurd hy refuse_ne_success
  · intro hr
    exact absurd hr refuse_ne_success

/-- Folding the connective first agrees with joining what the operands settle to. -/
theorem settle_foldLogic (s : Mapping) (x y : Expr) :
    Agree
      (do
        let c ← settle s x
        let d ← settle s y
        pure (conjoin c d))
      (settle s (Host.foldLogic x .and y)) := by
  by_cases h : x.bool? = some false ∨ y.bool? = some false
  · exact settle_foldLogic_false s h
  · -- no operand is false, and then both sides are the same computation
    refine Agree.of_eq ?_
    rw [foldLogic_and, if_neg h]
    rw [not_or] at h
    cases hx : x.bool? with
    | some b =>
        cases b with
        | false => exact absurd hx h.1
        | true =>
            rw [Option.isSome_some, if_pos rfl, settle_true hx, pure_bind]
            exact bind_pure _
    | none =>
        rw [if_neg (by simp)]
        cases hy : y.bool? with
        | some b =>
            cases b with
            | false => exact absurd hy h.2
            | true =>
                rw [Option.isSome_some, if_pos rfl, settle_true hy, settle_none hx]
                simp only [bind_assoc, pure_bind]
                rfl
        | none =>
            rw [if_neg (by simp), settle_none hx, settle_none hy, settle_none rfl,
              lowerCondition_logic]
            simp only [lowerLogic, bind_assoc, pure_bind]
            rfl

theorem single_and (s : Mapping) (e last : Expr) :
    Agree
      (do
        let c ← single s e
        let d ← single s last
        pure (conjoin c d))
      (single s (.binary e (.logic .and) last)) := by
  intro ps r after
  simp only [single, bind_assoc, bind_eq_success, lift_eq_success]
  constructor
  · rintro ⟨x, _, ⟨hx, rfl⟩, c, mid, hc, y, _, ⟨hy, rfl⟩, d, end', hd, hr⟩
    refine ⟨Host.foldLogic x .and y, ps, ⟨?_, rfl⟩, ?_⟩
    · exact Expr.fold_binary.mpr ⟨x, hx, y, hy, rfl⟩
    · rw [← settle_foldLogic s x y]
      simp only [bind_eq_success]
      exact ⟨c, mid, hc, d, end', hd, hr⟩
  · rintro ⟨folded, _, ⟨hfolded, rfl⟩, hr⟩
    obtain ⟨x, hx, y, hy, hxy⟩ := Expr.fold_binary.mp hfolded
    obtain rfl : Host.foldLogic x .and y = folded := Except.ok.inj hxy
    rw [← settle_foldLogic s x y] at hr
    simp only [bind_eq_success] at hr
    obtain ⟨c, mid, hc, d, end', hd, hr⟩ := hr
    exact ⟨x, ps, ⟨hx, rfl⟩, c, mid, hc, y, mid, ⟨hy, rfl⟩, d, end', hd, hr⟩

/-! ## A list of filters -/

theorem lowerFilters_append (s : Mapping) (es es' : List Expr) :
    lowerFilters s (es ++ es') = (do
      let cs ← lowerFilters s es
      let ds ← lowerFilters s es'
      pure (cs ++ ds)) := by
  induction es with
  | nil =>
      rw [List.nil_append, lowerFilters, pure_bind]
      exact (bind_pure _).symm
  | cons e rest ih =>
      rw [List.cons_append, lowerFilters, lowerFilters, bind_assoc]
      congr 1
      funext folded
      cases folded.bool? with
      | some b =>
          cases b with
          | true => exact ih
          | false => rfl
      | none =>
          simp only [ih, bind_assoc, pure_bind]
          rfl

theorem lowerFilters_single (s : Mapping) (e : Expr) :
    lowerFilters s [e] = (do
      let c ← single s e
      pure c.toList) := by
  rw [lowerFilters, single, bind_assoc]
  congr 1
  funext folded
  rw [settle]
  cases folded.bool? with
  | some b => cases b <;> rfl
  | none =>
      simp only [lowerFilters, bind_assoc, pure_bind]
      rfl

theorem all?_append_toList (cs : List Condition) (d : Option Condition) :
    Condition.all? (cs ++ d.toList) = conjoin (Condition.all? cs) d := by
  cases d with
  | none =>
      rw [Option.toList_none, List.append_nil]
      cases cs <;> rfl
  | some d =>
      cases cs with
      | nil => rfl
      | cons c rest =>
          rw [Option.toList_some, List.cons_append, Condition.all?, List.foldl_append]
          rfl

theorem filter_append (s : Mapping) (es : List Expr) (last : Expr) :
    filter s (es ++ [last]) = (do
      let c ← filter s es
      let d ← single s last
      pure (conjoin c d)) := by
  rw [filter, lowerFilters_append, lowerFilters_single, filter]
  simp only [bind_assoc, pure_bind, all?_append_toList]

theorem filter_single (s : Mapping) (e : Expr) : filter s [e] = single s e := by
  rw [show [e] = [] ++ [e] from rfl, filter_append, filter, lowerFilters, pure_bind, pure_bind]
  exact bind_pure _

/-- The filters of a list, one by one, agree with their conjunction. -/
theorem filter_agree (s : Mapping) (first : Expr) (rest : List Expr) :
    Agree (filter s (first :: rest)) (single s (conjunction first rest)) := by
  induction rest using List.reverseRecOn with
  | nil => exact Agree.of_eq (filter_single s first)
  | append_singleton rest last ih =>
      rw [← List.cons_append, filter_append, Host.conjunction_append]
      exact (ih.bind _).trans (single_and s (conjunction first rest) last)

theorem single_eq_none {s : Mapping} {e : Expr} {ps after : Parameters} :
    single s e ps = (.ok none, after) ↔ e.FoldsTo true ∧ ps = after := by
  rw [single, bind_eq_success]
  simp only [lift_eq_success, settle_eq_none]
  constructor
  · rintro ⟨x, _, ⟨hx, rfl⟩, hbool, rfl⟩
    exact ⟨⟨x, hx, hbool⟩, rfl⟩
  · rintro ⟨⟨x, hx, hbool⟩, rfl⟩
    exact ⟨x, ps, ⟨hx, rfl⟩, hbool, rfl⟩

theorem single_eq_some {s : Mapping} {e : Expr} {c : Condition} {ps after : Parameters} :
    single s e ps = (.ok (some c), after) ↔ condition s e ps = (.ok c, after) := by
  rw [single, condition, bind_eq_success, bind_eq_success]
  simp only [settle_eq_some]
  constructor
  · rintro ⟨x, mid, hx, _, hc⟩
    exact ⟨x, mid, hx, hc⟩
  · rintro ⟨x, mid, hx, hc⟩
    exact ⟨x, mid, hx, bool?_of_lowerCondition hc, hc⟩

/-- What a list of filters has to do with the predicate that is their
conjunction, from a list of parameters on. -/
structure Conjoined (s : Mapping) (filters : List Expr) (whole : Expr) (ps : Parameters) : Prop where
  /-- There is no condition exactly if the conjunction is always true. -/
  always : filter s filters ps = (.ok none, ps) ↔ whole.FoldsTo true
  /-- There is a condition exactly if the conjunction has that condition, and the
  two register the same parameters for it. -/
  condition : ∀ c after,
    filter s filters ps = (.ok (some c), after) ↔ condition s whole ps = (.ok c, after)
  otherwise : ¬whole.FoldsTo true → (∀ c after, Lower.condition s whole ps ≠ (.ok c, after)) →
    (∃ e after, filter s filters ps = (.error e, after)) ∧
      ∃ e after, Lower.condition s whole ps = (.error e, after)

theorem filter_conjoined (s : Mapping) (first : Expr) (rest : List Expr) (ps : Parameters) :
    Conjoined s (first :: rest) (conjunction first rest) ps := by
  have hagree := filter_agree s first rest ps
  have hnone : ∀ after, filter s (first :: rest) ps = (.ok none, after) ↔
      (conjunction first rest).FoldsTo true ∧ ps = after :=
    fun after => (hagree none after).trans single_eq_none
  have hsome : ∀ c after, filter s (first :: rest) ps = (.ok (some c), after) ↔
      condition s (conjunction first rest) ps = (.ok c, after) :=
    fun c after => (hagree (some c) after).trans single_eq_some
  refine ⟨?_, hsome, fun hfalse hfails => ⟨?_, ?_⟩⟩
  · rw [hnone]
    simp
  · rcases hrun : filter s (first :: rest) ps with ⟨e | _ | c, after⟩
    · exact ⟨e, after, rfl⟩
    · exact absurd ((hnone after).mp hrun).1 hfalse
    · exact absurd ((hsome c after).mp hrun) (hfails c after)
  · rcases hrun : condition s (conjunction first rest) ps with ⟨e | c, after⟩
    · exact ⟨e, after, rfl⟩
    · exact absurd hrun (hfails c after)

theorem single_of_not_foldsTo {s : Mapping} {e : Expr} (h : ∀ b, ¬e.FoldsTo b) :
    single s e = (do
      let c ← condition s e
      pure (some c)) := by
  rw [single, condition, bind_assoc]
  cases hfold : e.fold with
  | error err => rfl
  | ok folded =>
      have hbool : folded.bool? = none := by
        cases hb : folded.bool? with
        | none => rfl
        | some b => exact absurd ⟨folded, hfold, hb⟩ (h b)
      show settle s folded = _
      rw [settle_none hbool]
      rfl

end Lower

/-! ## Requests -/

/-- The condition under which an aggregation counts. -/
def Aggregation.condition? : Aggregation → Option Host.Expr
  | ⟨.count, predicate⟩ => predicate
  | _ => none

namespace Plan

theorem conditions_eq {steps : List Step} {plan : Plan} (h : ofSteps steps = .ok plan) :
    plan.conditions = steps.filterMap Step.predicate? ++
      (steps.filterMap Step.aggregation?).filterMap Aggregation.condition? := by
  have hgroups := ofSteps_groups h
  rw [← hgroups.filters, ← hgroups.aggregation, conditions.eq_def]
  split
  · next predicate ha =>
      rw [ha]
      rfl
  · next hother =>
      rcases ha : plan.aggregation with _ | ⟨_ | func, _ | predicate⟩
      · simp
      · simp [Aggregation.condition?]
      · exact absurd ha (hother predicate)
      · simp [Aggregation.condition?]
      · simp [Aggregation.condition?]

theorem extend_filters (fs : List Host.Expr) (steps : List Step) {stage : Stage} (plan : Plan)
    (h : stage.rank ≤ Stage.filter.rank) :
    ∃ reached : Stage, reached.rank ≤ Stage.filter.rank ∧
      extend stage plan (fs.map .filter ++ steps)
        = extend reached { plan with filters := plan.filters ++ fs } steps := by
  induction fs generalizing stage plan with
  | nil => exact ⟨stage, h, by simp⟩
  | cons e rest ih =>
      obtain ⟨reached, hreached, hextend⟩ := ih (plan.add (.filter e)) (Nat.le_refl Stage.filter.rank)
      refine ⟨reached, hreached, ?_⟩
      have hstage : objection? stage plan (.filter e) = none := by
        cases stage <;> first | rfl | exact absurd h (by decide)
      rw [List.map_cons, List.cons_append, extend, hstage]
      simpa [add, stageOf] using hextend

theorem ofSteps_count (fs : List Host.Expr) (predicate : Option Host.Expr) :
    ofSteps (fs.map .filter ++ [.aggregate ⟨.count, predicate⟩])
      = .ok { empty with filters := fs, aggregation := some ⟨.count, predicate⟩ } := by
  obtain ⟨reached, hreached, hextend⟩ :=
    extend_filters fs [.aggregate ⟨.count, predicate⟩] empty (show Stage.source.rank ≤ _ by decide)
  have hstage : ∀ filters,
      objection? reached { empty with filters := filters } (.aggregate ⟨.count, predicate⟩)
        = none := by
    intro filters
    cases reached <;> first | exact absurd hreached (by decide) | simp [objection?, empty]
  rw [ofSteps, hextend, extend, hstage]
  rfl

end Plan

namespace Compiler

open Host (Expr conjunction)

/-- A count under a condition is a count of what the condition leaves. -/
theorem compile_count (c : Compiler) (source : Source) (fs : List Expr) (p : Expr) :
    c.compile ⟨source, fs.map .filter ++ [.filter p, .aggregate ⟨.count, none⟩]⟩
      = c.compile ⟨source, fs.map .filter ++ [.aggregate ⟨.count, some p⟩]⟩ := by
  have hsteps : fs.map Step.filter ++ [.filter p, .aggregate ⟨.count, none⟩]
      = (fs ++ [p]).map .filter ++ [.aggregate ⟨.count, none⟩] := by simp
  rw [hsteps, compile, compile, Lower.request, Lower.request, Plan.ofSteps_count,
    Plan.ofSteps_count]
  rfl

/-- The query for a source under one filter. -/
def filtered (name : String) (condition : Statement.Condition) : Statement.Query :=
  ⟨.all, some name, some condition, none⟩

theorem filtered_render (name : String) (condition : Statement.Condition) :
    (filtered name condition).render
      = "SELECT * FROM " ++ name ++ " WHERE " ++ condition.render := by
  show "SELECT " ++ "" ++ "" ++ "*" ++ (" FROM " ++ name) ++ (" WHERE " ++ condition.render) ++ ""
    = _
  have hselect : "SELECT " ++ "" ++ "" ++ "*" ++ " FROM " = "SELECT * FROM " := by decide
  rw [← hselect, String.append_empty]
  simp only [String.append_assoc]

theorem request_filter (s : Mapping) (source : Source) {p : Expr} (h : ∀ b, ¬p.FoldsTo b) :
    Lower.request s ⟨source, [.filter p]⟩ = (do
      let name ← Lower.lift (Lower.sourceName s source)
      let condition ← Lower.condition s p
      pure (filtered name condition, some .raw)) := by
  rw [Lower.request]
  show (Lower.lift (Lower.sourceName s source) >>= fun name => Lower.filter s [p] >>= _) = _
  congr 1
  funext name
  rw [Lower.filter_single, Lower.single_of_not_foldsTo h, bind_assoc]
  rfl

/-- A request with one filter is compiled into the text of its condition. -/
theorem compile_filter (c : Compiler) (source : Source) {p : Expr} (h : ∀ b, ¬p.FoldsTo b) :
    c.compile ⟨source, [.filter p]⟩ = (do
      let name ← Lower.sourceName c.mapping source
      let command ← c.compileCondition p
      .ok ⟨⟨"SELECT * FROM " ++ name ++ " WHERE " ++ command.text, command.params⟩,
        some .raw⟩) := by
  rw [compile, compileCondition, request_filter c.mapping source h, Lower.bind_apply]
  cases Lower.sourceName c.mapping source with
  | error e => rfl
  | ok name =>
      simp only [Lower.lift, Lower.bind_apply]
      rcases Lower.condition c.mapping p (.start c.stem) with ⟨e | condition, ps⟩
      · rfl
      · show Except.ok _ = Except.ok _
        rw [filtered_render]

/-- A list of filters means the conjunction of its predicates: it has the same
condition with the same parameters, and none if the conjunction is always true.
The list of a request are its filters, with the condition of a count at the end.
So a count under a condition is the count of what the condition leaves, and a
request with one filter is compiled like its predicate. -/
theorem filters_mean_conjunction (s : Mapping) (stem : String) :
    (∀ first rest ps, Lower.Conjoined s (first :: rest) (conjunction first rest) ps) ∧
      (∀ steps plan, Plan.ofSteps steps = .ok plan →
        plan.conditions = steps.filterMap Step.predicate? ++
          (steps.filterMap Step.aggregation?).filterMap Aggregation.condition?) ∧
      (∀ source (fs : List Expr) p,
        compile ⟨s, stem⟩ ⟨source, fs.map .filter ++ [.filter p, .aggregate ⟨.count, none⟩]⟩
          = compile ⟨s, stem⟩ ⟨source, fs.map .filter ++ [.aggregate ⟨.count, some p⟩]⟩) ∧
      ∀ source (p : Expr), (∀ b, ¬p.FoldsTo b) →
        compile ⟨s, stem⟩ ⟨source, [.filter p]⟩ = (do
          let name ← Lower.sourceName s source
          let command ← compileCondition ⟨s, stem⟩ p
          .ok ⟨⟨"SELECT * FROM " ++ name ++ " WHERE " ++ command.text, command.params⟩,
            some .raw⟩) :=
  ⟨Lower.filter_conjoined s, fun _ _ h => Plan.conditions_eq h, compile_count ⟨s, stem⟩,
    fun source _ h => compile_filter ⟨s, stem⟩ source h⟩

/-- Goods of a code, a comparison that is always true, and goods above a price. -/
def dearGoods : Expr × List Expr :=
  (.binary (.get (.input .row) "Code" (some .string)) (.relation .eq) (.ofValue (.string "A-1")),
    [.binary (.ofValue (.int32 1)) (.relation .lt) (.ofValue (.int32 2)),
     .binary (.get (.input .row) "Price" (some .int32)) (.relation .gt) (.ofValue (.int32 5))])

theorem filters_mean_conjunction_dearGoods :
    Lower.condition .empty (conjunction dearGoods.1 dearGoods.2) (.start "p") =
        (.ok (.logic (.relation (.field .defaultTable ⟨"Code"⟩) .eq (.param ⟨"p1"⟩)) .and
          (.relation (.field .defaultTable ⟨"Price"⟩) .gt (.param ⟨"p2"⟩))),
          ⟨"p", [⟨"p1", .string "A-1"⟩, ⟨"p2", .int32 5⟩]⟩) ∧
      compile ⟨.empty, "p"⟩ ⟨.table "Goods", [.filter dearGoods.1]⟩ =
        .ok ⟨⟨"SELECT * FROM Goods WHERE Code = &p1", [⟨"p1", .string "A-1"⟩]⟩, some .raw⟩ := by
  obtain ⟨hconjoined, _, _, hfilter⟩ := filters_mean_conjunction .empty "p"
  constructor
  · exact ((hconjoined dearGoods.1 dearGoods.2 (.start "p")).condition _ _).mp rfl
  · refine hfilter (.table "Goods") dearGoods.1 ?_
    rintro b ⟨_, hfold, hbool⟩
    cases hfold
    cases hbool

end Compiler

end Inquiry
