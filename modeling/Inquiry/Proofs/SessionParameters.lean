import Inquiry.Compiler
import Inquiry.Proofs.LowerRegistration
import Inquiry.Session

/-!
# The parameters of a session

A session shares one list of parameters between all its steps, and a step that
fails leaves on it whatever it had registered by then. What a caller may rely
on after any number of steps, failed ones included, is gathered in `Accounted`:
the list has only grown, it is numbered without a gap, no two names collide,
and the result of the step refers to exactly what the step put there.

One step at a time this is `LowerRegistration.lean` read on a numbered list.
The run adds only that numbering survives each step, so every step starts from
a numbered list again. A compilation is the session of one step that starts
from no parameters at all; that its text and its parameters agree is the same
fact once more.
-/

namespace Inquiry.Session

open Lower (Parameter Parameters Registers Refer Inline)
open Statement (Name)

/-- The parameters to which the outcome of a step refers. -/
def Outcome.params : Outcome → List Name
  | name _ => []
  | value e => e.params
  | condition c => c.params
  | projection p => p.columns.flatMap Statement.Expr.params
  | sortKey k => k.expr.params
  | query q _ => q.params

/-- Whether constants become literals in the step. -/
def Step.isInline : Step → Bool
  | value _ | projection _ | sortKey _ _ => true
  | _ => false

/-- Whether constants become parameters in the step. -/
def Step.isFiltering : Step → Bool
  | condition _ | request _ => true
  | _ => false

/-- What holds of a step of a session over names with the given stem: of the
list before it, of its outcome, and of the list after it. -/
structure Accounted (stem : String) (before : Parameters) (step : Step)
    (outcome : Except Error Outcome) (after : Parameters) : Prop where
  extended : after.entries = before.entries ++ after.since before
  named : ∀ i q, after.entries[i]? = some q → q.name = stem ++ toString (i + 1)
  distinct : after.entries.Pairwise fun a b => Text.lowerAll a.name ≠ Text.lowerAll b.name
  /-- Values, projections and sort keys append nothing, whether they succeed or fail. -/
  inline : step.isInline = true → after.since before = []
  /-- What they give refers to no parameter. -/
  inline_params : step.isInline = true → ∀ o, outcome = .ok o → o.params = []
  /-- What a condition or a request gives refers to what it appended, in order. -/
  filtering_params : step.isFiltering = true → ∀ o, outcome = .ok o →
    o.params.map (·.text) = (after.since before).map (·.name)
  /-- Lowering never registers a null or a record. -/
  registered : step.isInline || step.isFiltering → ∀ q ∈ after.since before,
    q.value.isNull = false ∧ q.value.isRecord = false

/-! ## One step -/

theorem perform_inline (s : Mapping) (step : Step) (h : step.isInline = true) :
    Inline Outcome.params (perform s step) := by
  match step with
  | .value e => exact (Lower.value_inline s e).map fun _ _ h => h
  | .projection e => exact (Lower.projection_inline s e).map fun _ _ h => h
  | .sortKey e direction => exact (Lower.sortKey_inline s e direction).map fun _ _ h => h

theorem perform_filtering (s : Mapping) (step : Step) (h : step.isFiltering = true) :
    Registers .parameters (perform s step) fun new o => Refer o.params new := by
  match step with
  | .condition e => exact (Lower.condition_registers s e).map fun _ _ h => h
  | .request r => exact (Lower.request_registers s r).map fun _ _ h => h

/-- Whatever a step does, it does to the list by registering values. -/
theorem perform_addAll (s : Mapping) (step : Step) (ps : Parameters) :
    ∃ vs, (perform s step ps).2 = ps.addAll vs := by
  match step with
  | .add v => exact ⟨[v], rfl⟩
  | .value e => exact (perform_inline s (.value e) rfl).addAll ps
  | .projection e => exact (perform_inline s (.projection e) rfl).addAll ps
  | .sortKey e direction => exact (perform_inline s (.sortKey e direction) rfl).addAll ps
  | .condition e => exact (perform_filtering s (.condition e) rfl).addAll ps
  | .request r => exact (perform_filtering s (.request r) rfl).addAll ps

theorem perform_accounted (s : Mapping) (step : Step) {ps : Parameters} (h : ps.Numbered) :
    Accounted ps.stem ps step (perform s step ps).1 (perform s step ps).2 := by
  obtain ⟨vs, hstate⟩ := perform_addAll s step ps
  have hnumbered := h.addAll vs
  refine ⟨?_, ?_, ?_, fun hin => ?_, fun hin o ho => ?_, fun hf o ho => ?_, fun hl q hq => ?_⟩
  · rw [hstate, Parameters.addAll_since, Parameters.addAll_entries]
  · intro i q hq
    rw [hstate] at hq
    rw [hnumbered i q hq, Parameters.addAll_stem]
    rfl
  · rw [hstate]
    exact hnumbered.pairwise
  · obtain ⟨ws, hws, hlit, _⟩ := perform_inline s step hin ps
    rw [hws, Parameters.addAll_since, hlit rfl]
    rfl
  · obtain ⟨_, _, _, _, hok⟩ := perform_inline s step hin ps
    exact hok o ho
  · obtain ⟨ws, hws, _, _, hok⟩ := perform_filtering s step hf ps
    rw [hws, Parameters.addAll_since]
    exact hok o ho
  · have hvalue : ∀ ws, (perform s step ps).2 = ps.addAll ws → q.value ∈ ws := by
      intro ws hws
      rw [hws, Parameters.addAll_since] at hq
      rw [← Parameters.fresh_values ps ws]
      exact List.mem_map_of_mem hq
    rcases Bool.or_eq_true_iff.mp hl with hin | hf
    · obtain ⟨ws, hws, _, hvs, _⟩ := perform_inline s step hin ps
      exact hvs _ (hvalue ws hws)
    · obtain ⟨ws, hws, _, hvs, _⟩ := perform_filtering s step hf ps
      exact hvs _ (hvalue ws hws)

/-! ## Whole runs -/

/-- The parameters before a step of a run. -/
def before (ps : Parameters) (ends : List (Except Error Outcome × Parameters)) : Nat → Parameters
  | 0 => ps
  | i + 1 =>
      match ends[i]? with
      | some (_, after) => after
      | none => ps

theorem run_length (s : Mapping) (ps : Parameters) (steps : List Step) :
    (run s ps steps).length = steps.length := by
  induction steps generalizing ps with
  | nil => rfl
  | cons step rest ih => rw [run, List.length_cons, ih, List.length_cons]

theorem run_step_accounted (s : Mapping) {ps : Parameters} (h : ps.Numbered) (steps : List Step)
    (i : Nat) {step : Step} {outcome : Except Error Outcome} {after : Parameters}
    (hstep : steps[i]? = some step) (hrun : (run s ps steps)[i]? = some (outcome, after)) :
    Accounted ps.stem (before ps (run s ps steps) i) step outcome after := by
  induction steps generalizing ps i with
  | nil => cases hstep
  | cons first rest ih =>
      cases i with
      | zero =>
          simp only [List.getElem?_cons_zero, Option.some.injEq] at hstep
          simp only [run, List.getElem?_cons_zero, Option.some.injEq] at hrun
          have hfirst := perform_accounted s first h
          rw [hrun] at hfirst
          rwa [← hstep]
      | succ i =>
          simp only [List.getElem?_cons_succ] at hstep
          simp only [run, List.getElem?_cons_succ] at hrun
          -- the rest of the run starts from the list that the first step left
          obtain ⟨vs, hstate⟩ := perform_addAll s first ps
          have hrest := ih (hstate ▸ h.addAll vs) i hstep hrun
          have hstem : (perform s first ps).2.stem = ps.stem := by
            rw [hstate, Parameters.addAll_stem]
          rw [hstem] at hrest
          cases i with
          | zero => exact hrest
          | succ i =>
              have hshift : before ps (run s ps (first :: rest)) (i + 2)
                  = before (perform s first ps).2 (run s (perform s first ps).2 rest) (i + 1) := by
                have hlen : i < (run s (perform s first ps).2 rest).length := by
                  have := (List.getElem?_eq_some_iff.mp hrun).1
                  omega
                simp only [before, run, List.getElem?_cons_succ]
                rw [List.getElem?_eq_getElem hlen]
              rw [hshift]
              exact hrest

/-! ## Compilation -/

/-- The references are those to the parameters, each once and in order, and the
parameters are numbered from one. -/
def Matches (stem : String) (refs : List Name) (params : List Parameter) : Prop :=
  refs.map (·.text) = params.map (·.name) ∧
    ∀ i q, params[i]? = some q → q.name = stem ++ toString (i + 1)

theorem matches_of_registers {α : Type} {refs : α → List Name} {m : Lower.Lowering α}
    (hm : Registers .parameters m fun new a => Refer (refs a) new) {stem : String} {a : α}
    {ps : Parameters} (hrun : m (.start stem) = (.ok a, ps)) : Matches stem (refs a) ps.entries := by
  obtain ⟨vs, hstate, _, _, hok⟩ := hm (.start stem)
  rw [hrun] at hstate hok
  obtain rfl : ps = _ := hstate
  constructor
  · rw [Parameters.addAll_entries]
    exact hok a rfl
  · intro i q hq
    rw [(Parameters.start_numbered stem).addAll vs i q hq, Parameters.addAll_stem]
    rfl

theorem compile_matches {s : Mapping} {stem : String} {r : Request} {compiled : Compiled}
    (h : Compiler.compile ⟨s, stem⟩ r = .ok compiled) :
    ∃ query reader, (Lower.request s r (.start stem)).1 = .ok (query, reader) ∧
      compiled.command.text = query.render ∧ Matches stem query.params compiled.command.params := by
  unfold Compiler.compile at h
  rcases hrun : Lower.request s r (.start stem) with ⟨_ | ⟨query, reader⟩, ps⟩ <;>
    rw [hrun] at h <;> cases h
  exact ⟨query, reader, rfl, rfl, matches_of_registers (Lower.request_registers s r) hrun⟩

theorem compileCondition_matches {s : Mapping} {stem : String} {e : Host.Expr} {command : Command}
    (h : Compiler.compileCondition ⟨s, stem⟩ e = .ok command) :
    ∃ c, (Lower.condition s e (.start stem)).1 = .ok c ∧ command.text = c.render ∧
      Matches stem c.params command.params := by
  unfold Compiler.compileCondition at h
  rcases hrun : Lower.condition s e (.start stem) with ⟨_ | c, ps⟩ <;>
    rw [hrun] at h <;> cases h
  exact ⟨c, rfl, rfl, matches_of_registers (Lower.condition_registers s e) hrun⟩

/-- Every step of every session is accounted for, and so is every compilation. -/
theorem run_accounted (s : Mapping) (stem : String) (steps : List Step) :
    (run s (.start stem) steps).length = steps.length ∧
      (∀ i step outcome after, steps[i]? = some step →
        (run s (.start stem) steps)[i]? = some (outcome, after) →
        Accounted stem (before (.start stem) (run s (.start stem) steps) i) step outcome after) ∧
      (∀ r compiled, Compiler.compile ⟨s, stem⟩ r = .ok compiled →
        ∃ query reader, (Lower.request s r (.start stem)).1 = .ok (query, reader) ∧
          compiled.command.text = query.render ∧
          Matches stem query.params compiled.command.params) ∧
      ∀ e command, Compiler.compileCondition ⟨s, stem⟩ e = .ok command →
        ∃ c, (Lower.condition s e (.start stem)).1 = .ok c ∧ command.text = c.render ∧
          Matches stem c.params command.params :=
  ⟨run_length s _ steps,
    fun i _ _ _ hstep hrun =>
      run_step_accounted s (Parameters.start_numbered stem) steps i hstep hrun,
    fun _ _ h => compile_matches h, fun _ _ h => compileCondition_matches h⟩

/-- A value that is registered by hand, a filter that fails after it has
registered a constant of its own, and a condition that continues the numbering. -/
def mixedSession : List Step :=
  let flag : Host.Expr := .get (.input .row) "A" (some .int32)
  [.add .null,
   .condition (.binary (.binary flag (.relation .eq) (.ofValue (.int32 4))) (.logic .and) flag),
   .condition (.binary flag (.relation .lt) (.ofValue (.int32 5)))]

theorem run_accounted_mixedSession :
    Accounted "p" ⟨"p", [⟨"p1", .null⟩, ⟨"p2", .int32 4⟩]⟩
      (.condition (.binary (.get (.input .row) "A" (some .int32)) (.relation .lt)
        (.ofValue (.int32 5))))
      (.ok (.condition (.relation (.field .defaultTable ⟨"A"⟩) .lt (.param ⟨"p3"⟩))))
      ⟨"p", [⟨"p1", .null⟩, ⟨"p2", .int32 4⟩, ⟨"p3", .int32 5⟩]⟩ :=
  (run_accounted .empty "p" mixedSession).2.1 2 _ _ _ rfl rfl

end Inquiry.Session
