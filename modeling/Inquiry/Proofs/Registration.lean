import Inquiry.Lower.Request
import Inquiry.Proofs.Numbering
import Inquiry.Statement.Node

/-!
# A statement refers to what its lowering registered

The parameters of a statement are written down twice. Lowering registers a
value when it meets a constant, in the order in which it walks the host
expression; the statement names them where they ended up, in the order in
which its nodes are listed. Nothing in the types makes the two lists agree.

They agree because every lowering function keeps one small contract,
`Registers`: started on any list it appends values, it appends none at all
where constants are literals, none of the values is null or a record, and a
result it returns refers to exactly the new entries, in order. The contract is
closed under sequencing, so each lowering function needs one short lemma about
the order of its own parts. Failures cost nothing extra: a failed computation
has appended too, and only its last clause is void.
-/

namespace Inquiry.Statement

/-! ## The parameters of a statement, node by node -/

theorem filterMap_exprNodes (es : List Expr) :
    (exprNodes es).filterMap Node.param? = es.flatMap Expr.params := by
  induction es with
  | nil => rfl
  | cons e es ih => rw [exprNodes, List.filterMap_append, ih]; rfl

theorem filterMap_branchNodes (bs : List (Condition × Expr)) :
    (branchNodes bs).filterMap Node.param? = bs.flatMap fun b => b.1.params ++ b.2.params := by
  induction bs with
  | nil => rfl
  | cons b bs ih =>
      rw [branchNodes, List.filterMap_append, List.filterMap_append, ih]
      rfl

namespace Expr

@[simp]
theorem params_aggregate (func : Aggregate) (x : Expr) :
    (Expr.aggregate func x).params = x.params := rfl

@[simp]
theorem params_allColumns : Expr.allColumns.params = [] := rfl

@[simp]
theorem params_arith (op : Arith) (l r : Expr) :
    (Expr.arith op l r).params = l.params ++ r.params :=
  List.filterMap_append

@[simp]
theorem params_case (bs : List (Condition × Expr)) (d : Expr) :
    (Expr.case bs d).params = (bs.flatMap fun b => b.1.params ++ b.2.params) ++ d.params := by
  rw [← filterMap_branchNodes]
  exact List.filterMap_append

@[simp]
theorem params_cast (x : Expr) (t : CastType) : (Expr.cast x t).params = x.params := rfl

@[simp]
theorem params_columnGroup (t : Expr) (ns : List Name) :
    (Expr.columnGroup t ns).params = t.params := rfl

@[simp]
theorem params_count (x : Expr) (distinct : Bool) : (Expr.count x distinct).params = x.params := rfl

@[simp]
theorem params_countRows (distinct : Bool) : (Expr.countRows distinct).params = [] := rfl

@[simp]
theorem params_defaultTable : Expr.defaultTable.params = [] := rfl

@[simp]
theorem params_field (t : Expr) (n : Name) : (Expr.field t n).params = t.params := rfl

@[simp]
theorem params_call (f : Function) (es : List Expr) :
    (Expr.call f es).params = es.flatMap params :=
  filterMap_exprNodes es

@[simp]
theorem params_literal (l : Literal) : (Expr.literal l).params = [] := rfl

@[simp]
theorem params_negate (x : Expr) : (Expr.negate x).params = x.params := rfl

@[simp]
theorem params_param (n : Name) : (Expr.param n).params = [n] := rfl

end Expr

namespace Condition

@[simp]
theorem params_between (x a b : Expr) (positive : Bool) :
    (Condition.between x a b positive).params = x.params ++ a.params ++ b.params := by
  rw [Expr.params, Expr.params, Expr.params, ← List.filterMap_append, ← List.filterMap_append]
  rfl

@[simp]
theorem params_inList (x : Expr) (vs : List Expr) (positive hierarchy : Bool) :
    (Condition.inList x vs positive hierarchy).params = x.params ++ vs.flatMap Expr.params := by
  rw [← filterMap_exprNodes]
  exact List.filterMap_append

@[simp]
theorem params_isNull (x : Expr) (positive : Bool) :
    (Condition.isNull x positive).params = x.params := rfl

@[simp]
theorem params_like (x : Expr) (pattern : String) (escape : Option Char) (positive : Bool) :
    (Condition.like x pattern escape positive).params = x.params := rfl

@[simp]
theorem params_logic (l : Condition) (op : Connective) (r : Condition) :
    (Condition.logic l op r).params = l.params ++ r.params :=
  List.filterMap_append

@[simp]
theorem params_not (c : Condition) : (Condition.not c).params = c.params := rfl

@[simp]
theorem params_refs (x : Expr) (table : String) : (Condition.refs x table).params = x.params := rfl

@[simp]
theorem params_relation (l : Expr) (op : Relation) (r : Expr) :
    (Condition.relation l op r).params = l.params ++ r.params :=
  List.filterMap_append

/-- A conjunction refers to what its parts refer to. -/
theorem params_all (cs : List Condition) :
    ((Condition.all? cs).map params).getD [] = cs.flatMap params := by
  have hfold : ∀ (cs : List Condition) (acc : Condition),
      (cs.foldl (fun acc next => .logic acc .and next) acc).params
        = acc.params ++ cs.flatMap params := by
    intro cs
    induction cs with
    | nil => intro acc; simp
    | cons c cs ih => intro acc; rw [List.foldl_cons, ih]; simp
  cases cs with
  | nil => rfl
  | cons c cs => rw [Condition.all?, Option.map_some, Option.getD_some, hfold]; simp

end Condition

theorem Query.params_eq (q : Query) :
    q.params = q.select.columns.flatMap Expr.params ++ (q.filter.map Condition.params).getD [] ++
      (q.order.getD []).flatMap fun k => k.expr.params := by
  show (exprNodes q.select.columns ++ (q.filter.map Condition.nodes).getD [] ++
    (q.order.map fun keys => .order :: exprNodes (keys.map (·.expr))).getD []).filterMap
      Node.param? = _
  rw [List.filterMap_append, List.filterMap_append, filterMap_exprNodes]
  congr 1
  · cases q.filter <;> rfl
  · cases q.order with
    | none => rfl
    | some keys =>
        show (exprNodes (keys.map (·.expr))).filterMap Node.param? = _
        rw [filterMap_exprNodes, List.flatMap_map]
        rfl

end Inquiry.Statement

namespace Inquiry.Lower

open Statement (Name)

/-! ## The contract -/

/-- Run on any list, the computation appends values that are neither null nor
records — none where constants are literals — and a result that it returns
stands in the relation `Q` to the new entries. -/
def Registers {α : Type} (p : Placement) (m : Lowering α) (Q : List Parameter → α → Prop) : Prop :=
  ∀ ps : Parameters, ∃ vs : List Value,
    (m ps).2 = ps.addAll vs ∧ (p = .literals → vs = []) ∧
      (∀ v ∈ vs, v.isNull = false ∧ v.isRecord = false) ∧
      ∀ a, (m ps).1 = .ok a → Q (ps.fresh vs) a

section Rules

variable {α β : Type} {p : Placement} {Q : List Parameter → α → Prop}

theorem bind_apply (m : Lowering α) (f : α → Lowering β) (ps : Parameters) :
    (m >>= f) ps =
      match m ps with
      | (.ok a, after) => f a after
      | (.error e, after) => (.error e, after) := by
  show ExceptT.bindCont f (m ps).1 (m ps).2 = _
  rcases m ps with ⟨_ | a, after⟩ <;> rfl

theorem Registers.lift {r : Except Error α} (h : ∀ a, r = .ok a → Q [] a) :
    Registers p (lift r) Q :=
  fun _ => ⟨[], rfl, fun _ => rfl, by simp, h⟩

theorem Registers.pure {a : α} (h : Q [] a) : Registers p (Pure.pure a) Q :=
  Registers.lift fun b hb => by cases hb; exact h

theorem Registers.refuse (r : Refusal) (e : Host.Expr) : Registers p (refuse r e) Q :=
  Registers.lift fun a ha => by cases ha

theorem Registers.call {func : Statement.Function} {args : List Statement.Expr}
    {Q : List Parameter → Statement.Expr → Prop} (h : Q [] (.call func args)) :
    Registers p (call func args) Q :=
  Registers.lift fun e he => by
    rw [(Statement.Expr.callOf_eq_ok.mp (Error.ofMisuse_eq_ok.mp he)).2]
    exact h

theorem Registers.register {v : Value} {R : List Parameter → String → Prop}
    (hv : v.isNull = false ∧ v.isRecord = false) (h : ∀ name, R [⟨name, v⟩] name) :
    Registers .parameters (register v) R := by
  intro ps
  refine ⟨[v], rfl, nofun, by simpa using hv, fun name hname => ?_⟩
  cases hname
  exact h _

/-- In sequence, the second computation answers for what both registered. -/
theorem Registers.bind {m : Lowering α} {f : α → Lowering β} {R : List Parameter → β → Prop}
    (hm : Registers p m Q)
    (hf : ∀ a new, Q new a → Registers p (f a) fun more b => R (new ++ more) b) :
    Registers p (m >>= f) R := by
  intro ps
  obtain ⟨vs, hstate, hlit, hvs, hok⟩ := hm ps
  rw [bind_apply]
  rcases hrun : m ps with ⟨_ | a, after⟩ <;> rw [hrun] at hstate hok <;> simp only at hstate hok ⊢
  · exact ⟨vs, hstate, hlit, hvs, nofun⟩
  · obtain ⟨ws, hstate', hlit', hws, hok'⟩ := hf a _ (hok a rfl) after
    refine ⟨vs ++ ws, ?_, ?_, ?_, ?_⟩
    · rw [hstate', hstate, Parameters.addAll_append]
    · intro h
      rw [hlit h, hlit' h]
      rfl
    · intro v hv
      rcases List.mem_append.mp hv with hv | hv
      · exact hvs v hv
      · exact hws v hv
    · intro b hb
      rw [Parameters.fresh_append, ← hstate]
      exact hok' b hb

theorem Registers.mono {m : Lowering α} {R : List Parameter → α → Prop} (hm : Registers p m Q)
    (h : ∀ new a, Q new a → R new a) : Registers p m R := by
  intro ps
  obtain ⟨vs, hstate, hlit, hvs, hok⟩ := hm ps
  exact ⟨vs, hstate, hlit, hvs, fun a ha => h _ a (hok a ha)⟩

theorem map_apply (f : α → β) (m : Lowering α) (ps : Parameters) :
    (f <$> m) ps = ((m ps).1.map f, (m ps).2) := by
  rw [map_eq_pure_bind, bind_apply]
  rcases m ps with ⟨_ | a, after⟩ <;> rfl

theorem Registers.map {m : Lowering α} {f : α → β} {R : List Parameter → β → Prop}
    (hm : Registers p m Q) (h : ∀ new a, Q new a → R new (f a)) : Registers p (f <$> m) R := by
  intro ps
  obtain ⟨vs, hstate, hlit, hvs, hok⟩ := hm ps
  rw [map_apply]
  refine ⟨vs, hstate, hlit, hvs, fun b hb => ?_⟩
  cases hrun : (m ps).1 with
  | error e => rw [hrun] at hb; cases hb
  | ok a =>
      rw [hrun] at hb
      cases hb
      exact h _ a (hok a hrun)

theorem Registers.addAll {m : Lowering α} (hm : Registers p m Q) (ps : Parameters) :
    ∃ vs, (m ps).2 = ps.addAll vs := by
  obtain ⟨vs, hstate, _⟩ := hm ps
  exact ⟨vs, hstate⟩

/-- What registers nothing may stand where parameters are allowed, too. -/
theorem Registers.ofLiterals {m : Lowering α} (hm : Registers .literals m Q) :
    Registers p m fun new a => new = [] ∧ Q [] a := by
  intro ps
  obtain ⟨vs, hstate, hlit, hvs, hok⟩ := hm ps
  obtain rfl := hlit rfl
  exact ⟨[], hstate, fun _ => rfl, hvs, fun a ha => ⟨rfl, hok a ha⟩⟩

end Rules

/-- The names are those of the parameters, in order and as they are spelled. -/
def Refer (names : List Name) (new : List Parameter) : Prop :=
  names.map (·.text) = new.map (·.name)

/-- For either placement, results refer to what was registered for them. -/
def Tracked {α : Type} (refs : α → List Name) (m : Placement → Lowering α) : Prop :=
  ∀ p, Registers p (m p) fun new a => Refer (refs a) new

theorem refer_nil : Refer [] [] := rfl

theorem Refer.eq_nil {names : List Name} (h : Refer names []) : names = [] :=
  List.map_eq_nil_iff.mp h

theorem Refer.append {ms ns : List Name} {new more : List Parameter} (hm : Refer ms new)
    (hn : Refer ns more) : Refer (ms ++ ns) (new ++ more) := by
  rw [Refer, List.map_append, List.map_append, hm, hn]

theorem Refer.append_nil {ms : List Name} {new : List Parameter} (h : Refer ms new) :
    Refer ms (new ++ []) := by rwa [List.append_nil]

/-- The computation registers nothing, and its results refer to nothing. -/
def Inline {α : Type} (refs : α → List Name) (m : Lowering α) : Prop :=
  Registers .literals m fun _ a => refs a = []

theorem Tracked.inline {α : Type} {refs : α → List Name} {m : Placement → Lowering α}
    (h : Tracked refs m) : Inline refs (m .literals) :=
  (h .literals).ofLiterals.mono fun _ _ ha => ha.2.eq_nil

/-- An inline part registers nothing where parameters are allowed, either. -/
theorem Inline.registers {α : Type} {refs : α → List Name} {m : Lowering α} {p : Placement}
    (h : Inline refs m) : Registers p m fun new a => new = [] ∧ refs a = [] :=
  h.ofLiterals

end Inquiry.Lower
