import Inquiry.Proofs.LowerRegistration

/-!
# Parameters and literals say the same thing

Lowering has two ways to write a constant down. With parameters it registers
the value and refers to it; with literals it writes the value itself, and fails
where the value has no written form. Otherwise the two runs take the same
decisions, and this file says so: put the literals of the registered values in
place of the parameters, and the one result becomes the other.

The two runs are not in step. The run with literals may stop at a constant that
the run with parameters passes, and from there on only one of them continues.
`Settled` lists the four ways in which a pair of runs can end, and `Mirrors`
relates the runs themselves. The look-up that fills parameters in is fixed from
the outside, before anything is registered; all that is asked of it is that it
knows the new names. That makes the relation compositional — a part needs no
knowledge of the names that its neighbours registered — and only the last step
has to produce such a look-up, from a list without repeated names.
-/

namespace Inquiry.Statement

/-! ## Filling parameters in -/

mutual

/-- The expression with literals for the parameters that the look-up knows. -/
def Expr.fill (look : Name → Option Literal) : Expr → Expr
  | .aggregate func operand => .aggregate func (operand.fill look)
  | .allColumns => .allColumns
  | .arith op lhs rhs => .arith op (lhs.fill look) (rhs.fill look)
  | .case branches default => .case (fillBranches look branches) (default.fill look)
  | .cast operand type => .cast (operand.fill look) type
  | .columnGroup table fields => .columnGroup (table.fill look) fields
  | .count operand distinct => .count (operand.fill look) distinct
  | .countRows distinct => .countRows distinct
  | .defaultTable => .defaultTable
  | .field table name => .field (table.fill look) name
  | .call func args => .call func (fillAll look args)
  | .literal l => .literal l
  | .negate operand => .negate (operand.fill look)
  | .param name =>
      match look name with
      | some l => .literal l
      | none => .param name

/-- The condition with literals for the parameters that the look-up knows. -/
def Condition.fill (look : Name → Option Literal) : Condition → Condition
  | .between operand start stop positive =>
      .between (operand.fill look) (start.fill look) (stop.fill look) positive
  | .inList operand values positive hierarchy =>
      .inList (operand.fill look) (fillAll look values) positive hierarchy
  | .isNull operand positive => .isNull (operand.fill look) positive
  | .like operand pattern escape positive => .like (operand.fill look) pattern escape positive
  | .logic lhs op rhs => .logic (lhs.fill look) op (rhs.fill look)
  | .not operand => .not (operand.fill look)
  | .refs operand table => .refs (operand.fill look) table
  | .relation lhs op rhs => .relation (lhs.fill look) op (rhs.fill look)

/-- Several expressions with literals for known parameters. -/
def fillAll (look : Name → Option Literal) : List Expr → List Expr
  | [] => []
  | e :: rest => e.fill look :: fillAll look rest

/-- The branches of a CASE with literals for known parameters. -/
def fillBranches (look : Name → Option Literal) :
    List (Condition × Expr) → List (Condition × Expr)
  | [] => []
  | (test, value) :: rest => (test.fill look, value.fill look) :: fillBranches look rest

end

section

variable {look : Name → Option Literal}

mutual

/-- Where nothing is referred to, there is nothing to fill in. -/
theorem Expr.fill_eq_self {e : Expr} (h : e.params = []) : e.fill look = e := by
  match e with
  | .aggregate _ x | .cast x _ | .count x _ | .negate x | .field x _ | .columnGroup x _ =>
      have hx : x.params = [] := h
      rw [Expr.fill, Expr.fill_eq_self hx]
  | .allColumns | .countRows _ | .defaultTable | .literal _ => rw [Expr.fill]
  | .param n => cases h
  | .arith op l r =>
      rw [Expr.params_arith, List.append_eq_nil_iff] at h
      rw [Expr.fill, Expr.fill_eq_self h.1, Expr.fill_eq_self h.2]
  | .case bs d =>
      rw [Expr.params_case, List.append_eq_nil_iff] at h
      rw [Expr.fill, fillBranches_eq_self h.1, Expr.fill_eq_self h.2]
  | .call f es =>
      rw [Expr.params_call] at h
      rw [Expr.fill, fillAll_eq_self h]

theorem Condition.fill_eq_self {c : Condition} (h : c.params = []) : c.fill look = c := by
  match c with
  | .between x a b _ =>
      rw [Condition.params_between, List.append_eq_nil_iff, List.append_eq_nil_iff] at h
      rw [Condition.fill, Expr.fill_eq_self h.1.1, Expr.fill_eq_self h.1.2, Expr.fill_eq_self h.2]
  | .inList x vs _ _ =>
      rw [Condition.params_inList, List.append_eq_nil_iff] at h
      rw [Condition.fill, Expr.fill_eq_self h.1, fillAll_eq_self h.2]
  | .isNull x _ | .like x _ _ _ | .refs x _ =>
      have hx : x.params = [] := h
      rw [Condition.fill, Expr.fill_eq_self hx]
  | .logic l op r =>
      rw [Condition.params_logic, List.append_eq_nil_iff] at h
      rw [Condition.fill, Condition.fill_eq_self h.1, Condition.fill_eq_self h.2]
  | .not c =>
      have hc : c.params = [] := h
      rw [Condition.fill, Condition.fill_eq_self hc]
  | .relation l op r =>
      rw [Condition.params_relation, List.append_eq_nil_iff] at h
      rw [Condition.fill, Expr.fill_eq_self h.1, Expr.fill_eq_self h.2]

theorem fillAll_eq_self {es : List Expr} (h : es.flatMap Expr.params = []) :
    fillAll look es = es := by
  match es with
  | [] => rfl
  | e :: rest =>
      rw [List.flatMap_cons, List.append_eq_nil_iff] at h
      rw [fillAll, Expr.fill_eq_self h.1, fillAll_eq_self h.2]

theorem fillBranches_eq_self {bs : List (Condition × Expr)}
    (h : (bs.flatMap fun b => b.1.params ++ b.2.params) = []) : fillBranches look bs = bs := by
  match bs with
  | [] => rfl
  | (c, v) :: rest =>
      rw [List.flatMap_cons, List.append_eq_nil_iff, List.append_eq_nil_iff] at h
      rw [fillBranches, Condition.fill_eq_self h.1.1, Expr.fill_eq_self h.1.2,
        fillBranches_eq_self h.2]

end

end

end Inquiry.Statement

namespace Inquiry.Lower

open Statement (Expr Condition Name Literal)

/-! ## Two runs -/

/-- The literal of a value, if it has one. -/
def literal? (v : Value) : Option Literal := (Literal.ofValue v).toOption

/-- The look-up knows the literals of the entries by their names. -/
def Covers (look : Name → Option Literal) (new : List Parameter) : Prop :=
  ∀ q ∈ new, look ⟨q.name⟩ = literal? q.value

/-- How a run with parameters, which registered `new`, and a run with literals
may end. -/
def Settled {α : Type} (f : α → α) (new : List Parameter) : Except Error α → Except Error α → Prop
  | .ok a, .ok b => b = f a ∧ ∀ q ∈ new, (literal? q.value).isSome
  | .ok _, .error _ => ∃ q ∈ new, literal? q.value = none
  | .error _, .ok _ => False
  | .error _, .error _ => True

/-- From any list, the run with parameters ends as the other run allows. -/
def Mirrors {α : Type} (look : Name → Option Literal) (f : α → α) (m : Lowering α)
    (plain : Except Error α) : Prop :=
  ∀ ps : Parameters, ∃ vs : List Value, (m ps).2 = ps.addAll vs ∧
    (Covers look (ps.fresh vs) → Settled f (ps.fresh vs) (m ps).1 plain)

section Rules

variable {α β : Type} {look : Name → Option Literal} {f : α → α} {g : β → β}

theorem Mirrors.lift {r : Except Error α} (h : ∀ a, r = .ok a → f a = a) :
    Mirrors look f (lift r) r := by
  intro ps
  refine ⟨[], rfl, fun _ => ?_⟩
  cases r with
  | error e => trivial
  | ok a => exact ⟨(h a rfl).symm, nofun⟩

theorem Mirrors.pure {a b : α} (h : f a = b) : Mirrors look f (Pure.pure a) (.ok b) :=
  fun _ => ⟨[], rfl, fun _ => ⟨h.symm, nofun⟩⟩

theorem Mirrors.fail (e : Error) : Mirrors look f (Lower.lift (.error e)) (.error e) :=
  Mirrors.lift nofun

theorem Mirrors.refuse (r : Refusal) (e : Host.Expr) :
    Mirrors look f (refuse r e) (.error (r.ofExpr e)) :=
  Mirrors.fail _

/-- A function is as good with literals filled into its arguments. -/
theorem Mirrors.call (func : Statement.Function) (args : List Expr) :
    Mirrors look (Expr.fill look) (call func args)
      (Error.ofMisuse (Expr.callOf func (Statement.fillAll look args))) := by
  have hlength : (Statement.fillAll look args).length = args.length := by
    induction args with
    | nil => rfl
    | cons e rest ih => rw [Statement.fillAll, List.length_cons, List.length_cons, ih]
  rw [Lower.call, Expr.callOf, Expr.callOf, hlength]
  split
  · exact Mirrors.pure (by rw [Expr.fill])
  · exact Mirrors.fail _

/-- In sequence. Where only the run with parameters has come through the first
part, the pair is decided: it ends with a value that has no literal, or with
two failures. -/
theorem Mirrors.bind {m : Lowering α} {plain : Except Error α} {k : α → Lowering β}
    {l : α → Except Error β} (hm : Mirrors look f m plain)
    (hk : ∀ a, Mirrors look g (k a) (l (f a))) : Mirrors look g (m >>= k) (plain >>= l) := by
  intro ps
  obtain ⟨vs, hstate, hends⟩ := hm ps
  rw [bind_apply]
  rcases hrun : m ps with ⟨e | a, after⟩ <;> rw [hrun] at hstate hends <;> simp only at hstate hends ⊢
  · refine ⟨vs, hstate, fun hcover => ?_⟩
    have hfirst := hends hcover
    cases plain with
    | error _ => trivial
    | ok _ => exact False.elim hfirst
  · obtain ⟨ws, hstate', hends'⟩ := hk a after
    refine ⟨vs ++ ws, ?_, fun hcover => ?_⟩
    · rw [hstate', hstate, Parameters.addAll_append]
    · rw [Parameters.fresh_append, ← hstate] at hcover ⊢
      have hfirst := hends fun q hq => hcover q (List.mem_append_left _ hq)
      have hsecond := hends' fun q hq => hcover q (List.mem_append_right _ hq)
      cases plain with
      | error _ =>
          obtain ⟨q, hq, hnone⟩ := hfirst
          cases (k a after).1 with
          | error _ => trivial
          | ok b => exact ⟨q, List.mem_append_left _ hq, hnone⟩
      | ok b =>
          obtain ⟨rfl, hall⟩ := hfirst
          show Settled g _ (k a after).1 (l (f a))
          cases hc : (k a after).1 <;> cases hd : l (f a) <;> rw [hc, hd] at hsecond
          · trivial
          · exact hsecond
          · obtain ⟨q, hq, hnone⟩ := hsecond
            exact ⟨q, List.mem_append_right _ hq, hnone⟩
          · refine ⟨hsecond.1, fun q hq => ?_⟩
            rcases List.mem_append.mp hq with hq | hq
            · exact hall q hq
            · exact hsecond.2 q hq

/-- A computation that registers nothing does so for a whole sequence. -/
theorem lift_bind (r : Except Error α) (k : α → Except Error β) :
    (Lower.lift r >>= fun a => Lower.lift (k a)) = Lower.lift (r >>= k) := by
  cases r <;> rfl

end Rules

/-- With literals the computation does not depend on the list, and with
parameters it mirrors that run. -/
def Mirrored {α : Type} (look : Name → Option Literal) (f : α → α)
    (m : Placement → Lowering α) : Prop :=
  ∃ plain, m .literals = lift plain ∧ Mirrors look f (m .parameters) plain

/-! ## Value expressions -/

section

variable {look : Name → Option Literal}

theorem literal?_eq {v : Value} {l : Literal} (h : Literal.ofValue v = .ok l) :
    literal? v = some l := by
  rw [literal?, h]
  rfl

theorem lowerConstant_mirrored (v : Value) :
    Mirrored look (Expr.fill look) (lowerConstant v) := by
  unfold Mirrored lowerConstant
  by_cases hrecord : v.isRecord = true
  · exact ⟨_, if_pos hrecord, by rw [if_pos hrecord]; exact Mirrors.fail _⟩
  · rw [if_neg hrecord, if_neg hrecord]
    by_cases hnull : v.isNull = true
    · rw [if_pos hnull, if_pos hnull]
      exact ⟨_, rfl, Mirrors.pure rfl⟩
    · rw [if_neg hnull, if_neg hnull]
      refine ⟨_, rfl, fun ps => ⟨[v], rfl, fun hcover => ?_⟩⟩
      -- the one place where the runs part: a reference here, a literal there
      have hlook : look ⟨ps.nextName⟩ = literal? v := hcover ⟨ps.nextName, v⟩ (by simp [Parameters.fresh])
      show Settled (Expr.fill look) _ (.ok (.param ⟨ps.nextName⟩)) (Expr.ofValue v)
      unfold Expr.ofValue
      cases hl : Literal.ofValue v with
      | error e => exact ⟨⟨ps.nextName, v⟩, by simp [Parameters.fresh], by rw [literal?, hl]; rfl⟩
      | ok l =>
          rw [literal?_eq hl] at hlook
          refine ⟨?_, ?_⟩
          · rw [Expr.fill, hlook]
          · intro q hq
            obtain rfl : q = ⟨ps.nextName, v⟩ := by simpa [Parameters.fresh] using hq
            rw [literal?_eq hl]
            rfl

theorem lowerRecord_mirrored (usage : String) :
    Mirrored look (Expr.fill look) (lowerRecord usage) :=
  ⟨_, rfl, Mirrors.fail _⟩

theorem refuse_mirrored {α : Type} {f : α → α} (r : Refusal) (e : Host.Expr) :
    Mirrored look f fun _ => refuse r e :=
  ⟨_, rfl, Mirrors.refuse r e⟩

theorem asTable_mirrored (base : Host.Expr) {value : Lowered}
    (h : Mirrored look (Expr.fill look) value) :
    Mirrored look (Expr.fill look) fun p => asTable base (value p) := by
  simp only [asTable.eq_def]
  split
  · split
    · exact ⟨_, rfl, Mirrors.pure rfl⟩
    · exact refuse_mirrored _ _
  · split
    · exact h
    · exact refuse_mirrored _ _
  · exact h
  · exact h
  · exact refuse_mirrored _ _

theorem lowerPair_mirrored {lhs rhs : Lowered} {make : Expr → Expr → Expr}
    (hl : Mirrored look (Expr.fill look) lhs) (hr : Mirrored look (Expr.fill look) rhs)
    (hmake : ∀ l r, (make l r).fill look = make (l.fill look) (r.fill look)) :
    Mirrored look (Expr.fill look) (lowerPair lhs rhs make) := by
  obtain ⟨l, hlit, hl⟩ := hl
  obtain ⟨r, hrit, hr⟩ := hr
  refine ⟨l >>= fun x => r >>= fun y => .ok (make x y), ?_, ?_⟩
  · simp only [lowerPair, hlit, hrit, ← lift_bind]
    rfl
  · exact hl.bind fun x => hr.bind fun y => Mirrors.pure (hmake x y)

theorem lowerBinary_mirrored (whole : Host.Expr) (op : Host.Operator) {lhs rhs : Lowered}
    (hl : Mirrored look (Expr.fill look) lhs) (hr : Mirrored look (Expr.fill look) rhs) :
    Mirrored look (Expr.fill look) (lowerBinary whole op lhs rhs) := by
  cases op with
  | arith op => exact lowerPair_mirrored hl hr fun _ _ => rfl
  | coalesce =>
      obtain ⟨l, hlit, hl⟩ := hl
      obtain ⟨r, hrit, hr⟩ := hr
      refine ⟨l >>= fun x => r >>= fun y => Error.ofMisuse (Expr.callOf .isNull [x, y]), ?_, ?_⟩
      · simp only [lowerBinary, hlit, hrit, ← lift_bind]
        rfl
      · exact hl.bind fun x => hr.bind fun y => Mirrors.call .isNull [x, y]
  | relation | logic => exact refuse_mirrored _ _

theorem lowerCast_mirrored (type : Except Error Statement.CastType) {operand : Lowered}
    (h : Mirrored look (Expr.fill look) operand) :
    Mirrored look (Expr.fill look) (lowerCast type operand) := by
  obtain ⟨x, hlit, h⟩ := h
  refine ⟨type >>= fun t => x >>= fun y => .ok (.cast y t), ?_, ?_⟩
  · simp only [lowerCast, hlit, ← lift_bind]
    rfl
  · exact Mirrors.bind (f := id) (Mirrors.lift fun _ _ => rfl) fun t =>
      h.bind fun y => Mirrors.pure rfl

theorem lowerNegate_mirrored {operand : Lowered} (h : Mirrored look (Expr.fill look) operand) :
    Mirrored look (Expr.fill look) (lowerNegate operand) := by
  obtain ⟨x, hlit, h⟩ := h
  refine ⟨x >>= fun y => .ok (.negate y), ?_, h.bind fun y => Mirrors.pure rfl⟩
  simp only [lowerNegate, hlit, ← lift_bind]
  rfl

theorem lowerFunction_mirrored (func : Statement.Function) {operand : Lowered} {others : List Expr}
    (h : Mirrored look (Expr.fill look) operand) (hothers : others.flatMap Expr.params = []) :
    Mirrored look (Expr.fill look) (lowerFunction func operand others) := by
  obtain ⟨x, hlit, h⟩ := h
  refine ⟨x >>= fun y => Error.ofMisuse (Expr.callOf func (y :: others)), ?_, h.bind fun y => ?_⟩
  · simp only [lowerFunction, hlit, ← lift_bind]
    rfl
  · have hcall := @Mirrors.call look func (y :: others)
    rwa [Statement.fillAll, Statement.fillAll_eq_self hothers] at hcall

theorem lowerGet_mirrored (whole : Host.Expr) {record : Argument} (name : Host.Expr)
    (h : Mirrored look (Expr.fill look) record.2) :
    Mirrored look (Expr.fill look) (lowerGet whole record name) := by
  obtain ⟨t, hlit, h⟩ := asTable_mirrored record.1 h
  cases hname : name.value?.bind Value.string? with
  | none =>
      refine ⟨t >>= fun _ => .error (Refusal.dynamicFieldName.ofExpr whole), ?_, ?_⟩
      · simp only [lowerGet, hlit, hname, ← lift_bind]
        rfl
      · simp only [lowerGet, hname]
        exact h.bind fun _ => Mirrors.refuse _ _
  | some n =>
      refine ⟨t >>= fun table => .ok (.field table ⟨n⟩), ?_, ?_⟩
      · simp only [lowerGet, hlit, hname, ← lift_bind]
        rfl
      · simp only [lowerGet, hname]
        exact h.bind fun _ => Mirrors.pure rfl

/-- The arguments of a call are mirrored one by one. -/
def ArgumentsMirrored (look : Name → Option Literal) (args : List Argument) : Prop :=
  ∀ a ∈ args, Mirrored look (Expr.fill look) a.2

theorem lowerSubstring_mirrored {text start length : Lowered}
    (ht : Mirrored look (Expr.fill look) text) (hs : Mirrored look (Expr.fill look) start)
    (hn : Mirrored look (Expr.fill look) length) :
    Mirrored look (Expr.fill look) (fun p => do
      let t ← text p
      let i ← start p
      let n ← length p
      call .substring [t, i, n]) := by
  obtain ⟨t, htlit, ht⟩ := ht
  obtain ⟨i, hilit, hs⟩ := hs
  obtain ⟨n, hnlit, hn⟩ := hn
  refine ⟨t >>= fun x => i >>= fun y => n >>= fun z =>
    Error.ofMisuse (Expr.callOf .substring [x, y, z]), ?_, ?_⟩
  · simp only [htlit, hilit, hnlit, ← lift_bind]
    rfl
  · exact ht.bind fun x => hs.bind fun y => hn.bind fun z => Mirrors.call .substring [x, y, z]

theorem lowerCall_mirrored (s : Mapping) (whole : Host.Expr) (method : Host.Method)
    {args : List Argument} (h : ArgumentsMirrored look args) :
    Mirrored look (Expr.fill look) (lowerCall s whole method args) := by
  show Mirrored look _ fun p => lowerCall s whole method args p
  simp only [lowerCall.eq_def]
  split
  · exact lowerGet_mirrored _ _ (h _ (by simp))
  · exact lowerCast_mirrored _ (h _ (by simp))
  · exact lowerCast_mirrored _ (h _ (by simp))
  · exact lowerCast_mirrored _ (h _ (by simp))
  · exact lowerCast_mirrored _ (h _ (by simp))
  · next text start length =>
      exact lowerSubstring_mirrored (h text (by simp)) (h start (by simp)) (h length (by simp))
  · exact lowerFunction_mirrored _ (h _ (by simp)) rfl
  · exact lowerFunction_mirrored _ (h _ (by simp)) rfl
  · exact lowerFunction_mirrored _ (h _ (by simp)) rfl
  · exact refuse_mirrored _ _

theorem lowerConvert_mirrored (s : Mapping) (operand : Host.Expr) (t : Host.Ty) {value : Lowered}
    (h : Mirrored look (Expr.fill look) value) :
    Mirrored look (Expr.fill look) (lowerConvert s operand t value) := by
  unfold lowerConvert
  split
  · exact h
  · split
    · exact lowerCast_mirrored _ h
    · split
      · exact h
      · exact ⟨_, rfl, Mirrors.fail _⟩

theorem lowerMember_mirrored (s : Mapping) (base : Host.Expr) (ref : Host.MemberRef)
    {value : Lowered} (h : Mirrored look (Expr.fill look) value) :
    Mirrored look (Expr.fill look) (lowerMember s base ref value) := by
  cases ref with
  | field member =>
      obtain ⟨t, hlit, h⟩ := asTable_mirrored base h
      refine ⟨t >>= fun table => fieldOf s member >>= fun name => .ok (.field table ⟨name⟩), ?_, ?_⟩
      · simp only [lowerMember, hlit, ← lift_bind]
        rfl
      · exact h.bind fun table => Mirrors.bind (f := id) (Mirrors.lift fun _ _ => rfl) fun name =>
          Mirrors.pure rfl
  | datePart part => exact lowerFunction_mirrored _ h rfl

/-- Flattening a chain into one CASE does not look at its constants: a CASE
stays one when parameters are filled in, and nothing else becomes one. -/
theorem caseTail_fill (continues : Bool) (rest : Expr) :
    caseTail continues (rest.fill look) =
      (Statement.fillBranches look (caseTail continues rest).1,
        (caseTail continues rest).2.fill look) := by
  cases continues with
  | false => rfl
  | true =>
      cases rest with
      | param n =>
          -- a parameter is filled in with a literal or stays, and neither is a CASE
          simp only [caseTail, Expr.fill, Statement.fillBranches]
          cases look n <;> rfl
      | _ => rfl

theorem lowerConditional_mirrored {test : LoweredCondition} {yes : Lowered} {no : Argument}
    (hc : Mirrored look (Condition.fill look) test) (hy : Mirrored look (Expr.fill look) yes)
    (hn : Mirrored look (Expr.fill look) no.2) :
    Mirrored look (Expr.fill look) (lowerConditional test yes no) := by
  obtain ⟨c, hclit, hc⟩ := hc
  obtain ⟨v, hvlit, hy⟩ := hy
  obtain ⟨d, hdlit, hn⟩ := hn
  refine ⟨c >>= fun x => v >>= fun y => d >>= fun z =>
    Expr.caseOf ((x, y) :: (caseTail (isConditional no.1) z).1) (caseTail (isConditional no.1) z).2,
    ?_, ?_⟩
  · simp only [lowerConditional, hclit, hvlit, hdlit, ← lift_bind]
  · refine hc.bind fun x => hy.bind fun y => hn.bind fun z => Mirrors.pure ?_
    rw [Expr.fill, caseTail_fill, Statement.fillBranches]

/-! ## Conditions -/

theorem lowerNullTest_mirrored (whole : Host.Expr) (op : Statement.Relation) {operand : Lowered}
    (h : Mirrored look (Expr.fill look) operand) :
    Mirrored look (Condition.fill look) (lowerNullTest whole op operand) := by
  obtain ⟨x, hlit, h⟩ := h
  cases op with
  | eq =>
      refine ⟨x >>= fun y => .ok (.isNull y true), ?_, h.bind fun y => Mirrors.pure rfl⟩
      simp only [lowerNullTest, hlit, ← lift_bind]
      rfl
  | ne =>
      refine ⟨x >>= fun y => .ok (.isNull y false), ?_, h.bind fun y => Mirrors.pure rfl⟩
      simp only [lowerNullTest, hlit, ← lift_bind]
      rfl
  | gt | ge | lt | le =>
      refine ⟨x >>= fun _ => .error (Refusal.nullOrder.ofExpr whole), ?_,
        h.bind fun _ => Mirrors.refuse _ _⟩
      simp only [lowerNullTest, hlit, ← lift_bind]
      rfl

theorem lowerRelation_mirrored (whole : Host.Expr) (op : Statement.Relation) {lhs rhs : Argument}
    (hl : Mirrored look (Expr.fill look) lhs.2) (hr : Mirrored look (Expr.fill look) rhs.2) :
    Mirrored look (Condition.fill look) (lowerRelation whole op lhs rhs) := by
  show Mirrored look _ fun p => lowerRelation whole op lhs rhs p
  simp only [lowerRelation.eq_def]
  split
  · obtain ⟨l, hlit, hl⟩ := hl
    obtain ⟨r, hrit, hr⟩ := hr
    refine ⟨l >>= fun x => r >>= fun y => .ok (.relation x op y), ?_, ?_⟩
    · simp only [hlit, hrit, ← lift_bind]
      rfl
    · exact hl.bind fun x => hr.bind fun y => Mirrors.pure rfl
  · exact lowerNullTest_mirrored whole op hl
  · exact lowerNullTest_mirrored whole op hr
  · exact refuse_mirrored _ _

theorem lowerIn_mirrored {operand : Lowered} (values : Host.Expr) (positive hierarchy : Bool)
    (h : Mirrored look (Expr.fill look) operand) :
    Mirrored look (Condition.fill look) (lowerIn operand values positive hierarchy) := by
  obtain ⟨x, hlit, h⟩ := h
  refine ⟨x >>= fun y => valueList values >>= fun vs => .ok (.inList y vs positive hierarchy),
    ?_, ?_⟩
  · simp only [lowerIn, hlit, ← lift_bind]
    rfl
  · exact h.bind fun y => (Mirrors.lift fun vs hvs =>
      Statement.fillAll_eq_self (valueList_params hvs)).bind fun vs => Mirrors.pure rfl

theorem lowerLike_mirrored (whole : Host.Expr) {operand : Lowered} (pattern : Host.Expr)
    (escape : List Argument) (positive : Bool) (h : Mirrored look (Expr.fill look) operand) :
    Mirrored look (Condition.fill look) (lowerLike whole operand pattern escape positive) := by
  obtain ⟨x, hlit, h⟩ := h
  cases htext : pattern.value?.bind Value.string? with
  | none =>
      refine ⟨x >>= fun _ => .error (Refusal.dynamicPattern.ofExpr whole), ?_, ?_⟩
      · simp only [lowerLike, hlit, htext, ← lift_bind]
        rfl
      · simp only [lowerLike, htext]
        exact h.bind fun _ => Mirrors.refuse _ _
  | some text =>
      refine ⟨x >>= fun y => escapeOf whole escape >>= fun c => .ok (.like y text c positive), ?_, ?_⟩
      · simp only [lowerLike, hlit, htext, ← lift_bind]
        rfl
      · simp only [lowerLike, htext]
        exact h.bind fun y => Mirrors.bind (f := id) (Mirrors.lift fun _ _ => rfl) fun c =>
          Mirrors.pure rfl

/-- The bounds are literals in both runs, and filling in leaves them alone. -/
theorem lowerBetween_mirrored {operand start stop : Lowered} (positive : Bool)
    (hx : Mirrored look (Expr.fill look) operand) (ha : Mirrored look (Expr.fill look) start)
    (hb : Mirrored look (Expr.fill look) stop) (hta : Tracked Expr.params start)
    (htb : Tracked Expr.params stop) :
    Mirrored look (Condition.fill look) (lowerBetween operand start stop positive) := by
  have hself : ∀ {bound : Lowered} {r}, Tracked Expr.params bound → bound .literals = lift r →
      ∀ a, r = .ok a → a.fill look = a := by
    intro bound r ht hlit a ha
    obtain ⟨_, _, _, _, hok⟩ := ht.inline (.start "")
    rw [hlit] at hok
    exact Expr.fill_eq_self (hok a ha)
  obtain ⟨x, hxlit, hx⟩ := hx
  obtain ⟨a, halit, _⟩ := ha
  obtain ⟨b, hblit, _⟩ := hb
  refine ⟨x >>= fun y => a >>= fun i => b >>= fun j => .ok (.between y i j positive), ?_, ?_⟩
  · simp only [lowerBetween, hxlit, halit, hblit, ← lift_bind]
    rfl
  · simp only [lowerBetween, halit, hblit]
    exact hx.bind fun y => (Mirrors.lift (hself hta halit)).bind fun i =>
      (Mirrors.lift (hself htb hblit)).bind fun j => Mirrors.pure rfl

theorem lowerPredicate_mirrored (whole : Host.Expr) (method : Host.Method) {args : List Argument}
    (h : ArgumentsMirrored look args) (ht : ArgumentsTracked args) :
    Mirrored look (Condition.fill look) (lowerPredicate whole method args) := by
  show Mirrored look _ fun p => lowerPredicate whole method args p
  simp only [lowerPredicate.eq_def]
  split
  · exact lowerIn_mirrored _ _ _ (h _ (by simp))
  · exact lowerIn_mirrored _ _ _ (h _ (by simp))
  · exact lowerIn_mirrored _ _ _ (h _ (by simp))
  · exact lowerIn_mirrored _ _ _ (h _ (by simp))
  · exact lowerLike_mirrored _ _ _ _ (h _ (by simp))
  · exact lowerLike_mirrored _ _ _ _ (h _ (by simp))
  · exact lowerBetween_mirrored _ (h _ (by simp)) (h _ (by simp)) (h _ (by simp))
      (ht _ (by simp)) (ht _ (by simp))
  · exact lowerBetween_mirrored _ (h _ (by simp)) (h _ (by simp)) (h _ (by simp))
      (ht _ (by simp)) (ht _ (by simp))
  · exact refuse_mirrored _ _

theorem lowerFlag_mirrored (whole : Host.Expr) {value : Lowered}
    (h : Mirrored look (Expr.fill look) value) :
    Mirrored look (Condition.fill look) (lowerFlag whole value) := by
  unfold lowerFlag
  split
  · obtain ⟨l, hlit, h⟩ := h
    have htrue : Mirrored look (Expr.fill look) (lowerConstant (.bool true)) :=
      lowerConstant_mirrored _
    obtain ⟨r, hrit, hr⟩ := htrue
    refine ⟨l >>= fun x => r >>= fun y => .ok (.relation x .eq y), ?_, ?_⟩
    · simp only [hlit, hrit, ← lift_bind]
      rfl
    · exact h.bind fun x => hr.bind fun y => Mirrors.pure rfl
  · exact refuse_mirrored _ _

theorem lowerTypeTest_mirrored (s : Mapping) {operand : Lowered} (record : Nat)
    (h : Mirrored look (Expr.fill look) operand) :
    Mirrored look (Condition.fill look) (lowerTypeTest s operand record) := by
  obtain ⟨x, hlit, h⟩ := h
  refine ⟨x >>= fun y => tableOf s record >>= fun table => .ok (.refs y table), ?_, ?_⟩
  · simp only [lowerTypeTest, hlit, ← lift_bind]
    rfl
  · exact h.bind fun y => Mirrors.bind (f := id) (Mirrors.lift fun _ _ => rfl) fun table =>
      Mirrors.pure rfl

theorem lowerLogic_mirrored {lhs rhs : LoweredCondition} (op : Statement.Connective)
    (hl : Mirrored look (Condition.fill look) lhs) (hr : Mirrored look (Condition.fill look) rhs) :
    Mirrored look (Condition.fill look) (lowerLogic lhs op rhs) := by
  obtain ⟨l, hlit, hl⟩ := hl
  obtain ⟨r, hrit, hr⟩ := hr
  refine ⟨l >>= fun x => r >>= fun y => .ok (.logic x op y), ?_, ?_⟩
  · simp only [lowerLogic, hlit, hrit, ← lift_bind]
    rfl
  · exact hl.bind fun x => hr.bind fun y => Mirrors.pure rfl

theorem lowerNot_mirrored {operand : LoweredCondition}
    (h : Mirrored look (Condition.fill look) operand) :
    Mirrored look (Condition.fill look) (lowerNot operand) := by
  obtain ⟨x, hlit, h⟩ := h
  refine ⟨x >>= fun y => .ok (.not y), ?_, h.bind fun y => Mirrors.pure rfl⟩
  simp only [lowerNot, hlit, ← lift_bind]
  rfl

/-! ## Expressions -/

mutual

theorem lowerValue_mirrored (s : Mapping) (e : Host.Expr) :
    Mirrored look (Expr.fill look) (lowerValue s e) := by
  match e with
  | .binary lhs op rhs =>
      rw [lowerValue]
      exact lowerBinary_mirrored _ op (lowerValue_mirrored s lhs) (lowerValue_mirrored s rhs)
  | .call method args =>
      rw [lowerValue]
      exact lowerCall_mirrored s _ method (lowerArguments_mirrored s args)
  | .conditional test yes no =>
      rw [lowerValue]
      exact lowerConditional_mirrored (lowerCondition_mirrored s test) (lowerValue_mirrored s yes)
        (lowerValue_mirrored s no)
  | .constant v _ =>
      rw [lowerValue]
      exact lowerConstant_mirrored v
  | .convert operand type =>
      rw [lowerValue]
      exact lowerConvert_mirrored s operand type (lowerValue_mirrored s operand)
  | .member base ref _ =>
      rw [lowerValue]
      exact lowerMember_mirrored s base ref (lowerValue_mirrored s base)
  | .negate operand =>
      rw [lowerValue]
      exact lowerNegate_mirrored (lowerValue_mirrored s operand)
  | .input _ | .construct _ _ =>
      rw [lowerValue]
      exact lowerRecord_mirrored _
  | .array _ _ | .typeIs _ _ | .not _ =>
      rw [lowerValue]
      exact refuse_mirrored _ _

theorem lowerCondition_mirrored (s : Mapping) (e : Host.Expr) :
    Mirrored look (Condition.fill look) (lowerCondition s e) := by
  match e with
  | .binary lhs (.relation op) rhs =>
      rw [lowerCondition_relation]
      exact lowerRelation_mirrored _ op (lowerValue_mirrored s lhs) (lowerValue_mirrored s rhs)
  | .binary lhs (.logic op) rhs =>
      rw [lowerCondition_logic]
      exact lowerLogic_mirrored op (lowerCondition_mirrored s lhs) (lowerCondition_mirrored s rhs)
  | .binary lhs (.arith op) rhs =>
      rw [lowerCondition_arith]
      exact lowerFlag_mirrored _
        (lowerBinary_mirrored _ _ (lowerValue_mirrored s lhs) (lowerValue_mirrored s rhs))
  | .binary lhs .coalesce rhs =>
      rw [lowerCondition_coalesce]
      exact lowerFlag_mirrored _
        (lowerBinary_mirrored _ _ (lowerValue_mirrored s lhs) (lowerValue_mirrored s rhs))
  | .call method args =>
      rw [lowerCondition]
      split
      · exact lowerPredicate_mirrored _ method (lowerArguments_mirrored s args)
          (lowerArguments_tracked s args)
      · exact lowerFlag_mirrored _ (lowerCall_mirrored s _ method (lowerArguments_mirrored s args))
  | .conditional test yes no =>
      rw [lowerCondition]
      exact lowerFlag_mirrored _
        (lowerConditional_mirrored (lowerCondition_mirrored s test) (lowerValue_mirrored s yes)
          (lowerValue_mirrored s no))
  | .constant v _ =>
      rw [lowerCondition]
      split
      · exact refuse_mirrored _ _
      · exact lowerFlag_mirrored _ (lowerConstant_mirrored v)
  | .convert operand type =>
      rw [lowerCondition]
      exact lowerFlag_mirrored _
        (lowerConvert_mirrored s operand type (lowerValue_mirrored s operand))
  | .member base ref _ =>
      rw [lowerCondition]
      exact lowerFlag_mirrored _ (lowerMember_mirrored s base ref (lowerValue_mirrored s base))
  | .input _ | .construct _ _ =>
      rw [lowerCondition]
      exact lowerFlag_mirrored _ (lowerRecord_mirrored _)
  | .array _ _ =>
      rw [lowerCondition]
      exact lowerFlag_mirrored _ (refuse_mirrored _ _)
  | .typeIs operand record =>
      rw [lowerCondition]
      exact lowerTypeTest_mirrored s record (lowerValue_mirrored s operand)
  | .not operand =>
      rw [lowerCondition]
      exact lowerNot_mirrored (lowerCondition_mirrored s operand)
  | .negate operand =>
      rw [lowerCondition]
      exact lowerFlag_mirrored _ (lowerNegate_mirrored (lowerValue_mirrored s operand))

theorem lowerArguments_mirrored (s : Mapping) (es : List Host.Expr) :
    ArgumentsMirrored look (lowerArguments s es) := by
  match es with
  | [] =>
      rw [lowerArguments]
      exact nofun
  | e :: rest =>
      rw [lowerArguments]
      intro a ha
      rcases List.mem_cons.mp ha with rfl | ha
      · exact lowerValue_mirrored s e
      · exact lowerArguments_mirrored s rest a ha

end

end

/-- With literals a value expression registers nothing. -/
theorem lowerValue_literals (s : Mapping) (e : Host.Expr) :
    ∃ plain, lowerValue s e .literals = lift plain := by
  obtain ⟨plain, hplain, _⟩ := @lowerValue_mirrored (fun _ => none) s e
  exact ⟨plain, hplain⟩

/-! ## The look-up of a run -/

/-- The literal of the registered value with the given name. -/
def registered (new : List Parameter) (name : Name) : Option Literal :=
  (new.find? (·.name == name.text)).bind fun q => literal? q.value

theorem registered_covers {new : List Parameter}
    (h : new.Pairwise fun a b => a.name ≠ b.name) : Covers (registered new) new := by
  induction new with
  | nil => exact nofun
  | cons p rest ih =>
      obtain ⟨hp, hrest⟩ := List.pairwise_cons.mp h
      intro q hq
      rcases List.mem_cons.mp hq with rfl | hq
      · rw [registered, List.find?_cons_of_pos (by simp)]
        rfl
      · have hne : (p.name == q.name) = false := by simpa using hp q hq
        -- an entry with another name in front does not hide this one
        have hskip : registered (p :: rest) ⟨q.name⟩ = registered rest ⟨q.name⟩ := by
          rw [registered, registered, List.find?_cons_of_neg (by simp [hne])]
        rw [hskip]
        exact ih hrest q hq

/-- What two runs of a lowering from one list have to do with each other. With
`fill` the literals of the values that the run with parameters has registered
are put in place of their names. -/
structure PlacementsAgree {α : Type} (fill : (Name → Option Literal) → α → α)
    (m : Placement → Lowering α) (ps : Parameters) : Prop where
  literals : ∀ b, (m .literals ps).1 = .ok b →
    ∃ a, (m .parameters ps).1 = .ok a ∧
      fill (registered ((m .parameters ps).2.since ps)) a = b
  parameters : ∀ a, (m .parameters ps).1 = .ok a →
    (∀ q ∈ (m .parameters ps).2.since ps, ∃ l, Literal.ofValue q.value = .ok l) →
    (m .literals ps).1 = .ok (fill (registered ((m .parameters ps).2.since ps)) a)
  failure : ∀ e, (m .parameters ps).1 = .error e → ∃ e', (m .literals ps).1 = .error e'

theorem PlacementsAgree.of_mirrored {α : Type} {fill : (Name → Option Literal) → α → α}
    {m : Placement → Lowering α} (h : ∀ look, Mirrored look (fill look) m) (ps : Parameters) :
    PlacementsAgree fill m ps := by
  have hends : ∃ vs, (m .parameters ps).2 = ps.addAll vs ∧
      Settled (fill (registered (ps.fresh vs))) (ps.fresh vs) (m .parameters ps).1
        (m .literals ps).1 := by
    -- the values that a run registers do not depend on the look-up, which may
    -- therefore be built from them
    obtain ⟨_, _, hm⟩ := h fun _ => none
    obtain ⟨vs, hstate, _⟩ := hm ps
    refine ⟨vs, hstate, ?_⟩
    obtain ⟨plain, hlit, hm⟩ := h (registered (ps.fresh vs))
    obtain ⟨ws, hstate', hends⟩ := hm ps
    have hsame : ps.fresh ws = ps.fresh vs := by
      rw [← Parameters.addAll_since, ← Parameters.addAll_since, ← hstate, ← hstate']
    rw [hsame] at hends
    rw [hlit]
    exact hends (registered_covers (ps.fresh_pairwise vs))
  obtain ⟨vs, hstate, hends⟩ := hends
  rw [← Parameters.addAll_since, ← hstate] at hends
  constructor
  · intro b hb
    rw [hb] at hends
    cases ha : (m .parameters ps).1 with
    | error e => rw [ha] at hends; exact False.elim hends
    | ok a => rw [ha] at hends; exact ⟨a, rfl, hends.1.symm⟩
  · intro a ha hall
    rw [ha] at hends
    cases hb : (m .literals ps).1 with
    | error e =>
        rw [hb] at hends
        obtain ⟨q, hq, hnone⟩ := hends
        obtain ⟨l, hl⟩ := hall q hq
        rw [literal?_eq hl] at hnone
        cases hnone
    | ok b => rw [hb] at hends; rw [hends.1]
  · intro e he
    rw [he] at hends
    cases hb : (m .literals ps).1 with
    | error e' => exact ⟨e', rfl⟩
    | ok b => rw [hb] at hends; exact False.elim hends

/-- Lowering with parameters and lowering with literals agree, in a value
position and in a condition, from every list of parameters. -/
theorem placements_agree (s : Mapping) (e : Host.Expr) (ps : Parameters) :
    PlacementsAgree Expr.fill (lowerValue s e) ps ∧
      PlacementsAgree Condition.fill (lowerCondition s e) ps :=
  ⟨.of_mirrored (fun _ => lowerValue_mirrored s e) ps,
    .of_mirrored (fun _ => lowerCondition_mirrored s e) ps⟩

end Inquiry.Lower
