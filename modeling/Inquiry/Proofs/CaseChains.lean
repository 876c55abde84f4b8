import Inquiry.Proofs.Meaning
import Inquiry.Proofs.Registration

/-!
# Chains of conditionals

A conditional whose last part is a conditional again becomes one CASE with a
branch for each test. The plain way would be a CASE with one branch for every
conditional, with what the last part becomes as its default. Lowering is compared
with that translation here, which is like it in every other respect.

The CASE is the same for all interpretations of the other constructs, so the
comparison is for a fixed one. It is between runs: the two fail alike, or they
end with the same parameters and with results of the same value. This is kept by
sequencing, by every rule for a construct, and by the one rule in which the two
differ, where it says that the branches after the first are as good as a default.
So conditionals may stand anywhere in an expression: in tests, values and
defaults of others, in arguments, below operators and inside conditions.
-/

namespace Inquiry

universe u v

namespace Host.Expr

/-- The tests and values of a chain of conditionals. -/
def links : Expr → List (Expr × Expr)
  | conditional test yes no => (test, yes) :: no.links
  | _ => []

/-- What a chain of conditionals ends in. -/
def ending : Expr → Expr
  | conditional _ _ no => no.ending
  | e => e

end Host.Expr

namespace Lower

open Statement (Expr Condition Interpretation)

/-! ## A CASE for every conditional -/

/-- A conditional as a CASE with one branch. -/
def lowerTwoWay (test : LoweredCondition) (yes no : Lowered) : Lowered := fun p => do
  let c ← test p
  let v ← yes p
  let rest ← no p
  pure (.case [(c, v)] rest)

mutual

/-- Lowers an expression in a value position, with a CASE for every conditional. -/
def nestedValue (s : Mapping) : Host.Expr → Lowered
  | .binary lhs op rhs =>
      lowerBinary (.binary lhs op rhs) op (nestedValue s lhs) (nestedValue s rhs)
  | .call method args => lowerCall s (.call method args) method (nestedArguments s args)
  | .conditional test yes no =>
      lowerTwoWay (nestedCondition s test) (nestedValue s yes) (nestedValue s no)
  | .constant v _ => lowerConstant v
  | .convert operand type => lowerConvert s operand type (nestedValue s operand)
  | .input _ => lowerRecord "the query input is a whole record"
  | .member base ref _ => lowerMember s base ref (nestedValue s base)
  | .construct _ _ => lowerRecord "a constructed record cannot be used as a value"
  | .array item items => fun _ => refuse .arrayAsValue (.array item items)
  | .typeIs operand record => fun _ => refuse .typeTestAsValue (.typeIs operand record)
  | .not operand => fun _ => refuse .notAsValue (.not operand)
  | .negate operand => lowerNegate (nestedValue s operand)

/-- Lowers an expression that stands as a condition, with a CASE for every
conditional. -/
def nestedCondition (s : Mapping) : Host.Expr → LoweredCondition
  | .binary lhs (.relation op) rhs =>
      lowerRelation (.binary lhs (.relation op) rhs) op (lhs, nestedValue s lhs)
        (rhs, nestedValue s rhs)
  | .binary lhs (.logic op) rhs => lowerLogic (nestedCondition s lhs) op (nestedCondition s rhs)
  | .binary lhs (.arith op) rhs =>
      lowerFlag (.binary lhs (.arith op) rhs)
        (lowerBinary (.binary lhs (.arith op) rhs) (.arith op) (nestedValue s lhs)
          (nestedValue s rhs))
  | .binary lhs .coalesce rhs =>
      lowerFlag (.binary lhs .coalesce rhs)
        (lowerBinary (.binary lhs .coalesce rhs) .coalesce (nestedValue s lhs) (nestedValue s rhs))
  | .call method args =>
      if isPredicate method then
        lowerPredicate (.call method args) method (nestedArguments s args)
      else
        lowerFlag (.call method args)
          (lowerCall s (.call method args) method (nestedArguments s args))
  | .conditional test yes no =>
      lowerFlag (.conditional test yes no)
        (lowerTwoWay (nestedCondition s test) (nestedValue s yes) (nestedValue s no))
  | .constant v type =>
      if v.bool?.isSome then fun _ => refuse .constantCondition (.constant v type)
      else lowerFlag (.constant v type) (lowerConstant v)
  | .convert operand type =>
      lowerFlag (.convert operand type) (lowerConvert s operand type (nestedValue s operand))
  | .input type =>
      lowerFlag (.input type) (lowerRecord "the query input is a whole record")
  | .member base ref type =>
      lowerFlag (.member base ref type) (lowerMember s base ref (nestedValue s base))
  | .construct type members =>
      lowerFlag (.construct type members)
        (lowerRecord "a constructed record cannot be used as a value")
  | .array item items =>
      lowerFlag (.array item items) (fun _ => refuse .arrayAsValue (.array item items))
  | .typeIs operand record => lowerTypeTest s (nestedValue s operand) record
  | .not operand => lowerNot (nestedCondition s operand)
  | .negate operand =>
      lowerFlag (.negate operand) (lowerNegate (nestedValue s operand))

/-- The arguments of a call with their lowered forms. -/
def nestedArguments (s : Mapping) : List Host.Expr → List Argument
  | [] => []
  | e :: rest => (e, nestedValue s e) :: nestedArguments s rest

end

/-! ## One CASE for a chain -/

/-- The branch of a test and its value. -/
def lowerBranch (s : Mapping) (p : Placement) (link : Host.Expr × Host.Expr) :
    Lowering (Condition × Expr) := do
  let c ← lowerCondition s link.1 p
  let v ← lowerValue s link.2 p
  pure (c, v)

/-- What is no conditional is a chain without links. -/
theorem links_of_not_conditional {e : Host.Expr} (h : isConditional e = false) :
    e.links = [] ∧ e.ending = e := by
  cases e <;> first | exact ⟨rfl, rfl⟩ | cases h

/-- The last link of a chain has a CASE of its own, which the others continue. -/
theorem lowerValue_lastLink (s : Mapping) (test yes : Host.Expr) {no : Host.Expr}
    (h : isConditional no = false) (p : Placement) :
    lowerValue s (.conditional test yes no) p = (do
      let branches ← ((test, yes) :: no.links).mapM (lowerBranch s p)
      let default ← lowerValue s no.ending p
      pure (.case branches default)) := by
  obtain ⟨hlinks, hending⟩ := links_of_not_conditional h
  rw [lowerValue, hlinks, hending]
  simp only [lowerConditional, h, List.mapM_cons, List.mapM_nil, lowerBranch, bind_assoc,
    pure_bind, caseTail, Expr.caseOf_cons]
  rfl

/-- A chain is lowered link by link, and then what it ends in. -/
theorem lowerValue_chain (s : Mapping) (test yes no : Host.Expr) (p : Placement) :
    lowerValue s (.conditional test yes no) p = (do
      let branches ← ((test, yes) :: no.links).mapM (lowerBranch s p)
      let default ← lowerValue s no.ending p
      pure (.case branches default)) := by
  match no with
  | .conditional test' yes' no' =>
      -- what comes last is a CASE by induction, so that its branches continue this one
      have hrest := lowerValue_chain s test' yes' no' p
      rw [lowerValue]
      simp only [lowerConditional, hrest, isConditional, Host.Expr.links, Host.Expr.ending,
        List.mapM_cons, lowerBranch, bind_assoc, pure_bind, caseTail, Expr.caseOf_cons]
      rfl
  | .binary .. | .call .. | .constant .. | .convert .. | .input .. | .member .. | .construct ..
  | .array .. | .typeIs .. | .not .. | .negate .. =>
      exact lowerValue_lastLink s test yes rfl p

/-! ## Runs with results of the same meaning -/

section

variable {α β : Type} {γ : Type u} {δ : Type v}

/-- The runs fail alike, or end with the same parameters and with results that
mean the same. -/
def SameMeaning (meaning : α → γ) (m n : Lowering α) : Prop :=
  ∀ ps, (∃ err after, m ps = (.error err, after) ∧ n ps = (.error err, after)) ∨
    ∃ a b after, m ps = (.ok a, after) ∧ n ps = (.ok b, after) ∧ meaning a = meaning b

variable {meaning : α → γ} {meaning' : β → δ}

theorem SameMeaning.refl (m : Lowering α) : SameMeaning meaning m m := by
  intro ps
  rcases h : m ps with ⟨err | a, after⟩
  · exact .inl ⟨err, after, rfl, rfl⟩
  · exact .inr ⟨a, a, after, rfl, rfl, rfl⟩

theorem SameMeaning.pure {a b : α} (h : meaning a = meaning b) :
    SameMeaning meaning (Pure.pure a) (Pure.pure b) :=
  fun ps => .inr ⟨a, b, ps, rfl, rfl, h⟩

theorem SameMeaning.bind {m n : Lowering α} {k l : α → Lowering β}
    (hm : SameMeaning meaning m n)
    (hk : ∀ a b, meaning a = meaning b → SameMeaning meaning' (k a) (l b)) :
    SameMeaning meaning' (m >>= k) (n >>= l) := by
  intro ps
  rw [bind_apply, bind_apply]
  rcases hm ps with ⟨err, after, hm, hn⟩ | ⟨a, b, after, hm, hn, hab⟩
  · rw [hm, hn]
    exact .inl ⟨err, after, rfl, rfl⟩
  · rw [hm, hn]
    exact hk a b hab after

/-- After the same computation. -/
theorem SameMeaning.after (m : Lowering α) {k l : α → Lowering β}
    (h : ∀ a, SameMeaning meaning' (k a) (l a)) : SameMeaning meaning' (m >>= k) (m >>= l) := by
  have hrun : SameMeaning id m m := SameMeaning.refl m
  refine hrun.bind fun a b hab => ?_
  obtain rfl : a = b := hab
  exact h a

/-- A last step on both results. -/
theorem SameMeaning.map {m n : Lowering α} {f g : α → β} (hm : SameMeaning meaning m n)
    (hf : ∀ a b, meaning a = meaning b → meaning' (f a) = meaning' (g b)) :
    SameMeaning meaning' (m >>= fun a => Pure.pure (f a)) (n >>= fun b => Pure.pure (g b)) :=
  hm.bind fun a b hab => SameMeaning.pure (hf a b hab)

end

section Rules

variable {Row Val : Type u} {I : Interpretation Row Val}

/-- For either placement of constants the values are the same. -/
abbrev SameValue (I : Interpretation Row Val) (m n : Lowered) : Prop :=
  ∀ p, SameMeaning I.value (m p) (n p)

/-- For either placement of constants the conditions say the same. -/
abbrev SameTruth (I : Interpretation Row Val) (m n : LoweredCondition) : Prop :=
  ∀ p, SameMeaning I.truth (m p) (n p)

/-! ## Value expressions -/

/-- The branches of a CASE that is continued are as good as a default. -/
theorem value_caseTail (c : Condition) (v : Expr) (continues : Bool) (rest : Expr) :
    I.value (.case ((c, v) :: (caseTail continues rest).1) (caseTail continues rest).2)
      = I.value (.case [(c, v)] rest) := by
  unfold caseTail
  split
  · rw [I.value_case_cons, I.value_case_single]
  · rfl

theorem lowerConditional_same {test test' : LoweredCondition} {yes yes' no no' : Lowered}
    (e : Host.Expr) (ht : SameTruth I test test') (hy : SameValue I yes yes')
    (hn : SameValue I no no') :
    SameValue I (lowerConditional test yes (e, no)) (lowerTwoWay test' yes' no') := by
  intro p
  refine (ht p).bind fun c c' hc => (hy p).bind fun v v' hv => (hn p).bind fun rest rest' hrest => ?_
  refine SameMeaning.pure ?_
  -- the last parts mean the same here, though one may be a CASE of many branches
  rw [value_caseTail, I.value_case_single, I.value_case_single, hc, hv, hrest]

theorem asTable_same (base : Host.Expr) {m n : Lowering Expr} (h : SameMeaning I.value m n) :
    SameMeaning I.value (asTable base m) (asTable base n) := by
  unfold asTable
  split
  · exact SameMeaning.refl _
  · split
    · exact h
    · exact SameMeaning.refl _
  · exact h
  · exact h
  · exact SameMeaning.refl _

/-- Whether a function takes the arguments is a matter of their number. -/
theorem call_same (func : Statement.Function) {args args' : List Expr}
    (hlength : args.length = args'.length) (h : I.values args = I.values args') :
    SameMeaning I.value (call func args) (call func args') := by
  rw [call, call, Expr.callOf, Expr.callOf, hlength]
  split
  · refine SameMeaning.pure ?_
    rw [Interpretation.value, Interpretation.value, h]
  · exact SameMeaning.refl _

theorem lowerBinary_same (whole : Host.Expr) (op : Host.Operator) {lhs lhs' rhs rhs' : Lowered}
    (hl : SameValue I lhs lhs') (hr : SameValue I rhs rhs') :
    SameValue I (lowerBinary whole op lhs rhs) (lowerBinary whole op lhs' rhs') := by
  intro p
  cases op with
  | arith op =>
      refine (hl p).bind fun l l' hl => (hr p).map fun r r' hr => ?_
      rw [Interpretation.value, Interpretation.value, hl, hr]
  | coalesce =>
      refine (hl p).bind fun l l' hl => (hr p).bind fun r r' hr => call_same _ rfl ?_
      simp only [Interpretation.values, hl, hr]
  | relation _ | logic _ => exact SameMeaning.refl _

theorem lowerCast_same (type : Except Error Statement.CastType) {operand operand' : Lowered}
    (h : SameValue I operand operand') :
    SameValue I (lowerCast type operand) (lowerCast type operand') := by
  intro p
  refine SameMeaning.after _ fun t => (h p).map fun x x' hx => ?_
  rw [Interpretation.value, Interpretation.value, hx]

theorem lowerNegate_same {operand operand' : Lowered} (h : SameValue I operand operand') :
    SameValue I (lowerNegate operand) (lowerNegate operand') := by
  intro p
  refine (h p).map fun x x' hx => ?_
  rw [Interpretation.value, Interpretation.value, hx]

theorem lowerFunction_same (func : Statement.Function) (others : List Expr)
    {operand operand' : Lowered} (h : SameValue I operand operand') :
    SameValue I (lowerFunction func operand others) (lowerFunction func operand' others) := by
  intro p
  refine (h p).bind fun x x' hx => call_same func rfl ?_
  rw [Interpretation.values, Interpretation.values, hx]

theorem lowerGet_same (whole e name : Host.Expr) {m n : Lowered} (h : SameValue I m n) :
    SameValue I (lowerGet whole (e, m) name) (lowerGet whole (e, n) name) := by
  intro p
  refine (asTable_same e (h p)).bind fun t t' ht => ?_
  cases name.value?.bind Value.string? with
  | none => exact SameMeaning.refl _
  | some text =>
      refine SameMeaning.pure ?_
      rw [Interpretation.value, Interpretation.value, ht]

theorem lowerConvert_same (s : Mapping) (operand : Host.Expr) (t : Host.Ty) {m n : Lowered}
    (h : SameValue I m n) :
    SameValue I (lowerConvert s operand t m) (lowerConvert s operand t n) := by
  intro p
  unfold lowerConvert
  split
  · exact h p
  · split
    · exact lowerCast_same (castType s t) h p
    · split
      · exact h p
      · exact SameMeaning.refl _

theorem lowerMember_same (s : Mapping) (base : Host.Expr) (ref : Host.MemberRef) {m n : Lowered}
    (h : SameValue I m n) : SameValue I (lowerMember s base ref m) (lowerMember s base ref n) := by
  intro p
  cases ref with
  | field id =>
      refine (asTable_same base (h p)).bind fun t t' ht => SameMeaning.after _ fun name => ?_
      refine SameMeaning.pure ?_
      rw [Interpretation.value, Interpretation.value, ht]
  | datePart part => exact lowerFunction_same _ _ h p

/-- The arguments of two calls, side by side. -/
inductive SameArguments (I : Interpretation Row Val) : List Argument → List Argument → Prop where
  | nil : SameArguments I [] []
  | cons {e : Host.Expr} {m n : Lowered} {rest rest' : List Argument} (h : SameValue I m n)
      (hrest : SameArguments I rest rest') : SameArguments I ((e, m) :: rest) ((e, n) :: rest')

theorem lowerCall_same (s : Mapping) (whole : Host.Expr) (method : Host.Method)
    {args args' : List Argument} (h : SameArguments I args args') :
    SameValue I (lowerCall s whole method args) (lowerCall s whole method args') := by
  intro p
  cases method with
  | getValue kind =>
      rcases h with _ | ⟨hx, _ | ⟨_, _ | _⟩⟩
      · exact SameMeaning.refl _
      · exact SameMeaning.refl _
      · exact lowerGet_same whole _ _ hx p
      · exact SameMeaning.refl _
  | toNumber | toText =>
      rcases h with _ | ⟨hx, _ | ⟨_, _ | _⟩⟩
      · exact SameMeaning.refl _
      · exact SameMeaning.refl _
      · exact lowerCast_same _ hx p
      · exact SameMeaning.refl _
  | toDecimal =>
      rcases h with _ | ⟨hx, _ | ⟨_, _ | ⟨_, _ | _⟩⟩⟩
      · exact SameMeaning.refl _
      · exact SameMeaning.refl _
      · exact SameMeaning.refl _
      · exact lowerCast_same _ hx p
      · exact SameMeaning.refl _
  | toRecord id =>
      rcases h with _ | ⟨hx, _ | _⟩
      · exact SameMeaning.refl _
      · exact lowerCast_same _ hx p
      · exact SameMeaning.refl _
  | substring =>
      rcases h with _ | ⟨ht, _ | ⟨hi, _ | ⟨hn, _ | _⟩⟩⟩
      · exact SameMeaning.refl _
      · exact SameMeaning.refl _
      · exact SameMeaning.refl _
      · refine (ht p).bind fun t t' ht => (hi p).bind fun i i' hi => (hn p).bind fun n n' hn => ?_
        refine call_same _ rfl ?_
        simp only [Interpretation.values, ht, hi, hn]
      · exact SameMeaning.refl _
  | datePart _ | beginOfPeriod _ | endOfPeriod _ =>
      rcases h with _ | ⟨hx, _ | _⟩
      · exact SameMeaning.refl _
      · exact lowerFunction_same _ _ hx p
      · exact SameMeaning.refl _
  | isIn | inHierarchy | notIn | contains | like | notLike | between | notBetween =>
      exact SameMeaning.refl _

/-! ## Conditions -/

theorem lowerNullTest_same (whole : Host.Expr) (op : Statement.Relation) {m n : Lowered}
    (h : SameValue I m n) : SameTruth I (lowerNullTest whole op m) (lowerNullTest whole op n) := by
  intro p
  refine (h p).bind fun x x' hx => ?_
  cases op with
  | eq | ne =>
      refine SameMeaning.pure ?_
      rw [Interpretation.truth, Interpretation.truth, hx]
  | _ => exact SameMeaning.refl _

theorem lowerRelation_same (whole : Host.Expr) (op : Statement.Relation) (l r : Host.Expr)
    {lhs lhs' rhs rhs' : Lowered} (hl : SameValue I lhs lhs') (hr : SameValue I rhs rhs') :
    SameTruth I (lowerRelation whole op (l, lhs) (r, rhs))
      (lowerRelation whole op (l, lhs') (r, rhs')) := by
  intro p
  unfold lowerRelation
  cases l.isNull <;> cases r.isNull
  · refine (hl p).bind fun l l' hl => (hr p).map fun r r' hr => ?_
    rw [Interpretation.truth, Interpretation.truth, hl, hr]
  · exact lowerNullTest_same whole op hl p
  · exact lowerNullTest_same whole op hr p
  · exact SameMeaning.refl _

theorem lowerIn_same (values : Host.Expr) (positive hierarchy : Bool) {m n : Lowered}
    (h : SameValue I m n) :
    SameTruth I (lowerIn m values positive hierarchy) (lowerIn n values positive hierarchy) := by
  intro p
  refine (h p).bind fun x x' hx => SameMeaning.after _ fun vs => SameMeaning.pure ?_
  rw [Interpretation.truth, Interpretation.truth, hx]

/-- An escape is read off the argument, not off its lowered form. -/
theorem escapeOf_same (whole : Host.Expr) {escape escape' : List Argument}
    (h : SameArguments I escape escape') : escapeOf whole escape = escapeOf whole escape' := by
  rcases h with _ | @⟨e, _, _, _, _, _, _ | _⟩
  · rfl
  · cases e with
    | constant v t => cases v <;> rfl
    | _ => rfl
  · simp only [escapeOf]

theorem lowerLike_same (whole pattern : Host.Expr) (positive : Bool) {m n : Lowered}
    {escape escape' : List Argument} (h : SameValue I m n)
    (hescape : SameArguments I escape escape') :
    SameTruth I (lowerLike whole m pattern escape positive)
      (lowerLike whole n pattern escape' positive) := by
  intro p
  refine (h p).bind fun x x' hx => ?_
  rw [escapeOf_same whole hescape]
  cases pattern.value?.bind Value.string? with
  | none => exact SameMeaning.refl _
  | some text =>
      refine SameMeaning.after _ fun c => SameMeaning.pure ?_
      rw [Interpretation.truth, Interpretation.truth, hx]

theorem lowerBetween_same (positive : Bool) {x x' start start' stop stop' : Lowered}
    (hx : SameValue I x x') (hstart : SameValue I start start') (hstop : SameValue I stop stop') :
    SameTruth I (lowerBetween x start stop positive) (lowerBetween x' start' stop' positive) := by
  intro p
  refine (hx p).bind fun x x' hx => (hstart .literals).bind fun a a' ha => ?_
  refine (hstop .literals).map fun b b' hb => ?_
  rw [Interpretation.truth, Interpretation.truth, hx, ha, hb]

theorem lowerPredicate_same (whole : Host.Expr) (method : Host.Method)
    {args args' : List Argument} (h : SameArguments I args args') :
    SameTruth I (lowerPredicate whole method args) (lowerPredicate whole method args') := by
  intro p
  cases method with
  | isIn | inHierarchy | notIn =>
      rcases h with _ | ⟨hx, _ | ⟨_, _ | _⟩⟩
      · exact SameMeaning.refl _
      · exact SameMeaning.refl _
      · exact lowerIn_same _ _ _ hx p
      · exact SameMeaning.refl _
  | contains =>
      rcases h with _ | ⟨_, _ | ⟨hx, _ | _⟩⟩
      · exact SameMeaning.refl _
      · exact SameMeaning.refl _
      · exact lowerIn_same _ _ _ hx p
      · exact SameMeaning.refl _
  | like | notLike =>
      rcases h with _ | ⟨hx, _ | ⟨_, hescape⟩⟩
      · exact SameMeaning.refl _
      · exact SameMeaning.refl _
      · exact lowerLike_same whole _ _ hx hescape p
  | between | notBetween =>
      rcases h with _ | ⟨hx, _ | ⟨hstart, _ | ⟨hstop, _ | _⟩⟩⟩
      · exact SameMeaning.refl _
      · exact SameMeaning.refl _
      · exact SameMeaning.refl _
      · exact lowerBetween_same _ hx hstart hstop p
      · exact SameMeaning.refl _
  | _ => exact SameMeaning.refl _

theorem lowerFlag_same (whole : Host.Expr) {m n : Lowered} (h : SameValue I m n) :
    SameTruth I (lowerFlag whole m) (lowerFlag whole n) := by
  intro p
  unfold lowerFlag
  split
  · refine (h p).bind fun l l' hl => SameMeaning.after _ fun r => SameMeaning.pure ?_
    rw [Interpretation.truth, Interpretation.truth, hl]
  · exact SameMeaning.refl _

theorem lowerTypeTest_same (s : Mapping) (record : Nat) {m n : Lowered} (h : SameValue I m n) :
    SameTruth I (lowerTypeTest s m record) (lowerTypeTest s n record) := by
  intro p
  refine (h p).bind fun x x' hx => SameMeaning.after _ fun table => SameMeaning.pure ?_
  rw [Interpretation.truth, Interpretation.truth, hx]

theorem lowerLogic_same (op : Statement.Connective) {lhs lhs' rhs rhs' : LoweredCondition}
    (hl : SameTruth I lhs lhs') (hr : SameTruth I rhs rhs') :
    SameTruth I (lowerLogic lhs op rhs) (lowerLogic lhs' op rhs') := by
  intro p
  refine (hl p).bind fun l l' hl => (hr p).map fun r r' hr => ?_
  rw [Interpretation.truth, Interpretation.truth, hl, hr]

theorem lowerNot_same {m n : LoweredCondition} (h : SameTruth I m n) :
    SameTruth I (lowerNot m) (lowerNot n) := by
  intro p
  refine (h p).map fun c c' hc => ?_
  rw [Interpretation.truth, Interpretation.truth, hc]

/-! ## Expressions -/

mutual

theorem lowerValue_same (s : Mapping) (e : Host.Expr) :
    SameValue I (lowerValue s e) (nestedValue s e) := by
  match e with
  | .binary l op r =>
      rw [lowerValue, nestedValue]
      exact lowerBinary_same _ op (lowerValue_same s l) (lowerValue_same s r)
  | .call method args =>
      rw [lowerValue, nestedValue]
      exact lowerCall_same s _ method (lowerArguments_same s args)
  | .conditional t y n =>
      -- the one rule in which the two differ
      rw [lowerValue, nestedValue]
      exact lowerConditional_same n (lowerCondition_same s t) (lowerValue_same s y)
        (lowerValue_same s n)
  | .convert x t =>
      rw [lowerValue, nestedValue]
      exact lowerConvert_same s x t (lowerValue_same s x)
  | .member x ref _ =>
      rw [lowerValue, nestedValue]
      exact lowerMember_same s x ref (lowerValue_same s x)
  | .negate x =>
      rw [lowerValue, nestedValue]
      exact lowerNegate_same (lowerValue_same s x)
  | .constant _ _ | .input _ | .construct _ _ | .array _ _ | .typeIs _ _ | .not _ =>
      rw [lowerValue, nestedValue]
      exact fun p => SameMeaning.refl _

theorem lowerCondition_same (s : Mapping) (e : Host.Expr) :
    SameTruth I (lowerCondition s e) (nestedCondition s e) := by
  match e with
  | .binary l (.relation op) r =>
      rw [lowerCondition_relation, nestedCondition]
      exact lowerRelation_same _ op l r (lowerValue_same s l) (lowerValue_same s r)
  | .binary l (.logic op) r =>
      rw [lowerCondition_logic, nestedCondition]
      exact lowerLogic_same op (lowerCondition_same s l) (lowerCondition_same s r)
  | .binary l (.arith op) r =>
      rw [lowerCondition_arith, nestedCondition]
      exact lowerFlag_same _ (lowerBinary_same _ _ (lowerValue_same s l) (lowerValue_same s r))
  | .binary l .coalesce r =>
      rw [lowerCondition_coalesce, nestedCondition]
      exact lowerFlag_same _ (lowerBinary_same _ _ (lowerValue_same s l) (lowerValue_same s r))
  | .call method args =>
      rw [lowerCondition, nestedCondition]
      split
      · exact lowerPredicate_same _ method (lowerArguments_same s args)
      · exact lowerFlag_same _ (lowerCall_same s _ method (lowerArguments_same s args))
  | .conditional t y n =>
      rw [lowerCondition, nestedCondition]
      exact lowerFlag_same _ (lowerConditional_same n (lowerCondition_same s t)
        (lowerValue_same s y) (lowerValue_same s n))
  | .convert x t =>
      rw [lowerCondition, nestedCondition]
      exact lowerFlag_same _ (lowerConvert_same s x t (lowerValue_same s x))
  | .member x ref _ =>
      rw [lowerCondition, nestedCondition]
      exact lowerFlag_same _ (lowerMember_same s x ref (lowerValue_same s x))
  | .typeIs x record =>
      rw [lowerCondition, nestedCondition]
      exact lowerTypeTest_same s record (lowerValue_same s x)
  | .not x =>
      rw [lowerCondition, nestedCondition]
      exact lowerNot_same (lowerCondition_same s x)
  | .negate x =>
      rw [lowerCondition, nestedCondition]
      exact lowerFlag_same _ (lowerNegate_same (lowerValue_same s x))
  | .constant _ _ | .input _ | .construct _ _ | .array _ _ =>
      rw [lowerCondition, nestedCondition]
      exact fun p => SameMeaning.refl _

theorem lowerArguments_same (s : Mapping) (es : List Host.Expr) :
    SameArguments I (lowerArguments s es) (nestedArguments s es) := by
  match es with
  | [] =>
      rw [lowerArguments, nestedArguments]
      exact .nil
  | e :: rest =>
      rw [lowerArguments, nestedArguments]
      exact .cons (lowerValue_same s e) (lowerArguments_same s rest)

end

end Rules

/-- A chain of conditionals of any length is lowered to one CASE, with a branch
for each test in turn and what the chain ends in as its default. Wherever
conditionals stand in an expression, this means the same as a CASE for every
conditional: both fail alike, or both end with the same parameters and with the
same value, or the same condition, in every interpretation. -/
theorem conditionals_keep_meaning (s : Mapping) (p : Placement) :
    (∀ test yes no, lowerValue s (.conditional test yes no) p = (do
        let branches ← ((test, yes) :: no.links).mapM (lowerBranch s p)
        let default ← lowerValue s no.ending p
        pure (.case branches default))) ∧
      ∀ (Row Val : Type u) (I : Interpretation Row Val) (e : Host.Expr),
        SameMeaning I.value (lowerValue s e p) (nestedValue s e p) ∧
          SameMeaning I.truth (lowerCondition s e p) (nestedCondition s e p) :=
  ⟨fun test yes no => lowerValue_chain s test yes no p,
    fun _ _ _ e => ⟨lowerValue_same s e p, lowerCondition_same s e p⟩⟩

/-- A word for a quantity. -/
def stockWord : Host.Expr :=
  let quantity : Host.Expr := .get (.input .row) "Qty" (some .int32)
  .conditional (.binary quantity (.relation .gt) (.ofValue (.int32 10)))
    (.ofValue (.string "many"))
    (.conditional (.binary quantity (.relation .gt) (.ofValue (.int32 0)))
      (.ofValue (.string "few")) (.ofValue (.string "none")))

example :
    let exceeds (name : String) : Condition :=
      .relation (.field .defaultTable ⟨"Qty"⟩) .gt (.param ⟨name⟩)
    let many := (exceeds "p1", Expr.param ⟨"p2"⟩)
    let few := (exceeds "p3", Expr.param ⟨"p4"⟩)
    (lowerValue .empty stockWord .parameters (.start "p")).1 =
        .ok (.case [many, few] (.param ⟨"p5"⟩)) ∧
      (nestedValue .empty stockWord .parameters (.start "p")).1 =
        .ok (.case [many] (.case [few] (.param ⟨"p5"⟩))) :=
  ⟨rfl, rfl⟩

end Lower

end Inquiry
