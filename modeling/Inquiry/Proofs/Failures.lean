import Inquiry.Lower.Request
import Inquiry.Proofs.FoldType

/-!
# Failures that are answers

A computation may fail in two ways. Mostly a failure is an answer: the caller
asked for something that the query language does not have, or gave constants
that do not go together. But some operations have a contract, and where it is
broken they stop the program. Constants can only be compared by a relation, a
function can only be made with as many arguments as it takes, and a count is no
aggregate of an operand. Arithmetic with an operator of another kind does not
stop the program, but its failure blames the caller for a mistake that is not
the caller's.

Whoever calls these operations looks at the operator, at the function or at the
summary first. `Ordinary` says of an error that no such look was forgotten, and
`Delivers` carries it through a computation together with what is known of the
result. `FailsOnly` says the failures alone, for whatever reasons are asked
about. The lemmas on the operations say when each of them stops, and folding,
which is the first to call some of them, is shown to stop nowhere.
-/

namespace Inquiry

/-- An error that is an answer: no contract was broken, and no arithmetic was
asked of an operator that has none. -/
def Error.Ordinary (e : Error) : Prop :=
  e.isMisuse = false ∧ ∀ op, e ≠ (Host.ArithmeticFault.notArithmetic op).error

/-- A result has the property, and a failure is ordinary. -/
def Delivers {α : Type} (P : α → Prop) : Except Error α → Prop
  | .ok a => P a
  | .error e => e.Ordinary

/-- Whether the cause is of a kind of its own. A broken contract is not, and neither
is what only has words: they may be about arithmetic. -/
def Cause.isOrdinary : Cause → Bool
  | .misuse _ | .plain _ => false
  | _ => true

theorem Error.ordinary_raised {cause : Cause} (h : cause.isOrdinary = true) :
    (Error.raised cause).Ordinary := by
  cases cause with
  | misuse _ | plain _ => cases h
  | _ => exact ⟨rfl, nofun⟩

/-- If the computation fails, it is for such a reason. -/
def FailsOnly {α : Type} (reason : Error → Prop) (r : Except Error α) : Prop :=
  ∀ err, r = .error err → reason err

section Rules

variable {α β : Type} {P : α → Prop} {Q : β → Prop} {reason : Error → Prop}

theorem FailsOnly.ok (a : α) : FailsOnly reason (.ok a : Except Error α) := nofun

theorem FailsOnly.error {err : Error} (h : reason err) :
    FailsOnly reason (.error err : Except Error α) :=
  fun _ heq => Except.error.inj heq ▸ h

theorem FailsOnly.bind {r : Except Error α} {k : α → Except Error β} (hr : FailsOnly reason r)
    (hk : ∀ a, FailsOnly reason (k a)) : FailsOnly reason (r >>= k) := by
  cases r with
  | error err => exact FailsOnly.error (hr err rfl)
  | ok a => exact hk a

theorem FailsOnly.map {r : Except Error α} (hr : FailsOnly reason r) (f : α → β) :
    FailsOnly reason (r.map f) := by
  cases r with
  | error err => exact FailsOnly.error (hr err rfl)
  | ok a => exact FailsOnly.ok (f a)

theorem Delivers.result {r : Except Error α} (h : Delivers P r) {a : α} (ha : r = .ok a) : P a := by
  subst ha
  exact h

theorem Delivers.failure {r : Except Error α} (h : Delivers P r) {e : Error} (he : r = .error e) :
    e.Ordinary := by
  subst he
  exact h

theorem Delivers.mono {R : α → Prop} {r : Except Error α} (hr : Delivers P r)
    (h : ∀ a, P a → R a) : Delivers R r := by
  cases r with
  | error e => exact hr
  | ok a => exact h a hr

theorem Delivers.bind {r : Except Error α} {k : α → Except Error β} (hr : Delivers P r)
    (hk : ∀ a, P a → Delivers Q (k a)) : Delivers Q (r >>= k) := by
  cases r with
  | error e => exact hr
  | ok a => exact hk a hr

theorem Delivers.map {r : Except Error α} {f : α → β} (hr : Delivers P r)
    (h : ∀ a, P a → Q (f a)) : Delivers Q (r.map f) := by
  cases r with
  | error e => exact hr
  | ok a => exact h a hr

end Rules

/-! ## Operations that stop -/

namespace Host

/-- An operator that is no connective, no coalesce and no relation is one of
arithmetic. -/
theorem Operator.isArith_of_other {op : Operator} (hlogic : ¬op.isLogic = true)
    (hcoalesce : op ≠ .coalesce) (hrelation : ¬op.isRelation = true) : op.isArith = true := by
  cases op with
  | logic _ => exact absurd rfl hlogic
  | coalesce => exact absurd rfl hcoalesce
  | relation _ => exact absurd rfl hrelation
  | arith _ => rfl

/-- A comparison stops exactly if the operator is not a relation. -/
theorem compareValues_stops {a b : Value} {op : Operator} :
    (∃ m, compareValues a op b = .error m) ↔ op.isRelation = false := by
  cases op with
  | relation op => exact ⟨nofun, nofun⟩
  | logic _ | arith _ | coalesce => exact ⟨fun _ => rfl, fun _ => ⟨_, rfl⟩⟩

/-- No operator of arithmetic is blamed. -/
def Blameless {α : Type} (r : Except ArithmeticFault α) : Prop :=
  ∀ op, r ≠ .error (.notArithmetic op)

theorem Blameless.map {α β : Type} {r : Except ArithmeticFault α} (h : Blameless r) (f : α → β) :
    Blameless (r.map f) := by
  cases r with
  | error fault => exact fun op heq => h op (congrArg Except.error (Except.error.inj heq))
  | ok _ => exact fun _ => nofun

theorem Operand.applyWhole_blameless (a : Int64) (op : Statement.Arith) (b : Int64) :
    Blameless (applyWhole a op b) := by
  intro other
  unfold applyWhole
  split
  · exact nofun
  · dsimp only
    split <;> exact nofun

theorem Operand.applyDecimal_blameless (a : Decimal) (op : Statement.Arith) (b : Decimal) :
    Blameless (applyDecimal a op b) := by
  intro other
  unfold applyDecimal
  dsimp only
  split <;> exact nofun

theorem Operand.combine_blameless (x y : Operand) (op : Statement.Arith) :
    Blameless (x.combine op y) := by
  rw [Operand.combine.eq_def]
  split
  · exact (applyWhole_blameless _ op _).map _
  · exact (applyDecimal_blameless _ op _).map _
  · exact fun _ => nofun

theorem Operand.negate_blameless (x : Operand) : Blameless x.negate := by
  intro op
  rw [Operand.negate.eq_def]
  split
  · split <;> exact nofun
  · exact nofun
  · exact nofun

/-- Arithmetic blames the operator exactly if it is not one of arithmetic. -/
theorem Operand.apply_blames {x y : Operand} {op : Operator} :
    (∃ other, x.apply op y = .error (.notArithmetic other)) ↔ op.isArith = false := by
  cases op with
  | arith op =>
      exact ⟨fun ⟨other, h⟩ => absurd h (x.combine_blameless y op other), nofun⟩
  | logic _ | relation _ | coalesce => exact ⟨fun _ => rfl, fun _ => ⟨_, rfl⟩⟩

end Host

/-- The aggregate of a summary stops exactly if the summary is a count. -/
theorem Summary.aggregate_stops {f : Summary} : (∃ m, f.aggregate = .error m) ↔ f = .count := by
  cases f with
  | count => exact ⟨fun _ => rfl, fun _ => ⟨_, rfl⟩⟩
  | total _ => exact ⟨nofun, nofun⟩

/-- A call stops exactly if the function takes another number of arguments. -/
theorem Statement.Expr.callOf_stops {func : Function} {args : List Expr} :
    (∃ m, callOf func args = .error m) ↔ args.length ≠ func.arity := by
  rw [callOf]
  split
  · next h =>
      refine ⟨?_, fun hne => absurd h hne⟩
      rintro ⟨m, hm⟩
      cases hm
  · next h => exact ⟨fun _ => h, fun _ => ⟨_, rfl⟩⟩

/-! ## Failures of conversion -/

/-- The error is about a value: it has the wrong form, or its text cannot be read. -/
def Error.IsConversion (err : Error) : Prop :=
  (∃ v target, err = .conversion v target) ∨ ∃ f, err = .fault f

theorem Error.IsConversion.cause_ne {err : Error} (h : err.IsConversion) (index size : Nat) :
    err.cause ≠ .indexOutOfRange index size := by
  rcases h with ⟨v, target, rfl⟩ | ⟨f, rfl⟩ <;> exact nofun

theorem Error.IsConversion.ordinary {err : Error} (h : err.IsConversion) : err.Ordinary := by
  rcases h with ⟨v, target, rfl⟩ | ⟨f, rfl⟩ <;> exact Error.ordinary_raised rfl

namespace Value

/-- If the conversion fails, it is because of the value. -/
abbrev Converts {α : Type} (x : Except Error α) : Prop := FailsOnly Error.IsConversion x

theorem Converts.conversion {α : Type} (v : Value) (target : String) :
    Converts (.error (.conversion v target) : Except Error α) :=
  FailsOnly.error (.inl ⟨v, target, rfl⟩)

theorem Converts.fault {α β : Type} (x : Except β α) (f : β → Fault) :
    Converts (x.mapError fun e => .fault (f e)) := by
  cases x with
  | ok a => exact FailsOnly.ok a
  | error e => exact FailsOnly.error (.inr ⟨f e, rfl⟩)

theorem orConversion_converts {α : Type} (v : Value) (target : String) (o : Option α) :
    Converts (orConversion v target o) := by
  cases o with
  | some a => exact FailsOnly.ok a
  | none => exact Converts.conversion v target

theorem toDateTime_converts (v : Value) : Converts v.toDateTime := by
  rw [toDateTime.eq_def]
  split
  · exact FailsOnly.ok _
  · exact Converts.fault _ Fault.date
  · exact Converts.conversion _ _

theorem toDecimal_converts (v : Value) : Converts v.toDecimal := by
  rw [toDecimal.eq_def]
  split
  · exact FailsOnly.ok _
  · exact orConversion_converts _ _ _
  · exact orConversion_converts _ _ _
  · exact Converts.fault _ Fault.decimal
  · exact orConversion_converts _ _ _

theorem toDouble_converts (v : Value) (target : String) : Converts (v.toDouble target) := by
  rw [toDouble.eq_def]
  split
  · exact FailsOnly.ok _
  · exact FailsOnly.ok _
  · exact FailsOnly.ok _
  · exact Converts.fault _ Fault.float
  · exact orConversion_converts _ _ _

theorem toSingle_converts (v : Value) : Converts v.toSingle := by
  refine (toDouble_converts v "F32").bind fun wide => ?_
  split
  · exact Converts.conversion v "F32"
  · exact FailsOnly.ok _

theorem whole_converts (v : Value) : Converts v.whole := by
  cases v with
  | string s =>
      rw [whole]
      split
      · exact FailsOnly.ok _
      · next f _ => exact FailsOnly.error (.inr ⟨.integer f, rfl⟩)
  | _ => exact FailsOnly.ok _

theorem convert_converts (v : Value) (k : Kind) : Converts (v.convert k) := by
  have hscalar : Converts (v.convertScalar k) := by
    cases k with
    | string | bool | char => exact (orConversion_converts _ _ _).map _
    | dateTime => exact (toDateTime_converts v).map _
    | decimal => exact (toDecimal_converts v).map _
    | single => exact (toSingle_converts v).map _
    | double => exact (toDouble_converts v _).map _
    | int16 | int32 | int64 | uint8 =>
        exact (whole_converts v).bind fun _ => orConversion_converts _ _ _
  cases v with
  | null => exact FailsOnly.ok _
  | _ => exact hscalar

end Value

/-! ## Folding -/

namespace Host

/-- Why an expression does not fold: its constants cannot be combined, or one of
them cannot be converted. That an operator is not one of arithmetic is never the
reason. -/
def FoldFailure (err : Error) : Prop :=
  (∃ fault : ArithmeticFault, (∀ op, fault ≠ .notArithmetic op) ∧ err = fault.error) ∨
    ∃ (v : Value) (kind : Kind), v.convert kind = .error err

theorem head?_append_string {s t : String} {c : Char} (h : s.toList.head? = some c) :
    (s ++ t).toList.head? = some c := by
  rw [String.toList_append, List.head?_append, h, Option.some_or]

/-- The first letter of the words of a fault. -/
theorem ArithmeticFault.head?_message (fault : ArithmeticFault) :
    fault.message.toList.head? = some
      (match fault with
      | .divisionByZero | .decimalOverflow .. => 'd'
      | .integerOverflow .. | .negationOverflow _ => 'i'
      | .notArithmetic _ => 'o') := by
  cases fault with
  | divisionByZero => rfl
  | integerOverflow a op b =>
      exact head?_append_string <| head?_append_string <| head?_append_string <|
        head?_append_string <| head?_append_string rfl
  | decimalOverflow a op b =>
      exact head?_append_string <| head?_append_string <| head?_append_string <|
        head?_append_string <| head?_append_string rfl
  | negationOverflow n => exact head?_append_string rfl
  | notArithmetic op => exact head?_append_string (head?_append_string rfl)

/-- The words of a fault tell whether it blames the operator. -/
theorem ArithmeticFault.error_ne {fault : ArithmeticFault} (h : ∀ op, fault ≠ .notArithmetic op)
    (op : Operator) : fault.error ≠ (ArithmeticFault.notArithmetic op).error := by
  intro heq
  have hmessage : fault.message = (ArithmeticFault.notArithmetic op).message :=
    Cause.plain.inj (Error.raised.inj heq)
  have hfirst := fault.head?_message
  rw [hmessage, ArithmeticFault.head?_message] at hfirst
  cases fault with
  | notArithmetic other => exact h other rfl
  | divisionByZero | decimalOverflow _ _ _ | integerOverflow _ _ _ | negationOverflow _ =>
      simp at hfirst

theorem FoldFailure.ordinary {err : Error} (h : FoldFailure err) : err.Ordinary := by
  rcases h with ⟨fault, hfault, rfl⟩ | ⟨v, kind, h⟩
  · exact ⟨rfl, ArithmeticFault.error_ne hfault⟩
  · exact (v.convert_converts kind err h).ordinary

/-- If the computation fails, it is for one of these reasons. -/
abbrev FoldSafe {α : Type} (x : Except Error α) : Prop := FailsOnly FoldFailure x

theorem FoldSafe.delivers {α : Type} {P : α → Prop} {x : Except Error α} (hx : FoldSafe x)
    (h : ∀ a, x = .ok a → P a) : Delivers P x := by
  cases x with
  | error err => exact (hx err rfl).ordinary
  | ok a => exact h a rfl

theorem convertTo_safe (v : Value) (type : Ty) : FoldSafe (convertTo v type) := by
  rw [convertTo.eq_def]
  split
  · next kind _ => exact fun _ h => .inr ⟨v, kind, h⟩
  · exact FailsOnly.ok v

theorem mapError_safe {α : Type} {r : Except ArithmeticFault α} (h : Blameless r) :
    FoldSafe (r.mapError ArithmeticFault.error) := by
  cases r with
  | error fault =>
      intro _ herr
      cases herr
      exact .inl ⟨fault, fun op heq => h op (congrArg Except.error heq), rfl⟩
  | ok a => exact FailsOnly.ok a

theorem foldRelation_safe (l r : Expr) {op : Operator} (h : op.isRelation = true) :
    FoldSafe (foldRelation l op r) := by
  rw [foldRelation.eq_def]
  split
  · next a _ b _ =>
      cases hresult : compareValues a op b with
      | error m =>
          rw [compareValues_stops.mp ⟨m, hresult⟩] at h
          cases h
      | ok result => exact FailsOnly.ok _
  · exact FailsOnly.ok _

theorem foldNumbers_safe (type : Ty) (l r : Expr) (a b : Value) {op : Operator}
    (h : op.isArith = true) : FoldSafe (foldNumbers type l op r a b) := by
  rw [foldNumbers.eq_def]
  split
  · next x y _ _ =>
      have hresult : Blameless (x.apply op y) := by
        intro other hblamed
        rw [Operand.apply_blames.mp ⟨other, hblamed⟩] at h
        cases h
      exact (mapError_safe hresult).bind fun _ => (convertTo_safe _ _).bind fun _ => FailsOnly.ok _
  · exact FailsOnly.ok _

theorem foldArith_safe (type : Ty) (l r : Expr) {op : Operator} (h : op.isArith = true) :
    FoldSafe (foldArith type l op r) := by
  rw [foldArith.eq_def]
  split
  · split
    · exact FailsOnly.ok _
    · exact foldNumbers_safe type _ _ _ _ h
  · exact FailsOnly.ok _

/-- The operator has been looked at before its operands are compared or
combined. -/
theorem foldBinary_safe (type : Ty) (l : Expr) (op : Operator) (r : Expr) :
    FoldSafe (foldBinary type l op r) := by
  rw [foldBinary]
  split
  · exact FailsOnly.ok _
  · next hlogic =>
      split
      · exact FailsOnly.ok _
      · next hcoalesce =>
          split
          · next hrelation => exact foldRelation_safe _ _ hrelation
          · next hrelation =>
              exact foldArith_safe type _ _ (Operator.isArith_of_other hlogic hcoalesce hrelation)

theorem foldConvert_safe (operand : Expr) (type : Ty) : FoldSafe (foldConvert operand type) := by
  rw [foldConvert.eq_def]
  split
  · split
    · exact (convertTo_safe _ _).bind fun _ => FailsOnly.ok _
    · exact FailsOnly.ok _
  · exact FailsOnly.ok _

theorem foldNegate_safe (type : Ty) (operand : Expr) : FoldSafe (foldNegate type operand) := by
  rw [foldNegate.eq_def]
  split
  · next x _ =>
      exact (mapError_safe x.negate_blameless).bind fun _ => (convertTo_safe _ _).bind fun _ =>
        FailsOnly.ok _
  · exact FailsOnly.ok _

mutual

/-- Folding fails for these reasons only, whatever the types of the operands. -/
theorem Expr.fold_safe (e : Expr) : FoldSafe e.fold := by
  match e with
  | .constant _ _ | .input _ => rw [Expr.fold]; exact FailsOnly.ok _
  | .binary l op r =>
      rw [Expr.fold]
      exact l.fold_safe.bind fun _ => r.fold_safe.bind fun _ => foldBinary_safe _ _ op _
  | .conditional test yes no =>
      rw [Expr.fold]
      exact test.fold_safe.bind fun _ => yes.fold_safe.bind fun _ => no.fold_safe.bind fun _ =>
        FailsOnly.ok _
  | .call _ es | .array _ es => rw [Expr.fold]; exact (foldAll_safe es).bind fun _ => FailsOnly.ok _
  | .construct _ ms => rw [Expr.fold]; exact (foldMembers_safe ms).bind fun _ => FailsOnly.ok _
  | .convert x type => rw [Expr.fold]; exact x.fold_safe.bind fun _ => foldConvert_safe _ type
  | .negate x => rw [Expr.fold]; exact x.fold_safe.bind fun _ => foldNegate_safe _ _
  | .member x _ _ | .typeIs x _ | .not x =>
      rw [Expr.fold]; exact x.fold_safe.bind fun _ => FailsOnly.ok _

theorem foldAll_safe (es : List Expr) : FoldSafe (foldAll es) := by
  match es with
  | [] => rw [foldAll]; exact FailsOnly.ok _
  | e :: rest =>
      rw [foldAll]
      exact e.fold_safe.bind fun _ => (foldAll_safe rest).bind fun _ => FailsOnly.ok _

theorem foldMembers_safe (ms : List (String × Expr)) : FoldSafe (foldMembers ms) := by
  match ms with
  | [] => rw [foldMembers]; exact FailsOnly.ok _
  | (_, e) :: rest =>
      rw [foldMembers]
      exact e.fold_safe.bind fun _ => (foldMembers_safe rest).bind fun _ => FailsOnly.ok _

end

end Host

end Inquiry
