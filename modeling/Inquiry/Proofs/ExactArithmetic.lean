import Inquiry.Proofs.FoldStrict

/-!
# Constant integer arithmetic is exact

Folding widens integers to 64 bits, computes there with a check, and converts
the result to the static type of the node, which is the type of its leftmost
leaf. So an integer passes through up to three widths on its way through one
node: that of the value, 64 bits, and that of the type. A caller thinks of none
of them, but of whole numbers and of the range of the type.

`Expr.exactValue?` is the evaluation that the caller has in mind. It is over the
integers, and a node has no value if it divides by zero or if its result is
outside the range of its type. Every such range lies within 64 bits, so the
check in the middle refuses nothing that the conversion at the end would let
through. That is the only place where the widths meet. It is settled for one
node in `settles_of_widened`, which serves operators and negation alike, and
the tree follows from its nodes.
-/

namespace Inquiry

open Statement (Arith)

/-! ## Integers and their ranges -/

/-- The least and the greatest number of an integer kind. -/
def Kind.bounds? : Kind → Option (Int × Int)
  | .int16 => some (-32768, 32767)
  | .int32 => some (-2147483648, 2147483647)
  | .int64 => some (-9223372036854775808, 9223372036854775807)
  | .uint8 => some (0, 255)
  | _ => none

/-- The number, if it is in the range of the kind. -/
def Kind.fit? (k : Kind) (n : Int) : Option Int :=
  match k.bounds? with
  | some (least, greatest) => if least ≤ n ∧ n ≤ greatest then some n else none
  | none => none

namespace Value

/-- The integer that a value holds, in whichever width. -/
def integer? : Value → Option Int
  | int16 n => some n.toInt
  | int32 n => some n.toInt
  | int64 n => some n.toInt
  | uint8 n => some n.toNat
  | _ => none

theorem isInt64_iff (n : Int) :
    isInt64 n = true ↔ -9223372036854775808 ≤ n ∧ n ≤ 9223372036854775807 := by
  have hleast : Int64.minValue.toInt = -9223372036854775808 := by decide
  have hgreatest : Int64.maxValue.toInt = 9223372036854775807 := by decide
  rw [isInt64, hleast, hgreatest]
  simp

theorem toInt_ofInt_of_isInt64 {n : Int} (h : isInt64 n = true) : (Int64.ofInt n).toInt = n := by
  have := (isInt64_iff n).mp h
  exact Int64.toInt_ofInt_of_le (by omega) (by omega)

theorem integer?_eq_int64? (v : Value) : v.integer? = v.int64?.map Int64.toInt := by
  cases v with
  | int16 n => exact congrArg some (Int16.toInt_toInt64 n).symm
  | int32 n => exact congrArg some (Int32.toInt_toInt64 n).symm
  | uint8 n =>
      have hn := n.toNat_lt
      exact congrArg some (Int64.toInt_ofInt_of_le (by omega) (by omega)).symm
  | _ => rfl

section Ranges

variable {k : Kind} {least greatest n : Int}

/-- The bounds of a kind are those with which a conversion compares. -/
theorem ofWhole?_eq (hk : k.bounds? = some (least, greatest)) :
    ofWhole? k n =
      if least ≤ n ∧ n ≤ greatest then
        match k with
        | .int16 => some (int16 (.ofInt n))
        | .int32 => some (int32 (.ofInt n))
        | .int64 => some (int64 (.ofInt n))
        | _ => some (uint8 (.ofNat n.toNat))
      else none := by
  cases k <;> cases hk
  · simp [ofWhole?, show Int16.minValue.toInt = -32768 by decide,
      show Int16.maxValue.toInt = 32767 by decide]
  · simp [ofWhole?, show Int32.minValue.toInt = -2147483648 by decide,
      show Int32.maxValue.toInt = 2147483647 by decide]
  · simp [ofWhole?, isInt64_iff]
  · have hn : n < 256 ↔ n ≤ 255 := by omega
    simp [ofWhole?, hn]

/-- A number within the bounds is held by a value of the kind. -/
theorem ofWhole?_within (hk : k.bounds? = some (least, greatest))
    (hn : least ≤ n ∧ n ≤ greatest) :
    ∃ v, ofWhole? k n = some v ∧ v.integer? = some n ∧ Host.typeOfValue v = .scalar k := by
  rw [ofWhole?_eq hk, if_pos hn]
  cases k with
  | int16 =>
      cases hk
      exact ⟨_, rfl, congrArg some (Int16.toInt_ofInt_of_le (by omega) (by omega)), rfl⟩
  | int32 =>
      cases hk
      exact ⟨_, rfl, congrArg some (Int32.toInt_ofInt_of_le (by omega) (by omega)), rfl⟩
  | int64 =>
      cases hk
      exact ⟨_, rfl, congrArg some (Int64.toInt_ofInt_of_le (by omega) (by omega)), rfl⟩
  | uint8 =>
      cases hk
      have hbyte : (UInt8.ofNat n.toNat).toNat = n.toNat :=
        UInt8.toNat_ofNat_of_lt' (show n.toNat < 256 by omega)
      refine ⟨_, rfl, ?_, rfl⟩
      rw [integer?, hbyte]
      exact congrArg some (by omega)
  | _ => cases hk

theorem isInt64_of_within (hk : k.bounds? = some (least, greatest))
    (hn : least ≤ n ∧ n ≤ greatest) : isInt64 n = true := by
  rw [isInt64_iff]
  cases k <;> cases hk <;> omega

end Ranges

theorem convert_of_not_null {v : Value} (hv : v.isNull = false) (k : Kind) :
    v.convert k = v.convertScalar k := by
  cases v with
  | null => cases hv
  | _ => rfl

theorem convert_of_bounds {v : Value} {k : Kind} {least greatest : Int}
    (hk : k.bounds? = some (least, greatest)) (hv : v.isNull = false) :
    v.convert k = v.toInteger k := by
  rw [convert_of_not_null hv]
  cases k with
  | int16 | int32 | int64 | uint8 => rfl
  | _ => cases hk

theorem toInteger_eq_ok_iff (v w : Value) (k : Kind) :
    v.toInteger k = .ok w ↔ ∃ n, v.whole = .ok (some n) ∧ ofWhole? k n = some w := by
  rw [toInteger]
  cases v.whole with
  | error e => exact ⟨nofun, nofun⟩
  | ok o =>
      cases o with
      | none => exact ⟨nofun, nofun⟩
      | some n =>
          show orConversion v k.name (ofWhole? k n) = .ok w ↔ _
          cases hn : ofWhole? k n with
          | none => simp [orConversion, hn]
          | some u => simp [orConversion, hn]

/-- An integer converts to an integer kind if it is in the range of the kind. -/
theorem convert_int64 {k : Kind} (hk : k.bounds?.isSome = true) (n : Int64) :
    match k.fit? n.toInt with
    | some m => ∃ v, (int64 n).convert k = .ok v ∧ v.integer? = some m ∧
        Host.typeOfValue v = .scalar k
    | none => ∃ e, (int64 n).convert k = .error e := by
  obtain ⟨⟨least, greatest⟩, hbounds⟩ := Option.isSome_iff_exists.mp hk
  have hconvert : (int64 n).convert k
      = orConversion (int64 n) k.name (ofWhole? k n.toInt) := by
    rw [convert_of_bounds hbounds rfl]
    rfl
  rw [Kind.fit?, hbounds, hconvert]
  by_cases hn : least ≤ n.toInt ∧ n.toInt ≤ greatest
  · obtain ⟨v, hv, hholds⟩ := ofWhole?_within hbounds hn
    simp only [if_pos hn, hv]
    exact ⟨v, rfl, hholds⟩
  · simp only [if_neg hn, ofWhole?_eq hbounds]
    exact ⟨_, rfl⟩

end Value

namespace Host

/-! ## Arithmetic over the integers -/

/-- Whether the type is that of an integer kind. -/
def Ty.isInteger (t : Ty) : Bool := t.kind?.any fun k => k.bounds?.isSome

/-- The number, if it is in the range of the type. -/
def Ty.fit? (t : Ty) (n : Int) : Option Int := t.kind?.bind fun k => k.fit? n

/-- The exact result of an operator. A quotient is cut off towards zero, and by
zero there is none. -/
def exactly? (op : Arith) (a b : Int) : Option Int :=
  match op with
  | .add => some (a + b)
  | .sub => some (a - b)
  | .mul => some (a * b)
  | .div => if b = 0 then none else some (a.tdiv b)

namespace Expr

/-- The expression consists of arithmetic and signs over constants that meet
the condition. -/
def Computes (leaf : Value → Ty → Prop) : Expr → Prop
  | .constant v type => leaf v type
  | .binary lhs (.arith _) rhs => lhs.Computes leaf ∧ rhs.Computes leaf
  | .negate operand => operand.Computes leaf
  | _ => False

/-- The type of the leftmost leaf. -/
def leftmost : Expr → Ty
  | .binary lhs _ _ => lhs.leftmost
  | .negate operand => operand.leftmost
  | e => e.type

/-- The value of an expression over the integers, if every node on the way has
one in the range of its type. -/
def exactValue? : Expr → Option Int
  | .constant v _ => v.integer?
  | .binary lhs (.arith op) rhs => do
      let a ← lhs.exactValue?
      let b ← rhs.exactValue?
      let n ← exactly? op a b
      lhs.leftmost.fit? n
  | .negate operand => do
      let n ← operand.exactValue?
      operand.leftmost.fit? (-n)
  | _ => none

end Expr

/-! ## One node -/

/-- The computation gives the number if it has 64 bits, and else it fails. -/
def Widened (n : Option Int) (r : Except ArithmeticFault Int64) : Prop :=
  match n.filter Value.isInt64 with
  | some m => ∃ w : Int64, r = .ok w ∧ w.toInt = m
  | none => ∃ fault, r = .error fault

theorem widened_int64? (n : Int) (fault : ArithmeticFault) :
    Widened (some n)
      (match Operand.int64? n with
        | some w => .ok w
        | none => .error fault) := by
  rw [Widened, Operand.int64?, Option.filter_some]
  by_cases hn : Value.isInt64 n = true
  · rw [if_pos hn, if_pos hn]
    exact ⟨_, rfl, Value.toInt_ofInt_of_isInt64 hn⟩
  · rw [if_neg hn, if_neg hn]
    exact ⟨_, rfl⟩

theorem applyWhole_widened (a : Int64) (op : Arith) (b : Int64) :
    Widened (exactly? op a.toInt b.toInt) (Operand.applyWhole a op b) := by
  unfold Operand.applyWhole
  cases op with
  | div =>
      by_cases hb : b.toInt = 0
      · rw [exactly?, if_pos hb, if_pos (by simp [hb])]
        exact ⟨_, rfl⟩
      · rw [exactly?, if_neg hb, if_neg (by simp [hb])]
        exact widened_int64? _ _
  | add | sub | mul =>
      rw [exactly?, if_neg (by simp)]
      exact widened_int64? _ _

/-- The result is a constant of the type that holds the number and meets the
condition. Without a number there is no result. -/
def Answers (t : Ty) (P : Value → Prop) (n : Option Int) (r : Except Error Expr) : Prop :=
  match n with
  | some m => ∃ v, r = .ok (.constant v t) ∧ v.integer? = some m ∧ P v
  | none => ∃ e, r = .error e

/-- The result of a computation is a value of the type itself. -/
abbrev Settles (t : Ty) : Option Int → Except Error Expr → Prop :=
  Answers t fun v => typeOfValue v = t

theorem Answers.mono {t : Ty} {P Q : Value → Prop} {n : Option Int} {r : Except Error Expr}
    (h : Answers t P n r) (hPQ : ∀ v, P v → Q v) : Answers t Q n r := by
  cases n with
  | none => exact h
  | some m =>
      obtain ⟨v, hv, hholds, hP⟩ := h
      exact ⟨v, hv, hholds, hPQ v hP⟩

/-- In sequence, a failure of the first part is the failure of the whole. -/
theorem Answers.bind {s t : Ty} {P Q : Value → Prop} {n : Option Int} {f : Int → Option Int}
    {r : Except Error Expr} {k : Expr → Except Error Expr} (h : Answers s P n r)
    (hk : ∀ m a, a.integer? = some m → Answers t Q (f m) (k (.constant a s))) :
    Answers t Q (n >>= f) (r >>= k) := by
  cases n with
  | none =>
      obtain ⟨e, rfl⟩ := h
      exact ⟨e, rfl⟩
  | some m =>
      obtain ⟨a, rfl, hholds, _⟩ := h
      exact hk m a hholds

theorem convertTo_int64 {t : Ty} (ht : t.isInteger = true) (w : Int64) :
    Settles t (t.fit? w.toInt) (do
      let v ← convertTo (.int64 w) t
      .ok (.constant v t)) := by
  cases t with
  | scalar k =>
      have hconvert := Value.convert_int64 (k := k) ht w
      show Settles _ (k.fit? w.toInt) ((Value.int64 w).convert k >>= fun v => .ok (.constant v _))
      cases hfit : k.fit? w.toInt with
      | some m =>
          rw [hfit] at hconvert
          obtain ⟨v, hv, hholds⟩ := hconvert
          rw [hv]
          exact ⟨v, rfl, hholds⟩
      | none =>
          rw [hfit] at hconvert
          obtain ⟨e, he⟩ := hconvert
          rw [he]
          exact ⟨e, rfl⟩
  | _ => cases ht

/-- No number in the range of an integer type needs more than 64 bits. -/
theorem fit?_of_not_isInt64 {t : Ty} {n : Int} (ht : t.isInteger = true)
    (hn : ¬Value.isInt64 n = true) : t.fit? n = none := by
  cases t with
  | scalar k =>
      obtain ⟨⟨least, greatest⟩, hbounds⟩ :=
        Option.isSome_iff_exists.mp (show k.bounds?.isSome = true from ht)
      show k.fit? n = none
      rw [Kind.fit?, hbounds]
      exact if_neg fun hwithin => hn (Value.isInt64_of_within hbounds hwithin)
  | _ => cases ht

/-- What is computed in 64 bits and then converted is the exact number, if it is
in the range of the type. -/
theorem settles_of_widened {t : Ty} {n : Option Int} {r : Except ArithmeticFault Int64}
    (ht : t.isInteger = true) (h : Widened n r) :
    Settles t (n.bind t.fit?) (do
      let result ← (r.map Operand.whole).mapError ArithmeticFault.error
      let v ← convertTo result.toValue t
      .ok (.constant v t)) := by
  cases n with
  | none =>
      obtain ⟨fault, rfl⟩ := h
      exact ⟨_, rfl⟩
  | some m =>
      rw [Option.bind_some]
      rw [Widened, Option.filter_some] at h
      by_cases hm : Value.isInt64 m = true
      · rw [if_pos hm] at h
        obtain ⟨w, rfl, rfl⟩ := h
        exact convertTo_int64 ht w
      · rw [if_neg hm] at h
        obtain ⟨fault, rfl⟩ := h
        rw [fit?_of_not_isInt64 ht hm]
        exact ⟨_, rfl⟩

theorem whole_of_integer? {v : Value} {n : Int} (h : v.integer? = some n) :
    ∃ w : Int64, Operand.ofValue? v = some (.whole w) ∧ w.toInt = n := by
  rw [Value.integer?_eq_int64?] at h
  obtain ⟨w, hw, rfl⟩ := Option.map_eq_some_iff.mp h
  refine ⟨w, ?_, rfl⟩
  cases v with
  | int16 _ | int32 _ | int64 _ | uint8 _ => exact congrArg (Option.map Operand.whole) hw
  | _ => cases hw

theorem isNull_of_operand {v : Value} {x : Operand} (h : Operand.ofValue? v = some x) :
    v.isNull = false := by
  cases v with
  | null => cases h
  | _ => rfl

theorem foldArith_settles {t s u : Ty} {a b : Value} {m n : Int} (op : Arith)
    (ht : t.isInteger = true) (ha : a.integer? = some m) (hb : b.integer? = some n) :
    Settles t ((exactly? op m n).bind t.fit?) (foldArith t (.constant a s) (.arith op) (.constant b u)) := by
  obtain ⟨x, hx, rfl⟩ := whole_of_integer? ha
  obtain ⟨y, hy, rfl⟩ := whole_of_integer? hb
  have hnull : ¬(a.isNull || b.isNull) = true := by
    rw [isNull_of_operand hx, isNull_of_operand hy]
    decide
  rw [foldArith, if_neg hnull, foldNumbers, hx, hy]
  exact settles_of_widened ht (applyWhole_widened x op y)

theorem foldNegate_settles {t s : Ty} {a : Value} {m : Int} (ht : t.isInteger = true)
    (ha : a.integer? = some m) : Settles t (t.fit? (-m)) (foldNegate t (.constant a s)) := by
  obtain ⟨x, hx, rfl⟩ := whole_of_integer? ha
  have hnegate : (Operand.whole x).negate =
      (match Operand.int64? (-x.toInt) with
        | some w => .ok w
        | none => .error (.negationOverflow x) : Except ArithmeticFault Int64).map .whole := by
    rw [Operand.negate]
    cases Operand.int64? (-x.toInt) <;> rfl
  rw [foldNegate, Expr.value?, Option.bind_some, hx]
  simp only [hnegate]
  exact settles_of_widened ht (widened_int64? _ _)

/-! ## Trees -/

/-- A constant holds an integer, of whichever width, and has an integer type. -/
def IsInteger (v : Value) (t : Ty) : Prop := v.integer?.isSome = true ∧ t.isInteger = true

theorem Expr.Computes.type_eq {leaf : Value → Ty → Prop} {e : Expr} (h : e.Computes leaf) :
    e.type = e.leftmost := by
  match e with
  | .constant _ _ => rfl
  | .binary l (.arith _) r => exact Expr.Computes.type_eq (e := l) h.1
  | .negate x => exact Expr.Computes.type_eq (e := x) h

theorem Expr.Computes.isInteger {e : Expr} (h : e.Computes IsInteger) :
    e.leftmost.isInteger = true := by
  match e with
  | .constant _ _ => exact h.2
  | .binary l (.arith _) r => exact Expr.Computes.isInteger (e := l) h.1
  | .negate x => exact Expr.Computes.isInteger (e := x) h

/-- Folding gives the exact value of the expression, in a constant of its type,
and fails if there is none. The value is one of the type itself where something
was computed. -/
def Expr.Exact (e : Expr) : Prop :=
  Answers e.leftmost (fun v => e.isConstant = false → typeOfValue v = e.leftmost) e.exactValue?
    e.fold

theorem Expr.Computes.exact {e : Expr} (h : e.Computes IsInteger) : e.Exact := by
  match e with
  | .constant v t =>
      obtain ⟨n, hn⟩ := Option.isSome_iff_exists.mp h.1
      rw [Expr.Exact, Expr.exactValue?, hn]
      exact ⟨v, rfl, hn, nofun⟩
  | .binary l (.arith op) r =>
      have hl := Expr.Computes.exact (e := l) h.1
      have hr := Expr.Computes.exact (e := r) h.2
      have htype : Operator.type (.arith op) l.type r.type = l.leftmost := h.1.type_eq
      rw [Expr.Exact, Expr.exactValue?, Expr.fold, htype]
      refine Answers.mono (P := fun v => typeOfValue v = l.leftmost) ?_ fun _ hv _ => hv
      exact hl.bind fun m a ha => hr.bind fun n b hb => foldArith_settles op h.1.isInteger ha hb
  | .negate x =>
      have hx := Expr.Computes.exact (e := x) h
      have htype : x.type = x.leftmost := Expr.Computes.type_eq (e := x) h
      have hinteger := Expr.Computes.isInteger (e := x) h
      rw [Expr.Exact, Expr.exactValue?, Expr.fold, htype]
      refine Answers.mono (P := fun v => typeOfValue v = x.leftmost) ?_ fun _ hv _ => hv
      exact hx.bind fun m a ha => foldNegate_settles hinteger ha

/-- Integer constants are combined exactly or not at all. An expression over
them folds if it has a value over the integers, with every result on the way in
the range of its type, and only then. It folds to a constant that has this value
and the type of the expression, which is that of the leftmost leaf; the result
of a computation is a value of this type. -/
theorem fold_exact {e : Expr} (h : e.Computes IsInteger) :
    (e.Folds ↔ ∃ n, e.exactValue? = some n) ∧
      ∀ n, e.exactValue? = some n →
        ∃ v, e.fold = .ok (.constant v e.type) ∧ e.type = e.leftmost ∧ v.integer? = some n ∧
          (e.isConstant = false → typeOfValue v = e.type) := by
  have hexact := h.exact
  have htype := h.type_eq
  rw [Expr.Exact, ← htype] at hexact
  cases hn : e.exactValue? with
  | none =>
      rw [hn] at hexact
      obtain ⟨err, herr⟩ := hexact
      refine ⟨⟨?_, nofun⟩, nofun⟩
      rintro ⟨e', he'⟩
      rw [herr] at he'
      cases he'
  | some n =>
      rw [hn] at hexact
      obtain ⟨v, hv, hholds, hvariant⟩ := hexact
      refine ⟨⟨fun _ => ⟨n, rfl⟩, fun _ => ⟨_, hv⟩⟩, fun m hm => ?_⟩
      obtain rfl := Option.some.inj hm
      exact ⟨v, hv, htype, hholds, hvariant⟩

/-- Two bytes and a long integer that is taken away again. -/
def byteBalance (a b : UInt8) (c : Int64) : Expr :=
  .binary (.binary (.ofValue (.uint8 a)) (.arith .add) (.ofValue (.uint8 b))) (.arith .add)
    (.negate (.ofValue (.int64 c)))

/-- What leaves the range of bytes on the way fails, though the result would be
in it; what a wider operand brings back into the range is a byte. -/
theorem fold_exact_byteBalance :
    (byteBalance 200 100 100).Computes IsInteger ∧ ¬(byteBalance 200 100 100).Folds ∧
      (byteBalance 200 50 (-5)).Computes IsInteger ∧
      ∃ v, (byteBalance 200 50 (-5)).fold = .ok (.constant v (.scalar .uint8)) ∧
        v.integer? = some 255 ∧ typeOfValue v = .scalar .uint8 := by
  have hcomputes : ∀ a b c, (byteBalance a b c).Computes IsInteger :=
    fun _ _ _ => ⟨⟨⟨rfl, rfl⟩, rfl, rfl⟩, rfl, rfl⟩
  refine ⟨hcomputes _ _ _, fun hfolds => ?_, hcomputes _ _ _, ?_⟩
  · obtain ⟨n, hn⟩ := (fold_exact (hcomputes 200 100 100)).1.mp hfolds
    have hnone : (byteBalance 200 100 100).exactValue? = none := by decide
    rw [hnone] at hn
    cases hn
  · have hsome : (byteBalance 200 50 (-5)).exactValue? = some 255 := by decide
    obtain ⟨v, hv, _, hholds, hvariant⟩ := (fold_exact (hcomputes 200 50 (-5))).2 255 hsome
    exact ⟨v, hv, hholds, hvariant rfl⟩

end Host

end Inquiry
