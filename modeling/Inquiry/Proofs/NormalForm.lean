import Inquiry.Proofs.CaseFolding
import Inquiry.Proofs.DecimalNormal
import Inquiry.Statement.Digest
import Inquiry.Statement.Same

/-!
# Normal forms

Sameness is a test that goes down two trees at once. It leaves two things out of
account: the case of names, and the places of decimals. The normal form of a
statement has these settled, with names in lower case and decimals in the fewest
places, and everything else as it was. Two statements are the same if and only
if their normal forms are equal (`same_iff`, for every kind of node), and this
is the only fact for which two trees have to be compared. That sameness is an
equivalence is then a matter of equality, and that it cannot be seen by some
function of statements is a matter of one tree: the function has to give the
same for a statement and for its normal form.

Digests are such a function. The one thing to be known of a digester is that
decimals for one number feed alike.
-/

namespace Inquiry

/-! ## Values -/

namespace Value

mutual

/-- The value with all its decimals in normal form. -/
def normal : Value → Value
  | decimal d => decimal d.normalize
  | list items => list (normalItems items)
  | record fields => record (normalFields fields)
  | v => v

def normalItems : List Value → List Value
  | [] => []
  | v :: rest => normal v :: normalItems rest

def normalFields : Fields → Fields
  | [] => []
  | (name, v) :: rest => (name, normal v) :: normalFields rest

end

mutual

theorem same_iff (a b : Value) : a.same b = true ↔ a.normal = b.normal := by
  match a with
  | .decimal x =>
      cases b with
      | decimal y => simp only [same, normal, decimal.injEq, x.same_iff_normalize y]
      | _ => simp [same, normal]
  | .list xs =>
      cases b with
      | list ys => simp only [same, normal, list.injEq, sameItems_iff xs ys]
      | _ => simp [same, normal]
  | .record xs =>
      cases b with
      | record ys => simp only [same, normal, record.injEq, sameFields_iff xs ys]
      | _ => simp [same, normal]
  | .bool _ | .char _ | .dateTime _ | .single _ | .double _ | .int16 _ | .int32 _ | .int64 _
  | .null | .string _ | .uint8 _ => cases b <;> simp [same, normal]

theorem sameItems_iff (as bs : List Value) :
    sameItems as bs = true ↔ normalItems as = normalItems bs := by
  match as, bs with
  | [], [] | [], _ :: _ | _ :: _, [] => simp [sameItems, normalItems]
  | a :: as, b :: bs =>
      simp only [sameItems, normalItems, Bool.and_eq_true, List.cons.injEq, same_iff a b,
        sameItems_iff as bs]

theorem sameFields_iff (as bs : Fields) :
    sameFields as bs = true ↔ normalFields as = normalFields bs := by
  match as, bs with
  | [], [] | [], _ :: _ | _ :: _, [] => simp [sameFields, normalFields]
  | (m, a) :: as, (n, b) :: bs =>
      simp only [sameFields, normalFields, Bool.and_eq_true, beq_iff_eq, List.cons.injEq,
        Prod.mk.injEq, same_iff a b, sameFields_iff as bs]

end

theorem length_normalItems (items : List Value) : (normalItems items).length = items.length := by
  induction items with
  | nil => rfl
  | cons v rest ih => rw [normalItems, List.length_cons, ih, List.length_cons]

theorem length_normalFields (fields : Fields) :
    (normalFields fields).length = fields.length := by
  induction fields with
  | nil => rfl
  | cons field rest ih => rw [normalFields, List.length_cons, ih, List.length_cons]

/-- A decimal is written in normal form, whatever its places are. -/
theorem literalText?_normal (v : Value) : v.normal.literalText? = v.literalText? := by
  cases v with
  | decimal d => simp only [normal, literalText?, Decimal.normalize_normalize]
  | _ => rfl

end Value

/-- Decimals for one number feed a hash function alike. -/
def Digester.Lawful (d : Digester) : Prop :=
  ∀ a b : Decimal, a.same b = true → d.decimal a = d.decimal b

namespace Value

variable {d : Digester}

mutual

theorem digest_normal (hd : d.Lawful) (v : Value) : v.normal.digest d = v.digest d := by
  match v with
  | .decimal x =>
      rw [normal, digest, digest, hd x x.normalize x.normalize_same]
  | .list items =>
      rw [normal, digest, digest, length_normalItems, digestItems_normal hd items]
  | .record fields =>
      rw [normal, digest, digest, length_normalFields, digestFields_normal hd fields]
  | .bool _ | .char _ | .dateTime _ | .single _ | .double _ | .int16 _ | .int32 _ | .int64 _
  | .null | .string _ | .uint8 _ => rfl

theorem digestItems_normal (hd : d.Lawful) (items : List Value) :
    digestItems d (normalItems items) = digestItems d items := by
  match items with
  | [] => rfl
  | v :: rest =>
      rw [normalItems, digestItems, digestItems, digest_normal hd v, digestItems_normal hd rest]

theorem digestFields_normal (hd : d.Lawful) (fields : Fields) :
    digestFields d (normalFields fields) = digestFields d fields := by
  match fields with
  | [] => rfl
  | (name, v) :: rest =>
      rw [normalFields, digestFields, digestFields, digest_normal hd v,
        digestFields_normal hd rest]

end

end Value

namespace Statement

/-! ## Names and literals -/

namespace Name

/-- The name in lower case. -/
def normal (n : Name) : Name := ⟨String.ofList n.folded⟩

theorem folded_normal (n : Name) : n.normal.folded = n.folded := Text.lowerAll_lowerAll n.text

theorem same_iff (a b : Name) : a.same b = true ↔ a.normal = b.normal := by
  rw [same, beq_iff_eq, normal, normal, mk.injEq]
  constructor
  · intro h
    rw [h]
  · intro h
    have hlist := congrArg String.toList h
    rwa [String.toList_ofList, String.toList_ofList] at hlist

theorem digest_normal (n : Name) : n.normal.digest = n.digest := by
  rw [digest, folded_normal, digest]

end Name

theorem sameNames_iff (as bs : List Name) :
    sameNames as bs = true ↔ as.map Name.normal = bs.map Name.normal := by
  induction as generalizing bs with
  | nil => cases bs <;> simp [sameNames]
  | cons a as ih =>
      cases bs with
      | nil => simp [sameNames]
      | cons b bs =>
          simp only [sameNames, Bool.and_eq_true, List.map_cons, List.cons.injEq, a.same_iff b,
            ih bs]

theorem digestNames_normal (names : List Name) :
    digestNames (names.map Name.normal) = digestNames names := by
  simp only [digestNames, List.length_map, List.flatMap_map, Name.digest_normal]

theorem Period.keyword_injective {a b : Period} (h : a.keyword = b.keyword) : a = b := by
  have hall : ∀ a ∈ all, ∀ b ∈ all, a.keyword = b.keyword → a = b := by decide
  exact hall a (by cases a <;> decide) b (by cases b <;> decide) h

namespace Literal

/-- The literal with its value in normal form. Its text is that of the normal
form already. -/
def normal : Literal → Literal
  | constant v text written => constant v.normal text (v.literalText?_normal.trans written)
  | period kind => period kind

/-- The keyword of a period is not in quotes, so no string is written like it. -/
theorem text_ne_keyword {v : Value} {text : String} (h : v.literalText? = some text) {kind : Period}
    (hv : v.normal = .string kind.keyword) : text ≠ kind.keyword := by
  cases v with
  | string s =>
      cases hv
      cases h
      cases kind <;> decide
  | _ => cases hv

theorem same_iff (a b : Literal) : a.same b = true ↔ a.normal = b.normal := by
  rw [same, Bool.and_eq_true, beq_iff_eq, Value.same_iff]
  cases a with
  | constant v _ h =>
      cases b with
      | constant w _ _ => simp only [value, text, normal, constant.injEq]
      | period kind =>
          constructor
          · intro hsame
            exact absurd hsame.2 (text_ne_keyword h hsame.1)
          · intro hnormal
            cases hnormal
  | period kind =>
      cases b with
      | constant w _ h =>
          constructor
          · intro hsame
            exact absurd hsame.2.symm (text_ne_keyword h hsame.1.symm)
          · intro hnormal
            cases hnormal
      | period other =>
          constructor
          · intro hsame
            rw [Period.keyword_injective hsame.2]
          · intro hnormal
            cases hnormal
            exact ⟨rfl, rfl⟩

theorem digest_normal {d : Digester} (hd : d.Lawful) (l : Literal) :
    l.normal.digest d = l.digest d := by
  cases l with
  | constant v text h => rw [digest, digest, normal, value, value, v.digest_normal hd]; rfl
  | period kind => rfl

end Literal

/-! ## Expressions and conditions -/

mutual

/-- The expression with names in lower case and the values of literals in normal
form. -/
def Expr.normal : Expr → Expr
  | .aggregate func operand => .aggregate func operand.normal
  | .allColumns => .allColumns
  | .arith op lhs rhs => .arith op lhs.normal rhs.normal
  | .case branches default => .case (normalBranches branches) default.normal
  | .cast operand type => .cast operand.normal type
  | .columnGroup table fields => .columnGroup table.normal (fields.map Name.normal)
  | .count operand distinct => .count operand.normal distinct
  | .countRows distinct => .countRows distinct
  | .defaultTable => .defaultTable
  | .field table name => .field table.normal name.normal
  | .call func args => .call func (normalExprs args)
  | .literal l => .literal l.normal
  | .negate operand => .negate operand.normal
  | .param name => .param name.normal

/-- The condition with its expressions in normal form. Patterns and the names of
tables stay as they are. -/
def Condition.normal : Condition → Condition
  | .between operand start stop positive =>
      .between operand.normal start.normal stop.normal positive
  | .inList operand values positive hierarchy =>
      .inList operand.normal (normalExprs values) positive hierarchy
  | .isNull operand positive => .isNull operand.normal positive
  | .like operand pattern escape positive => .like operand.normal pattern escape positive
  | .logic lhs op rhs => .logic lhs.normal op rhs.normal
  | .not operand => .not operand.normal
  | .refs operand table => .refs operand.normal table
  | .relation lhs op rhs => .relation lhs.normal op rhs.normal

def normalExprs : List Expr → List Expr
  | [] => []
  | e :: rest => e.normal :: normalExprs rest

def normalBranches : List (Condition × Expr) → List (Condition × Expr)
  | [] => []
  | (test, value) :: rest => (test.normal, value.normal) :: normalBranches rest

end

theorem length_normalExprs (es : List Expr) : (normalExprs es).length = es.length := by
  induction es with
  | nil => rfl
  | cons e rest ih => rw [normalExprs, List.length_cons, ih, List.length_cons]

theorem length_normalBranches (bs : List (Condition × Expr)) :
    (normalBranches bs).length = bs.length := by
  induction bs with
  | nil => rfl
  | cons b rest ih => rw [normalBranches, List.length_cons, ih, List.length_cons]

mutual

theorem Expr.same_iff (a b : Expr) : a.same b = true ↔ a.normal = b.normal := by
  -- expressions of two kinds are never the same, and their normal forms are of two kinds as well
  match a with
  | .aggregate f x =>
      cases b with
      | aggregate g y => simp only [Expr.same, Expr.normal, Bool.and_eq_true, beq_iff_eq,
          Expr.aggregate.injEq, x.same_iff y]
      | _ => simp [Expr.same, Expr.normal]
  | .arith op x y =>
      cases b with
      | arith oq z w => simp only [Expr.same, Expr.normal, Bool.and_eq_true, beq_iff_eq,
          Expr.arith.injEq, x.same_iff z, y.same_iff w, and_assoc]
      | _ => simp [Expr.same, Expr.normal]
  | .case as x =>
      cases b with
      | case bs y => simp only [Expr.same, Expr.normal, Bool.and_eq_true, Expr.case.injEq,
          sameBranches_iff as bs, x.same_iff y]
      | _ => simp [Expr.same, Expr.normal]
  | .cast x s =>
      cases b with
      | cast y t => simp only [Expr.same, Expr.normal, Bool.and_eq_true, beq_iff_eq,
          Expr.cast.injEq, x.same_iff y]
      | _ => simp [Expr.same, Expr.normal]
  | .columnGroup x ms =>
      cases b with
      | columnGroup y ns => simp only [Expr.same, Expr.normal, Bool.and_eq_true,
          Expr.columnGroup.injEq, x.same_iff y, sameNames_iff ms ns]
      | _ => simp [Expr.same, Expr.normal]
  | .count x p =>
      cases b with
      | count y q => simp only [Expr.same, Expr.normal, Bool.and_eq_true, beq_iff_eq,
          Expr.count.injEq, x.same_iff y]
      | _ => simp [Expr.same, Expr.normal]
  | .field x m =>
      cases b with
      | field y n => simp only [Expr.same, Expr.normal, Bool.and_eq_true, Expr.field.injEq,
          x.same_iff y, m.same_iff n]
      | _ => simp [Expr.same, Expr.normal]
  | .call f xs =>
      cases b with
      | call g ys => simp only [Expr.same, Expr.normal, Bool.and_eq_true, beq_iff_eq,
          Expr.call.injEq, sameExprs_iff xs ys]
      | _ => simp [Expr.same, Expr.normal]
  | .literal k =>
      cases b with
      | literal l => simp only [Expr.same, Expr.normal, Expr.literal.injEq, k.same_iff l]
      | _ => simp [Expr.same, Expr.normal]
  | .negate x =>
      cases b with
      | negate y => simp only [Expr.same, Expr.normal, Expr.negate.injEq, x.same_iff y]
      | _ => simp [Expr.same, Expr.normal]
  | .param m =>
      cases b with
      | param n => simp only [Expr.same, Expr.normal, Expr.param.injEq, m.same_iff n]
      | _ => simp [Expr.same, Expr.normal]
  | .allColumns | .countRows _ | .defaultTable => cases b <;> simp [Expr.same, Expr.normal]
termination_by structural a

theorem Condition.same_iff (a b : Condition) : a.same b = true ↔ a.normal = b.normal := by
  match a with
  | .between x y z p =>
      cases b with
      | between x' y' z' q => simp only [Condition.same, Condition.normal, Bool.and_eq_true,
          beq_iff_eq, Condition.between.injEq, x.same_iff x', y.same_iff y', z.same_iff z',
          and_assoc]
      | _ => simp [Condition.same, Condition.normal]
  | .inList x as p h =>
      cases b with
      | inList y bs q k => simp only [Condition.same, Condition.normal, Bool.and_eq_true,
          beq_iff_eq, Condition.inList.injEq, x.same_iff y, sameExprs_iff as bs, and_assoc]
      | _ => simp [Condition.same, Condition.normal]
  | .isNull x p =>
      cases b with
      | isNull y q => simp only [Condition.same, Condition.normal, Bool.and_eq_true, beq_iff_eq,
          Condition.isNull.injEq, x.same_iff y]
      | _ => simp [Condition.same, Condition.normal]
  | .like x s e p =>
      cases b with
      | like y t f q => simp only [Condition.same, Condition.normal, Bool.and_eq_true, beq_iff_eq,
          Condition.like.injEq, x.same_iff y, and_assoc]
      | _ => simp [Condition.same, Condition.normal]
  | .logic x op y =>
      cases b with
      | logic z oq w => simp only [Condition.same, Condition.normal, Bool.and_eq_true, beq_iff_eq,
          Condition.logic.injEq, x.same_iff z, y.same_iff w, and_assoc]
      | _ => simp [Condition.same, Condition.normal]
  | .not x =>
      cases b with
      | not y => simp only [Condition.same, Condition.normal, Condition.not.injEq, x.same_iff y]
      | _ => simp [Condition.same, Condition.normal]
  | .refs x s =>
      cases b with
      | refs y t => simp only [Condition.same, Condition.normal, Bool.and_eq_true, beq_iff_eq,
          Condition.refs.injEq, x.same_iff y]
      | _ => simp [Condition.same, Condition.normal]
  | .relation x op y =>
      cases b with
      | relation z oq w => simp only [Condition.same, Condition.normal, Bool.and_eq_true,
          beq_iff_eq, Condition.relation.injEq, x.same_iff z, y.same_iff w, and_assoc]
      | _ => simp [Condition.same, Condition.normal]
termination_by structural a

theorem sameExprs_iff (as bs : List Expr) :
    sameExprs as bs = true ↔ normalExprs as = normalExprs bs := by
  match as, bs with
  | [], [] | [], _ :: _ | _ :: _, [] => simp [sameExprs, normalExprs]
  | a :: as, b :: bs =>
      simp only [sameExprs, normalExprs, Bool.and_eq_true, List.cons.injEq, a.same_iff b,
        sameExprs_iff as bs]
termination_by structural as

theorem sameBranches_iff (as bs : List (Condition × Expr)) :
    sameBranches as bs = true ↔ normalBranches as = normalBranches bs := by
  match as, bs with
  | [], [] | [], _ :: _ | _ :: _, [] => simp [sameBranches, normalBranches]
  | (c, x) :: as, (d, y) :: bs =>
      simp only [sameBranches, normalBranches, Bool.and_eq_true, List.cons.injEq, Prod.mk.injEq,
        c.same_iff d, x.same_iff y, sameBranches_iff as bs]
termination_by structural as

end

/-! ## Queries -/

theorem sameOption_iff {α : Type} {same : α → α → Bool} {normal : α → α}
    (h : ∀ a b, same a b = true ↔ normal a = normal b) (a b : Option α) :
    sameOption same a b = true ↔ a.map normal = b.map normal := by
  cases a <;> cases b <;> simp [sameOption, h]

def SortKey.normal (k : SortKey) : SortKey := ⟨k.expr.normal, k.direction⟩

theorem sameKeys_iff (as bs : List SortKey) :
    sameKeys as bs = true ↔ as.map SortKey.normal = bs.map SortKey.normal := by
  induction as generalizing bs with
  | nil => cases bs <;> simp [sameKeys]
  | cons a as ih =>
      cases bs with
      | nil => simp [sameKeys]
      | cons b bs =>
          simp only [sameKeys, Bool.and_eq_true, beq_iff_eq, List.map_cons, List.cons.injEq,
            SortKey.normal, SortKey.mk.injEq, a.expr.same_iff b.expr, ih bs]

def Select.normal (s : Select) : Select := { s with columns := normalExprs s.columns }

theorem Select.same_iff (a b : Select) : a.same b = true ↔ a.normal = b.normal := by
  simp only [Select.same, Select.normal, Bool.and_eq_true, beq_iff_eq, Select.mk.injEq,
    sameExprs_iff a.columns b.columns]
  exact and_comm

/-- The query with its expressions in normal form. The name of its source stays
as it is. -/
def Query.normal (q : Query) : Query where
  select := q.select.normal
  source := q.source
  filter := q.filter.map Condition.normal
  order := q.order.map fun keys => keys.map SortKey.normal

theorem Query.same_iff (a b : Query) : a.same b = true ↔ a.normal = b.normal := by
  simp only [Query.same, Query.normal, Bool.and_eq_true, beq_iff_eq, Query.mk.injEq,
    a.select.same_iff b.select, sameOption_iff Condition.same_iff, sameOption_iff sameKeys_iff,
    and_assoc]

/-! ## Digests -/

section

variable {d : Digester}

mutual

theorem Expr.digest_normal (hd : d.Lawful) (e : Expr) : e.normal.digest d = e.digest d := by
  match e with
  | .allColumns | .countRows _ | .defaultTable => rfl
  | .aggregate _ x | .cast x _ | .count x _ | .negate x =>
      simp only [Expr.normal, Expr.digest, x.digest_normal hd]
  | .arith _ x y => simp only [Expr.normal, Expr.digest, x.digest_normal hd, y.digest_normal hd]
  | .case bs x =>
      simp only [Expr.normal, Expr.digest, length_normalBranches, digestBranches_normal hd bs,
        x.digest_normal hd]
  | .columnGroup x _ =>
      simp only [Expr.normal, Expr.digest, x.digest_normal hd, digestNames_normal]
  | .field x _ => simp only [Expr.normal, Expr.digest, x.digest_normal hd, Name.digest_normal]
  | .call _ xs =>
      simp only [Expr.normal, Expr.digest, length_normalExprs, digestExprs_normal hd xs]
  | .literal _ => simp only [Expr.normal, Expr.digest, Literal.digest_normal hd]
  | .param _ => simp only [Expr.normal, Expr.digest, Name.digest_normal]

theorem Condition.digest_normal (hd : d.Lawful) (c : Condition) :
    c.normal.digest d = c.digest d := by
  match c with
  | .between x y z _ =>
      simp only [Condition.normal, Condition.digest, x.digest_normal hd, y.digest_normal hd,
        z.digest_normal hd]
  | .inList x vs _ _ =>
      simp only [Condition.normal, Condition.digest, x.digest_normal hd, length_normalExprs,
        digestExprs_normal hd vs]
  | .isNull x _ | .like x _ _ _ | .refs x _ =>
      simp only [Condition.normal, Condition.digest, x.digest_normal hd]
  | .logic x _ y =>
      simp only [Condition.normal, Condition.digest, x.digest_normal hd, y.digest_normal hd]
  | .not x => simp only [Condition.normal, Condition.digest, x.digest_normal hd]
  | .relation x _ y =>
      simp only [Condition.normal, Condition.digest, x.digest_normal hd, y.digest_normal hd]

theorem digestExprs_normal (hd : d.Lawful) (es : List Expr) :
    digestExprs d (normalExprs es) = digestExprs d es := by
  match es with
  | [] => rfl
  | e :: rest => simp only [normalExprs, digestExprs, e.digest_normal hd, digestExprs_normal hd rest]

theorem digestBranches_normal (hd : d.Lawful) (bs : List (Condition × Expr)) :
    digestBranches d (normalBranches bs) = digestBranches d bs := by
  match bs with
  | [] => rfl
  | (c, x) :: rest =>
      simp only [normalBranches, digestBranches, c.digest_normal hd, x.digest_normal hd,
        digestBranches_normal hd rest]

end

theorem option_digest_normal {α : Type} {normal : α → α} {digest : α → List Digest.Word}
    (h : ∀ a, digest (normal a) = digest a) (o : Option α) :
    Digest.option digest (o.map normal) = Digest.option digest o := by
  cases o with
  | none => rfl
  | some a => rw [Option.map_some, Digest.option, h, Digest.option]

theorem SortKey.digest_normal (hd : d.Lawful) (k : SortKey) : k.normal.digest d = k.digest d := by
  rw [SortKey.digest, SortKey.normal, k.expr.digest_normal hd, SortKey.digest]

theorem Select.digest_normal (hd : d.Lawful) (s : Select) : s.normal.digest d = s.digest d := by
  simp only [Select.digest, Select.normal, length_normalExprs, digestExprs_normal hd]

theorem Query.digest_normal (hd : d.Lawful) (q : Query) : q.normal.digest d = q.digest d := by
  have hkeys : ∀ keys : List SortKey,
      Digest.Word.length (keys.map SortKey.normal).length ::
          (keys.map SortKey.normal).flatMap (SortKey.digest d)
        = .length keys.length :: keys.flatMap (SortKey.digest d) := by
    intro keys
    simp only [List.length_map, List.flatMap_map, SortKey.digest_normal hd]
  rw [Query.digest, Query.normal, q.select.digest_normal hd,
    option_digest_normal (Condition.digest_normal hd), option_digest_normal hkeys, Query.digest]

end

/-! ## Sameness -/

/-- What an equality test has to be: an equivalence, that of having one normal
form, which no digest tells apart. -/
structure Sameness {α : Type} (same : α → α → Bool) (normal : α → α)
    (digest : α → List Digest.Word) : Prop where
  equivalence : Equivalence fun a b => same a b = true
  normal_eq : ∀ a b, same a b = true ↔ normal a = normal b
  digest_eq : ∀ a b, same a b = true → digest a = digest b

theorem Sameness.of_normal {α : Type} {same : α → α → Bool} {normal : α → α}
    {digest : α → List Digest.Word} (h : ∀ a b, same a b = true ↔ normal a = normal b)
    (hdigest : ∀ a, digest (normal a) = digest a) : Sameness same normal digest where
  equivalence :=
    { refl := fun a => (h a a).mpr rfl
      symm := fun {a b} hab => (h b a).mpr ((h a b).mp hab).symm
      trans := fun {a b c} hab hbc => (h a c).mpr (((h a b).mp hab).trans ((h b c).mp hbc)) }
  normal_eq := h
  digest_eq a b hab := by
    rw [← hdigest a, ← hdigest b, (h a b).mp hab]

/-- Two values, names, types or statements are the same if and only if they
become identical in normal form; this is an equivalence, and what is the same
feeds a hash function alike, if that is so of decimals. Types have no part that
a normal form would change. -/
theorem sameness {d : Digester}
    (hd : ∀ a b : Decimal, a.same b = true → d.decimal a = d.decimal b) :
    Sameness Value.same Value.normal (Value.digest d) ∧
      Sameness Name.same Name.normal Name.digest ∧
      Sameness Expr.same Expr.normal (Expr.digest d) ∧
      Sameness Condition.same Condition.normal (Condition.digest d) ∧
      Sameness (fun a b : CastType => a == b) id CastType.digest ∧
      Sameness Query.same Query.normal (Query.digest d) :=
  ⟨.of_normal Value.same_iff (Value.digest_normal hd),
    .of_normal Name.same_iff Name.digest_normal,
    .of_normal Expr.same_iff (Expr.digest_normal hd),
    .of_normal Condition.same_iff (Condition.digest_normal hd),
    .of_normal (fun _ _ => beq_iff_eq) fun _ => rfl,
    .of_normal Query.same_iff (Query.digest_normal hd)⟩

/-- The goods that have a price, by the name of its field. -/
def priced (name : Name) (price : Decimal) : Query where
  select := .all
  source := some "Goods"
  filter := some (.relation (.field .defaultTable name) .eq
    (.literal (.constant (.decimal price) price.normalize.text rfl)))
  order := none

theorem sameness_priced :
    (priced ⟨"Price"⟩ ⟨false, 150, 2, by decide, by decide⟩).same
        (priced ⟨"PRICE"⟩ ⟨false, 15, 1, by decide, by decide⟩) = true ∧
      (priced ⟨"Price"⟩ ⟨false, 150, 2, by decide, by decide⟩).digest .standard
        = (priced ⟨"PRICE"⟩ ⟨false, 15, 1, by decide, by decide⟩).digest .standard := by
  have hstandard : ∀ a b : Decimal, a.same b = true →
      Digester.standard.decimal a = Digester.standard.decimal b :=
    fun a b h => congrArg Digester.decimalWords ((a.same_iff_normalize b).mp h)
  obtain ⟨_, _, _, _, _, hquery⟩ := sameness hstandard
  have hsame : (priced ⟨"Price"⟩ ⟨false, 150, 2, by decide, by decide⟩).same
      (priced ⟨"PRICE"⟩ ⟨false, 15, 1, by decide, by decide⟩) = true := by decide +kernel
  exact ⟨hsame, hquery.digest_eq _ _ hsame⟩

end Statement

end Inquiry
