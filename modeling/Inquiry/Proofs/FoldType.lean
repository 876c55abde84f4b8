import Inquiry.Host.Fold

/-!
# Folding keeps the static type

The static type of an expression is read off the tree without looking at any
value, and folding replaces parts of the tree. Most of the time the two do not
meet: a folded node is given the type of the node it replaces. They meet where
folding answers with one of the operands — the other operand of a connective,
a branch of a conditional, a side of a coalesce. There the type survives when
the operands agree about it, and `AgreeingNode` says of one node that they do.

A coalesce may also have a first side that is an object. Then its type is that
of the second side, and it survives as long as the first side does not fold to
a value: such a value would be the answer, and would stay an object.
`ConsistentNode` allows this case, and `OpenNode` excludes what goes wrong in
it.

The conditions are on nodes, and `Everywhere` asks them of a whole tree. Before
that come the inversion lemmas: what it means for a node to fold, stated once
as an equivalence, so that later proofs neither unfold `fold` nor walk through
its error cases.
-/

namespace Inquiry.Host

/-! ## What it means for a node to fold -/

theorem bind_eq_ok {α β : Type} {x : Except Error α} {f : α → Except Error β} {b : β} :
    (x >>= f) = .ok b ↔ ∃ a, x = .ok a ∧ f a = .ok b := by
  cases x with
  | error e => exact ⟨nofun, nofun⟩
  | ok a =>
      constructor
      · intro h
        exact ⟨a, rfl, h⟩
      · rintro ⟨_, hx, h⟩
        cases hx
        exact h

theorem map_eq_ok {α β : Type} {r : Except Error α} {f : α → β} {b : β} (h : r.map f = .ok b) :
    ∃ a, f a = b := by
  cases r with
  | error e => cases h
  | ok a =>
      cases h
      exact ⟨a, rfl⟩

namespace Expr

-- every lemma below needs the equations of the folding functions; here they are derived once
attribute [local simp] fold foldAll foldMembers

theorem fold_binary {l r e : Expr} {op : Operator} :
    (binary l op r).fold = .ok e ↔
      ∃ l', l.fold = .ok l' ∧ ∃ r', r.fold = .ok r' ∧
        foldBinary (op.type l.type r.type) l' op r' = .ok e := by
  rw [fold, bind_eq_ok]
  simp only [bind_eq_ok]

theorem fold_call {method : Method} {args : List Expr} {e : Expr} :
    (call method args).fold = .ok e ↔ ∃ as, foldAll args = .ok as ∧ call method as = e := by
  rw [fold, bind_eq_ok]
  simp only [Except.ok.injEq]

theorem fold_conditional {t y n e : Expr} :
    (conditional t y n).fold = .ok e ↔
      ∃ t', t.fold = .ok t' ∧ ∃ y', y.fold = .ok y' ∧ ∃ n', n.fold = .ok n' ∧
        foldConditional t' y' n' = e := by
  rw [fold, bind_eq_ok]
  simp only [bind_eq_ok, Except.ok.injEq]

theorem fold_constant {v : Value} {t : Ty} {e : Expr} :
    (constant v t).fold = .ok e ↔ constant v t = e := by
  rw [fold, Except.ok.injEq]

theorem fold_convert {x e : Expr} {t : Ty} :
    (convert x t).fold = .ok e ↔ ∃ x', x.fold = .ok x' ∧ foldConvert x' t = .ok e := by
  rw [fold, bind_eq_ok]

theorem fold_input {t : Ty} {e : Expr} : (input t).fold = .ok e ↔ input t = e := by
  rw [fold, Except.ok.injEq]

theorem fold_member {x e : Expr} {ref : MemberRef} {t : Ty} :
    (member x ref t).fold = .ok e ↔ ∃ x', x.fold = .ok x' ∧ member x' ref t = e := by
  rw [fold, bind_eq_ok]
  simp only [Except.ok.injEq]

theorem fold_construct {t : Ty} {ms : List (String × Expr)} {e : Expr} :
    (construct t ms).fold = .ok e ↔ ∃ ms', foldMembers ms = .ok ms' ∧ construct t ms' = e := by
  rw [fold, bind_eq_ok]
  simp only [Except.ok.injEq]

theorem fold_array {item : Ty} {xs : List Expr} {e : Expr} :
    (array item xs).fold = .ok e ↔ ∃ xs', foldAll xs = .ok xs' ∧ foldArray item xs' = e := by
  rw [fold, bind_eq_ok]
  simp only [Except.ok.injEq]

theorem fold_typeIs {x e : Expr} {record : Nat} :
    (typeIs x record).fold = .ok e ↔ ∃ x', x.fold = .ok x' ∧ typeIs x' record = e := by
  rw [fold, bind_eq_ok]
  simp only [Except.ok.injEq]

theorem fold_not {x e : Expr} :
    (Expr.not x).fold = .ok e ↔ ∃ x', x.fold = .ok x' ∧ foldNot x' = e := by
  rw [fold, bind_eq_ok]
  simp only [Except.ok.injEq]

theorem fold_negate {x e : Expr} :
    (negate x).fold = .ok e ↔ ∃ x', x.fold = .ok x' ∧ foldNegate x.type x' = .ok e := by
  rw [fold, bind_eq_ok]

end Expr

theorem foldAll_nil {es : List Expr} : foldAll [] = .ok es ↔ [] = es := by
  rw [foldAll, Except.ok.injEq]

theorem foldAll_cons {e : Expr} {rest es : List Expr} :
    foldAll (e :: rest) = .ok es ↔
      ∃ e', e.fold = .ok e' ∧ ∃ rest', foldAll rest = .ok rest' ∧ e' :: rest' = es := by
  rw [foldAll, bind_eq_ok]
  simp only [bind_eq_ok, Except.ok.injEq]

theorem foldMembers_nil {ms : List (String × Expr)} : foldMembers [] = .ok ms ↔ [] = ms := by
  rw [foldMembers, Except.ok.injEq]

theorem foldMembers_cons {name : String} {e : Expr} {rest ms : List (String × Expr)} :
    foldMembers ((name, e) :: rest) = .ok ms ↔
      ∃ e', e.fold = .ok e' ∧ ∃ rest', foldMembers rest = .ok rest' ∧ (name, e') :: rest' = ms := by
  rw [foldMembers, bind_eq_ok]
  simp only [bind_eq_ok, Except.ok.injEq]

/-! ## Conditions on every node -/

mutual

/-- Whether a condition holds of every node of an expression. -/
def Expr.Everywhere (P : Expr → Prop) : Expr → Prop
  | .binary lhs op rhs => P (.binary lhs op rhs) ∧ lhs.Everywhere P ∧ rhs.Everywhere P
  | .call method args => P (.call method args) ∧ everywhereAll P args
  | .conditional test yes no =>
      P (.conditional test yes no) ∧ test.Everywhere P ∧ yes.Everywhere P ∧ no.Everywhere P
  | .constant v type => P (.constant v type)
  | .convert operand type => P (.convert operand type) ∧ operand.Everywhere P
  | .input type => P (.input type)
  | .member base ref type => P (.member base ref type) ∧ base.Everywhere P
  | .construct type members => P (.construct type members) ∧ everywhereMembers P members
  | .array item items => P (.array item items) ∧ everywhereAll P items
  | .typeIs operand record => P (.typeIs operand record) ∧ operand.Everywhere P
  | .not operand => P (.not operand) ∧ operand.Everywhere P
  | .negate operand => P (.negate operand) ∧ operand.Everywhere P

/-- Whether a condition holds of every node of several expressions. -/
def everywhereAll (P : Expr → Prop) : List Expr → Prop
  | [] => True
  | e :: rest => e.Everywhere P ∧ everywhereAll P rest

/-- Whether a condition holds of every node of the members of a construction. -/
def everywhereMembers (P : Expr → Prop) : List (String × Expr) → Prop
  | [] => True
  | (_, e) :: rest => e.Everywhere P ∧ everywhereMembers P rest

end

mutual

theorem Expr.Everywhere.mono {P Q : Expr → Prop} (hPQ : ∀ e, P e → Q e) {e : Expr}
    (h : e.Everywhere P) : e.Everywhere Q := by
  match e with
  | .binary l op r =>
      obtain ⟨hnode, hl, hr⟩ := h
      exact ⟨hPQ _ hnode, hl.mono hPQ, hr.mono hPQ⟩
  | .conditional t y n =>
      obtain ⟨hnode, ht, hy, hn⟩ := h
      exact ⟨hPQ _ hnode, ht.mono hPQ, hy.mono hPQ, hn.mono hPQ⟩
  | .call _ es | .array _ es =>
      obtain ⟨hnode, hes⟩ := h
      exact ⟨hPQ _ hnode, everywhereAll_mono hPQ hes⟩
  | .construct _ ms =>
      obtain ⟨hnode, hms⟩ := h
      exact ⟨hPQ _ hnode, everywhereMembers_mono hPQ hms⟩
  | .convert x _ | .member x _ _ | .typeIs x _ | .not x | .negate x =>
      obtain ⟨hnode, hx⟩ := h
      exact ⟨hPQ _ hnode, hx.mono hPQ⟩
  | .constant _ _ | .input _ => exact hPQ _ h

theorem everywhereAll_mono {P Q : Expr → Prop} (hPQ : ∀ e, P e → Q e) {es : List Expr}
    (h : everywhereAll P es) : everywhereAll Q es := by
  match es with
  | [] => trivial
  | e :: rest => exact ⟨h.1.mono hPQ, everywhereAll_mono hPQ h.2⟩

theorem everywhereMembers_mono {P Q : Expr → Prop} (hPQ : ∀ e, P e → Q e)
    {ms : List (String × Expr)} (h : everywhereMembers P ms) : everywhereMembers Q ms := by
  match ms with
  | [] => trivial
  | (_, e) :: rest => exact ⟨h.1.mono hPQ, everywhereMembers_mono hPQ h.2⟩

end

theorem Expr.Everywhere.self {P : Expr → Prop} {e : Expr} (h : e.Everywhere P) : P e := by
  cases e with
  | constant _ _ | input _ => exact h
  | _ => exact h.1

mutual

theorem Expr.Everywhere.and {P Q : Expr → Prop} {e : Expr} (h : e.Everywhere P)
    (h' : e.Everywhere Q) : e.Everywhere fun x => P x ∧ Q x := by
  match e with
  | .binary l op r =>
      obtain ⟨hnode, hl, hr⟩ := h
      exact ⟨⟨hnode, h'.1⟩, hl.and h'.2.1, hr.and h'.2.2⟩
  | .conditional t y n =>
      obtain ⟨hnode, ht, hy, hn⟩ := h
      exact ⟨⟨hnode, h'.1⟩, ht.and h'.2.1, hy.and h'.2.2.1, hn.and h'.2.2.2⟩
  | .call _ es | .array _ es => exact ⟨⟨h.1, h'.1⟩, everywhereAll_and h.2 h'.2⟩
  | .construct _ ms => exact ⟨⟨h.1, h'.1⟩, everywhereMembers_and h.2 h'.2⟩
  | .convert x _ | .member x _ _ | .typeIs x _ | .not x | .negate x =>
      obtain ⟨hnode, hx⟩ := h
      exact ⟨⟨hnode, h'.1⟩, hx.and h'.2⟩
  | .constant _ _ | .input _ => exact ⟨h, h'⟩

theorem everywhereAll_and {P Q : Expr → Prop} {es : List Expr} (h : everywhereAll P es)
    (h' : everywhereAll Q es) : everywhereAll (fun x => P x ∧ Q x) es := by
  match es with
  | [] => trivial
  | e :: rest => exact ⟨h.1.and h'.1, everywhereAll_and h.2 h'.2⟩

theorem everywhereMembers_and {P Q : Expr → Prop} {ms : List (String × Expr)}
    (h : everywhereMembers P ms) (h' : everywhereMembers Q ms) :
    everywhereMembers (fun x => P x ∧ Q x) ms := by
  match ms with
  | [] => trivial
  | (_, e) :: rest => exact ⟨h.1.and h'.1, everywhereMembers_and h.2 h'.2⟩

end

mutual

/-- A condition on every node is a condition on every node of every part. -/
theorem Expr.Everywhere.parts {P : Expr → Prop} {e : Expr} (h : e.Everywhere P) :
    e.Everywhere fun x => x.Everywhere P := by
  match e with
  | .binary l op r => exact ⟨h, h.2.1.parts, h.2.2.parts⟩
  | .conditional t y n => exact ⟨h, h.2.1.parts, h.2.2.1.parts, h.2.2.2.parts⟩
  | .call _ es | .array _ es => exact ⟨h, everywhereAll_parts h.2⟩
  | .construct _ ms => exact ⟨h, everywhereMembers_parts h.2⟩
  | .convert x _ | .member x _ _ | .typeIs x _ | .not x | .negate x => exact ⟨h, h.2.parts⟩
  | .constant _ _ | .input _ => exact h

theorem everywhereAll_parts {P : Expr → Prop} {es : List Expr} (h : everywhereAll P es) :
    everywhereAll (fun x => x.Everywhere P) es := by
  match es with
  | [] => trivial
  | e :: rest => exact ⟨h.1.parts, everywhereAll_parts h.2⟩

theorem everywhereMembers_parts {P : Expr → Prop} {ms : List (String × Expr)}
    (h : everywhereMembers P ms) : everywhereMembers (fun x => x.Everywhere P) ms := by
  match ms with
  | [] => trivial
  | (_, e) :: rest => exact ⟨h.1.parts, everywhereMembers_parts h.2⟩

end

/-- Where folding may answer with an operand, the operands have one type: both
sides of a connective are conditions, and the branches of a conditional and the
sides of a coalesce agree. -/
def AgreeingNode : Expr → Prop
  | .binary lhs (.logic _) rhs => lhs.type = .bool ∧ rhs.type = .bool
  | .binary lhs .coalesce rhs => lhs.type = rhs.type
  | .conditional _ yes no => yes.type = no.type
  | _ => True

/-- The types of operands go together: both sides of a connective are
conditions, the branches of a conditional agree, and so do the sides of a
coalesce, unless the first one is an object. -/
def ConsistentNode : Expr → Prop
  | .binary lhs (.logic _) rhs => lhs.type = .bool ∧ rhs.type = .bool
  | .binary lhs .coalesce rhs => lhs.type = rhs.type ∨ lhs.type = .object
  | .conditional _ yes no => yes.type = no.type
  | _ => True

/-- The first side of a coalesce of two types does not fold to a value. -/
def OpenNode : Expr → Prop
  | .binary lhs .coalesce rhs =>
      lhs.type = rhs.type ∨ ∀ v t, lhs.fold = .ok (.constant v t) → v.isNull = true
  | _ => True

theorem AgreeingNode.consistent {e : Expr} (h : AgreeingNode e) : ConsistentNode e := by
  cases e with
  | binary l op r =>
      cases op with
      | coalesce => exact .inl h
      | logic op => exact h
      | _ => trivial
  | conditional t y n => exact h
  | _ => trivial

theorem AgreeingNode.isOpen {e : Expr} (h : AgreeingNode e) : OpenNode e := by
  cases e with
  | binary l op r =>
      cases op with
      | coalesce => exact .inl h
      | _ => trivial
  | _ => trivial

/-! ## The type of a folded node -/

theorem Operator.type_coalesce_self (t : Ty) : Operator.coalesce.type t t = t := by
  rw [Operator.type]
  split <;> rfl

theorem Operator.type_coalesce_object (t : Ty) : Operator.coalesce.type .object t = t := rfl

theorem foldLogic_type {l r : Expr} (op : Statement.Connective) (hl : l.type = .bool)
    (hr : r.type = .bool) : (foldLogic l op r).type = .bool := by
  rw [foldLogic]
  split
  · rfl
  · split
    · exact hr
    · split
      · exact hl
      · rfl

theorem foldCoalesce_type {l r : Expr} (h : l.type = r.type ∨ l.type = .object)
    (hopen : l.type = r.type ∨ ∀ v t, l = .constant v t → v.isNull = true) :
    (foldCoalesce l r).type = Operator.coalesce.type l.type r.type := by
  rw [foldCoalesce.eq_def]
  split
  · rcases h with h | h
    · rw [h, Operator.type_coalesce_self]
    · rw [h, Operator.type_coalesce_object]
  · next v t hnull =>
      rcases hopen with hsame | hopen
      · rw [hsame, Operator.type_coalesce_self, ← hsame]
      · have hv := hopen v t rfl
        cases v with
        | null => exact absurd rfl hnull
        | _ => cases hv
  · rfl

theorem foldRelation_type {l r e : Expr} {op : Statement.Relation}
    (h : foldRelation l (.relation op) r = .ok e) : e.type = .bool := by
  rw [foldRelation.eq_def] at h
  split at h
  · obtain ⟨result, _, h⟩ := bind_eq_ok.mp h
    cases h
    rfl
  · cases h
    rfl

theorem foldNumbers_type {t : Ty} {l r e : Expr} {op : Statement.Arith} {a b : Value}
    (hl : l.type = t) (h : foldNumbers t l (.arith op) r a b = .ok e) : e.type = t := by
  rw [foldNumbers.eq_def] at h
  split at h
  · obtain ⟨result, _, h⟩ := bind_eq_ok.mp h
    obtain ⟨v, _, h⟩ := bind_eq_ok.mp h
    cases h
    rfl
  · cases h
    exact hl

theorem foldArith_type {t : Ty} {l r e : Expr} {op : Statement.Arith} (hl : l.type = t)
    (h : foldArith t l (.arith op) r = .ok e) : e.type = t := by
  rw [foldArith.eq_def] at h
  split at h
  · split at h
    · cases h
      rfl
    · exact foldNumbers_type hl h
  · cases h
    exact hl

theorem foldConvert_type {x e : Expr} {t : Ty} (h : foldConvert x t = .ok e) : e.type = t := by
  rw [foldConvert.eq_def] at h
  split at h
  · split at h
    · obtain ⟨v, _, h⟩ := bind_eq_ok.mp h
      cases h
      rfl
    · cases h
      rfl
  · cases h
    rfl

theorem foldConditional_type {t y n : Expr} (h : y.type = n.type) :
    (foldConditional t y n).type = y.type := by
  rw [foldConditional.eq_def]
  split
  · rfl
  · exact h.symm
  · rfl

theorem foldArray_type (item : Ty) (xs : List Expr) : (foldArray item xs).type = .list item := by
  rw [foldArray]
  split <;> rfl

theorem foldNot_type (x : Expr) : (foldNot x).type = .bool := by
  rw [foldNot.eq_def]
  split <;> rfl

theorem foldNegate_type {t : Ty} {x e : Expr} (hx : x.type = t) (h : foldNegate t x = .ok e) :
    e.type = t := by
  rw [foldNegate.eq_def] at h
  split at h
  · obtain ⟨result, _, h⟩ := bind_eq_ok.mp h
    obtain ⟨v, _, h⟩ := bind_eq_ok.mp h
    cases h
    rfl
  · cases h
    exact hx

/-- Where the types of operands go together, and no coalesce of two types has a
value on its first side, a folded expression has the type of the expression. -/
theorem Expr.fold_type_of_open {e e' : Expr}
    (h : e.Everywhere fun x => ConsistentNode x ∧ OpenNode x) (hf : e.fold = .ok e') :
    e'.type = e.type := by
  match e with
  | .binary l op r =>
      obtain ⟨hnode, hl, hr⟩ := h
      obtain ⟨l', hl', r', hr', hf⟩ := fold_binary.mp hf
      have htl := fold_type_of_open hl hl'
      have htr := fold_type_of_open hr hr'
      cases op with
      | relation op => exact foldRelation_type hf
      | logic op =>
          rw [foldBinary_logic] at hf
          cases hf
          exact foldLogic_type op (htl.trans hnode.1.1) (htr.trans hnode.1.2)
      | arith op => exact foldArith_type htl hf
      | coalesce =>
          cases hf
          have hconsistent : l'.type = r'.type ∨ l'.type = .object := by
            rw [htl, htr]
            exact hnode.1
          have hopen : l'.type = r'.type ∨ ∀ v t, l' = .constant v t → v.isNull = true := by
            rw [htl, htr]
            exact hnode.2.imp_right fun hopen v t heq => hopen v t (heq ▸ hl')
          rw [foldCoalesce_type hconsistent hopen, htl, htr]
          rfl
  | .call method args =>
      obtain ⟨as, _, rfl⟩ := fold_call.mp hf
      rfl
  | .conditional t y n =>
      obtain ⟨hnode, _, hy, hn⟩ := h
      obtain ⟨t', _, y', hy', n', hn', rfl⟩ := fold_conditional.mp hf
      have hty := fold_type_of_open hy hy'
      have htn := fold_type_of_open hn hn'
      have hsame : y.type = n.type := hnode.1
      rw [foldConditional_type (by rw [hty, htn, hsame]), hty]
      rfl
  | .constant v t =>
      rw [← fold_constant.mp hf]
  | .convert x t =>
      obtain ⟨x', _, hf⟩ := fold_convert.mp hf
      exact foldConvert_type hf
  | .input t =>
      rw [← fold_input.mp hf]
  | .member x ref t =>
      obtain ⟨x', _, rfl⟩ := fold_member.mp hf
      rfl
  | .construct t ms =>
      obtain ⟨ms', _, rfl⟩ := fold_construct.mp hf
      rfl
  | .array item xs =>
      obtain ⟨xs', _, rfl⟩ := fold_array.mp hf
      exact foldArray_type item xs'
  | .typeIs x record =>
      obtain ⟨x', _, rfl⟩ := fold_typeIs.mp hf
      rfl
  | .not x =>
      obtain ⟨x', _, rfl⟩ := fold_not.mp hf
      exact foldNot_type x'
  | .negate x =>
      obtain ⟨_, hx⟩ := h
      obtain ⟨x', hx', hf⟩ := fold_negate.mp hf
      have htx := fold_type_of_open hx hx'
      exact foldNegate_type htx hf

/-- Where the operands agree about their types, a folded expression has the
type of the expression. -/
theorem Expr.fold_type {e e' : Expr} (h : e.Everywhere AgreeingNode) (hf : e.fold = .ok e') :
    e'.type = e.type :=
  fold_type_of_open (h.mono fun _ h => ⟨h.consistent, h.isOpen⟩) hf

end Inquiry.Host
