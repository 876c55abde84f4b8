import Inquiry.Proofs.ReferenceScan
import Mathlib.Data.List.Basic

/-!
# The references of a statement, as it is written

A statement lists the parameters to which it refers, and its text has a
reference for each of them. Two walks over the statement decide what that comes
to: one visits every part once, and the other writes the parts into the text.
They go through the parts of a node in the same order, and for almost every
node as often.

The exception is a group of columns. Its table is visited once, but it stands
in the text in front of every field of the group: a table that refers to a
parameter is written as often as the group has fields. `Expr.written` lists the
references with these repetitions. It is what the text of any statement spells,
and it is the list of parameters where no group repeats its table.

Statements are arbitrary here, and so are the constants in them; only names of
fields, tables and parameters have to be such that the scan can tell them.
-/

namespace Inquiry.Statement

open Compiler (asciiWords)

/-! ## Properties of every part -/

mutual

/-- Every expression in an expression has one property, and every condition in
it another. -/
def Expr.Everywhere (P : Expr → Prop) (Q : Condition → Prop) : Expr → Prop
  | .aggregate f x => P (.aggregate f x) ∧ x.Everywhere P Q
  | .allColumns => P .allColumns
  | .arith op l r => P (.arith op l r) ∧ l.Everywhere P Q ∧ r.Everywhere P Q
  | .case bs d => P (.case bs d) ∧ everywhereBranches P Q bs ∧ d.Everywhere P Q
  | .cast x t => P (.cast x t) ∧ x.Everywhere P Q
  | .columnGroup t ns => P (.columnGroup t ns) ∧ t.Everywhere P Q
  | .count x distinct => P (.count x distinct) ∧ x.Everywhere P Q
  | .countRows distinct => P (.countRows distinct)
  | .defaultTable => P .defaultTable
  | .field t n => P (.field t n) ∧ t.Everywhere P Q
  | .call f es => P (.call f es) ∧ everywhereAll P Q es
  | .literal l => P (.literal l)
  | .negate x => P (.negate x) ∧ x.Everywhere P Q
  | .param n => P (.param n)

/-- Every expression in a condition has one property, and every condition in it
another. -/
def Condition.Everywhere (P : Expr → Prop) (Q : Condition → Prop) : Condition → Prop
  | .between x a b positive =>
      Q (.between x a b positive) ∧ x.Everywhere P Q ∧ a.Everywhere P Q ∧ b.Everywhere P Q
  | .inList x vs positive hierarchy =>
      Q (.inList x vs positive hierarchy) ∧ x.Everywhere P Q ∧ everywhereAll P Q vs
  | .isNull x positive => Q (.isNull x positive) ∧ x.Everywhere P Q
  | .like x pattern escape positive => Q (.like x pattern escape positive) ∧ x.Everywhere P Q
  | .logic l op r => Q (.logic l op r) ∧ l.Everywhere P Q ∧ r.Everywhere P Q
  | .not c => Q (.not c) ∧ c.Everywhere P Q
  | .refs x table => Q (.refs x table) ∧ x.Everywhere P Q
  | .relation l op r => Q (.relation l op r) ∧ l.Everywhere P Q ∧ r.Everywhere P Q

def everywhereAll (P : Expr → Prop) (Q : Condition → Prop) : List Expr → Prop
  | [] => True
  | e :: rest => e.Everywhere P Q ∧ everywhereAll P Q rest

def everywhereBranches (P : Expr → Prop) (Q : Condition → Prop) :
    List (Condition × Expr) → Prop
  | [] => True
  | (test, value) :: rest =>
      test.Everywhere P Q ∧ value.Everywhere P Q ∧ everywhereBranches P Q rest

end

/-- Every expression in a query has one property, and every condition in it
another. -/
structure Query.Everywhere (P : Expr → Prop) (Q : Condition → Prop) (q : Query) : Prop where
  columns : ∀ e ∈ q.select.columns, e.Everywhere P Q
  filter : ∀ c, q.filter = some c → c.Everywhere P Q
  order : ∀ keys, q.order = some keys → ∀ k ∈ keys, k.expr.Everywhere P Q

section

variable {P P' : Expr → Prop} {Q Q' : Condition → Prop}

mutual

theorem Expr.Everywhere.mono {e : Expr} (h : e.Everywhere P Q)
    (hP : ∀ x, P x → P' x) (hQ : ∀ c, Q c → Q' c) : e.Everywhere P' Q' := by
  match e with
  | .aggregate _ _ | .cast _ _ | .columnGroup _ _ | .count _ _ | .field _ _ | .negate _ =>
      exact ⟨hP _ h.1, h.2.mono hP hQ⟩
  | .arith _ _ _ => exact ⟨hP _ h.1, h.2.1.mono hP hQ, h.2.2.mono hP hQ⟩
  | .case _ _ => exact ⟨hP _ h.1, everywhereBranches_mono h.2.1 hP hQ, h.2.2.mono hP hQ⟩
  | .call _ _ => exact ⟨hP _ h.1, everywhereAll_mono h.2 hP hQ⟩
  | .allColumns | .countRows _ | .defaultTable | .literal _ | .param _ => exact hP _ h

theorem Condition.Everywhere.mono {c : Condition} (h : c.Everywhere P Q)
    (hP : ∀ x, P x → P' x) (hQ : ∀ c, Q c → Q' c) : c.Everywhere P' Q' := by
  match c with
  | .between _ _ _ _ =>
      exact ⟨hQ _ h.1, h.2.1.mono hP hQ, h.2.2.1.mono hP hQ, h.2.2.2.mono hP hQ⟩
  | .inList _ _ _ _ => exact ⟨hQ _ h.1, h.2.1.mono hP hQ, everywhereAll_mono h.2.2 hP hQ⟩
  | .isNull _ _ | .like _ _ _ _ | .not _ | .refs _ _ => exact ⟨hQ _ h.1, h.2.mono hP hQ⟩
  | .logic _ _ _ | .relation _ _ _ =>
      exact ⟨hQ _ h.1, h.2.1.mono hP hQ, h.2.2.mono hP hQ⟩

theorem everywhereAll_mono {es : List Expr} (h : everywhereAll P Q es)
    (hP : ∀ x, P x → P' x) (hQ : ∀ c, Q c → Q' c) : everywhereAll P' Q' es := by
  match es with
  | [] => trivial
  | _ :: _ => exact ⟨h.1.mono hP hQ, everywhereAll_mono h.2 hP hQ⟩

theorem everywhereBranches_mono {bs : List (Condition × Expr)} (h : everywhereBranches P Q bs)
    (hP : ∀ x, P x → P' x) (hQ : ∀ c, Q c → Q' c) : everywhereBranches P' Q' bs := by
  match bs with
  | [] => trivial
  | (_, _) :: _ =>
      exact ⟨h.1.mono hP hQ, h.2.1.mono hP hQ, everywhereBranches_mono h.2.2 hP hQ⟩

end

theorem everywhereAll_iff {es : List Expr} :
    everywhereAll P Q es ↔ ∀ e ∈ es, e.Everywhere P Q := by
  induction es with
  | nil => simp [everywhereAll]
  | cons e es ih => simp [everywhereAll, ih]

theorem Query.Everywhere.mono {q : Query} (h : q.Everywhere P Q)
    (hP : ∀ x, P x → P' x) (hQ : ∀ c, Q c → Q' c) : q.Everywhere P' Q' where
  columns e he := (h.columns e he).mono hP hQ
  filter c hc := (h.filter c hc).mono hP hQ
  order keys hkeys k hk := (h.order keys hkeys k hk).mono hP hQ

end

/-- The names of fields and tables that an expression has itself. -/
def NamedNode (named : String → Prop) : Expr → Prop
  | .cast _ type => type.Named named
  | .columnGroup _ fields => ∀ field ∈ fields, named field.text
  | .field _ name => named name.text
  | _ => True

/-- The name of the table that a condition has itself. -/
def NamedTest (named : String → Prop) : Condition → Prop
  | .refs _ table => named table
  | _ => True

/-- A group of columns does not repeat the parameters of its table, or leave
them out. -/
def GroupedOnce : Expr → Prop
  | .columnGroup table fields => table.params = [] ∨ fields.length = 1
  | _ => True

/-! ## The references that are written -/

mutual

/-- The references of an expression, as often as they are written. -/
def Expr.written : Expr → List Name
  | .aggregate _ operand => operand.written
  | .allColumns => []
  | .arith _ lhs rhs => lhs.written ++ rhs.written
  | .case branches default => writtenBranches branches ++ default.written
  | .cast operand _ => operand.written
  | .columnGroup table fields => fields.flatMap fun _ => table.written
  | .count operand _ => operand.written
  | .countRows _ => []
  | .defaultTable => []
  | .field table _ => table.written
  | .call _ args => writtenAll args
  | .literal _ => []
  | .negate operand => operand.written
  | .param name => [name]

/-- The references of a condition, as often as they are written. -/
def Condition.written : Condition → List Name
  | .between operand start stop _ => operand.written ++ start.written ++ stop.written
  | .inList operand values _ _ => operand.written ++ writtenAll values
  | .isNull operand _ => operand.written
  | .like operand _ _ _ => operand.written
  | .logic lhs _ rhs => lhs.written ++ rhs.written
  | .not operand => operand.written
  | .refs operand _ => operand.written
  | .relation lhs _ rhs => lhs.written ++ rhs.written

def writtenAll : List Expr → List Name
  | [] => []
  | e :: rest => e.written ++ writtenAll rest

def writtenBranches : List (Condition × Expr) → List Name
  | [] => []
  | (test, value) :: rest => test.written ++ value.written ++ writtenBranches rest

end

def Query.written (q : Query) : List Name :=
  writtenAll q.select.columns ++ (q.filter.map Condition.written).getD [] ++
    (q.order.getD []).flatMap fun k => k.expr.written

theorem writtenAll_eq (es : List Expr) : writtenAll es = es.flatMap Expr.written := by
  induction es with
  | nil => rfl
  | cons e es ih => rw [writtenAll, ih, List.flatMap_cons]

/-- A group writes what its table refers to exactly once if it has one field, or
if its table refers to nothing. -/
theorem Expr.written_columnGroup {table : Expr} {fields : List Name}
    (h : table.written = table.params) :
    (columnGroup table fields).written = (columnGroup table fields).params ↔
      table.params = [] ∨ fields.length = 1 := by
  rw [Expr.written, h, params_columnGroup]
  constructor
  · intro heq
    have hlength := congrArg List.length heq
    rw [List.length_flatMap, List.map_const', List.sum_replicate_nat] at hlength
    rcases Nat.eq_zero_or_pos table.params.length with hzero | hpos
    · exact .inl (List.eq_nil_of_length_eq_zero hzero)
    · exact .inr (Nat.eq_of_mul_eq_mul_right hpos (by omega))
  · rintro (hnone | hone)
    · simp [hnone]
    · obtain ⟨field, rfl⟩ := List.length_eq_one_iff.mp hone
      exact List.flatMap_singleton ..

mutual

/-- Where no group repeats its table, every reference is written once. -/
theorem Expr.written_eq_params {Q : Condition → Prop} (e : Expr)
    (h : e.Everywhere GroupedOnce Q) : e.written = e.params := by
  match e with
  | .aggregate _ x | .cast x _ | .count x _ | .field x _ | .negate x =>
      exact x.written_eq_params h.2
  | .arith _ l r =>
      rw [Expr.written, l.written_eq_params h.2.1, r.written_eq_params h.2.2, Expr.params_arith]
  | .case bs d =>
      rw [Expr.written, writtenBranches_eq_params bs h.2.1, d.written_eq_params h.2.2,
        Expr.params_case]
  | .columnGroup t ns => exact (Expr.written_columnGroup (t.written_eq_params h.2)).mpr h.1
  | .call _ es => rw [Expr.written, writtenAll_eq_params es h.2, Expr.params_call]
  | .allColumns | .countRows _ | .defaultTable | .literal _ | .param _ => rfl

theorem Condition.written_eq_params {Q : Condition → Prop} (c : Condition)
    (h : c.Everywhere GroupedOnce Q) : c.written = c.params := by
  match c with
  | .between x a b _ =>
      rw [Condition.written, x.written_eq_params h.2.1, a.written_eq_params h.2.2.1,
        b.written_eq_params h.2.2.2, Condition.params_between]
  | .inList x vs _ _ =>
      rw [Condition.written, x.written_eq_params h.2.1, writtenAll_eq_params vs h.2.2,
        Condition.params_inList]
  | .isNull x _ | .like x _ _ _ | .refs x _ => exact x.written_eq_params h.2
  | .logic l _ r =>
      rw [Condition.written, l.written_eq_params h.2.1, r.written_eq_params h.2.2,
        Condition.params_logic]
  | .not c => exact c.written_eq_params h.2
  | .relation l _ r =>
      rw [Condition.written, l.written_eq_params h.2.1, r.written_eq_params h.2.2,
        Condition.params_relation]

theorem writtenAll_eq_params {Q : Condition → Prop} (es : List Expr)
    (h : everywhereAll GroupedOnce Q es) : writtenAll es = es.flatMap Expr.params := by
  match es with
  | [] => rfl
  | e :: rest =>
      rw [writtenAll, e.written_eq_params h.1, writtenAll_eq_params rest h.2, List.flatMap_cons]

theorem writtenBranches_eq_params {Q : Condition → Prop} (bs : List (Condition × Expr))
    (h : everywhereBranches GroupedOnce Q bs) :
    writtenBranches bs = bs.flatMap fun b => b.1.params ++ b.2.params := by
  match bs with
  | [] => rfl
  | (test, value) :: rest =>
      rw [writtenBranches, test.written_eq_params h.1, value.written_eq_params h.2.1,
        writtenBranches_eq_params rest h.2.2, List.flatMap_cons]

end

theorem Query.written_eq_params {Q : Condition → Prop} {q : Query}
    (h : q.Everywhere GroupedOnce Q) : q.written = q.params := by
  have hcolumns := writtenAll_eq_params q.select.columns (everywhereAll_iff.mpr h.columns)
  have hfilter : (q.filter.map Condition.written).getD [] =
      (q.filter.map Condition.params).getD [] := by
    cases hc : q.filter with
    | none => rfl
    | some c => exact c.written_eq_params (h.filter c hc)
  have horder : ((q.order.getD []).flatMap fun k => k.expr.written) =
      (q.order.getD []).flatMap fun k => k.expr.params := by
    cases hk : q.order with
    | none => rfl
    | some keys =>
        exact List.flatMap_congr fun k hmem => k.expr.written_eq_params (h.order keys hk k hmem)
  rw [Query.written, Query.params_eq, hcolumns, hfilter, horder]

section

variable {w : WordChars}

/-! ## The text spells what is written -/

/-- A field is spelled behind the text of its table, or alone. -/
theorem Spells.qualified {table : Expr} {name : Name}
    (h : Spells w table.render (table.written.map Name.text)) (hname : Clean name.text) :
    Spells w (qualified table table.render name) (table.written.map Name.text) := by
  rw [Statement.qualified]
  split
  · next hdefault =>
      cases table with
      | defaultTable => exact Spells.clean hname
      | _ => cases hdefault
  · -- a point ends the text of the table, which may end in a reference
    exact (((h.grouped table.hasSpaces).sealed (by decide)).fixed hname).spells

mutual

/-- The text of an expression spells the references that are written in it. -/
theorem Expr.spells_written {e : Expr} (h : e.Everywhere (NamedNode Clean) (NamedTest Clean))
    (hp : Runs w e.params) : Spells w e.render (e.written.map Name.text) := by
  match e with
  | .aggregate func x =>
      have hword : Clean func.text := by cases func <;> decide
      have hx := (x.spells_written h.2 hp).after (hword.append (u := "(") (by decide))
      rw [Expr.render]
      exact (hx.sealed (by decide)).spells
  | .allColumns => exact Spells.clean (t := "*") (by decide)
  | .arith op l r =>
      rw [Expr.params_arith, runs_append] at hp
      have hl := (l.spells_written h.2.1 hp.1).after (u := "(") (by decide)
      have htoken : Clean op.token := by cases op <;> decide
      rw [Expr.render, Expr.written, List.map_append]
      exact ((((hl.sealed (by decide)).fixed htoken).fixed (by decide)).followed
        (r.spells_written h.2.2 hp.2)).sealed (by decide) |>.spells
  | .case branches default =>
      rw [Expr.params_case, runs_append] at hp
      have hbranches := branches_spell_written h.2.1 hp.1
        (Spells.clean (t := "CASE") (by decide))
      rw [Expr.render, Expr.written, List.map_append]
      exact ((hbranches.sealed (by decide)).followed
        (default.spells_written h.2.2 hp.2)).sealed (by decide) |>.spells
  | .cast operand type =>
      have hx := (operand.spells_written h.2 hp).after (u := "CAST(") (by decide)
      rw [Expr.render]
      exact (((hx.sealed (by decide)).fixed (CastType.clean_render h.1)).fixed (by decide)).spells
  | .columnGroup table fields =>
      have hfields : Spells w (commas (fields.map (qualified table table.render)))
          (fields.flatMap fun _ => table.written.map Name.text) :=
        Spells.commas fun name hname => (table.spells_written h.2 hp).qualified (h.1 name hname)
      rw [Expr.render, Expr.written, List.map_flatMap]
      exact ((hfields.after (by decide)).sealed (by decide)).spells
  | .count operand distinct =>
      have hword : Clean (if distinct then "COUNT(DISTINCT " else "COUNT(") := by
        cases distinct <;> decide
      rw [Expr.render]
      exact (((operand.spells_written h.2 hp).after hword).sealed (by decide)).spells
  | .countRows _ => exact Spells.clean (t := "COUNT(*)") (by decide)
  | .defaultTable => exact Spells.clean (t := "") (by decide)
  | .field table name =>
      rw [Expr.render, Expr.written]
      exact (table.spells_written h.2 hp).qualified h.1
  | .call func args =>
      rw [Expr.params_call] at hp
      have hfunc : Clean func.text := by cases func <;> decide
      have hargs := Spells.commas (all_spell_written h.2 hp)
      rw [Expr.render, Expr.written, writtenAll_eq, List.map_flatMap, renderAll_eq_map]
      exact ((hargs.after (hfunc.append (by decide))).sealed (by decide)).spells
  | .literal l =>
      rw [Expr.render]
      exact l.seals.spells
  | .negate operand =>
      rw [Expr.render]
      exact ((operand.spells_written h.2 hp).grouped _).after (by decide)
  | .param name =>
      rw [Expr.render]
      exact Spells.reference (hp name List.mem_cons_self)

/-- The text of a condition spells the references that are written in it. -/
theorem Condition.spells_written {c : Condition}
    (h : c.Everywhere (NamedNode Clean) (NamedTest Clean)) (hp : Runs w c.params) :
    Spells w c.render (c.written.map Name.text) := by
  match c with
  | .between x a b positive =>
      rw [Condition.params_between, runs_append, runs_append] at hp
      have hx := ((x.spells_written h.2.1 hp.1.1).grouped x.hasSpaces).negation positive
      have ha := (a.spells_written h.2.2.1 hp.1.2).grouped a.hasSpaces
      have hb := (b.spells_written h.2.2.2 hp.2).grouped b.hasSpaces
      rw [Condition.render, Condition.written, List.map_append, List.map_append]
      exact (((hx.sealed (by decide)).followed ha).sealed (by decide)).followed hb
  | .inList x values positive hierarchy =>
      rw [Condition.params_inList, runs_append] at hp
      have hx := ((x.spells_written h.2.1 hp.1).grouped x.hasSpaces).negation positive
      have hword : Clean (if hierarchy then "HIERARCHY " else "") := by cases hierarchy <;> decide
      have hvalues := Spells.commas (all_spell_written h.2.2 hp.2)
      rw [Condition.render, Condition.written, writtenAll_eq, List.map_append, List.map_flatMap,
        renderAll_eq_map]
      exact ((((hx.sealed (by decide)).fixed hword).fixed (by decide)).followed hvalues).sealed
        (by decide) |>.spells
  | .isNull x positive =>
      have hx := (x.spells_written h.2 hp).grouped x.hasSpaces
      rw [Condition.render]
      cases positive with
      | true => exact (hx.sealed (by decide)).spells
      | false => exact (hx.sealed (by decide)).spells
  | .like x pattern escape positive =>
      have hx := ((x.spells_written h.2 hp).grouped x.hasSpaces).negation positive
      have hpattern := (hx.sealed (u := " LIKE ") (by decide)).append (Seals.quote pattern)
      rw [List.append_nil] at hpattern
      cases escape with
      | none =>
          rw [Condition.render]
          exact (hpattern.fixed (by decide)).spells
      | some c =>
          rw [Condition.render]
          have hescape : Seals w (" ESCAPE " ++ Text.quote (String.ofList [c])) [] :=
            (Seals.clean (by decide)).append (Seals.quote _)
          have happend := hpattern.append hescape
          rw [List.append_nil] at happend
          exact happend.spells
  | .logic l op r =>
      rw [Condition.params_logic, runs_append] at hp
      have hl := (l.spells_written h.2.1 hp.1).grouped l.hasSpaces
      have hr := (r.spells_written h.2.2 hp.2).grouped r.hasSpaces
      have hword : Clean op.keyword := by cases op <;> decide
      rw [Condition.render, Condition.written, List.map_append]
      exact (((hl.sealed (by decide)).fixed hword).fixed (by decide)).followed hr
  | .not operand =>
      rw [Condition.render]
      exact ((operand.spells_written h.2 hp).grouped _).after (by decide)
  | .refs x table =>
      have hx := (x.spells_written h.2 hp).grouped x.hasSpaces
      rw [Condition.render]
      exact ((hx.sealed (by decide)).fixed h.1).spells
  | .relation l op r =>
      rw [Condition.params_relation, runs_append] at hp
      have hl := (l.spells_written h.2.1 hp.1).grouped l.hasSpaces
      have hr := (r.spells_written h.2.2 hp.2).grouped r.hasSpaces
      have hword : Clean op.token := by cases op <;> decide
      rw [Condition.render, Condition.written, List.map_append]
      exact (((hl.sealed (by decide)).fixed hword).fixed (by decide)).followed hr

theorem all_spell_written {es : List Expr}
    (h : everywhereAll (NamedNode Clean) (NamedTest Clean) es)
    (hp : Runs w (es.flatMap Expr.params)) :
    ∀ e ∈ es, Spells w e.render (e.written.map Name.text) := by
  match es with
  | [] => exact nofun
  | e :: rest =>
      rw [List.flatMap_cons, runs_append] at hp
      have he := e.spells_written h.1 hp.1
      have hrest := all_spell_written h.2 hp.2
      intro d hd
      rcases List.mem_cons.mp hd with rfl | hd
      · exact he
      · exact hrest d hd

/-- The branches of a CASE continue the text before them. -/
theorem branches_spell_written {bs : List (Condition × Expr)}
    (h : everywhereBranches (NamedNode Clean) (NamedTest Clean) bs)
    (hp : Runs w (bs.flatMap fun b => b.1.params ++ b.2.params)) {t : String}
    {names : List String} (ht : Spells w t names) :
    Spells w (t ++ renderBranches bs) (names ++ (writtenBranches bs).map Name.text) := by
  match bs with
  | [] =>
      rw [renderBranches, String.append_empty]
      exact (List.append_nil names).symm ▸ ht
  | (test, value) :: rest =>
      rw [List.flatMap_cons, runs_append, runs_append] at hp
      have htest := (ht.sealed (u := " WHEN ") (by decide)).followed
        (test.spells_written h.1 hp.1.1)
      have hvalue := (htest.sealed (u := " THEN ") (by decide)).followed
        (value.spells_written h.2.1 hp.1.2)
      have hrest := branches_spell_written h.2.2 hp.2 hvalue
      rw [renderBranches, writtenBranches, List.map_append, List.map_append]
      simpa only [String.append_assoc, List.append_assoc] using hrest

end

/-! ## Queries -/

theorem Select.clean_modifiers (s : Select) : Clean s.modifiers := by
  obtain ⟨columns, distinct, top⟩ := s
  have hdistinct : Clean (clause "DISTINCT " ((mark distinct).map fun _ => "")) := by
    cases distinct <;> decide
  refine hdistinct.append ?_
  cases top with
  | none => exact (by decide : Clean "")
  | some n => exact Clean.append (by decide) ((clean_nat n).append (by decide))

theorem SortKey.spells_written {k : SortKey}
    (h : k.expr.Everywhere (NamedNode Clean) (NamedTest Clean)) (hp : Runs w k.expr.params) :
    Spells w k.render (k.expr.written.map Name.text) := by
  obtain ⟨e, direction⟩ := k
  have he := e.spells_written h hp
  cases direction with
  | ascending => exact he.empty
  | descending => exact (he.sealed (u := " DESC") (by decide)).spells

theorem Query.written_text (q : Query) :
    q.written.map Name.text = (q.select.columns.flatMap fun e => e.written.map Name.text) ++
      (q.filter.map fun c => c.written.map Name.text).getD [] ++
      (q.order.map fun keys => keys.flatMap fun k => k.expr.written.map Name.text).getD [] := by
  rw [Query.written, writtenAll_eq]
  cases q.filter <;> cases q.order <;> simp [List.map_flatMap]

/-- The text of a query spells the references that are written in it: first
those of its columns, then those of its condition, then those of its sort keys. -/
theorem Query.spells_written {q : Query} (h : q.Everywhere (NamedNode Clean) (NamedTest Clean))
    (hsource : ∀ name, q.source = some name → Clean name) (hp : Runs w q.params) :
    Spells w q.render (q.written.map Name.text) := by
  rw [Query.params_eq, runs_append, runs_append] at hp
  obtain ⟨⟨hpcolumns, hpfilter⟩, hporder⟩ := hp
  have hselect : Spells w q.select.render
      (q.select.columns.flatMap fun e => e.written.map Name.text) := by
    have hcolumns := Spells.commas
      (all_spell_written (everywhereAll_iff.mpr h.columns) hpcolumns)
    rw [Select.render_eq, renderAll_eq_map]
    exact (hcolumns.after q.select.clean_modifiers).after (by decide)
  have hfrom : Spells w (q.select.render ++ clause " FROM " q.source)
      (q.select.columns.flatMap fun e => e.written.map Name.text) := by
    cases hname : q.source with
    | none => exact hselect.empty
    | some name =>
        rw [clause, ← String.append_assoc]
        exact ((hselect.sealed (by decide)).fixed (hsource name hname)).spells
  have hfilter : ∀ c, q.filter = some c → Spells w c.render (c.written.map Name.text) := by
    intro c hc
    rw [hc] at hpfilter
    exact c.spells_written (h.filter c hc) hpfilter
  have horder : ∀ keys, q.order = some keys → Spells w (commas (keys.map SortKey.render))
      (keys.flatMap fun k => k.expr.written.map Name.text) := by
    intro keys hkeys
    rw [hkeys] at hporder
    refine Spells.commas fun k hk => SortKey.spells_written (h.order keys hkeys k hk) ?_
    exact fun n hn => hporder n (List.mem_flatMap.mpr ⟨k, hk, hn⟩)
  rw [Query.render_eq, Query.written_text]
  exact (hfrom.clause (by decide) hfilter).clause (by decide) horder

end

/-- The references in the text of a statement are those that are written in it,
whatever its constants are. They are its parameters, each as often and in the
order in which it lists them, if no group of columns repeats its table. -/
theorem render_references (w : WordChars) :
    (∀ q : Query, q.Everywhere (NamedNode Clean) (NamedTest Clean) →
      (∀ name, q.source = some name → Clean name) → Runs w q.params →
      references w false q.render.toList = q.written.map Name.text ∧
        (q.Everywhere GroupedOnce (fun _ => True) →
          references w false q.render.toList = q.params.map Name.text)) ∧
    ∀ c : Condition, c.Everywhere (NamedNode Clean) (NamedTest Clean) → Runs w c.params →
      references w false c.render.toList = c.written.map Name.text ∧
        (c.Everywhere GroupedOnce (fun _ => True) →
          references w false c.render.toList = c.params.map Name.text) := by
  constructor
  · intro q hnamed hsource hruns
    have hspells := Query.spells_written hnamed hsource hruns
    refine ⟨hspells.references_eq, fun honce => ?_⟩
    rw [hspells.references_eq, Query.written_eq_params honce]
  · intro c hnamed hruns
    have hspells := Condition.spells_written hnamed hruns
    refine ⟨hspells.references_eq, fun honce => ?_⟩
    rw [hspells.references_eq, c.written_eq_params honce]

/-- Fields of a good that a parameter refers to, with what looks like a
reference in a pattern. -/
def keyedGoods (fields : List Name) : Query where
  select := ⟨[.columnGroup (.param ⟨"key"⟩) fields], false, none⟩
  source := some "Catalog.Goods"
  filter := some (.logic (.like (.field .defaultTable ⟨"Name"⟩) "\"&p9" (some '&') true) .and
    (.refs (.param ⟨"item"⟩) "Catalog.Goods"))
  order := some [⟨.param ⟨"rank"⟩, .descending⟩]

theorem keyedGoods_named {fields : List Name} (h : ∀ field ∈ fields, Clean field.text) :
    (keyedGoods fields).Everywhere (NamedNode Clean) (NamedTest Clean) := by
  constructor
  · intro e he
    cases List.mem_singleton.mp he
    exact ⟨h, trivial⟩
  · intro c hc
    cases hc
    exact ⟨trivial, ⟨trivial, (by decide : Clean "Name"), trivial⟩,
      (by decide : Clean "Catalog.Goods"), trivial⟩
  · intro keys hkeys k hk
    cases hkeys
    cases List.mem_singleton.mp hk
    exact trivial

theorem keyedGoods_source {fields : List Name} (name : String)
    (h : (keyedGoods fields).source = some name) : Clean name := by
  cases h
  decide

theorem keyedGoods_runs (fields : List Name) : Runs asciiWords (keyedGoods fields).params := by
  show ∀ n ∈ [⟨"key"⟩, ⟨"item"⟩, ⟨"rank"⟩], IsRun asciiWords (Name.text n)
  decide

/-- One field of the good: its key is written once. -/
theorem render_references_keyedGoods :
    references asciiWords false (keyedGoods [⟨"Code"⟩]).render.toList =
      ["key", "item", "rank"] := by
  have hnamed : (keyedGoods [⟨"Code"⟩]).Everywhere (NamedNode Clean) (NamedTest Clean) :=
    keyedGoods_named (by decide)
  have honce : (keyedGoods [⟨"Code"⟩]).Everywhere GroupedOnce fun _ => True := by
    constructor
    · intro e he
      cases List.mem_singleton.mp he
      exact ⟨.inr rfl, trivial⟩
    · intro c hc
      cases hc
      exact ⟨trivial, ⟨trivial, trivial, trivial⟩, trivial, trivial⟩
    · intro keys hkeys k hk
      cases hkeys
      cases List.mem_singleton.mp hk
      exact trivial
  exact ((render_references asciiWords).1 _ hnamed keyedGoods_source (keyedGoods_runs _)).2 honce

/-- Two fields of the good: its key is written twice, and listed once. -/
theorem keyedGoods_repeats_key :
    (keyedGoods [⟨"Code"⟩, ⟨"Name"⟩]).render =
        "SELECT (&key.Code, &key.Name) FROM Catalog.Goods WHERE (Name LIKE \"\"\"&p9\" " ++
          "ESCAPE \"&\") AND (&item REFS Catalog.Goods) ORDER BY &rank DESC" ∧
      references asciiWords false (keyedGoods [⟨"Code"⟩, ⟨"Name"⟩]).render.toList =
        ["key", "key", "item", "rank"] ∧
      (keyedGoods [⟨"Code"⟩, ⟨"Name"⟩]).params.map Name.text = ["key", "item", "rank"] := by
  have hnamed : (keyedGoods [⟨"Code"⟩, ⟨"Name"⟩]).Everywhere (NamedNode Clean) (NamedTest Clean) :=
    keyedGoods_named (by decide)
  have hspells := Query.spells_written hnamed keyedGoods_source (keyedGoods_runs _)
  exact ⟨by decide +kernel, hspells.references_eq, rfl⟩

end Inquiry.Statement
