import Inquiry.Proofs.CompiledForm
import Inquiry.Proofs.Placement
import Mathlib.Data.List.Forall2

/-!
# Readers go with their columns

A projection is lowered into columns and a reader at once: every column gets a
place in the row, and the reader takes the value at that place. The places are
given out in one loop, so the reader is known as soon as the folded projection
is, and `Reader.ofProjection` says which one it is. Nothing else about lowering
is needed to see what happens to a row. The columns themselves are written with
literals, so none depends on what its neighbours have registered: each is what
its own part of the projection is lowered to, wherever that part stands.

Reading goes column by column and stops at the first failure. A row that is
long enough fails only where a value cannot be converted, and conversion has no
failures about places. A row that is too short cannot be read, for some column
has no value, whichever column fails first. What a successful reading leaves is
the record in which the values were set one after the other: a name keeps the
place where it was set first and the value that was set last.
-/

namespace Inquiry

/-! ## Records that are set field by field -/

namespace Fields

theorem names_cons (name : String) (v : Value) (rest : Fields) :
    names ((name, v) :: rest) = name :: rest.names := rfl

theorem get?_cons (name other : String) (v : Value) (rest : Fields) :
    get? ((name, v) :: rest) other = if other = name then some v else rest.get? other := by
  rw [get?, List.lookup_cons]
  by_cases h : other = name
  · rw [if_pos h, beq_iff_eq.mpr h]
  · rw [if_neg h, beq_eq_false_iff_ne.mpr h]
    rfl

theorem names_set (name : String) (v : Value) (fields : Fields) :
    (set name v fields).names
      = if name ∈ fields.names then fields.names else fields.names ++ [name] := by
  induction fields with
  | nil => rfl
  | cons field rest ih =>
      obtain ⟨n, w⟩ := field
      rw [set]
      by_cases h : n = name
      · subst h
        rw [if_pos rfl, names_cons, names_cons, if_pos List.mem_cons_self]
      · have hmem : name ∈ n :: names rest ↔ name ∈ names rest := by
          rw [List.mem_cons]
          exact or_iff_right fun heq => h heq.symm
        rw [if_neg h, names_cons, names_cons, ih, if_congr hmem rfl rfl]
        split <;> rfl

theorem get?_set (name other : String) (v : Value) (fields : Fields) :
    (set name v fields).get? other = if other = name then some v else fields.get? other := by
  induction fields with
  | nil => rw [set, get?_cons]
  | cons field rest ih =>
      obtain ⟨n, w⟩ := field
      rw [set]
      by_cases h : n = name
      · subst h
        rw [if_pos rfl, get?_cons, get?_cons]
        split <;> rfl
      · rw [if_neg h, get?_cons, get?_cons, ih]
        by_cases ho : other = n
        · subst ho
          rw [if_pos rfl, if_neg h, if_pos rfl]
        · rw [if_neg ho, if_neg ho]

theorem ofList_append (entries : List (String × Value)) (name : String) (v : Value) :
    ofList (entries ++ [(name, v)]) = set name v (ofList entries) := by
  rw [ofList, List.foldl_append]
  rfl

/-- Names are in the order in which they were set first. -/
theorem names_ofList (entries : List (String × Value)) :
    (ofList entries).names = (entries.map (·.1)).eraseDups := by
  induction entries using List.reverseRecOn with
  | nil => rfl
  | append_singleton entries entry ih =>
      obtain ⟨name, v⟩ := entry
      rw [ofList_append, names_set, ih, List.map_append, List.eraseDups_append]
      by_cases h : name ∈ (entries.map (·.1)).eraseDups
      · have hmem : name ∈ entries.map (·.1) := List.mem_eraseDups.mp h
        rw [if_pos h]
        simp [List.removeAll, List.mem_map.mp hmem]
      · have hmem : name ∉ entries.map (·.1) := fun hmem => h (List.mem_eraseDups.mpr hmem)
        rw [if_neg h]
        simp [List.removeAll, hmem, List.eraseDups_cons]

/-- A name has the value that was set last. -/
theorem get?_ofList {entries : List (String × Value)} {i : Nat} {name : String} {v : Value}
    (h : entries[i]? = some (name, v))
    (hlast : ∀ j, i < j → (entries.map (·.1))[j]? ≠ some name) :
    (ofList entries).get? name = some v := by
  induction entries using List.reverseRecOn with
  | nil => simp at h
  | append_singleton entries entry ih =>
      obtain ⟨other, w⟩ := entry
      rw [ofList_append, get?_set]
      rcases Nat.lt_trichotomy i entries.length with hi | hi | hi
      · -- the name was set before, so the last entry is for another one
        have hne : name ≠ other := by
          rintro rfl
          refine hlast entries.length hi ?_
          simp
        rw [if_neg hne]
        refine ih ?_ ?_
        · rwa [List.getElem?_append_left hi] at h
        · intro j hj hget
          refine hlast j hj ?_
          have hlt : j < (entries.map (·.1)).length := (List.getElem?_eq_some_iff.mp hget).1
          rwa [List.map_append, List.getElem?_append_left hlt]
      · subst hi
        rw [List.getElem?_concat_length] at h
        cases h
        rw [if_pos rfl]
      · rw [List.getElem?_eq_none (by simp; omega)] at h
        cases h

end Fields

/-! ## Reading columns -/

/-- The columns that a reader takes from a row. -/
def Reader.columns : Reader → List Column
  | raw => []
  | scalar column => [column]
  | record columns => columns

/-- The field that a column sets to a value. -/
def Column.entry (c : Column) (v : Value) : String × Value := (c.name.getD "", v)

namespace Column

theorem read_error {c : Column} {row : List Value} {err : Error} (hrow : c.position < row.length)
    (h : c.read row = .error err) : err.IsConversion := by
  rw [read, List.getElem?_eq_getElem hrow] at h
  simp only [] at h
  split at h
  · exact Value.convert_converts _ _ err h
  · cases h

theorem position_lt {c : Column} {row : List Value} {v : Value} (h : c.read row = .ok v) :
    c.position < row.length := by
  by_contra hrow
  rw [read, List.getElem?_eq_none (by omega)] at h
  cases h

end Column

/-- Columns are read one after the other into the record of their fields. -/
theorem readColumns_eq_ok {row : List Value} {cs : List Column} {fields out : Fields} :
    readColumns row cs fields = .ok out ↔
      ∃ vs, List.Forall₂ (fun c v => c.read row = .ok v) cs vs ∧
        (List.zipWith Column.entry cs vs).foldl (fun fields e => Fields.set e.1 e.2 fields) fields
          = out := by
  induction cs generalizing fields with
  | nil =>
      rw [readColumns, Except.ok.injEq]
      constructor
      · rintro rfl
        exact ⟨[], .nil, rfl⟩
      · rintro ⟨_, hvs, hout⟩
        cases hvs
        exact hout
  | cons c rest ih =>
      rw [readColumns, Host.bind_eq_ok]
      simp only [ih]
      constructor
      · rintro ⟨v, hv, vs, hvs, hout⟩
        exact ⟨v :: vs, .cons hv hvs, hout⟩
      · rintro ⟨_, hvs, hout⟩
        cases hvs with
        | cons hv hvs => exact ⟨_, hv, _, hvs, hout⟩

theorem readColumns_error {row : List Value} {cs : List Column} {fields : Fields} {err : Error}
    (h : readColumns row cs fields = .error err) : ∃ c ∈ cs, c.read row = .error err := by
  induction cs generalizing fields with
  | nil => cases h
  | cons c rest ih =>
      rw [readColumns] at h
      cases hc : c.read row with
      | error e =>
          rw [hc] at h
          cases h
          exact ⟨c, List.mem_cons_self, hc⟩
      | ok v =>
          rw [hc] at h
          obtain ⟨d, hd, herr⟩ := ih h
          exact ⟨d, List.mem_cons_of_mem c hd, herr⟩

namespace Reader

theorem read_error {reader : Reader} {row : List Value} {err : Error}
    (h : reader.read row = .error err) : ∃ c ∈ reader.columns, c.read row = .error err := by
  cases reader with
  | raw => cases h
  | scalar column => exact ⟨column, List.mem_singleton_self column, h⟩
  | record columns =>
      rw [read] at h
      cases hread : readColumns row columns [] with
      | ok fields => rw [hread] at h; cases h
      | error e =>
          rw [hread] at h
          cases h
          exact readColumns_error hread

theorem read_ok {reader : Reader} {row : List Value} {v : Value} (h : reader.read row = .ok v) :
    ∀ c ∈ reader.columns, ∃ w, c.read row = .ok w := by
  cases reader with
  | raw => exact nofun
  | scalar column =>
      intro c hc
      rw [List.mem_singleton.mp hc]
      exact ⟨v, h⟩
  | record columns =>
      rw [read] at h
      cases hread : readColumns row columns [] with
      | error e => rw [hread] at h; cases h
      | ok fields =>
          obtain ⟨vs, hvs, _⟩ := readColumns_eq_ok.mp hread
          intro c hc
          obtain ⟨i, hi, rfl⟩ := List.getElem_of_mem hc
          exact ⟨_, hvs.get hi (hvs.length_eq ▸ hi)⟩

/-- Every column reads the value at its own place. -/
def Placed (reader : Reader) : Prop :=
  ∀ (i : Nat) (c : Column), reader.columns[i]? = some c → c.position = i

variable {reader : Reader} {row : List Value}

theorem Placed.read_error_cause (h : reader.Placed) {err : Error}
    (hrow : reader.columns.length ≤ row.length) (herr : reader.read row = .error err)
    (index size : Nat) : err.cause ≠ .indexOutOfRange index size := by
  obtain ⟨c, hc, hread⟩ := read_error herr
  obtain ⟨i, hi⟩ := List.getElem?_of_mem hc
  have hlt : i < reader.columns.length := (List.getElem?_eq_some_iff.mp hi).1
  have hplace : c.position = i := h i c hi
  exact (Column.read_error (by omega) hread).cause_ne index size

theorem Placed.read_short (h : reader.Placed) (hrow : row.length < reader.columns.length)
    (v : Value) : reader.read row ≠ .ok v := by
  intro hread
  -- the column at the place after the last value of the row has nothing to read
  have hget := List.getElem?_eq_getElem hrow
  obtain ⟨w, hw⟩ := read_ok hread _ (List.mem_of_getElem? hget)
  have hlt := Column.position_lt hw
  rw [h _ _ hget] at hlt
  omega

end Reader

/-! ## The reader of a projection -/

/-- The column for a member of a record, at a place of the row. -/
def Column.ofMember (m : (String × Host.Expr) × Nat) : Column :=
  ⟨some m.1.1, m.2, m.1.2.type.kind?⟩

/-- The reader for a folded projection. -/
def Reader.ofProjection : Host.Expr → Reader
  | .construct _ members => .record (members.zipIdx.map Column.ofMember)
  | e => .scalar ⟨none, 0, e.type.kind?⟩

theorem Reader.ofProjection_placed (folded : Host.Expr) : (ofProjection folded).Placed := by
  intro i c h
  cases folded with
  | construct type members =>
      rw [ofProjection, columns, List.getElem?_map, List.getElem?_zipIdx] at h
      cases hm : members[i]? with
      | none => rw [hm] at h; cases h
      | some m =>
          rw [hm] at h
          cases h
          exact Nat.zero_add i
  | _ =>
      cases i with
      | zero => cases h; rfl
      | succ i => cases h

theorem entries_names (members : List (String × Host.Expr)) (position : Nat) (vs : List Value)
    (h : members.length = vs.length) :
    (List.zipWith Column.entry ((members.zipIdx position).map Column.ofMember) vs).map (·.1)
      = members.map (·.1) := by
  induction members generalizing position vs with
  | nil => rfl
  | cons m rest ih =>
      cases vs with
      | nil => cases h
      | cons v vs =>
          rw [List.zipIdx_cons, List.map_cons, List.zipWith_cons_cons, List.map_cons,
            ih (position + 1) vs (Nat.succ.inj h), List.map_cons]
          rfl

/-- What a row becomes under a record projection. -/
theorem Reader.read_construct {members : List (String × Host.Expr)} {row : List Value} {v : Value}
    (h : (record (members.zipIdx.map Column.ofMember)).read row = .ok v) :
    ∃ fields : Fields, v = .record fields ∧ fields.names = (members.map (·.1)).eraseDups ∧
      ∀ (i : Nat) (name : String), (members.map (·.1))[i]? = some name →
        (∀ j, i < j → (members.map (·.1))[j]? ≠ some name) →
        ∃ (c : Column) (w : Value), (members.zipIdx.map Column.ofMember)[i]? = some c ∧
          c.read row = .ok w ∧ fields.get? name = some w := by
  rw [read] at h
  cases hread : readColumns row (members.zipIdx.map Column.ofMember) [] with
  | error e => rw [hread] at h; cases h
  | ok fields =>
      rw [hread] at h
      cases h
      obtain ⟨vs, hvs, hfields⟩ := readColumns_eq_ok.mp hread
      have hlength : members.length = vs.length := by simpa using hvs.length_eq
      have hnames := entries_names members 0 vs hlength
      change Fields.ofList _ = fields at hfields
      refine ⟨fields, rfl, ?_, fun i name hname hlast => ?_⟩
      · rw [← hfields, Fields.names_ofList, hnames]
      · have hi : i < members.length := by
          simpa using (List.getElem?_eq_some_iff.mp hname).1
        have hc : i < (members.zipIdx.map Column.ofMember).length := by simpa using hi
        have hv : i < vs.length := hlength ▸ hi
        refine ⟨_, _, List.getElem?_eq_getElem hc, hvs.get hc hv, ?_⟩
        have hentry : (List.zipWith Column.entry (members.zipIdx.map Column.ofMember) vs)[i]?
            = some (Column.entry (members.zipIdx.map Column.ofMember)[i] vs[i]) := by
          rw [List.getElem?_zipWith, List.getElem?_eq_getElem hc, List.getElem?_eq_getElem hv]
        rw [← hnames, List.getElem?_map, hentry] at hname
        rw [← hfields]
        refine Fields.get?_ofList (i := i) ?_ (by rwa [hnames])
        rw [hentry, ← Option.some.inj hname]
        rfl

/-! ## Lowering of projections -/

namespace Host

/-- Folding keeps the names of members. -/
theorem foldMembers_names {members folded : List (String × Expr)}
    (h : foldMembers members = .ok folded) : folded.map (·.1) = members.map (·.1) := by
  induction members generalizing folded with
  | nil => cases h; rfl
  | cons m rest ih =>
      obtain ⟨name, e⟩ := m
      obtain ⟨_, _, others, hothers, rfl⟩ := foldMembers_cons.mp h
      rw [List.map_cons, List.map_cons, ih hothers]

theorem fold_construct_names {type : Ty} {members : List (String × Expr)} {folded : Expr}
    (h : (Expr.construct type members).fold = .ok folded) :
    ∃ others, folded = .construct type others ∧ others.map (·.1) = members.map (·.1) := by
  obtain ⟨others, hothers, rfl⟩ := Expr.fold_construct.mp h
  exact ⟨others, rfl, foldMembers_names hothers⟩

end Host

namespace Host

/-- The expressions for which a folded projection has columns. -/
def Expr.columnParts : Expr → List Expr
  | .construct _ members => members.map (·.2)
  | e => [e]

end Host

namespace Lower

open Compiler (named_any everywhere_any readable_any)

variable {s : Mapping}

/-- A column is the literal form of an expression: lowering it again, at any
place, writes the same column and registers nothing. -/
def IsColumn (s : Mapping) (e : Host.Expr) (column : Statement.Expr) : Prop :=
  lowerValue s e .literals = pure column

theorem lowerValue_column (e : Host.Expr) :
    Gives (IsColumn s e) (lowerValue s e .literals) := by
  intro ps
  have hform := lowerValue_form (named_any s) e (everywhere_any e) .literals ps
  obtain ⟨plain, hplain⟩ := lowerValue_literals s e
  unfold IsColumn
  rw [hplain] at hform ⊢
  cases plain with
  | error err => exact hform
  | ok column => rfl

theorem lowerMembers_reader (position : Nat) (members : List (String × Host.Expr)) :
    Gives (fun cs => List.Forall₂ (IsColumn s) (members.map (·.2)) cs.1 ∧
        cs.2 = (members.zipIdx position).map Column.ofMember)
      (lowerMembers s .literals position members) := by
  induction members generalizing position with
  | nil => exact Gives.pure ⟨.nil, rfl⟩
  | cons m rest ih =>
      obtain ⟨name, e⟩ := m
      rw [lowerMembers]
      split
      · exact Gives.fail_bind (Error.ordinary_raised rfl)
      · refine (lowerValue_column e).bind fun column hcolumn => ?_
        refine (ih (position + 1)).bind fun others hothers => Gives.pure ?_
        refine ⟨.cons hcolumn hothers.1, ?_⟩
        rw [List.zipIdx_cons, List.map_cons, ← hothers.2]
        rfl

/-- What is known of the columns and the reader of a folded projection. -/
structure ProjectedFrom (s : Mapping) (folded : Host.Expr) (columns : List Statement.Expr)
    (reader : Reader) : Prop where
  reader : reader = .ofProjection folded
  columns : List.Forall₂ (IsColumn s) folded.columnParts columns

/-- The columns of a projection are as many as those of its reader. -/
theorem ProjectedFrom.count {folded : Host.Expr} {columns : List Statement.Expr} {reader : Reader}
    (h : ProjectedFrom s folded columns reader) :
    (Reader.ofProjection folded).columns.length = columns.length := by
  rw [← h.columns.length_eq]
  cases folded with
  | construct type members =>
      rw [Reader.ofProjection, Reader.columns, List.length_map, List.length_zipIdx,
        Host.Expr.columnParts, List.length_map]
  | _ => rfl

theorem lowerProjection_reader (e : Host.Expr) :
    Gives (fun q => ProjectedFrom s e q.columns q.reader) (lowerProjection s e .literals) := by
  rw [lowerProjection.eq_def]
  split
  · next type members =>
      split
      · exact Gives.fail (Error.ordinary_raised rfl)
      · refine (lowerMembers_reader 0 members).bind fun columns hcolumns => Gives.pure ?_
        exact ⟨congrArg Reader.record hcolumns.2, hcolumns.1⟩
  · next hother =>
      split
      · exact Gives.fail (Error.ordinary_raised rfl)
      · refine (lowerValue_column e).bind fun column hcolumn => Gives.pure ?_
        cases e with
        | construct type members => exact absurd rfl (hother type members)
        | _ => exact ⟨rfl, .cons hcolumn .nil⟩

theorem projection_reader (e : Host.Expr) :
    Gives (fun q => ∃ folded, e.fold = .ok folded ∧ ProjectedFrom s folded q.columns q.reader)
      (projection s e) :=
  (Gives.lift (e.fold_safe.delivers fun _ hfold => hfold)).bind fun folded hfold =>
    (lowerProjection_reader folded).mono fun _ h => ⟨folded, hfold, h⟩

/-- What the columns and the reader of a plan for items are. -/
def Projected (s : Mapping) (plan : Plan) (columns : List Statement.Expr) (reader : Reader) : Prop :=
  match plan.projection with
  | none => columns = [.allColumns] ∧ reader = .raw
  | some e => ∃ folded, e.fold = .ok folded ∧ ProjectedFrom s folded columns reader

theorem columnsOf_reader (plan : Plan) :
    Gives (fun c => Projected s plan c.1.columns c.2) (columnsOf s plan) := by
  unfold Projected
  rw [columnsOf.eq_def]
  cases plan.projection with
  | none => exact Gives.pure ⟨rfl, rfl⟩
  | some e =>
      refine (projection_reader e).bind fun projected hprojected => ?_
      refine (Gives.lift (P := fun select => select.columns = projected.columns) ?_).bind
        fun select hselect => Gives.pure ?_
      · rw [Statement.Select.ofColumns]
        split
        · exact Error.ordinary_raised rfl
        · rfl
      · rw [hselect]
        exact hprojected

theorem lowerPlan_reader {plan : Plan} (h : plan.aggregation = none) :
    Gives (fun q => ∃ reader, q.2 = some reader ∧ Projected s plan q.1.select.columns reader)
      (lowerPlan s plan) := by
  rw [lowerPlan, h]
  refine (columnsOf_reader plan).bind fun columns hcolumns => ?_
  refine (orderOf_form (named_any s) fun e _ => readable_any e).bind fun order _ => ?_
  exact Gives.pure ⟨_, rfl, hcolumns⟩

theorem request_reader {r : Request} (h : ∀ a, Step.aggregate a ∉ r.steps) :
    Gives (fun q => ∃ plan reader, Plan.ofSteps r.steps = .ok plan ∧ q.2 = some reader ∧
        Projected s plan q.1.select.columns reader) (request s r) := by
  refine (Gives.lift (Plan.ofSteps_delivers r.steps)).bind fun plan hplan => ?_
  have haggregation : plan.aggregation = none := by
    have hsteps : r.steps.filterMap Step.aggregation? = [] := by
      refine List.filterMap_eq_nil_iff.mpr fun step hstep => ?_
      cases step with
      | aggregate a => exact absurd hstep (h a)
      | _ => rfl
    have htoList := (Plan.ofSteps_groups hplan).aggregation
    rw [hsteps] at htoList
    exact Option.toList_eq_nil_iff.mp htoList
  refine (Gives.lift (sourceName_named (named_any s) fun _ _ => trivial)).bind fun source _ => ?_
  refine (filter_form (named_any s) plan.conditions fun e _ => readable_any e).bind
    fun condition _ => ?_
  refine (lowerPlan_reader haggregation).bind fun q hq => Gives.pure ?_
  obtain ⟨reader, hreader, hprojected⟩ := hq
  exact ⟨plan, reader, hplan, hreader, hprojected⟩

end Lower

/-! ## Compiled readers -/

/-- The reader for a projection, folded, goes with the columns of its query. -/
structure Reader.LinesUp (folded : Host.Expr) (columns : List Statement.Expr) (reader : Reader) :
    Prop where
  count : reader.columns.length = columns.length
  position : ∀ (i : Nat) (c : Column), reader.columns[i]? = some c → c.position = i
  names : ∀ type members, folded = .construct type members →
    reader = .record reader.columns ∧
      reader.columns.map Column.name = members.map fun m => some m.1
  /-- No value is missing in a row that is long enough. -/
  enough : ∀ (row : List Value) err, columns.length ≤ row.length → reader.read row = .error err →
    ∀ index size, err.cause ≠ .indexOutOfRange index size
  short : ∀ (row : List Value) v, row.length < columns.length → reader.read row ≠ .ok v
  /-- A record has each name once, where it was first, with the value of the
  last column that has the name. -/
  record : ∀ type members row v, folded = .construct type members → reader.read row = .ok v →
    ∃ fields : Fields, v = .record fields ∧ fields.names = (members.map (·.1)).eraseDups ∧
      ∀ (i : Nat) (name : String), (members.map (·.1))[i]? = some name →
        (∀ j, i < j → (members.map (·.1))[j]? ≠ some name) →
        ∃ (c : Column) (w : Value), reader.columns[i]? = some c ∧ c.read row = .ok w ∧
          fields.get? name = some w

theorem Column.names_ofMember (members : List (String × Host.Expr)) (position : Nat) :
    ((members.zipIdx position).map Column.ofMember).map Column.name
      = members.map fun m => some m.1 := by
  induction members generalizing position with
  | nil => rfl
  | cons m rest ih =>
      rw [List.zipIdx_cons, List.map_cons, List.map_cons, ih, List.map_cons]
      rfl

theorem Reader.ofProjection_linesUp {folded : Host.Expr} {columns : List Statement.Expr}
    (h : (ofProjection folded).columns.length = columns.length) :
    LinesUp folded columns (ofProjection folded) where
  count := h
  position := ofProjection_placed folded
  names := by
    rintro type members rfl
    exact ⟨rfl, Column.names_ofMember members 0⟩
  enough row err hrow herr :=
    (ofProjection_placed folded).read_error_cause (by omega) herr
  short row v hrow := (ofProjection_placed folded).read_short (by omega) v
  record := by
    rintro type members row v rfl hread
    exact read_construct hread

namespace Compiler

/-- The reader that is compiled for a request takes the columns of its query,
one by one and each from its own place, and column by column the query asks for
the parts of the folded projection. Without a projection a row stays as it is; a
projection written as a record keeps the names of its members, so that what is
said of names is said of those. -/
theorem compile_reader {s : Mapping} {stem : String} {r : Request} {compiled : Compiled}
    (h : compile ⟨s, stem⟩ r = .ok compiled) (hitems : ∀ a, Step.aggregate a ∉ r.steps) :
    ∃ query reader, (Lower.request s r (.start stem)).1 = .ok (query, some reader) ∧
      compiled.command.text = query.render ∧ compiled.reader = some reader ∧
      ((∀ e, Step.select e ∉ r.steps) →
        query.select.columns = [.allColumns] ∧ reader = .raw ∧
          ∀ row, reader.read row = .ok (.list row)) ∧
      ∀ e, Step.select e ∈ r.steps → ∃ folded, e.fold = .ok folded ∧
        reader.LinesUp folded query.select.columns ∧
        List.Forall₂ (Lower.IsColumn s) folded.columnParts query.select.columns ∧
        ∀ type members, e = .construct type members →
          ∃ others, folded = .construct type others ∧ others.map (·.1) = members.map (·.1) := by
  obtain ⟨query, hrun, htext, _⟩ := compile_eq_ok h
  obtain ⟨plan, reader, hplan, hreader, hprojected⟩ := (Lower.request_reader hitems _).result hrun
  have hreader : compiled.reader = some reader := hreader
  have hgroups := (Plan.ofSteps_groups hplan).projection
  unfold Lower.Projected at hprojected
  rw [hreader] at hrun
  refine ⟨query, reader, hrun, htext, hreader, fun hnone => ?_, fun e he => ?_⟩
  · have hsteps : r.steps.filterMap Step.projection? = [] := by
      refine List.filterMap_eq_nil_iff.mpr fun step hstep => ?_
      cases step with
      | select e => exact absurd hstep (hnone e)
      | _ => rfl
    rw [hsteps] at hgroups
    rw [Option.toList_eq_nil_iff.mp hgroups] at hprojected
    obtain ⟨hcolumns, rfl⟩ := hprojected
    exact ⟨hcolumns, rfl, fun row => rfl⟩
  · have hmem : e ∈ r.steps.filterMap Step.projection? :=
      List.mem_filterMap.mpr ⟨.select e, he, rfl⟩
    rw [← hgroups, Option.mem_toList] at hmem
    rw [hmem] at hprojected
    obtain ⟨folded, hfold, hprojected⟩ := hprojected
    obtain rfl := hprojected.reader
    refine ⟨folded, hfold, Reader.ofProjection_linesUp hprojected.count, hprojected.columns, ?_⟩
    rintro type members rfl
    exact Host.fold_construct_names hfold

/-- Goods with a name for their code that is then given to their label. -/
def labelled : Request where
  source := .table "Goods"
  steps := [.select (.construct .anonymous
    [("tag", .get (.input .row) "Code" (some .string)),
     ("price", .get (.input .row) "Price" (some .int32)),
     ("tag", .get (.input .row) "Label" (some .string))])]

theorem compile_reader_labelled :
    ∃ compiled reader, compile ⟨.empty, "p"⟩ labelled = .ok compiled ∧
      compiled.reader = some reader ∧
      reader.columns.map Column.name = [some "tag", some "price", some "tag"] ∧
      reader.read [.string "A-1", .string "5", .string "Nail"]
        = .ok (.record [("tag", .string "Nail"), ("price", .int32 5)]) ∧
      ∀ v, reader.read [.string "A-1", .int32 5] ≠ .ok v := by
  have hitems : ∀ a, Step.aggregate a ∉ labelled.steps := by
    intro a ha
    cases List.mem_singleton.mp ha
  have hcompile : compile ⟨.empty, "p"⟩ labelled = .ok _ := rfl
  obtain ⟨query, reader, hrun, _, hreader, _, hselect⟩ := compile_reader hcompile hitems
  obtain ⟨folded, hfold, hlines, _, _⟩ := hselect _ (List.mem_singleton_self _)
  cases hreader
  cases hrun
  cases hfold
  have hnames := (hlines.names _ _ rfl).2
  exact ⟨_, _, hcompile, rfl, hnames, rfl, fun v => hlines.short _ v (by decide)⟩

end Compiler

end Inquiry
