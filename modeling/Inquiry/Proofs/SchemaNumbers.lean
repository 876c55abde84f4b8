import Inquiry.Schema
import Mathlib.Data.List.Induction

/-!
# The numbers that a schema gives out

Records and members are known by numbers, and callers keep the numbers: they stand in
the types of members and in member accesses, while the schema grows on. So a number
has to mean in the end what it meant when it was given out. A number is a place, and
places are only ever added, but a record that is under construction does change: it
gets further members, and whoever looks it up later sees them.

`Entry` is what a declaration registers, with its number. The question is answered one
declaration at a time: what can be found by number after a declaration is what could
be found before, and the entry of the declaration (`resolvesIn_declare`). So the
entries of a whole building are found in its schema, each under its own number, and
nothing else is (`mem_entries_iff`). A schema that grows by whole records is built from
the declarations of these (`foldl_addRecord_eq_build`).
-/

namespace Inquiry

open Host (Ty MemberId)

/-- A declaration begins a record, or adds a member to the record begun last. -/
inductive Declaration where
  | record (name table : String)
  | member (name : String) (type : Ty) (field : Option String)

/-- What a declaration registers. -/
inductive Entry where
  | record (id : Nat) (name table : String)
  | member (m : Member)

namespace Schema

/-- The schema after a further declaration. -/
def declare (s : Schema) : Declaration → Schema
  | .record name table => s.addRecord name table []
  | .member name type field =>
      ⟨s.records.modify (s.records.length - 1) fun r => r.addMember name type field⟩

/-- The schema that declarations build. -/
def build (ds : List Declaration) : Schema := ds.foldl declare empty

/-- What a declaration registers in a schema, under the next number. There is no
member without a record. -/
def entry? (s : Schema) : Declaration → Option Entry
  | .record name table => some (.record s.records.length name table)
  | .member name type field =>
      s.records.getLast?.map fun r => .member ⟨⟨r.id, r.members.length⟩, name, type, field⟩

/-- What declarations register in a schema that grows with them. -/
def entriesAfter (s : Schema) : List Declaration → List Entry
  | [] => []
  | d :: rest => (s.entry? d).toList ++ entriesAfter (s.declare d) rest

/-- What was registered in a building. -/
def entries (ds : List Declaration) : List Entry := entriesAfter empty ds

/-- Looking up its number finds the entry. -/
def ResolvesIn (s : Schema) : Entry → Prop
  | .record id name table =>
      ∃ r, s.record? id = some r ∧ r.id = id ∧ r.name = name ∧ r.table = table
  | .member m => ∃ r, s.record? m.id.record = some r ∧ r.member? m.id = some m

/-- Records and members stand at the places that are their numbers. -/
structure Numbered (s : Schema) : Prop where
  record : ∀ i r, s.record? i = some r → r.id = i
  member : ∀ i r, s.record? i = some r →
    ∀ (j : Nat) (m : Member), r.members[j]? = some m → m.id = ⟨i, j⟩

section Step

variable {s : Schema} {name table : String} {type : Ty} {field : Option String}

theorem record?_declare_record (i : Nat) :
    (s.declare (.record name table)).record? i =
      if i = s.records.length then some ⟨i, name, table, []⟩ else s.record? i := by
  show (s.records ++ [_])[i]? = _
  by_cases hi : i = s.records.length
  · subst hi
    rw [if_pos rfl, List.getElem?_concat_length]
    rfl
  · rw [if_neg hi, record?]
    rcases Nat.lt_or_ge i s.records.length with hlt | hge
    · rw [List.getElem?_append_left hlt]
    · rw [List.getElem?_eq_none (by simp; omega), List.getElem?_eq_none hge]

theorem record?_declare_member (i : Nat) :
    (s.declare (.member name type field)).record? i =
      (s.record? i).map fun r =>
        if i = s.records.length - 1 then r.addMember name type field else r := by
  show (s.records.modify _ _)[i]? = _
  rw [List.getElem?_modify, record?, Option.map_eq_map]
  by_cases hi : s.records.length - 1 = i
  · simp [hi]
  · simp [hi, Ne.symm hi]

/-- A record that gets a further member finds those it had, and the new one. -/
theorem member?_addMember (r : Record) (m : Member) :
    (r.addMember name type field).member? m.id = some m ↔
      r.member? m.id = some m ∨ ⟨⟨r.id, r.members.length⟩, name, type, field⟩ = m := by
  have hid : (r.addMember name type field).id = r.id := rfl
  rw [Record.member?, Record.member?, hid, Record.addMember]
  by_cases hrecord : m.id.record = r.id
  · simp only [if_pos hrecord]
    rcases Nat.lt_trichotomy m.id.index r.members.length with hlt | heq | hgt
    · rw [List.getElem?_append_left hlt]
      refine ⟨.inl, ?_⟩
      rintro (h | rfl)
      · exact h
      · exact absurd hlt (Nat.lt_irrefl _)
    · rw [heq, List.getElem?_concat_length, List.getElem?_eq_none (Nat.le_refl _)]
      simp
    · rw [List.getElem?_eq_none (by simp; omega), List.getElem?_eq_none (by omega)]
      refine ⟨.inl, ?_⟩
      rintro (h | rfl)
      · exact h
      · exact absurd hgt (Nat.lt_irrefl _)
  · simp only [if_neg hrecord]
    refine ⟨.inl, ?_⟩
    rintro (h | rfl)
    · exact h
    · exact absurd rfl hrecord

end Step

theorem Numbered.declare {s : Schema} (h : s.Numbered) (d : Declaration) :
    (s.declare d).Numbered := by
  cases d with
  | record name table =>
      constructor
      · intro i r hr
        rw [record?_declare_record] at hr
        split at hr
        · cases hr
          rfl
        · exact h.record i r hr
      · intro i r hr j m hm
        rw [record?_declare_record] at hr
        split at hr
        · cases hr
          cases hm
        · exact h.member i r hr j m hm
  | member name type field =>
      constructor
      · intro i r hr
        rw [record?_declare_member] at hr
        obtain ⟨r, hr', rfl⟩ := Option.map_eq_some_iff.mp hr
        split
        · exact h.record i r hr'
        · exact h.record i r hr'
      · intro i r hr j m hm
        rw [record?_declare_member] at hr
        obtain ⟨r, hr', rfl⟩ := Option.map_eq_some_iff.mp hr
        split at hm
        · rw [Record.addMember, List.getElem?_append] at hm
          split at hm
          · exact h.member i r hr' j m hm
          · -- the only member beyond those that were there is the new one
            rw [List.getElem?_singleton] at hm
            split at hm
            · cases hm
              have hid := h.record i r hr'
              have hj : j = r.members.length := by omega
              rw [hid, hj]
            · cases hm
        · exact h.member i r hr' j m hm

theorem numbered_empty : empty.Numbered :=
  ⟨fun _ _ h => absurd h (by simp [record?, empty]), fun _ _ h => absurd h (by simp [record?, empty])⟩

/-- What can be found after a declaration is what could be found before, and what the
declaration registers. -/
theorem resolvesIn_declare {s : Schema} (h : s.Numbered) (d : Declaration) (e : Entry) :
    (s.declare d).ResolvesIn e ↔ s.entry? d = some e ∨ s.ResolvesIn e := by
  have hnone : s.record? s.records.length = none := List.getElem?_eq_none (Nat.le_refl _)
  have hlast : s.records.getLast? = s.record? (s.records.length - 1) := List.getLast?_eq_getElem?
  cases d with
  | record name table =>
      cases e with
      | record id n t =>
          simp only [ResolvesIn, record?_declare_record, entry?]
          by_cases hid : id = s.records.length
          · subst hid
            simp [hnone]
          · simp [hid, Ne.symm hid]
      | member m =>
          simp only [ResolvesIn, record?_declare_record, entry?]
          by_cases hid : m.id.record = s.records.length
          · simp [hid, hnone, Record.member?]
          · simp [hid]
  | member name type field =>
      cases e with
      | record id n t =>
          simp only [ResolvesIn, record?_declare_member, entry?, hlast]
          by_cases hid : id = s.records.length - 1
          · simp [hid, Record.addMember]
          · simp [hid]
      | member m =>
          simp only [ResolvesIn, record?_declare_member, entry?, hlast]
          by_cases hid : m.id.record = s.records.length - 1
          · -- the record under construction is the one that is asked
            simp only [hid, if_true]
            cases hr : s.record? (s.records.length - 1) with
            | none => simp
            | some r => simp [member?_addMember, or_comm]
          · simp only [hid, if_false, Option.map_id']
            constructor
            · exact .inr
            · rintro (hentry | hfound)
              · obtain ⟨r, hr, hm⟩ := Option.map_eq_some_iff.mp hentry
                cases hm
                exact absurd (h.record _ _ hr) hid
              · exact hfound

theorem resolvesIn_foldl {s : Schema} (h : s.Numbered) (ds : List Declaration) (e : Entry) :
    (ds.foldl declare s).ResolvesIn e ↔ e ∈ entriesAfter s ds ∨ s.ResolvesIn e := by
  induction ds generalizing s with
  | nil => simp [entriesAfter]
  | cons d rest ih =>
      rw [List.foldl_cons, ih (h.declare d), resolvesIn_declare h, entriesAfter, List.mem_append,
        Option.mem_toList]
      constructor
      · rintro (hrest | hd | hs)
        · exact .inl (.inr hrest)
        · exact .inl (.inl hd)
        · exact .inr hs
      · rintro ((hd | hrest) | hs)
        · exact .inr (.inl hd)
        · exact .inl hrest
        · exact .inr (.inr hs)

/-- Looking up numbers in a schema finds what was registered while it was built, and
nothing else. -/
theorem mem_entries_iff (ds : List Declaration) (e : Entry) :
    e ∈ entries ds ↔ (build ds).ResolvesIn e := by
  have hempty : ¬ empty.ResolvesIn e := by
    cases e with
    | record => simp [ResolvesIn, record?, empty]
    | member => simp [ResolvesIn, record?, empty]
  rw [entries, build, resolvesIn_foldl numbered_empty]
  exact (or_iff_left hempty).symm

theorem build_numbered (ds : List Declaration) : (build ds).Numbered := by
  have hrun : ∀ s : Schema, s.Numbered → (ds.foldl declare s).Numbered := by
    induction ds with
    | nil => exact fun _ h => h
    | cons d rest ih => exact fun s h => ih _ (h.declare d)
  exact hrun empty numbered_empty

/-! ## Records declared at once -/

/-- The declarations of a record and its members. -/
def declarationsOf (name table : String) (members : List (String × Ty × Option String)) :
    List Declaration :=
  .record name table :: members.map fun m => .member m.1 m.2.1 m.2.2

theorem foldl_declare_member (records : List Record) (r : Record)
    (members : List (String × Ty × Option String)) :
    (members.map fun m => Declaration.member m.1 m.2.1 m.2.2).foldl declare ⟨records ++ [r]⟩ =
      ⟨records ++ [members.foldl (fun (r : Record) m => r.addMember m.1 m.2.1 m.2.2) r]⟩ := by
  induction members generalizing r with
  | nil => rfl
  | cons m rest ih =>
      have hlast : (Schema.mk (records ++ [r])).declare (.member m.1 m.2.1 m.2.2) =
          ⟨records ++ [r.addMember m.1 m.2.1 m.2.2]⟩ := by
        simp [declare, List.modify_eq_take_drop]
      rw [List.map_cons, List.foldl_cons, List.foldl_cons, hlast, ih]

/-- A record that is declared with its members is begun, and gets one member after the
other. -/
theorem addRecord_eq_declare (s : Schema) (name table : String)
    (members : List (String × Ty × Option String)) :
    s.addRecord name table members = (declarationsOf name table members).foldl declare s :=
  (foldl_declare_member s.records ⟨s.records.length, name, table, []⟩ members).symm

/-- Adding whole records builds what their declarations build, taken together. -/
theorem foldl_addRecord_eq_build
    (records : List (String × String × List (String × Ty × Option String))) :
    records.foldl (fun (s : Schema) r => s.addRecord r.1 r.2.1 r.2.2) empty =
      build (records.flatMap fun r => declarationsOf r.1 r.2.1 r.2.2) := by
  rw [build, List.foldl_flatMap]
  simp only [addRecord_eq_declare]

end Schema

end Inquiry
