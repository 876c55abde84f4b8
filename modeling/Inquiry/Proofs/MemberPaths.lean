import Inquiry.Proofs.FoldType
import Inquiry.Proofs.Placement
import Inquiry.Proofs.SchemaNumbers
import Inquiry.Statement.Render

/-!
# Paths of members

A caller reads a member of the input, a member of that, and so on. Lowering comes to
the outermost access first, but it asks for the table before the field, so the fields
are looked up from the inside out: the first member that is not stored is the one
closest to the input, and it is the one that is reported.

`lowerValue_path` says so in one equation. A path is lowered by looking up the fields
of its members in order, and nothing else happens: no constant is met, so nothing is
registered. The text of a chain of fields is their names with points between them
(`render_fieldPath`), because the default table is not written and no operand of a
field needs parentheses.
-/

namespace Inquiry

open Lower

/-- The accesses of members one on top of another. -/
def Host.Expr.path (base : Host.Expr) (chain : List Member) : Host.Expr :=
  chain.foldl (fun e m => .member e (.field m.id) m.type) base

/-- The record declares the member in the schema. -/
def Schema.Declares (s : Schema) (r : Record) (m : Member) : Prop :=
  r ∈ s.records ∧ m ∈ r.members

namespace Statement

/-- The fields one on top of another. -/
def Expr.fieldPath (names : List String) : Expr :=
  names.foldl (fun table name => .field table ⟨name⟩) .defaultTable

theorem Expr.fieldPath_concat (names : List String) (name : String) :
    Expr.fieldPath (names ++ [name]) = .field (.fieldPath names) ⟨name⟩ := by
  rw [fieldPath, List.foldl_append]
  rfl

theorem render_fieldPath {names : List String} (h : names ≠ []) :
    (Expr.fieldPath names).render = String.intercalate "." names := by
  induction names using List.reverseRecOn with
  | nil => exact absurd rfl h
  | append_singleton init name ih =>
      rw [Expr.fieldPath_concat, Expr.render, qualified]
      cases init using List.reverseRecOn with
      | nil => exact String.intercalate_singleton.symm
      | append_singleton front last _ =>
          have hinit : front ++ [last] ≠ [] := by simp
          rw [ih hinit, String.intercalate_append_of_ne_nil hinit (by simp),
            String.intercalate_singleton, Expr.fieldPath_concat]
          simp [Expr.isDefaultTable, grouped, Expr.hasSpaces, String.append_assoc]

end Statement

namespace Host

theorem Expr.fold_path {base : Expr} (h : base.fold = .ok base) (chain : List Member) :
    (base.path chain).fold = .ok (base.path chain) := by
  induction chain generalizing base with
  | nil => exact h
  | cons m rest ih => exact ih (Expr.fold_member.mpr ⟨base, h, rfl⟩)

theorem Expr.path_concat (base : Expr) (chain : List Member) (m : Member) :
    base.path (chain ++ [m]) = .member (base.path chain) (.field m.id) m.type := by
  rw [path, List.foldl_append]
  rfl

end Host

namespace Lower

variable {s : Mapping}

/-! ## Looking up the fields -/

/-- The fields of members, up to the first member that is not stored. -/
def fieldsOf (s : Mapping) (chain : List Member) : Except Error (List String) :=
  chain.mapM fun m => fieldOf s m.id

theorem fieldOf_declared {s : Schema} (hs : s.Numbered) {r : Record} {m : Member}
    (h : s.Declares r m) :
    fieldOf s.mapping m.id =
      match m.field with
      | some field => .ok field
      | none => .error (.raised (.unknownField r.name m.name)) := by
  obtain ⟨i, hr⟩ := List.mem_iff_getElem?.mp h.1
  obtain ⟨j, hm⟩ := List.mem_iff_getElem?.mp h.2
  have hid : m.id = ⟨i, j⟩ := hs.member i r hr j m hm
  have hrecord : s.mapping.record? m.id.record = some r := by
    rw [hid]
    exact hr
  have hmember : r.member? m.id = some m := by
    rw [hid, Record.member?, hs.record i r hr]
    simpa using hm
  rw [fieldOf, hrecord]
  cases hfield : m.field with
  | none => simp only [hmember, hfield]
  | some field => simp only [hmember, hfield]

theorem fieldsOf_concat (chain : List Member) (m : Member) :
    fieldsOf s (chain ++ [m]) =
      (fieldsOf s chain >>= fun names => (fieldOf s m.id).map fun name => names ++ [name]) := by
  rw [fieldsOf, List.mapM_append, List.mapM_cons, List.mapM_nil]
  cases fieldOf s m.id <;> rfl

/-- The fields are those of the members, unless one of them is not stored: the first
such member is at fault. -/
theorem fieldsOf_declared {s : Schema} (hs : s.Numbered) {chain : List Member}
    (h : ∀ m ∈ chain, ∃ r, s.Declares r m) :
    match chain.find? (·.field.isNone) with
    | none => fieldsOf s.mapping chain = .ok (chain.filterMap (·.field))
    | some m => ∃ r, s.Declares r m ∧
        fieldsOf s.mapping chain = .error (.raised (.unknownField r.name m.name)) := by
  induction chain with
  | nil => exact rfl
  | cons m rest ih =>
      obtain ⟨r, hm⟩ := h m List.mem_cons_self
      have ih := ih fun m hm => h m (List.mem_cons_of_mem _ hm)
      have hfield := fieldOf_declared hs hm
      have hcons : fieldsOf s.mapping (m :: rest) =
          (fieldOf s.mapping m.id >>= fun name =>
            (fieldsOf s.mapping rest).map fun names => name :: names) :=
        List.mapM_cons
      cases hstored : m.field with
      | none =>
          rw [hstored] at hfield
          rw [List.find?_cons_of_pos (by simp [hstored])]
          exact ⟨r, hm, by rw [hcons, hfield]; rfl⟩
      | some field =>
          rw [hstored] at hfield
          rw [List.find?_cons_of_neg (by simp [hstored]), List.filterMap_cons_some hstored]
          split at ih
          · rw [hcons, hfield, ih]
            rfl
          · obtain ⟨r', hdeclared, hrest⟩ := ih
            exact ⟨r', hdeclared, by rw [hcons, hfield, hrest]; rfl⟩

/-! ## Lowering -/

theorem lowerValue_member {base : Host.Expr} {p : Placement} {names : Except Error (List String)}
    (h : asTable base (lowerValue s base p) = lift (names.map Statement.Expr.fieldPath))
    (m : Member) :
    lowerValue s (.member base (.field m.id) m.type) p =
      lift ((names >>= fun ns => (fieldOf s m.id).map fun n => ns ++ [n]).map
        Statement.Expr.fieldPath) := by
  rw [lowerValue, lowerMember, h]
  cases names with
  | error e => rfl
  | ok ns =>
      cases fieldOf s m.id with
      | error e => rfl
      | ok n =>
          show lift (.ok _) = lift (.ok _)
          rw [Statement.Expr.fieldPath_concat]

/-- Lowering a path looks up its fields, and does nothing else. -/
theorem lowerValue_path {t : Host.Ty} (ht : t.isRecord = true) {chain : List Member}
    (hne : chain ≠ []) (hrecords : ∀ m ∈ chain.dropLast, m.type.isRecord = true) (p : Placement) :
    lowerValue s (.path (.input t) chain) p =
      lift ((fieldsOf s chain).map Statement.Expr.fieldPath) := by
  induction chain using List.reverseRecOn with
  | nil => exact absurd rfl hne
  | append_singleton init m ih =>
      rw [List.dropLast_concat] at hrecords
      rw [Host.Expr.path_concat, fieldsOf_concat]
      apply lowerValue_member
      -- below the outermost access is the input, or a shorter path to a record
      cases init using List.reverseRecOn with
      | nil =>
          rw [Host.Expr.path, List.foldl_nil, asTable, if_pos ht]
          rfl
      | append_singleton front last _ =>
          have hlast : last.type.isRecord = true := hrecords last (by simp)
          rw [← ih (by simp) fun m hm => hrecords m (List.dropLast_subset _ hm),
            Host.Expr.path_concat, asTable, if_pos hlast]

/-! ## Paths over a built schema -/

theorem filterMap_field_ne_nil {chain : List Member} (hne : chain ≠ [])
    (h : chain.find? (·.field.isNone) = none) : chain.filterMap (·.field) ≠ [] := by
  cases chain with
  | nil => exact absurd rfl hne
  | cons m rest =>
      have hstored := List.find?_eq_none.mp h m List.mem_cons_self
      cases hm : m.field with
      | none => simp [hm] at hstored
      | some field => simp [hm]

theorem value_path {t : Host.Ty} (ht : t.isRecord = true) {chain : List Member}
    (hne : chain ≠ []) (hrecords : ∀ m ∈ chain.dropLast, m.type.isRecord = true) :
    value s (.path (.input t) chain) =
      lift ((fieldsOf s chain).map Statement.Expr.fieldPath) := by
  have hfold : (Host.Expr.path (.input t) chain).fold = .ok (.path (.input t) chain) :=
    Host.Expr.fold_path rfl chain
  rw [value, hfold, ← lowerValue_path ht hne hrecords .literals]
  rfl

/-- In a schema that declarations build, looking up numbers finds what was registered
under them, and nothing else. A path of members of the schema on top of an input record
is written as their fields with points between them; if some of them are not stored,
the first of these is reported with its record. Nothing is registered. -/
theorem member_paths (ds : List Declaration) :
    (∀ e, e ∈ Schema.entries ds ↔ (Schema.build ds).ResolvesIn e) ∧
    ∀ (t : Host.Ty) (chain : List Member) (ps : Parameters),
      t.isRecord = true → chain ≠ [] →
      (∀ m ∈ chain, ∃ r, (Schema.build ds).Declares r m) →
      (∀ m ∈ chain.dropLast, m.type.isRecord = true) →
      match chain.find? (·.field.isNone) with
      | none => ∃ x, value (Schema.build ds).mapping (.path (.input t) chain) ps = (.ok x, ps) ∧
          x.render = String.intercalate "." (chain.filterMap (·.field))
      | some m => ∃ r, (Schema.build ds).Declares r m ∧
          value (Schema.build ds).mapping (.path (.input t) chain) ps =
            (.error (.raised (.unknownField r.name m.name)), ps) := by
  refine ⟨Schema.mem_entries_iff ds, fun t chain ps ht hne hdeclared hrecords => ?_⟩
  have hfields := fieldsOf_declared (Schema.build_numbered ds) hdeclared
  rw [value_path ht hne hrecords]
  cases hfind : chain.find? (·.field.isNone) with
  | none =>
      rw [hfind] at hfields
      refine ⟨_, ?_, Statement.render_fieldPath (filterMap_field_ne_nil hne hfind)⟩
      rw [hfields]
      rfl
  | some m =>
      rw [hfind] at hfields
      obtain ⟨r, hr, hfields⟩ := hfields
      exact ⟨r, hr, by rw [hfields]; rfl⟩

/-- Goods have a parent, which is one of them, and an owner, which is not stored. -/
def goodsAndFirms : List Declaration :=
  [.record "Goods" "Catalog.Goods", .member "parent" (.record 0) (some "Parent"),
    .member "code" (.scalar .string) (some "Code"), .member "owner" (.record 1) none,
    .record "Firms" "Catalog.Firms", .member "name" (.scalar .string) (some "Name")]

def parentMember : Member := ⟨⟨0, 0⟩, "parent", .record 0, some "Parent"⟩

def codeMember : Member := ⟨⟨0, 1⟩, "code", .scalar .string, some "Code"⟩

def ownerMember : Member := ⟨⟨0, 2⟩, "owner", .record 1, none⟩

def firmNameMember : Member := ⟨⟨1, 0⟩, "name", .scalar .string, some "Name"⟩

theorem member_paths_goodsAndFirms :
    (∃ x, value (Schema.build goodsAndFirms).mapping
        (.path (.input (.record 0)) [parentMember, parentMember, codeMember]) (.start "p")
          = (.ok x, .start "p") ∧ x.render = "Parent.Parent.Code") ∧
    value (Schema.build goodsAndFirms).mapping
        (.path (.input (.record 0)) [parentMember, ownerMember, firmNameMember]) (.start "p")
          = (.error (.raised (.unknownField "Goods" "owner")), .start "p") := by
  have hgoods : ∀ m ∈ [parentMember, codeMember, ownerMember],
      ∃ r, (Schema.build goodsAndFirms).Declares r m :=
    fun m hm => ⟨_, List.mem_cons_self, hm⟩
  have hfirms : ∃ r, (Schema.build goodsAndFirms).Declares r firmNameMember :=
    ⟨_, List.mem_cons_of_mem _ List.mem_cons_self, List.mem_cons_self⟩
  simp only [List.forall_mem_cons] at hgoods
  obtain ⟨hparent, hcode, howner, -⟩ := hgoods
  constructor
  · exact (member_paths goodsAndFirms).2 (.record 0) [parentMember, parentMember, codeMember]
      (.start "p") rfl (by simp) (by simp [hparent, hcode]) (by simp [parentMember, Host.Ty.isRecord])
  · obtain ⟨r, hr, hvalue⟩ := (member_paths goodsAndFirms).2 (.record 0)
      [parentMember, ownerMember, firmNameMember] (.start "p") rfl (by simp)
      (by simp [hparent, howner, hfirms]) (by simp [parentMember, ownerMember, Host.Ty.isRecord])
    have hname : r.name = "Goods" := by
      rcases List.mem_cons.mp hr.1 with rfl | hr'
      · rfl
      · -- the firms have no owner
        obtain rfl := List.mem_singleton.mp hr'
        exact absurd (List.mem_singleton.mp hr.2) (by simp [ownerMember])
    rw [← hname]
    exact hvalue

end Lower

end Inquiry
