import Inquiry.Proofs.FoldNormal
import Inquiry.Proofs.FoldStrict
import Inquiry.Proofs.ReaderColumns

/-!
# The reader of a projection has the types of the projection as written

The kinds in a reader are read off the static types of the folded projection,
for only the folded one is lowered. A caller knows the types of the projection
that was written. They are the same as long as folding keeps static types, and
`ConsistentNode` is what a caller can be asked to see to: operands whose types
go together.

This is not quite enough. The first side of a coalesce may be an object, and
then the coalesce has the type of its second side; but a first side that folds
to a value is answered as it is, still an object. `OpenNode` excludes this, and
the exclusion is exact: of an expression that folds, every part keeps its type
exactly if every coalesce is open.

A record is read member by member. Where the projection is written as something
else than a record, a conditional say, and folds to one, the record is one that
is written inside it, and the kinds are those of its members.
-/

namespace Inquiry

namespace Host

/-! ## Every part keeps its type -/

/-- If the expression folds, it folds to one of its type. -/
def Expr.KeepsType (e : Expr) : Prop := ∀ e', e.fold = .ok e' → e'.type = e.type

theorem Expr.Everywhere.keepsType {e : Expr}
    (h : e.Everywhere fun x => ConsistentNode x ∧ OpenNode x) : e.Everywhere Expr.KeepsType :=
  h.parts.mono fun _ hx _ hf => Expr.fold_type_of_open hx hf

/-- A coalesce whose first side is an object, and is known, becomes an object. -/
theorem openNode_of_keepsType {x : Expr} (hfolds : x.Folds) (hkeeps : x.KeepsType)
    (hconsistent : ConsistentNode x) (hparts : x.Everywhere Expr.KeepsType) : OpenNode x := by
  cases x with
  | binary l op r =>
      cases op with
      | coalesce =>
          by_cases hsame : l.type = r.type
          · exact .inl hsame
          · refine .inr fun v t hl => ?_
            have hobject : l.type = .object := hconsistent.resolve_left hsame
            obtain ⟨e', hf⟩ := hfolds
            have htype := hkeeps e' hf
            obtain ⟨l', hl', r', _, hanswer⟩ := Expr.fold_binary.mp hf
            obtain rfl : Expr.constant v t = l' := Except.ok.inj (hl ▸ hl')
            have ht : t = .object := (hparts.2.1.self _ hl).trans hobject
            cases v with
            | null => rfl
            | _ =>
                cases hanswer
                change t = Operator.coalesce.type l.type r.type at htype
                rw [hobject, Operator.type_coalesce_object, ht] at htype
                exact absurd (hobject.trans htype) hsame
      | _ => trivial
  | _ => trivial

/-- Of an expression that folds, every part keeps its type exactly if every
coalesce is open. -/
theorem Expr.Folds.keepsType_iff {e : Expr} (hfolds : e.Folds)
    (hconsistent : e.Everywhere ConsistentNode) :
    e.Everywhere Expr.KeepsType ↔ e.Everywhere OpenNode := by
  constructor
  · intro hkeeps
    have hall := (hfolds.everywhere.and (hconsistent.and (hkeeps.and hkeeps.parts)))
    exact hall.mono fun x ⟨hf, hc, hk, hp⟩ => openNode_of_keepsType hf hk hc hp
  · intro hopen
    exact (hconsistent.and hopen).keepsType

/-! ## Where a folded record was written -/

/-- The expression is a part of the other one, or all of it. -/
def Expr.OccursIn (x e : Expr) : Prop := ¬e.Everywhere fun y => y ≠ x

theorem Expr.OccursIn.refl (e : Expr) : e.OccursIn e := fun h => h.self rfl

theorem Expr.OccursIn.holds {P : Expr → Prop} {x e : Expr} (hx : x.OccursIn e)
    (h : e.Everywhere P) : P x := by
  by_contra hnot
  exact hx (h.mono fun y (hy : P y) (heq : y = x) => hnot (heq ▸ hy))

/-- A record to which an expression folds is written in it. -/
theorem fold_construct_written {e : Expr} {type : Ty} {folded : List (String × Expr)}
    (hf : e.fold = .ok (.construct type folded)) :
    ∃ members, (Expr.construct type members).OccursIn e ∧ foldMembers members = .ok folded := by
  match e with
  | .binary l op r =>
      obtain ⟨l', hl, r', hr, hf⟩ := Expr.fold_binary.mp hf
      cases h : (Expr.binary l' op r').isRedex with
      | true =>
          rcases foldBinary_reduct h hf with hconstant | hpart
          · cases hconstant
          · rcases List.mem_cons.mp hpart with rfl | hpart
            · obtain ⟨members, hin, hmembers⟩ := fold_construct_written hl
              exact ⟨members, fun hall => hin hall.2.1, hmembers⟩
            · obtain rfl := List.mem_singleton.mp hpart
              obtain ⟨members, hin, hmembers⟩ := fold_construct_written hr
              exact ⟨members, fun hall => hin hall.2.2, hmembers⟩
      | false =>
          rw [foldBinary_kept h] at hf
          cases hf
  | .conditional t y n =>
      obtain ⟨t', _, y', hy, n', hn, hf⟩ := Expr.fold_conditional.mp hf
      cases h : (Expr.conditional t' y' n').isRedex with
      | true =>
          have hreduct := foldConditional_reduct h
          rw [hf] at hreduct
          rcases hreduct with hconstant | hpart
          · cases hconstant
          · rcases List.mem_cons.mp hpart with rfl | hpart
            · obtain ⟨members, hin, hmembers⟩ := fold_construct_written hy
              exact ⟨members, fun hall => hin hall.2.2.1, hmembers⟩
            · obtain rfl := List.mem_singleton.mp hpart
              obtain ⟨members, hin, hmembers⟩ := fold_construct_written hn
              exact ⟨members, fun hall => hin hall.2.2.2, hmembers⟩
      | false =>
          rw [foldConditional_kept h] at hf
          cases hf
  | .construct t ms =>
      obtain ⟨ms', hms, hf⟩ := Expr.fold_construct.mp hf
      cases hf
      exact ⟨ms, .refl _, hms⟩
  | .call method args =>
      obtain ⟨as, _, hf⟩ := Expr.fold_call.mp hf
      cases hf
  | .constant v t => cases Expr.fold_constant.mp hf
  | .convert x t =>
      obtain ⟨x', _, hf⟩ := Expr.fold_convert.mp hf
      cases h : (Expr.convert x' t).isRedex with
      | true => cases foldConvert_constant h hf
      | false => rw [foldConvert_kept h] at hf; cases hf
  | .input t => cases Expr.fold_input.mp hf
  | .member x ref t =>
      obtain ⟨x', _, hf⟩ := Expr.fold_member.mp hf
      cases hf
  | .array item xs =>
      obtain ⟨xs', _, hf⟩ := Expr.fold_array.mp hf
      cases h : (Expr.array item xs').isRedex with
      | true => have hconstant := foldArray_constant h; rw [hf] at hconstant; cases hconstant
      | false => rw [foldArray_kept h] at hf; cases hf
  | .typeIs x record =>
      obtain ⟨x', _, hf⟩ := Expr.fold_typeIs.mp hf
      cases hf
  | .not x =>
      obtain ⟨x', _, hf⟩ := Expr.fold_not.mp hf
      cases h : (Expr.not x').isRedex with
      | true => have hconstant := foldNot_constant h; rw [hf] at hconstant; cases hconstant
      | false => rw [foldNot_kept h] at hf; cases hf
  | .negate x =>
      obtain ⟨x', _, hf⟩ := Expr.fold_negate.mp hf
      cases h : (Expr.negate x').isRedex with
      | true => cases foldNegate_constant h hf
      | false => rw [foldNegate_kept h] at hf; cases hf

end Host

/-! ## Readers -/

open Host (Expr ConsistentNode OpenNode everywhereMembers foldMembers)

/-- The columns of a folded record are those of the record as it is written. -/
theorem Column.ofMember_fold {members folded : List (String × Expr)}
    (h : everywhereMembers Expr.KeepsType members) (hf : foldMembers members = .ok folded)
    (position : Nat) :
    (folded.zipIdx position).map Column.ofMember =
      (members.zipIdx position).map Column.ofMember := by
  induction members generalizing folded position with
  | nil => cases Host.foldMembers_nil.mp hf; rfl
  | cons m rest ih =>
      obtain ⟨name, e⟩ := m
      obtain ⟨e', he, others, hothers, rfl⟩ := Host.foldMembers_cons.mp hf
      have htype : e'.type = e.type := h.1.self e' he
      rw [List.zipIdx_cons, List.zipIdx_cons, List.map_cons, List.map_cons,
        ih h.2 hothers (position + 1), ofMember, ofMember]
      simp only [htype]

/-- The reader of a projection that folds to `folded` has the kinds of the types
as they are written: of the projection itself, or of the members of the record
in it that is left. -/
structure Reader.AsWritten (written folded : Expr) (reader : Reader) : Prop where
  scalar : (∀ type members, folded ≠ .construct type members) →
    reader = .scalar ⟨none, 0, written.type.kind?⟩
  record : ∀ type others, folded = .construct type others →
    ∃ members, (Expr.construct type members).OccursIn written ∧ foldMembers members = .ok others ∧
      reader = .record (members.zipIdx.map Column.ofMember)

theorem Reader.asWritten_ofProjection {e e' : Expr} (h : e.Everywhere Expr.KeepsType)
    (hf : e.fold = .ok e') : AsWritten e e' (ofProjection e') := by
  constructor
  · intro hscalar
    rw [← h.self e' hf]
    cases e' with
    | construct type members => exact absurd rfl (hscalar type members)
    | _ => rfl
  · rintro type others rfl
    obtain ⟨members, hin, hmembers⟩ := Host.fold_construct_written hf
    have hkeeps : (Expr.construct type members).Everywhere Expr.KeepsType := hin.holds h.parts
    exact ⟨members, hin, hmembers, by rw [ofProjection, Column.ofMember_fold hkeeps.2 hmembers]⟩

namespace Lower

/-- Folding keeps static types, and so a reader has the kinds of the projection
as written, where the types of operands go together and no coalesce of two
types has a value on its first side. Every part of an expression that folds
keeps its type exactly under this last condition. -/
theorem fold_keeps_types {e e' : Expr} (h : e.Everywhere ConsistentNode)
    (hf : e.fold = .ok e') :
    (e.Everywhere Expr.KeepsType ↔ e.Everywhere OpenNode) ∧
      (e.Everywhere OpenNode → e'.type = e.type ∧
        ∀ s ps projected after, projection s e ps = (.ok projected, after) →
          Reader.AsWritten e e' projected.reader) := by
  have hiff := Expr.Folds.keepsType_iff ⟨e', hf⟩ h
  refine ⟨hiff, fun hopen => ?_⟩
  have hkeeps := hiff.mpr hopen
  refine ⟨hkeeps.self e' hf, fun s ps projected after hrun => ?_⟩
  have hresult : (projection s e ps).1 = .ok projected := by rw [hrun]
  obtain ⟨folded, hfolded, hprojected⟩ := (projection_reader e ps).result hresult
  obtain rfl : folded = e' := Except.ok.inj (hfolded.symm.trans hf)
  rw [hprojected.reader]
  exact Reader.asWritten_ofProjection hkeeps hf

/-- The price of an offer, or zero where it has none, in the record that a
decided conditional leaves. -/
def pricedOffer : Expr :=
  .conditional (.binary (.ofValue (.int32 1)) (.relation .lt) (.ofValue (.int32 2)))
    (.construct .anonymous
      [("price", .binary (.get (.input .row) "Price" none) .coalesce (.ofValue (.int32 0)))])
    (.construct .anonymous [("price", .ofValue (.int32 0))])

theorem fold_keeps_types_pricedOffer :
    let folded : Expr := .construct .anonymous
      [("price", .binary (.get (.input .row) "Price" none) .coalesce (.ofValue (.int32 0)))]
    pricedOffer.Everywhere ConsistentNode ∧ pricedOffer.fold = .ok folded ∧
      pricedOffer.Everywhere OpenNode ∧ ∃ projected after,
        projection .empty pricedOffer (.start "p") = (.ok projected, after) ∧
          projected.reader = .record [⟨some "price", 0, some .int32⟩] ∧
          Reader.AsWritten pricedOffer folded projected.reader := by
  intro folded
  have hconsistent : pricedOffer.Everywhere ConsistentNode := by
    simp [pricedOffer, Expr.get, Expr.ofValue, Expr.Everywhere, everywhereMembers,
      Host.everywhereAll, ConsistentNode, Expr.type, Host.Method.type]
  have hopen : pricedOffer.Everywhere OpenNode := by
    have hprice : ∀ v t, (Expr.get (.input .row) "Price" none).fold = .ok (.constant v t) →
        v.isNull = true := by
      intro v t h
      cases h
    exact ⟨trivial, ⟨trivial, trivial, trivial⟩,
      ⟨trivial, ⟨.inr hprice, ⟨trivial, trivial, trivial, trivial⟩, trivial⟩, trivial⟩,
      trivial, trivial, trivial⟩
  have hfold : pricedOffer.fold = .ok folded := rfl
  obtain ⟨_, hreader⟩ := (fold_keeps_types hconsistent hfold).2 hopen
  refine ⟨hconsistent, hfold, hopen, _, _, rfl, rfl, ?_⟩
  exact hreader .empty (.start "p") _ _ rfl

/-- An object with a default of a declared type. -/
def untypedDefault : Expr :=
  .binary (.convert (.ofValue (.int32 7)) .object) .coalesce (.ofValue (.int32 5))

/-- The types go together, and still the type is lost: the known first side is
the answer, and the column has no kind. -/
theorem untypedDefault_loses_type :
    untypedDefault.Everywhere ConsistentNode ∧ untypedDefault.type = .scalar .int32 ∧
      untypedDefault.fold = .ok (.constant (.int32 7) .object) ∧
      ∃ projected after, projection .empty untypedDefault (.start "p") = (.ok projected, after) ∧
        projected.reader = .scalar ⟨none, 0, none⟩ ∧
        projected.reader ≠ .scalar ⟨none, 0, untypedDefault.type.kind?⟩ :=
  ⟨⟨.inr rfl, ⟨trivial, trivial⟩, trivial⟩, rfl, rfl, _, _, rfl, rfl, by decide⟩

end Lower

end Inquiry
