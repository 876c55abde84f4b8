import Inquiry.Proofs.CompiledForm
import Inquiry.Proofs.FoldSubstitution

/-!
# The names that accessors read by

An accessor call reads a field by a name that is itself an expression, and only
folding shows which name that is. Folding moves accessor calls about: it drops
some of them, with the branch of a conditional or the side of a coalesce, but
it makes none. So what is known of the names in an expression is known of the
names in the folded one.
-/

namespace Inquiry.Host

/-- The name by which an accessor call reads a field, if its argument folds to
one, has a property. -/
def AccessorNamed (named : String → Prop) : Expr → Prop
  | .call (.getValue _) [_, name] =>
      ∀ field type, name.fold = .ok (.constant (.string field) type) → named field
  | _ => True

section

variable {named : String → Prop}

theorem everywhere_constant (v : Value) (t : Ty) :
    (Expr.constant v t).Everywhere (NamedAccess named) :=
  trivial

theorem everywhere_binary {l r : Expr} (op : Operator) (hl : l.Everywhere (NamedAccess named))
    (hr : r.Everywhere (NamedAccess named)) :
    (Expr.binary l op r).Everywhere (NamedAccess named) :=
  ⟨trivial, hl, hr⟩

theorem foldBinary_named {type : Ty} {l r e : Expr} {op : Operator}
    (hl : l.Everywhere (NamedAccess named)) (hr : r.Everywhere (NamedAccess named))
    (h : foldBinary type l op r = .ok e) : e.Everywhere (NamedAccess named) := by
  have hkept := everywhere_binary op hl hr
  cases op with
  | logic op =>
      cases h
      rw [foldLogic]
      split
      · exact everywhere_constant _ _
      · split
        · exact hr
        · split
          · exact hl
          · exact hkept
  | coalesce =>
      cases h
      rw [foldCoalesce.eq_def]
      split
      · exact hr
      · exact hl
      · exact hkept
  | relation op =>
      rw [foldBinary_relation, foldRelation.eq_def] at h
      split at h
      · obtain ⟨result, _, h⟩ := bind_eq_ok.mp h
        cases h
        exact everywhere_constant _ _
      · cases h
        exact hkept
  | arith op =>
      rcases foldArith_cases h with ⟨v, rfl⟩ | rfl
      · exact everywhere_constant _ _
      · exact hkept

theorem foldConvert_named {x e : Expr} {t : Ty} (hx : x.Everywhere (NamedAccess named))
    (h : foldConvert x t = .ok e) : e.Everywhere (NamedAccess named) := by
  have hkept : (Expr.convert x t).Everywhere (NamedAccess named) :=
    ⟨trivial, hx⟩
  rw [foldConvert.eq_def] at h
  split at h
  · split at h
    · obtain ⟨v, _, h⟩ := bind_eq_ok.mp h
      cases h
      exact everywhere_constant _ _
    · cases h
      exact hkept
  · cases h
    exact hkept

theorem foldNegate_named {t : Ty} {x e : Expr} (hx : x.Everywhere (NamedAccess named))
    (h : foldNegate t x = .ok e) : e.Everywhere (NamedAccess named) := by
  rw [foldNegate.eq_def] at h
  split at h
  · obtain ⟨_, _, h⟩ := bind_eq_ok.mp h
    obtain ⟨_, _, h⟩ := bind_eq_ok.mp h
    cases h
    exact everywhere_constant _ _
  · cases h
    exact ⟨trivial, hx⟩

theorem foldAll_forall₂ {es folded : List Expr} (h : foldAll es = .ok folded) :
    List.Forall₂ (fun e e' => e.fold = .ok e') es folded := by
  induction es generalizing folded with
  | nil =>
      obtain rfl := foldAll_nil.mp h
      exact .nil
  | cons e rest ih =>
      obtain ⟨e', he, rest', hrest, rfl⟩ := foldAll_cons.mp h
      exact .cons he (ih hrest)

theorem call_named {method : Method} {args folded : List Expr}
    (h : AccessorNamed named (.call method args)) (hfold : foldAll args = .ok folded) :
    NamedAccess named (.call method folded) := by
  unfold NamedAccess
  split
  · next kind x field type heq =>
      cases heq
      rcases foldAll_forall₂ hfold with _ | ⟨_, _ | ⟨hname, _ | _⟩⟩
      exact h field type hname
  · trivial

mutual

theorem Expr.fold_named {e e' : Expr} (h : e.Everywhere (AccessorNamed named))
    (hf : e.fold = .ok e') : e'.Everywhere (NamedAccess named) := by
  match e with
  | .binary l op r =>
      obtain ⟨l', hl, r', hr, hf⟩ := Expr.fold_binary.mp hf
      exact foldBinary_named (l.fold_named h.2.1 hl) (r.fold_named h.2.2 hr) hf
  | .call method args =>
      obtain ⟨folded, hargs, rfl⟩ := Expr.fold_call.mp hf
      exact ⟨call_named h.1 hargs, foldAll_named h.2 hargs⟩
  | .conditional t y n =>
      obtain ⟨t', ht, y', hy, n', hn, rfl⟩ := Expr.fold_conditional.mp hf
      have ht := t.fold_named h.2.1 ht
      have hy := y.fold_named h.2.2.1 hy
      have hn := n.fold_named h.2.2.2 hn
      rw [foldConditional.eq_def]
      split
      · exact hy
      · exact hn
      · exact ⟨trivial, ht, hy, hn⟩
  | .constant v t =>
      obtain rfl := Expr.fold_constant.mp hf
      exact everywhere_constant v t
  | .input t =>
      obtain rfl := Expr.fold_input.mp hf
      exact trivial
  | .convert x t =>
      obtain ⟨x', hx, hf⟩ := Expr.fold_convert.mp hf
      exact foldConvert_named (x.fold_named h.2 hx) hf
  | .member x ref t =>
      obtain ⟨x', hx, rfl⟩ := Expr.fold_member.mp hf
      exact ⟨trivial, x.fold_named h.2 hx⟩
  | .construct t ms =>
      obtain ⟨ms', hms, rfl⟩ := Expr.fold_construct.mp hf
      exact ⟨trivial, foldMembers_named h.2 hms⟩
  | .array item es =>
      obtain ⟨es', hes, rfl⟩ := Expr.fold_array.mp hf
      have hes := foldAll_named h.2 hes
      rw [foldArray]
      split
      · exact everywhere_constant _ _
      · exact ⟨trivial, hes⟩
  | .typeIs x record =>
      obtain ⟨x', hx, rfl⟩ := Expr.fold_typeIs.mp hf
      exact ⟨trivial, x.fold_named h.2 hx⟩
  | .not x =>
      obtain ⟨x', hx, rfl⟩ := Expr.fold_not.mp hf
      have hx := x.fold_named h.2 hx
      rw [foldNot.eq_def]
      split
      · exact everywhere_constant _ _
      · exact ⟨trivial, hx⟩
  | .negate x =>
      obtain ⟨x', hx, hf⟩ := Expr.fold_negate.mp hf
      exact foldNegate_named (x.fold_named h.2 hx) hf

theorem foldAll_named {es es' : List Expr} (h : everywhereAll (AccessorNamed named) es)
    (hf : foldAll es = .ok es') : everywhereAll (NamedAccess named) es' := by
  match es with
  | [] =>
      obtain rfl := foldAll_nil.mp hf
      trivial
  | e :: rest =>
      obtain ⟨e', he, rest', hrest, rfl⟩ := foldAll_cons.mp hf
      exact ⟨e.fold_named h.1 he, foldAll_named h.2 hrest⟩

theorem foldMembers_named {ms ms' : List (String × Expr)}
    (h : everywhereMembers (AccessorNamed named) ms) (hf : foldMembers ms = .ok ms') :
    everywhereMembers (NamedAccess named) ms' := by
  match ms with
  | [] =>
      obtain rfl := foldMembers_nil.mp hf
      trivial
  | (name, e) :: rest =>
      obtain ⟨e', he, rest', hrest, rfl⟩ := foldMembers_cons.mp hf
      exact ⟨e.fold_named h.1 he, foldMembers_named h.2 hrest⟩

end

/-- What is known of the names in an expression is known of those that are left
when it has been folded. -/
theorem Expr.Everywhere.readable {e : Expr} (h : e.Everywhere (AccessorNamed named)) :
    Lower.Readable named e :=
  fun _ hf => e.fold_named h hf

end

end Inquiry.Host
