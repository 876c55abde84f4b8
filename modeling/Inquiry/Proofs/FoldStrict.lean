import Inquiry.Proofs.FoldType

/-!
# Folding goes through every part

A conditional takes one of its branches, and a connective or a coalesce may be
decided by its first operand. A reader could expect that the rest does not
matter then. For the result it does not; but folding evaluates all parts before
it looks at any, so a part that is not taken still has to fold. Where it does
not, because it divides by zero or leaves the range of its type, its failure is
the answer.

The statements below put the two together as one equation each: the node folds
as the part that is not taken does, except that a success is replaced by the
part that is. How deep the failure sits makes no difference, for an expression
folds only if every expression in it does.
-/

namespace Inquiry.Host

/-! ## Every part folds -/

/-- The expression folds. -/
def Expr.Folds (e : Expr) : Prop := ∃ e', e.fold = .ok e'

mutual

/-- An expression folds only if all expressions in it do, taken or not. -/
theorem Expr.Folds.everywhere {e : Expr} (h : e.Folds) : e.Everywhere Expr.Folds := by
  obtain ⟨e', hf⟩ := id h
  match e with
  | .binary l op r =>
      obtain ⟨l', hl, r', hr, _⟩ := Expr.fold_binary.mp hf
      exact ⟨h, Expr.Folds.everywhere ⟨l', hl⟩, Expr.Folds.everywhere ⟨r', hr⟩⟩
  | .call method args =>
      obtain ⟨as, has, _⟩ := Expr.fold_call.mp hf
      exact ⟨h, foldAll_everywhere has⟩
  | .conditional t y n =>
      obtain ⟨t', ht, y', hy, n', hn, _⟩ := Expr.fold_conditional.mp hf
      exact ⟨h, Expr.Folds.everywhere ⟨t', ht⟩, Expr.Folds.everywhere ⟨y', hy⟩,
        Expr.Folds.everywhere ⟨n', hn⟩⟩
  | .convert x t =>
      obtain ⟨x', hx, _⟩ := Expr.fold_convert.mp hf
      exact ⟨h, Expr.Folds.everywhere ⟨x', hx⟩⟩
  | .member x ref t =>
      obtain ⟨x', hx, _⟩ := Expr.fold_member.mp hf
      exact ⟨h, Expr.Folds.everywhere ⟨x', hx⟩⟩
  | .construct t ms =>
      obtain ⟨ms', hms, _⟩ := Expr.fold_construct.mp hf
      exact ⟨h, foldMembers_everywhere hms⟩
  | .array item xs =>
      obtain ⟨xs', hxs, _⟩ := Expr.fold_array.mp hf
      exact ⟨h, foldAll_everywhere hxs⟩
  | .typeIs x record =>
      obtain ⟨x', hx, _⟩ := Expr.fold_typeIs.mp hf
      exact ⟨h, Expr.Folds.everywhere ⟨x', hx⟩⟩
  | .not x =>
      obtain ⟨x', hx, _⟩ := Expr.fold_not.mp hf
      exact ⟨h, Expr.Folds.everywhere ⟨x', hx⟩⟩
  | .negate x =>
      obtain ⟨x', hx, _⟩ := Expr.fold_negate.mp hf
      exact ⟨h, Expr.Folds.everywhere ⟨x', hx⟩⟩
  | .constant _ _ | .input _ => exact h

theorem foldAll_everywhere {es es' : List Expr} (hf : foldAll es = .ok es') :
    everywhereAll Expr.Folds es := by
  match es with
  | [] => trivial
  | e :: rest =>
      obtain ⟨e', he, rest', hrest, _⟩ := foldAll_cons.mp hf
      exact ⟨Expr.Folds.everywhere ⟨e', he⟩, foldAll_everywhere hrest⟩

theorem foldMembers_everywhere {ms ms' : List (String × Expr)} (hf : foldMembers ms = .ok ms') :
    everywhereMembers Expr.Folds ms := by
  match ms with
  | [] => trivial
  | (_, e) :: rest =>
      obtain ⟨e', he, rest', hrest, _⟩ := foldMembers_cons.mp hf
      exact ⟨Expr.Folds.everywhere ⟨e', he⟩, foldMembers_everywhere hrest⟩

end

/-! ## What the part that is not taken decides -/

section

variable {a a' b b' c c' : Expr}

theorem fold_conditional_true (ha : a.fold = .ok a') (htest : a'.bool? = some true)
    (hb : b.fold = .ok b') : (Expr.conditional a b c).fold = c.fold.map fun _ => b' := by
  rw [Expr.fold, ha, hb]
  cases c.fold with
  | error err => rfl
  | ok c' =>
      show Except.ok (foldConditional a' b' c') = .ok b'
      rw [foldConditional, htest]

theorem fold_conditional_false (ha : a.fold = .ok a') (htest : a'.bool? = some false)
    (hc : c.fold = .ok c') : (Expr.conditional a b c).fold = b.fold.map fun _ => c' := by
  rw [Expr.fold, ha, hc]
  cases b.fold with
  | error err => rfl
  | ok b' =>
      show Except.ok (foldConditional a' b' c') = .ok c'
      rw [foldConditional, htest]

theorem fold_logic_deciding {op : Statement.Connective} (ha : a.fold = .ok a')
    (hdeciding : a'.bool? = some (op == .or)) :
    (Expr.binary a (.logic op) b).fold = b.fold.map fun _ => .ofValue (.bool (op == .or)) := by
  rw [Expr.fold, ha]
  cases b.fold with
  | error err => rfl
  | ok b' =>
      show foldBinary ((Operator.logic op).type a.type b.type) a' (.logic op) b' = _
      rw [foldBinary_logic, foldLogic, if_pos (by simp [hdeciding])]
      rfl

theorem fold_coalesce_known {v : Value} {t : Ty} (ha : a.fold = .ok (.constant v t))
    (hv : v.isNull = false) :
    (Expr.binary a .coalesce b).fold = b.fold.map fun _ => .constant v t := by
  rw [Expr.fold, ha]
  cases b.fold with
  | error err => rfl
  | ok b' =>
      show Except.ok (foldCoalesce (.constant v t) b') = .ok (.constant v t)
      cases v with
      | null => cases hv
      | _ => rfl

end

/-- The part that is not taken decides whether folding fails, and nothing else.
With a test that folds to true, a conditional is the folded first branch, or
the failure of the second one; with false, the other way round. A connective
that its first operand decides is the deciding truth value, and a coalesce
whose first side is a constant other than null is this constant, or else they
are the failure of the other operand. No operator shields what stands in it: an
expression in which any expression does not fold, does not fold. -/
theorem fold_part_not_taken (a a' b c : Expr) (ha : a.fold = .ok a') :
    (a'.bool? = some true →
        (∀ b', b.fold = .ok b' → (Expr.conditional a b c).fold = c.fold.map fun _ => b') ∧
          (Expr.binary a (.logic .or) b).fold = b.fold.map fun _ => .ofValue (.bool true)) ∧
      (a'.bool? = some false →
        (∀ c', c.fold = .ok c' → (Expr.conditional a b c).fold = b.fold.map fun _ => c') ∧
          (Expr.binary a (.logic .and) b).fold = b.fold.map fun _ => .ofValue (.bool false)) ∧
      (∀ v t, a' = .constant v t → v.isNull = false →
        (Expr.binary a .coalesce b).fold = b.fold.map fun _ => a') ∧
      ∀ e : Expr, e.Folds → e.Everywhere Expr.Folds := by
  refine ⟨fun htrue => ⟨?_, ?_⟩, fun hfalse => ⟨?_, ?_⟩, ?_, fun e => Expr.Folds.everywhere⟩
  · exact fun b' => fold_conditional_true ha htrue
  · exact fold_logic_deciding ha htrue
  · exact fun c' => fold_conditional_false ha hfalse
  · exact fold_logic_deciding ha hfalse
  · rintro v t rfl hv
    exact fold_coalesce_known ha hv

/-- A share of a total, guarded against a divisor of zero. -/
def guardedShare (divisor : Int32) : Expr :=
  .conditional (.binary (.ofValue (.int32 divisor)) (.relation .eq) (.ofValue (.int32 0)))
    (.ofValue (.int32 0))
    (.binary (.ofValue (.int32 100)) (.arith .div) (.ofValue (.int32 divisor)))

/-- The guard holds, and still the division that it keeps out is the failure. -/
theorem fold_part_not_taken_guardedShare :
    (Expr.binary (.ofValue (.int32 0)) (.relation .eq) (.ofValue (.int32 0))).fold =
        .ok (.ofValue (.bool true)) ∧
      (guardedShare 0).fold = .error ArithmeticFault.divisionByZero.error ∧
      ¬(guardedShare 0).Folds := by
  have htest : (Expr.binary (.ofValue (.int32 0)) (.relation .eq) (.ofValue (.int32 0))).fold =
      .ok (.ofValue (.bool true)) := rfl
  have hguarded : (guardedShare 0).fold = .error ArithmeticFault.divisionByZero.error :=
    ((fold_part_not_taken _ _ (.ofValue (.int32 0)) _ htest).1 rfl).1 _ rfl
  refine ⟨htest, hguarded, ?_⟩
  rintro ⟨e', he'⟩
  rw [hguarded] at he'
  cases he'

/-- A branch that is not taken can make folding fail. -/
theorem guardedShare_shields_nothing :
    ¬∀ a b c b' : Expr, a.fold = .ok (.ofValue (.bool true)) → b.fold = .ok b' →
      (Expr.conditional a b c).fold = .ok b' := by
  intro h
  have hguarded : (guardedShare 0).fold = .ok (.ofValue (.int32 0)) := h _ _ _ _ rfl rfl
  cases hguarded

end Inquiry.Host
