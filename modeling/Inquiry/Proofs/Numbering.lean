import Inquiry.Lower.Parameters
import Inquiry.Statement.Name

/-!
# Parameter names are numerals behind a stem

A list of parameters only ever grows at its end, and the name of an entry is
the stem followed by the entry's place. Two facts about that discipline carry
everything that is said elsewhere about parameters.

The first is bookkeeping: registering values one after the other appends
`fresh ps vs`, whose names depend on the list before only through its stem and
its length, so a computation that registers in two rounds registers the
concatenation.

The second is that no two names collide, and that lower-casing cannot make
them collide either. The stem is an arbitrary string, and lower-casing may
well change it — the dotted capital I even changes its length — but it acts
character by character and leaves digits alone. Two names therefore have the
same lower-case stem in front of their numerals, and the numerals differ.
-/

namespace Inquiry.Lower

open Statement (Name)

namespace Parameters

/-- Registers values one after the other. -/
def addAll (ps : Parameters) (vs : List Value) : Parameters := vs.foldl add ps

/-- The entries that values get when they are registered one after the other. -/
def fresh (ps : Parameters) : List Value → List Parameter
  | [] => []
  | v :: vs => ⟨ps.nextName, v⟩ :: fresh (ps.add v) vs

@[simp]
theorem addAll_nil (ps : Parameters) : ps.addAll [] = ps := rfl

@[simp]
theorem addAll_cons (ps : Parameters) (v : Value) (vs : List Value) :
    ps.addAll (v :: vs) = (ps.add v).addAll vs := rfl

@[simp]
theorem addAll_append (ps : Parameters) (vs ws : List Value) :
    ps.addAll (vs ++ ws) = (ps.addAll vs).addAll ws :=
  List.foldl_append

@[simp]
theorem addAll_stem (ps : Parameters) (vs : List Value) : (ps.addAll vs).stem = ps.stem := by
  induction vs generalizing ps with
  | nil => rfl
  | cons v vs ih => rw [addAll_cons, ih]; rfl

theorem fresh_append (ps : Parameters) (vs ws : List Value) :
    ps.fresh (vs ++ ws) = ps.fresh vs ++ (ps.addAll vs).fresh ws := by
  induction vs generalizing ps with
  | nil => rfl
  | cons v vs ih => rw [List.cons_append, fresh, fresh, addAll_cons, ih, List.cons_append]

/-- Registering appends, whatever the list was before. -/
theorem addAll_entries (ps : Parameters) (vs : List Value) :
    (ps.addAll vs).entries = ps.entries ++ ps.fresh vs := by
  induction vs generalizing ps with
  | nil => rw [addAll_nil, fresh, List.append_nil]
  | cons v vs ih =>
      rw [addAll_cons, ih, fresh, add]
      exact List.append_assoc _ [_] _

@[simp]
theorem fresh_values (ps : Parameters) (vs : List Value) :
    (ps.fresh vs).map (·.value) = vs := by
  induction vs generalizing ps with
  | nil => rfl
  | cons v vs ih => rw [fresh, List.map_cons, ih]

/-- The entries of a list beyond those of an earlier one. -/
def since (after before : Parameters) : List Parameter :=
  after.entries.drop before.entries.length

@[simp]
theorem addAll_since (ps : Parameters) (vs : List Value) :
    (ps.addAll vs).since ps = ps.fresh vs := by
  rw [since, addAll_entries, List.drop_left]

/-! ## Numbered lists -/

/-- Every entry is named by the stem and its place, counted from one. -/
def Numbered (ps : Parameters) : Prop :=
  ∀ i q, ps.entries[i]? = some q → q.name = nameOf ps.stem (i + 1)

theorem start_numbered (stem : String) : (start stem).Numbered := by
  intro i q h
  simp [start] at h

theorem Numbered.add {ps : Parameters} (h : ps.Numbered) (v : Value) : (ps.add v).Numbered := by
  intro i q hq
  simp only [Parameters.add, List.getElem?_append] at hq
  split at hq
  · exact h i q hq
  · next hi =>
      -- past the old entries there is only the new one, at the first free place
      have hplace : i = ps.entries.length := by
        have := (List.getElem?_eq_some_iff.mp hq).1
        simp at this
        omega
      subst hplace
      simp only [Nat.sub_self, List.getElem?_cons_zero, Option.some.injEq] at hq
      rw [← hq]
      rfl

theorem Numbered.addAll {ps : Parameters} (h : ps.Numbered) (vs : List Value) :
    (ps.addAll vs).Numbered := by
  induction vs generalizing ps with
  | nil => exact h
  | cons v vs ih => exact ih (h.add v)

end Parameters

/-! ## No two names collide -/

theorem lower_digit {c : Char} (h : c.isDigit = true) : Text.lower c = [c] := by
  have hrange : 48 ≤ c.toNat ∧ c.toNat ≤ 57 := by
    simpa [Char.isDigit, UInt32.le_iff_toNat_le] using h
  have hupper : ¬(65 ≤ c.toNat ∧ c.toNat ≤ 90) := by omega
  have hsame : c.toLower = c := by
    unfold Char.toLower
    rw [dif_neg]
    simpa [UInt32.le_iff_toNat_le] using hupper
  rw [Text.lower, if_pos (by omega), hsame]

theorem flatMap_lower_digits {ds : List Char} (h : ∀ c ∈ ds, c.isDigit = true) :
    ds.flatMap Text.lower = ds := by
  induction ds with
  | nil => rfl
  | cons d ds ih =>
      rw [List.flatMap_cons, lower_digit (h d (by simp)), ih fun c hc => h c (by simp [hc])]
      rfl

/-- Lower-casing a name lower-cases the stem and keeps the numeral. -/
theorem lowerAll_nameOf (stem : String) (n : Nat) :
    Text.lowerAll (Parameters.nameOf stem n) = Text.lowerAll stem ++ Nat.toDigits 10 n := by
  rw [Text.lowerAll, Parameters.nameOf, String.toList_append, List.flatMap_append,
    Nat.toString_eq_repr, Nat.toList_repr,
    flatMap_lower_digits fun c hc => Nat.isDigit_of_mem_toDigits (by decide) (by decide) hc]
  rfl

theorem lowerAll_nameOf_inj {stem : String} {m n : Nat}
    (h : Text.lowerAll (Parameters.nameOf stem m) = Text.lowerAll (Parameters.nameOf stem n)) :
    m = n := by
  rw [lowerAll_nameOf, lowerAll_nameOf] at h
  have hdigits := congrArg (fun ds => Nat.ofDigitChars 10 ds 0) (List.append_cancel_left h)
  simpa using hdigits

theorem nameOf_inj {stem : String} {m n : Nat}
    (h : Parameters.nameOf stem m = Parameters.nameOf stem n) : m = n :=
  lowerAll_nameOf_inj (congrArg Text.lowerAll h)

theorem Parameters.fresh_number {ps : Parameters} {vs : List Value} {q : Parameter}
    (h : q ∈ ps.fresh vs) : ∃ n, ps.entries.length < n ∧ q.name = nameOf ps.stem n := by
  induction vs generalizing ps with
  | nil => cases h
  | cons v vs ih =>
      rcases List.mem_cons.mp h with rfl | h
      · exact ⟨ps.entries.length + 1, Nat.lt_succ_self _, rfl⟩
      · obtain ⟨n, hn, hname⟩ := ih h
        have hlength : (ps.add v).entries.length = ps.entries.length + 1 := List.length_append
        exact ⟨n, by omega, hname⟩

/-- New names differ from one another, whatever the list before. -/
theorem Parameters.fresh_pairwise (ps : Parameters) (vs : List Value) :
    (ps.fresh vs).Pairwise fun a b => a.name ≠ b.name := by
  induction vs generalizing ps with
  | nil => exact .nil
  | cons v vs ih =>
      refine .cons (fun q hq heq => ?_) (ih (ps.add v))
      obtain ⟨n, hn, hname⟩ := fresh_number hq
      have hlength : (ps.add v).entries.length = ps.entries.length + 1 := List.length_append
      have := nameOf_inj (heq.trans hname)
      omega

/-- The names of a numbered list stay apart in lower case. -/
theorem Parameters.Numbered.pairwise {ps : Parameters} (h : ps.Numbered) :
    ps.entries.Pairwise fun a b => Text.lowerAll a.name ≠ Text.lowerAll b.name := by
  rw [List.pairwise_iff_getElem]
  intro i j hi hj hij heq
  rw [h i _ (List.getElem?_eq_getElem hi), h j _ (List.getElem?_eq_getElem hj)] at heq
  have := lowerAll_nameOf_inj heq
  omega

end Inquiry.Lower
