import Inquiry.Proofs.AccessorNames
import Inquiry.Proofs.WrittenReferences

/-!
# References in the text of a compiled query

Nothing in a constant can add a reference to the text of a compiled query or
take one away. What the text of a statement spells is known for statements of
any kind; two things are left to see. A compiled statement has no group of
columns, so it lists every reference that it writes. And its parameters have
names that the scan takes as a whole: a stem that is a name, with a number
behind it.
-/

namespace Inquiry.Statement

/-! ## Statements as lowering writes them -/

/-- What is known of a node of a well-formed statement. -/
def SoundNode (named : String → Prop) (e : Expr) : Prop := NamedNode named e ∧ GroupedOnce e

section

variable {named : String → Prop}

mutual

/-- Lowering writes no group of columns, and no names but those it is given. -/
theorem Expr.WellFormed.everywhere {e : Expr} (h : e.WellFormed named) :
    e.Everywhere (SoundNode named) (NamedTest named) := by
  match e with
  | .arith _ _ _ => exact ⟨⟨trivial, trivial⟩, h.1.everywhere, h.2.everywhere⟩
  | .case _ _ =>
      exact ⟨⟨trivial, trivial⟩, branchesWellFormed_everywhere h.2.1, h.2.2.everywhere⟩
  | .cast _ _ => exact ⟨⟨h.2, trivial⟩, h.1.everywhere⟩
  | .field table _ =>
      refine ⟨⟨h.2, trivial⟩, ?_⟩
      rcases h.1 with rfl | htable
      · exact ⟨trivial, trivial⟩
      · exact htable.everywhere
  | .call _ _ => exact ⟨⟨trivial, trivial⟩, allWellFormed_everywhere h.2⟩
  | .negate _ => exact ⟨⟨trivial, trivial⟩, Expr.WellFormed.everywhere h⟩
  | .literal _ | .param _ => exact ⟨trivial, trivial⟩

theorem Condition.WellFormed.everywhere {c : Condition} (h : c.WellFormed named) :
    c.Everywhere (SoundNode named) (NamedTest named) := by
  match c with
  | .between _ _ _ _ => exact ⟨trivial, h.1.everywhere, h.2.1.1.everywhere, h.2.2.1.everywhere⟩
  | .inList _ _ _ _ => exact ⟨trivial, h.1.everywhere, allWellFormed_everywhere h.2.2.2⟩
  | .isNull _ _ | .like _ _ _ _ => exact ⟨trivial, Expr.WellFormed.everywhere h⟩
  | .logic _ _ _ => exact ⟨trivial, h.1.everywhere, h.2.everywhere⟩
  | .not _ => exact ⟨trivial, Condition.WellFormed.everywhere h⟩
  | .refs _ _ => exact ⟨h.2, h.1.everywhere⟩
  | .relation _ _ _ => exact ⟨trivial, h.1.everywhere, h.2.everywhere⟩

theorem allWellFormed_everywhere {es : List Expr} (h : AllWellFormed named es) :
    everywhereAll (SoundNode named) (NamedTest named) es := by
  match es with
  | [] => trivial
  | _ :: _ => exact ⟨h.1.everywhere, allWellFormed_everywhere h.2⟩

theorem branchesWellFormed_everywhere {bs : List (Condition × Expr)}
    (h : BranchesWellFormed named bs) :
    everywhereBranches (SoundNode named) (NamedTest named) bs := by
  match bs with
  | [] => trivial
  | (_, _) :: _ => exact ⟨h.1.everywhere, h.2.1.everywhere, branchesWellFormed_everywhere h.2.2⟩

end

theorem Summarises.everywhere {func : Summary} {e : Expr} (h : Summarises named func e) :
    e.Everywhere (SoundNode named) (NamedTest named) := by
  unfold Summarises at h
  split at h
  · exact ⟨trivial, trivial⟩
  · exact ⟨⟨trivial, trivial⟩, h.1.everywhere⟩
  · exact ⟨⟨trivial, trivial⟩, h.2.everywhere⟩
  · exact h.elim

theorem ColumnsFor.everywhere {plan : Plan} {columns : List Expr} {reader : Option Reader}
    (h : ColumnsFor named plan columns reader) :
    ∀ e ∈ columns, e.Everywhere (SoundNode named) (NamedTest named) := by
  unfold ColumnsFor at h
  split at h
  · obtain ⟨⟨column, rfl, hcolumn⟩, _⟩ := h
    intro e he
    cases List.mem_singleton.mp he
    exact hcolumn.everywhere
  · exact everywhereAll_iff.mp (allWellFormed_everywhere h.1.2)
  · obtain ⟨rfl, _⟩ := h
    intro e he
    cases List.mem_singleton.mp he
    exact ⟨trivial, trivial⟩

theorem Query.WellFormed.everywhere {plan : Plan} {q : Query} {reader : Option Reader}
    (h : q.WellFormed named plan reader) : q.Everywhere (SoundNode named) (NamedTest named) where
  columns := h.columns.everywhere
  filter c hc := (h.filter c hc).everywhere
  order keys hkeys k hk := ((h.order keys hkeys).2 k hk).everywhere

end

section

variable {w : WordChars}

/-- The text of a condition spells the references of the condition. -/
theorem Condition.spells {c : Condition} (h : c.WellFormed Clean) (hp : Runs w c.params) :
    Spells w c.render (c.params.map Name.text) := by
  have heverywhere := h.everywhere
  rw [← c.written_eq_params (heverywhere.mono (fun _ hnode => hnode.2) fun _ htest => htest)]
  exact Condition.spells_written (heverywhere.mono (fun _ hnode => hnode.1) fun _ htest => htest) hp

/-- The text of a query spells the references of the query. -/
theorem Query.spells {plan : Plan} {q : Query} {reader : Option Reader}
    (h : q.WellFormed Clean plan reader) (hp : Runs w q.params) :
    Spells w q.render (q.params.map Name.text) := by
  have heverywhere := h.everywhere
  obtain ⟨name, hname, hclean⟩ := h.source
  have hsource : ∀ other, q.source = some other → Clean other := by
    intro other hother
    rw [hname] at hother
    exact Option.some.inj hother ▸ hclean
  rw [← Query.written_eq_params (heverywhere.mono (fun _ hnode => hnode.2) fun _ htest => htest)]
  exact Query.spells_written (heverywhere.mono (fun _ hnode => hnode.1) fun _ htest => htest)
    hsource hp

end

end Inquiry.Statement

namespace Inquiry.Compiler

open Statement (WordChars IsRun Runs Clean references)
open Host (AccessorNamed)

section

variable {w : WordChars} {stem : String} {refs : List Statement.Name}
  {params : List Lower.Parameter}

theorem isRun_nameOf (hstem : IsRun w stem) (n : Nat) : IsRun w (stem ++ toString n) := by
  intro c hc
  rw [String.toList_append] at hc
  rcases List.mem_append.mp hc with hc | hc
  · exact hstem c hc
  · rw [Nat.toString_eq_repr, Nat.toList_repr] at hc
    exact WordChars.test_digit (isDigit_toDigits hc)

theorem runs_of_matches (hstem : IsRun w stem) (h : Session.Matches stem refs params) :
    Runs w refs := by
  intro n hn
  have hname : n.text ∈ params.map (·.name) := by
    rw [← h.1]
    exact List.mem_map_of_mem hn
  obtain ⟨q, hq, hname⟩ := List.mem_map.mp hname
  obtain ⟨i, hi⟩ := List.mem_iff_getElem?.mp hq
  rw [← hname, h.2 i q hi]
  exact isRun_nameOf hstem (i + 1)

theorem nodup_of_matches (h : Session.Matches stem refs params) :
    (params.map (·.name)).Nodup := by
  rw [List.Nodup, List.pairwise_map, List.pairwise_iff_getElem]
  intro i j hi hj hij heq
  rw [h.2 i _ (List.getElem?_eq_getElem hi), h.2 j _ (List.getElem?_eq_getElem hj)] at heq
  have := Lower.nameOf_inj heq
  omega

end

/-- The references in the text of a compiled request are its parameters, each
once and in order, and so are those in the text of a compiled condition.
Nothing is asked of the constants; the names of fields and tables are asked to
have no quotes and no `&`, and the stem of the parameters to be a name. -/
theorem compile_references (w : WordChars) (s : Mapping) (stem : String) (hstem : IsRun w stem)
    (hs : s.Named Clean) :
    (∀ r compiled, (∀ table, r.source = .table table → Clean table) →
      (∀ step ∈ r.steps, ∀ e ∈ step.exprs, e.Everywhere (AccessorNamed Clean)) →
      compile ⟨s, stem⟩ r = .ok compiled →
        references w false compiled.command.text.toList = compiled.command.params.map (·.name) ∧
          (compiled.command.params.map (·.name)).Nodup) ∧
      ∀ (e : Host.Expr) command, e.Everywhere (AccessorNamed Clean) →
        compileCondition ⟨s, stem⟩ e = .ok command →
        references w false command.text.toList = command.params.map (·.name) ∧
          (command.params.map (·.name)).Nodup := by
  constructor
  · intro r compiled hsource hexprs hcompile
    obtain ⟨query, hrun, htext, hmatches⟩ := compile_eq_ok hcompile
    obtain ⟨plan, _, hwell⟩ := (Lower.request_form hs hsource
      (fun step hstep e he => (hexprs step hstep e he).readable) _).result hrun
    have hspells := Statement.Query.spells hwell (runs_of_matches hstem hmatches)
    rw [htext, hspells.references_eq]
    exact ⟨hmatches.1, nodup_of_matches hmatches⟩
  · intro e command he hcompile
    obtain ⟨c, hrun, htext, hmatches⟩ := Session.compileCondition_matches hcompile
    have hwell := (Lower.condition_form hs he.readable _).result hrun
    have hspells := Statement.Condition.spells hwell (runs_of_matches hstem hmatches)
    rw [htext, hspells.references_eq]
    exact ⟨hmatches.1, nodup_of_matches hmatches⟩

/-- Goods by code, for constants that hold what looks like references. -/
def deceptive : Request where
  source := .table "Goods"
  steps :=
    let code : Host.Expr := .get (.input .row) "Code" (some .string)
    [.filter (.binary (.binary code (.relation .eq) (.ofValue (.string "\"&p2"))) (.logic .and)
      (.call .like [code, .ofValue (.string "%\" = &p3"), .ofValue (.char '&')])),
     .select (.construct .anonymous [("note", .ofValue (.string "&p4 \""))])]

theorem compile_references_deceptive :
    ∃ compiled, compile ⟨.empty, "p"⟩ deceptive = .ok compiled ∧
      compiled.command.text = "SELECT \"&p4 \"\"\" FROM Goods WHERE (Code = &p1) AND " ++
        "(Code LIKE \"%\"\" = &p3\" ESCAPE \"&\")" ∧
      references asciiWords false compiled.command.text.toList = ["p1"] := by
  have hname : ∀ field type, (Host.Expr.ofValue (.string "Code")).fold =
      .ok (.constant (.string field) type) → Clean field := by
    intro field type h
    cases h
    decide
  have hexprs : ∀ step ∈ deceptive.steps, ∀ e ∈ step.exprs, e.Everywhere (AccessorNamed Clean) := by
    intro step hstep e he
    simp only [deceptive, List.mem_cons, List.not_mem_nil, or_false] at hstep
    rcases hstep with rfl | rfl <;> cases List.mem_singleton.mp he
    · exact ⟨trivial, ⟨trivial, ⟨hname, trivial, trivial, trivial⟩, trivial⟩,
        trivial, ⟨hname, trivial, trivial, trivial⟩, trivial, trivial, trivial⟩
    · exact ⟨trivial, trivial, trivial⟩
  exact ⟨_, rfl, rfl, ((compile_references asciiWords .empty "p" (by decide) ⟨nofun, nofun⟩).1 deceptive _
    (fun table h => by cases h; decide) hexprs rfl).1⟩

end Inquiry.Compiler
