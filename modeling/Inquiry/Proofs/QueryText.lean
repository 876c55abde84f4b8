import Inquiry.Proofs.ReadBack

/-!
# The text of a query determines it

Two queries with the same text are the same query, up to literals of different
kinds that are written alike.

A query is read clause by clause. Each clause begins with a word that no
expression begins or continues with, so the readers of its parts stop where
they should, and a clause that is missing is seen to be missing. Reading does
not depend on the query, only on its text; so two queries with one text are
both what is read from it.
-/

namespace Inquiry.Statement

/-! ## Clauses -/

/-- A clause, if there is one. -/
def clause (word : String) : Option String → String
  | some text => word ++ text
  | none => ""

/-- A clause begins with its word, or is not there. -/
theorem clause_cases {P : List Char → Prop} {word : String} (text : Option String)
    {rest : List Char} (hsome : ∀ cs, P (word.toList ++ cs)) (hnone : P rest) :
    P ((clause word text).toList ++ rest) := by
  cases text with
  | none => exact hnone
  | some text =>
      rw [clause, String.toList_append, List.append_assoc]
      exact hsome _

theorem Query.render_eq (q : Query) :
    q.render = q.select.render ++ clause " FROM " q.source ++
      clause " WHERE " (q.filter.map Condition.render) ++
      clause " ORDER BY " (q.order.map fun keys => commas (keys.map SortKey.render)) := by
  obtain ⟨select, source, filter, order⟩ := q
  cases source <;> cases filter <;> cases order <;> rfl

/-- A mark that is there or not. -/
def mark (present : Bool) : Option Unit := if present then some () else none

/-- The words between the first one of a query and its columns. -/
def Select.modifiers (s : Select) : String :=
  clause "DISTINCT " ((mark s.distinct).map fun _ => "") ++
    clause "TOP " (s.top.map fun top => toString top ++ " ")

theorem Select.render_eq (s : Select) :
    s.render = "SELECT " ++ (s.modifiers ++ commas (renderAll s.columns)) := by
  obtain ⟨columns, distinct, top⟩ := s
  cases distinct <;> cases top <;>
    simp only [Select.render, Select.modifiers, mark, clause, if_true, Bool.false_eq_true, if_false,
      Option.map_some, Option.map_none, String.append_empty, String.empty_append,
      String.append_assoc]

theorem optional_clause {α β : Type} {word : String} {item : List Char → Option (α × List Char)}
    {x : Option β} {render : β → String} {f : β → α} {rest : List Char}
    (h : ∀ b, x = some b → item ((render b).toList ++ rest) = some (f b, rest))
    (hnone : after? word rest = none) :
    optional word item ((clause word (x.map render)).toList ++ rest) =
      some (x.map f, rest) := by
  cases x with
  | none =>
      change optional word item rest = _
      rw [optional, hnone]
      rfl
  | some b =>
      rw [Option.map_some, clause, String.toList_append, List.append_assoc, optional, after?_append]
      simp only [h b rfl]
      rfl

/-- What may follow the columns of a query. -/
inductive Clauses : List Char → Prop where
  | nil : Clauses []
  | source (cs : List Char) : Clauses (" FROM ".toList ++ cs)
  | filter (cs : List Char) : Clauses (" WHERE ".toList ++ cs)
  | order (cs : List Char) : Clauses (" ORDER BY ".toList ++ cs)

theorem Clauses.stops {rest : List Char} (h : Clauses rest) : stops rest = true := by
  cases h <;> rfl

theorem Clauses.after?_comma {rest : List Char} (h : Clauses rest) : after? ", " rest = none := by
  cases h <;> rfl

theorem Clauses.phrase {rest : List Char} (h : Clauses rest) (n : Nat) : phrase n rest = none := by
  cases h <;> cases n <;> rfl

/-! ## Columns -/

theorem phrase_top (n : Nat) (cs : List Char) : phrase n ("TOP ".toList ++ cs) = none := by
  cases n <;> rfl

/-- Where columns are read, the text does not begin as no phrase does. -/
theorem after?_columns {es : List Expr} {n : Nat} {word : String} {rest : List Char}
    (h : ∀ e ∈ es, e.ReadBack n) (hphrase : ∀ cs, phrase n (word.toList ++ cs) = none)
    (hrest : Clauses rest) (hword : after? word rest = none) :
    after? word ((commas (renderAll es)).toList ++ rest) = none := by
  cases hafter : after? word ((commas (renderAll es)).toList ++ rest) with
  | none => rfl
  | some cs =>
      have htext := eq_of_after? hafter
      match es with
      | [] =>
          rw [show (commas (renderAll [])).toList ++ rest = rest from rfl] at hafter
          rw [hword] at hafter
          cases hafter
      | [e] =>
          have hread := (h e List.mem_cons_self).phrase rest hrest.stops
          rw [show (commas (renderAll [e])).toList ++ rest = e.render.toList ++ rest from rfl] at htext
          rw [htext, hphrase] at hread
          cases hread
      | e :: d :: es =>
          have hread := (h e List.mem_cons_self).phrase _
            (stops_comma ((commas (renderAll (d :: es))).toList ++ rest))
          rw [renderAll, renderAll, commas, String.intercalate_cons_cons, String.toList_append,
            String.toList_append, List.append_assoc, List.append_assoc] at htext
          rw [commas, renderAll, htext, hphrase] at hread
          cases hread

theorem columns_reads {es : List Expr} {n : Nat} {rest : List Char}
    (h : es = [.allColumns] ∨ ∀ e ∈ es, e.ReadBack n) (hn : es.length ≤ n)
    (hrest : Clauses rest) :
    columns n ((commas (renderAll es)).toList ++ rest) = (spelledAll es, rest) := by
  rcases h with rfl | h
  · rfl
  · have hstar : after? "*" rest = none := by cases hrest <;> rfl
    rw [columns, after?_columns h (phrase_star n) hrest hstar, renderAll_eq_map, spelledAll_eq_map]
    refine sequence_reads (fun e he => (h e he).phrase.expression) stops_comma hrest.stops
      hrest.after?_comma (fun _ => ?_) hn
    rw [expression, hrest.phrase]

theorem topRows_reads (top : Nat) (rest : List Char) :
    topRows ((toString top ++ " ").toList ++ rest) = some (top, rest) := by
  rw [String.toList_append, List.append_assoc, topRows, numeral_reads top _ (by rfl)]
  rfl

theorem selection_reads {s : Select} {n : Nat} {rest : List Char}
    (h : s.columns = [.allColumns] ∨ ∀ e ∈ s.columns, e.ReadBack n) (hn : s.columns.length ≤ n)
    (hrest : Clauses rest) :
    selection n (s.render.toList ++ rest) =
      some ({ s with columns := spelledAll s.columns }, rest) := by
  obtain ⟨es, distinct, top⟩ := s
  have habsent : ∀ word : String, after? word rest = none →
      (∀ cs, phrase n (word.toList ++ cs) = none) → after? word ("*".toList ++ rest) = none →
      after? word ((commas (renderAll es)).toList ++ rest) = none := by
    intro word hword hphrase hstar
    rcases h with rfl | h
    · exact hstar
    · exact after?_columns h hphrase hrest hword
  have htop : optional "TOP " topRows
      ((clause "TOP " (top.map fun top => toString top ++ " ")).toList ++
        ((commas (renderAll es)).toList ++ rest)) =
      some (top.map id, (commas (renderAll es)).toList ++ rest) :=
    optional_clause (fun k _ => topRows_reads k _)
      (habsent "TOP " (by cases hrest <;> rfl) (phrase_top n) (by rfl))
  have hnone : after? "DISTINCT "
      ((clause "TOP " (top.map fun top => toString top ++ " ")).toList ++
        ((commas (renderAll es)).toList ++ rest)) = none :=
    clause_cases (P := fun cs => after? "DISTINCT " cs = none) _ (fun _ => by rfl)
      (habsent "DISTINCT " (by cases hrest <;> rfl) (phrase_distinct n) (by rfl))
  rw [Select.render_eq, Select.modifiers]
  simp only [String.toList_append, List.append_assoc]
  rw [selection, after?_append]
  simp only [Option.bind_eq_bind, Option.bind_some]
  rw [optional_clause (f := id) (fun _ _ => rfl) hnone]
  simp only [Option.bind_some, htop, columns_reads h hn hrest]
  cases distinct <;> simp [mark]

/-! ## Sort keys -/

/-- Whether the text that follows a sort key does not continue it. -/
def keyStops (cs : List Char) : Bool := stops cs && (after? " DESC" cs).isNone

theorem sortKey_reads {k : SortKey} {n : Nat} (h : k.expr.ReadBack n) :
    Reads (sortKey n) keyStops k.render k.spelled := by
  intro rest hrest
  rw [keyStops, Bool.and_eq_true, Option.isNone_iff_eq_none] at hrest
  obtain ⟨e, direction⟩ := k
  cases direction with
  | ascending =>
      change sortKey n ((e.render ++ "").toList ++ rest) = _
      rw [String.append_empty, sortKey, h.phrase.expression rest hrest.1]
      simp only [Option.bind_eq_bind, Option.bind_some, hrest.2]
      rfl
  | descending =>
      change sortKey n ((e.render ++ " DESC").toList ++ rest) = _
      rw [String.toList_append, List.append_assoc, sortKey, h.phrase.expression _ (by rfl)]
      rfl

theorem sortKeys_read {keys : List SortKey} {n : Nat} (h : ∀ k ∈ keys, k.expr.ReadBack n)
    (hn : keys.length ≤ n) :
    sequence (sortKey n) n ((commas (keys.map SortKey.render)).toList ++ []) =
      (keys.map SortKey.spelled, []) := by
  refine sequence_reads (fun k hk => sortKey_reads (h k hk)) (fun _ => by rfl) (by rfl) (by rfl)
    (fun _ => ?_) hn
  rw [sortKey, expression, Clauses.nil.phrase]
  rfl

/-! ## Queries -/

/-- All parts of the query are read back at the given depth. -/
structure Query.ReadBack (q : Query) (n : Nat) : Prop where
  columns : q.select.columns = [.allColumns] ∨ ∀ e ∈ q.select.columns, e.ReadBack n
  columns_le : q.select.columns.length ≤ n
  filter : ∀ c, q.filter = some c → c.ReadBack n
  order : ∀ keys, q.order = some keys → (∀ k ∈ keys, k.expr.ReadBack n) ∧ keys.length ≤ n

/-- The text of a query from the sort on. -/
def Query.fromOrder (q : Query) : List Char :=
  (clause " ORDER BY " (q.order.map fun keys => commas (keys.map SortKey.render))).toList ++ []

/-- The text of a query from the condition on. -/
def Query.fromFilter (q : Query) : List Char :=
  (clause " WHERE " (q.filter.map Condition.render)).toList ++ q.fromOrder

/-- The text of a query from the source on. -/
def Query.fromSource (q : Query) : List Char :=
  (clause " FROM " (q.source.map id)).toList ++ q.fromFilter

theorem Query.toList_render (q : Query) :
    q.render.toList = q.select.render.toList ++ q.fromSource := by
  rw [Query.render_eq, Query.fromSource, Query.fromFilter, Query.fromOrder, Option.map_id, id]
  simp only [String.toList_append, List.append_assoc, List.append_nil]

theorem Query.fromOrder_clauses (q : Query) : Clauses q.fromOrder :=
  clause_cases _ Clauses.order .nil

theorem Query.fromFilter_clauses (q : Query) : Clauses q.fromFilter :=
  clause_cases _ Clauses.filter q.fromOrder_clauses

theorem Query.fromSource_clauses (q : Query) : Clauses q.fromSource :=
  clause_cases _ Clauses.source q.fromFilter_clauses

theorem Query.after?_filter (q : Query) : after? " WHERE " q.fromOrder = none :=
  clause_cases (P := fun cs => after? " WHERE " cs = none) _ (fun _ => by rfl) (by rfl)

theorem Query.after?_source (q : Query) : after? " FROM " q.fromFilter = none :=
  clause_cases (P := fun cs => after? " FROM " cs = none) _ (fun _ => by rfl)
    (clause_cases (P := fun cs => after? " FROM " cs = none) _ (fun _ => by rfl) (by rfl))

theorem query_reads {q : Query} {n : Nat} (h : q.ReadBack n)
    (hsource : ∀ name, q.source = some name → IsPath name) :
    query n q.render.toList = some (q.spelled, []) := by
  have hselect := selection_reads h.columns h.columns_le q.fromSource_clauses
  have hfrom : optional " FROM " path q.fromSource =
      some (q.source.map String.toList, q.fromFilter) :=
    optional_clause (fun name hname => path_closed (hsource name hname).chars
      (closed_of_stops q.fromFilter_clauses.stops)) q.after?_source
  have hwhere : optional " WHERE " (condition (phrase n)) q.fromFilter =
      some (q.filter.map Condition.spelled, q.fromOrder) :=
    optional_clause (fun c hc => Reads.condition (h.filter c hc) _ q.fromOrder_clauses.stops)
      q.after?_filter
  have horder : optional " ORDER BY " (fun cs => some (sequence (sortKey n) n cs)) q.fromOrder =
      some (q.order.map (·.map SortKey.spelled), []) :=
    optional_clause (fun keys hkeys => congrArg some
      (sortKeys_read (h.order keys hkeys).1 (h.order keys hkeys).2)) rfl
  rw [Query.toList_render, query, hselect]
  simp only [Option.bind_eq_bind, Option.bind_some, hfrom, hwhere, horder]
  rw [Option.map_map, show String.ofList ∘ String.toList = id from funext fun _ =>
    String.ofList_toList, Option.map_id]
  rfl

theorem plainAll_of_forall {es : List Expr} (h : ∀ e ∈ es, e.Plain) : PlainAll es := by
  induction es with
  | nil => trivial
  | cons e es ih =>
      exact ⟨h e List.mem_cons_self, ih fun d hd => h d (List.mem_cons_of_mem e hd)⟩

theorem eventually_readBackKeys {keys : List SortKey} (h : ∀ k ∈ keys, k.expr.Plain) :
    Eventually fun n => (∀ k ∈ keys, k.expr.ReadBack n) ∧ keys.length ≤ n := by
  have hplain : PlainAll (keys.map SortKey.expr) := by
    refine plainAll_of_forall fun e he => ?_
    obtain ⟨k, hk, rfl⟩ := List.mem_map.mp he
    exact h k hk
  refine ((eventually_readBackAll _ hplain).mono fun n hn k hk => ?_).and (.length_le _)
  exact hn k.expr (List.mem_map_of_mem hk)

/-- A part that may be missing is read back if it is so when it is there. -/
theorem Eventually.option {α : Type} {P : α → Nat → Prop} (x : Option α)
    (h : ∀ a, x = some a → Eventually (P a)) : Eventually fun n => ∀ a, x = some a → P a n := by
  cases x with
  | none => exact .always fun _ => nofun
  | some a => exact (h a rfl).mono fun n hn _ hb => Option.some.inj hb ▸ hn

theorem Query.eventually_readBack {q : Query} (h : q.Plain) : Eventually q.ReadBack := by
  have hcolumns : Eventually fun n =>
      q.select.columns = [.allColumns] ∨ ∀ e ∈ q.select.columns, e.ReadBack n := by
    rcases h.columns with hall | hplain
    · exact .always fun _ => .inl hall
    · exact (eventually_readBackAll _ hplain).mono fun _ hn => .inr hn
  have hfilter := Eventually.option q.filter fun c hc => c.eventually_readBack (h.filter c hc)
  have horder := Eventually.option q.order fun keys hk => eventually_readBackKeys (h.order keys hk)
  exact (hcolumns.and ((Eventually.length_le q.select.columns.length).and
    (hfilter.and horder))).mono fun _ hn => ⟨hn.1, hn.2.1, hn.2.2.1, hn.2.2.2⟩

/-- The text of a query determines it, up to literals that are written alike. -/
theorem render_determines {q₁ q₂ : Query} (h₁ : q₁.Plain) (h₂ : q₂.Plain)
    (h : q₁.render = q₂.render) : q₁.spelled = q₂.spelled := by
  obtain ⟨n, hn⟩ := (Query.eventually_readBack h₁).and (Query.eventually_readBack h₂)
  have hread₁ := query_reads (hn n (Nat.le_refl n)).1 h₁.source
  have hread₂ := query_reads (hn n (Nat.le_refl n)).2 h₂.source
  rw [h, hread₂] at hread₁
  exact (congrArg Prod.fst (Option.some.inj hread₁)).symm

/-- Dear items with a quote in their name, for a bound that is written `5`. -/
def dearItems (bound : Literal) : Query where
  select := ⟨[.field .defaultTable ⟨"Name"⟩], true, some 3⟩
  source := some "Catalog.Items"
  filter := some (.logic
    (.between (.field .defaultTable ⟨"Price"⟩) (.literal bound) (.param ⟨"top"⟩) true) .and
    (.like (.field .defaultTable ⟨"Name"⟩) "%\"%" none false))
  order := some [⟨.negate (.field .defaultTable ⟨"Price"⟩), .descending⟩]

theorem dearItems_plain (bound : Literal) : (dearItems bound).Plain := by
  have hname : IsName "Name" := ⟨⟨by decide, by decide⟩, by decide, by decide⟩
  have hprice : IsName "Price" := ⟨⟨by decide, by decide⟩, by decide, by decide⟩
  have htop : IsName "top" := ⟨⟨by decide, by decide⟩, by decide, by decide⟩
  constructor
  · exact .inr ⟨⟨hname, .inl rfl⟩, trivial⟩
  · intro name h
    cases h
    refine ⟨["Catalog", "Items"], by decide, fun name h => ?_, by rfl⟩
    simp only [List.mem_cons, List.not_mem_nil, or_false] at h
    rcases h with rfl | rfl
    all_goals exact ⟨⟨by decide, by decide⟩, by decide, by decide⟩
  · intro c h
    cases h
    exact ⟨⟨⟨hprice, .inl rfl⟩, trivial, htop⟩, hname, .inl rfl⟩
  · intro keys h k hk
    cases h
    cases List.mem_singleton.mp hk
    exact ⟨rfl, hprice, .inl rfl⟩

/-- Bounds of different kinds that are written alike. -/
theorem render_determines_dearItems :
    (dearItems (.constant (.int32 5) "5" rfl)).render =
        (dearItems (.constant (.int64 5) "5" rfl)).render ∧
      (dearItems (.constant (.int32 5) "5" rfl)).spelled =
        (dearItems (.constant (.int64 5) "5" rfl)).spelled :=
  ⟨rfl, render_determines (dearItems_plain _) (dearItems_plain _) rfl⟩

end Inquiry.Statement
