import Inquiry.Proofs.WrittenReferences

/-!
# Strings in the text of a statement

A quoted string is read back from its first quote to the first quote that is not doubled.
The string itself cannot end it early, since all quotes in it are doubled. What follows
could only carry it on by beginning with a quote, and this is the whole condition
(`stringConstant_quote_iff`).

In a statement nothing that follows a string begins with a quote: the renderer puts a
blank, a comma, a point or a parenthesis behind every operand, or nothing at all.
`Delimited` is the text with its strings and names picked out, each string read from where
it begins. Names are written as they are and may hold anything, even quotes. Between
strings and names there are no quotes. So the order of the tokens settles for every quote in
the text to which token it belongs, and each string is at one place only
(`Delimited.place`).
-/

namespace Inquiry.Statement

/-! ## One string -/

/-- A string is read back exactly if no quote follows it. -/
theorem stringConstant_quote_iff (s : String) (rest : List Char) :
    stringConstant ((Text.quote s).toList ++ rest) = some (s, rest) ↔ rest.head? ≠ some '"' := by
  refine ⟨fun h hquote => ?_, stringConstant_quote s⟩
  obtain ⟨cs, rfl⟩ := List.head?_eq_some_iff.mp hquote
  -- the two quotes are taken for one in the string, which is then longer than it was
  rw [quote_append, stringConstant, quoted_append, quoted] at h
  simp only [Option.map_map, Option.map_eq_some_iff] at h
  obtain ⟨⟨t, other⟩, -, heq⟩ := h
  have hlength := congrArg (List.length ∘ String.toList) (Prod.mk.inj heq).1
  simp at hlength

example : stringConstant "\"\"\"\"\"\" ESCAPE".toList = some ("\"\"", " ESCAPE".toList) := by decide

theorem quote_injective : Function.Injective Text.quote := by
  intro s t h
  have hs := @stringConstant_quote s [] nofun
  have ht := @stringConstant_quote t [] nofun
  rw [h, ht] at hs
  cases hs
  rfl

/-! ## Strings in a text -/

/-- A part of a statement that may have quotes in it. -/
inductive Token where
  | name (text : String)
  | string (s : String)
  deriving DecidableEq

/-- The text has the tokens in it in this order and no quotes outside them, and each
string is read from where it begins. -/
inductive Delimited : List Char → List Token → Prop where
  | rest {text : List Char} (h : '"' ∉ text) : Delimited text []
  | name {before after : List Char} {name : String} {ts : List Token} (h : '"' ∉ before)
      (hafter : Delimited after ts) :
      Delimited (before ++ (name.toList ++ after)) (.name name :: ts)
  | string {before after : List Char} {s : String} {ts : List Token} (h : '"' ∉ before)
      (hread : stringConstant ((Text.quote s).toList ++ after) = some (s, after))
      (hafter : Delimited after ts) :
      Delimited (before ++ ((Text.quote s).toList ++ after)) (.string s :: ts)

section

variable {t u : String} {ts others : List Token}

theorem Delimited.fixed (h : Clean t) : Delimited t.toList [] := .rest h.1

theorem Delimited.verbatim (t : String) : Delimited t.toList [.name t] := by
  have h : Delimited ([] ++ (t.toList ++ [])) [.name t] :=
    .name List.not_mem_nil (.rest List.not_mem_nil)
  rwa [List.nil_append, List.append_nil] at h

theorem Delimited.quote (s : String) : Delimited (Text.quote s).toList [.string s] := by
  have h : Delimited ([] ++ ((Text.quote s).toList ++ [])) [.string s] :=
    .string List.not_mem_nil (stringConstant_quote s nofun) (.rest List.not_mem_nil)
  rwa [List.nil_append, List.append_nil] at h

theorem Delimited.append_left {cs ds : List Char} (h : Delimited cs ts) (hds : '"' ∉ ds) :
    Delimited (ds ++ cs) ts := by
  have happend : ∀ {es : List Char}, '"' ∉ es → '"' ∉ ds ++ es :=
    fun hes hmem => (List.mem_append.mp hmem).elim hds hes
  cases h with
  | rest hcs => exact .rest (happend hcs)
  | name hbefore hafter =>
      rw [← List.append_assoc]
      exact .name (happend hbefore) hafter
  | string hbefore hread hafter =>
      rw [← List.append_assoc]
      exact .string (happend hbefore) hread hafter

/-- What is put behind a text must not begin with a quote, because the text may end in a
string. -/
theorem Delimited.append {cs ds : List Char} (h : Delimited cs ts) (hds : Delimited ds others)
    (hhead : ds.head? ≠ some '"') : Delimited (cs ++ ds) (ts ++ others) := by
  induction h with
  | rest hcs => exact hds.append_left hcs
  | name hbefore hafter ih =>
      rw [List.append_assoc, List.append_assoc]
      exact .name hbefore ih
  | @string before after s ts hbefore hread hafter ih =>
      have hfollow : (after ++ ds).head? ≠ some '"' := by
        have hafter := (stringConstant_quote_iff s after).mp hread
        cases after with
        | nil => exact hhead
        | cons c after => exact hafter
      rw [List.append_assoc, List.append_assoc]
      exact .string hbefore (stringConstant_quote s hfollow) ih

/-! ### The place of a string -/

/-- A token as it is written. -/
def Token.text : Token → String
  | .name text => text
  | .string s => Text.quote s

theorem Delimited.count_quotes {cs : List Char} (h : Delimited cs ts) :
    cs.count '"' = (ts.flatMap fun token => token.text.toList).count '"' := by
  induction h with
  | rest h => exact List.count_eq_zero.mpr h
  | name h _ ih | string h _ _ ih =>
      rw [List.count_append, List.count_append, List.count_eq_zero.mpr h, ih, Nat.zero_add,
        List.flatMap_cons, List.count_append]
      rfl

/-- A text has a part up to each of its strings, and one from where that is read. -/
theorem Delimited.split {cs : List Char} {s : String}
    (h : Delimited cs (ts ++ .string s :: others)) :
    ∃ before after, cs = before ++ ((Text.quote s).toList ++ after) ∧ Delimited before ts ∧
      stringConstant ((Text.quote s).toList ++ after) = some (s, after) ∧
      Delimited after others := by
  induction ts generalizing cs with
  | nil =>
      cases h with
      | @string before after _ _ hbefore hread hafter =>
          exact ⟨before, after, rfl, .rest hbefore, hread, hafter⟩
  | cons token ts ih =>
      cases h with
      | @name front _ name _ hfront hrest =>
          obtain ⟨before, after, rfl, hbefore, hread, hafter⟩ := ih hrest
          exact ⟨front ++ (name.toList ++ before), after, by simp, .name hfront hbefore, hread,
            hafter⟩
      | @string front _ other _ hfront hother hrest =>
          obtain ⟨before, after, rfl, hbefore, hread, hafter⟩ := ih hrest
          have hfollow : before.head? ≠ some '"' := by
            have hhead := (stringConstant_quote_iff other _).mp hother
            cases before with
            | nil => nofun
            | cons c before => exact hhead
          exact ⟨front ++ ((Text.quote other).toList ++ before), after, by simp,
            .string hfront (stringConstant_quote other hfollow) hbefore, hread, hafter⟩

/-- The parts of a text in front of a quote are told apart by the quotes in them. -/
theorem eq_of_count_quotes {before before' cs cs' : List Char}
    (h : before ++ '"' :: cs = before' ++ '"' :: cs')
    (hcount : before.count '"' = before'.count '"') : before = before' := by
  have hlonger : ∀ {ds es more : List Char}, '"' :: ds = more ++ '"' :: es →
      more.count '"' = 0 → more = [] := by
    intro ds es more heq hzero
    cases more with
    | nil => rfl
    | cons c more =>
        obtain rfl := (List.cons.inj heq).1
        exact absurd hzero (by simp)
  rcases List.append_eq_append_iff.mp h with ⟨more, rfl, heq⟩ | ⟨more, rfl, heq⟩
  · rw [List.count_append] at hcount
    rw [hlonger heq (by omega), List.append_nil]
  · rw [List.count_append] at hcount
    rw [hlonger heq (by omega), List.append_nil]

/-- A string is at one place in the text: the tokens before it tell how many quotes there
are in front of it. -/
theorem Delimited.place {cs : List Char} {s : String}
    (h : Delimited cs (ts ++ .string s :: others)) :
    ∃! before, ∃ after, cs = before ++ ((Text.quote s).toList ++ after) ∧ Delimited before ts ∧
      stringConstant ((Text.quote s).toList ++ after) = some (s, after) ∧
      Delimited after others := by
  obtain ⟨before, after, hcs, hbefore, hrest⟩ := h.split
  refine ⟨before, ⟨after, hcs, hbefore, hrest⟩, ?_⟩
  rintro before' ⟨after', hcs', hbefore', -⟩
  rw [hcs, quote_append, quote_append] at hcs'
  exact (eq_of_count_quotes hcs' (hbefore.count_quotes.trans hbefore'.count_quotes.symm)).symm

/-! ### Writing texts one after the other -/

/-- Fixed text in front changes nothing. -/
theorem Delimited.after (h : Delimited t.toList ts) (hu : Clean u) :
    Delimited (u ++ t).toList ts := by
  rw [String.toList_append]
  exact h.append_left hu.1

theorem Separator.head?_ne {sep : String} (h : Separator sep) (rest : List Char) :
    (sep.toList ++ rest).head? ≠ some '"' := by
  obtain ⟨hbreak, hquote, -⟩ := h
  cases hsep : sep.toList with
  | nil => rw [hsep] at hbreak; cases hbreak
  | cons c cs =>
      intro hhead
      rw [hsep, ← Option.some.inj hhead] at hquote
      exact hquote List.mem_cons_self

/-- Texts with a separator between them. -/
theorem Delimited.link (h : Delimited t.toList ts) (sep : String) (hsep : Separator sep)
    (hu : Delimited u.toList others) :
    Delimited (t ++ sep ++ u).toList (ts ++ others) := by
  rw [String.append_assoc, String.toList_append]
  refine h.append (hu.after hsep.2) ?_
  rw [String.toList_append]
  exact hsep.head?_ne u.toList

/-- Fixed text behind a text changes nothing either. -/
theorem Delimited.before (h : Delimited t.toList ts) (hu : Clean u) :
    Delimited (t ++ u).toList ts := by
  have happend := h.append (.fixed hu) fun hhead => hu.1 (List.mem_of_mem_head? hhead)
  rwa [← String.toList_append, List.append_nil] at happend

theorem Delimited.grouped (h : Delimited t.toList ts) (needed : Bool) :
    Delimited (grouped needed t).toList ts := by
  cases needed with
  | true => exact (h.after (u := "(") (by decide)).before (by decide)
  | false => exact h

theorem Delimited.negation (h : Delimited t.toList ts) (positive : Bool) :
    Delimited (t ++ negation positive).toList ts := by
  cases positive with
  | true => rwa [Statement.negation, if_pos rfl, String.append_empty]
  | false => exact h.before (by decide)

theorem Delimited.clause {α : Type} {word : String} {x : Option α} {render : α → String}
    {tokens : α → List Token} (h : Delimited t.toList ts) (hword : Separator word)
    (hx : ∀ a, Delimited (render a).toList (tokens a)) :
    Delimited (t ++ clause word (x.map render)).toList (ts ++ (x.map tokens).getD []) := by
  cases x with
  | none =>
      rw [Option.map_none, Option.map_none, Option.getD_none, List.append_nil,
        Statement.clause, String.append_empty]
      exact h
  | some a =>
      rw [Option.map_some, Statement.clause, ← String.append_assoc]
      exact h.link word hword (hx a)

theorem Delimited.commas {α : Type} {items : List α} {text : α → String}
    {tokens : α → List Token}
    (h : ∀ a ∈ items, Delimited (text a).toList (tokens a)) :
    Delimited (commas (items.map text)).toList (items.flatMap tokens) := by
  induction items with
  | nil => exact .fixed (t := "") (by decide)
  | cons a rest ih =>
      have ha := h a List.mem_cons_self
      have hrest := ih fun b hb => h b (List.mem_cons_of_mem a hb)
      cases rest with
      | nil => simpa [Statement.commas] using ha
      | cons b rest =>
          rw [List.map_cons, List.map_cons, Statement.commas, String.intercalate_cons_cons]
          exact ha.link ", " (by decide) hrest

end

/-! ## The tokens of a statement -/

/-- The string that a literal shows in quotes; a character is a string of its own. -/
def Literal.tokens : Literal → List Token
  | .constant (.string s) _ _ => [.string s]
  | .constant (.char c) _ _ => [.string (String.ofList [c])]
  | _ => []

def CastType.tokens : CastType → List Token
  | .table name => [.name name]
  | _ => []

mutual

/-- The tokens of an expression, as often as they are written. -/
def Expr.tokens : Expr → List Token
  | .aggregate _ operand => operand.tokens
  | .allColumns => []
  | .arith _ lhs rhs => lhs.tokens ++ rhs.tokens
  | .case branches default => branchTokens branches ++ default.tokens
  | .cast operand type => operand.tokens ++ type.tokens
  | .columnGroup table fields => fields.flatMap fun name => table.tokens ++ [.name name.text]
  | .count operand _ => operand.tokens
  | .countRows _ => []
  | .defaultTable => []
  | .field table name => table.tokens ++ [.name name.text]
  | .call _ args => allTokens args
  | .literal l => l.tokens
  | .negate operand => operand.tokens
  | .param name => [.name name.text]

/-- The tokens of a condition; patterns and escape characters are among them. -/
def Condition.tokens : Condition → List Token
  | .between operand start stop _ => operand.tokens ++ start.tokens ++ stop.tokens
  | .inList operand values _ _ => operand.tokens ++ allTokens values
  | .isNull operand _ => operand.tokens
  | .like operand pattern escape _ =>
      operand.tokens ++ [.string pattern] ++
        (escape.map fun c => [Token.string (String.ofList [c])]).getD []
  | .logic lhs _ rhs => lhs.tokens ++ rhs.tokens
  | .not operand => operand.tokens
  | .refs operand table => operand.tokens ++ [.name table]
  | .relation lhs _ rhs => lhs.tokens ++ rhs.tokens

def allTokens : List Expr → List Token
  | [] => []
  | e :: rest => e.tokens ++ allTokens rest

def branchTokens : List (Condition × Expr) → List Token
  | [] => []
  | (test, value) :: rest => test.tokens ++ value.tokens ++ branchTokens rest

end

def Query.tokens (q : Query) : List Token :=
  q.select.columns.flatMap Expr.tokens ++ (q.source.map fun name => [Token.name name]).getD [] ++
    (q.filter.map Condition.tokens).getD [] ++
    (q.order.map fun keys => keys.flatMap fun k => k.expr.tokens).getD []

theorem allTokens_eq (es : List Expr) : allTokens es = es.flatMap Expr.tokens := by
  induction es with
  | nil => rfl
  | cons e es ih => rw [allTokens, ih, List.flatMap_cons]

/-! ## The text of a statement -/

theorem Literal.delimited (l : Literal) : Delimited l.text.toList l.tokens := by
  cases l with
  | period kind => exact .fixed (by cases kind <;> decide)
  | constant v text written =>
      cases v with
      | string s => cases written; exact .quote s
      | char c => cases written; exact .quote _
      | _ => exact .fixed (clean_written written nofun nofun)

theorem CastType.delimited (type : CastType) : Delimited type.render.toList type.tokens := by
  cases type with
  | table name => exact .verbatim name
  | _ => exact .fixed (CastType.clean_render trivial)

/-- The text of a table ends before the point, whatever the name behind it is. -/
theorem Delimited.qualified {table : Expr} (h : Delimited table.render.toList table.tokens)
    (name : Name) :
    Delimited (qualified table table.render name).toList (table.tokens ++ [.name name.text]) := by
  rw [Statement.qualified]
  split
  · next hdefault =>
      cases table with
      | defaultTable => exact .verbatim name.text
      | _ => cases hdefault
  · exact (h.grouped table.hasSpaces).link "." (by decide) (.verbatim name.text)

mutual

theorem Expr.delimited (e : Expr) : Delimited e.render.toList e.tokens := by
  match e with
  | .aggregate func x =>
      have hword : Clean func.text := by cases func <;> decide
      have hx := x.delimited.after (hword.append (u := "(") (by decide))
      rw [Expr.render]
      exact hx.before (by decide)
  | .allColumns => exact .fixed (t := "*") (by decide)
  | .arith op l r =>
      have hl := l.delimited.after (u := "(") (by decide)
      have htoken : Clean op.token := by cases op <;> decide
      rw [Expr.render, Expr.tokens]
      exact (((hl.before (by decide)).before htoken).link " (" (by decide) r.delimited).before
        (by decide)
  | .case branches default =>
      have hbranches := branches_delimited branches (.fixed (t := "CASE") (by decide))
      rw [Expr.render, Expr.tokens]
      exact (hbranches.link " ELSE " (by decide) default.delimited).before (by decide)
  | .cast operand type =>
      have hx := operand.delimited.after (u := "CAST(") (by decide)
      rw [Expr.render, Expr.tokens]
      exact (hx.link " AS " (by decide) type.delimited).before (by decide)
  | .columnGroup table fields =>
      have hfields := Delimited.commas fun name (_ : name ∈ fields) =>
        table.delimited.qualified name
      rw [Expr.render, Expr.tokens]
      exact (hfields.after (by decide)).before (by decide)
  | .count operand distinct =>
      have hword : Clean (if distinct then "COUNT(DISTINCT " else "COUNT(") := by
        cases distinct <;> decide
      rw [Expr.render]
      exact (operand.delimited.after hword).before (by decide)
  | .countRows _ => exact .fixed (t := "COUNT(*)") (by decide)
  | .defaultTable => exact .fixed (t := "") (by decide)
  | .field table name =>
      rw [Expr.render, Expr.tokens]
      exact table.delimited.qualified name
  | .call func args =>
      have hfunc : Clean func.text := by cases func <;> decide
      have hargs := Delimited.commas (all_delimited args)
      rw [Expr.render, Expr.tokens, allTokens_eq, renderAll_eq_map]
      exact (hargs.after (hfunc.append (by decide))).before (by decide)
  | .literal l => exact l.delimited
  | .negate operand =>
      rw [Expr.render]
      exact (operand.delimited.grouped _).after (by decide)
  | .param name =>
      rw [Expr.render, String.toList_append]
      exact (Delimited.verbatim name.text).append_left (by decide)

theorem Condition.delimited (c : Condition) : Delimited c.render.toList c.tokens := by
  match c with
  | .between x a b positive =>
      have hx := (x.delimited.grouped x.hasSpaces).negation positive
      have ha := a.delimited.grouped a.hasSpaces
      have hb := b.delimited.grouped b.hasSpaces
      rw [Condition.render, Condition.tokens]
      exact (hx.link " BETWEEN " (by decide) ha).link " AND " (by decide) hb
  | .inList x values positive hierarchy =>
      have hx := (x.delimited.grouped x.hasSpaces).negation positive
      have hvalues := Delimited.commas (all_delimited values)
      have hword : Clean (if hierarchy then "HIERARCHY " else "") := by cases hierarchy <;> decide
      rw [Condition.render, Condition.tokens, allTokens_eq, renderAll_eq_map]
      exact (((hx.before (by decide)).before hword).link "(" (by decide) hvalues).before (by decide)
  | .isNull x positive =>
      have hx := x.delimited.grouped x.hasSpaces
      have hword : Clean (if positive then " IS NULL" else " IS NOT NULL") := by
        cases positive <;> decide
      rw [Condition.render]
      exact hx.before hword
  | .like x pattern escape positive =>
      have hx := (x.delimited.grouped x.hasSpaces).negation positive
      have hpattern := hx.link " LIKE " (by decide) (.quote pattern)
      cases escape with
      | none =>
          rw [Condition.render, Condition.tokens, Option.map_none, Option.getD_none,
            List.append_nil]
          exact hpattern.before (by decide)
      | some c =>
          have hescape := hpattern.link " ESCAPE " (by decide) (.quote (String.ofList [c]))
          rw [String.append_assoc] at hescape
          rwa [Condition.render, Condition.tokens]
  | .logic l op r =>
      have hl := l.delimited.grouped l.hasSpaces
      have hr := r.delimited.grouped r.hasSpaces
      have hword : Clean op.keyword := by cases op <;> decide
      rw [Condition.render, Condition.tokens]
      exact ((hl.before (by decide)).before hword).link " " (by decide) hr
  | .not operand =>
      rw [Condition.render]
      exact (operand.delimited.grouped _).after (by decide)
  | .refs x table =>
      have hx := x.delimited.grouped x.hasSpaces
      rw [Condition.render, Condition.tokens]
      exact hx.link " REFS " (by decide) (.verbatim table)
  | .relation l op r =>
      have hl := l.delimited.grouped l.hasSpaces
      have hr := r.delimited.grouped r.hasSpaces
      have hword : Clean op.token := by cases op <;> decide
      rw [Condition.render, Condition.tokens]
      exact ((hl.before (by decide)).before hword).link " " (by decide) hr

theorem all_delimited (es : List Expr) : ∀ e ∈ es, Delimited e.render.toList e.tokens := by
  match es with
  | [] => exact nofun
  | e :: rest =>
      have he := e.delimited
      have hrest := all_delimited rest
      intro d hd
      rcases List.mem_cons.mp hd with rfl | hd
      · exact he
      · exact hrest d hd

/-- The branches of a CASE continue the text before them. -/
theorem branches_delimited (bs : List (Condition × Expr)) {t : String} {ts : List Token}
    (ht : Delimited t.toList ts) :
    Delimited (t ++ renderBranches bs).toList (ts ++ branchTokens bs) := by
  match bs with
  | [] =>
      rw [renderBranches, String.append_empty]
      exact (List.append_nil ts).symm ▸ ht
  | (test, value) :: rest =>
      have htest := ht.link " WHEN " (by decide) test.delimited
      have hvalue := htest.link " THEN " (by decide) value.delimited
      have hrest := branches_delimited rest hvalue
      rw [renderBranches, branchTokens]
      simpa only [String.append_assoc, List.append_assoc] using hrest

end

theorem SortKey.delimited (k : SortKey) : Delimited k.render.toList k.expr.tokens := by
  obtain ⟨e, direction⟩ := k
  cases direction with
  | ascending => exact e.delimited.before (u := "") (by decide)
  | descending => exact e.delimited.before (u := " DESC") (by decide)

theorem Query.delimited (q : Query) : Delimited q.render.toList q.tokens := by
  have hselect : Delimited q.select.render.toList (q.select.columns.flatMap Expr.tokens) := by
    have hcolumns := Delimited.commas (all_delimited q.select.columns)
    rw [Select.render_eq, renderAll_eq_map]
    exact (hcolumns.after q.select.clean_modifiers).after (by decide)
  have hfrom : Delimited (q.select.render ++ clause " FROM " (q.source.map id)).toList
      (q.select.columns.flatMap Expr.tokens ++
        (q.source.map fun name => [Token.name name]).getD []) :=
    hselect.clause (by decide) Delimited.verbatim
  rw [Option.map_id_fun, id] at hfrom
  have horder : ∀ keys : List SortKey, Delimited (commas (keys.map SortKey.render)).toList
      (keys.flatMap fun k => k.expr.tokens) :=
    fun keys => Delimited.commas fun k _ => k.delimited
  rw [Query.render_eq]
  exact (hfrom.clause (by decide) Condition.delimited).clause (by decide) horder

/-- A quoted string is read as the string, up to where it ends, whatever it holds, if and
only if no quote follows it. In the text of a statement no string is followed by a quote,
and all quotes belong to strings and names. So each string is read at its place, and it has
no other. Different strings are quoted differently. -/
theorem strings_delimited :
    (∀ (s : String) (rest : List Char),
      stringConstant ((Text.quote s).toList ++ rest) = some (s, rest) ↔
        rest.head? ≠ some '"') ∧
    (∀ e : Expr, Delimited e.render.toList e.tokens) ∧
    (∀ c : Condition, Delimited c.render.toList c.tokens) ∧
    (∀ q : Query, Delimited q.render.toList q.tokens) ∧
    (∀ cs ts s others, Delimited cs (ts ++ .string s :: others) →
      ∃! before, ∃ after, cs = before ++ ((Text.quote s).toList ++ after) ∧ Delimited before ts ∧
        stringConstant ((Text.quote s).toList ++ after) = some (s, after) ∧
        Delimited after others) ∧
    Function.Injective Text.quote :=
  ⟨stringConstant_quote_iff, Expr.delimited, Condition.delimited, Query.delimited,
    fun _ _ _ _ h => h.place, quote_injective⟩

/-- A field with a quote in its name is compared with a pattern of quotes, and the quote is
the escape character as well. -/
def quotesTest : Condition :=
  .like (.field .defaultTable ⟨"Di\"m"⟩) "\"\"" (some '"') true

/-- The escape character is read at its place behind the name and the pattern. -/
theorem strings_delimited_quotesTest :
    ∃! before, ∃ after, quotesTest.render.toList = before ++ ((Text.quote "\"").toList ++ after) ∧
      Delimited before [.name "Di\"m", .string "\"\""] ∧
      stringConstant ((Text.quote "\"").toList ++ after) = some ("\"", after) ∧
      Delimited after [] := by
  obtain ⟨-, -, hcondition, -, hplace, -⟩ := strings_delimited
  exact hplace _ [.name "Di\"m", .string "\"\""] "\"" [] (hcondition quotesTest)

end Inquiry.Statement
