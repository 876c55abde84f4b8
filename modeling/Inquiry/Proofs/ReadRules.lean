import Inquiry.Proofs.LiteralForm

/-!
# Rules for reading text back

`Reads item ends text a` says that a reader takes the given text for `a` and
stops right after it, whatever follows — as long as what follows does not go on
with the same word, string or phrase. Two such conditions suffice. After an
operand comes no letter, digit, point, parenthesis or quote; after a phrase
comes, moreover, no link and no escape.

There is one rule for each way of writing something. A rule takes the reader of
the phrases inside as it finds it and asks only that it reads the parts, so
depth does not occur here at all.
-/

namespace Inquiry.Statement

open Text (takeWhile_run dropWhile_run)

/-! ## What the readers stop at -/

/-- Whether the text that follows an operand does not continue it. -/
def closed : List Char → Bool
  | [] => true
  | c :: _ => !isPathChar c && c != '(' && c != '"'

/-- Whether the text that follows a phrase does not continue it. -/
def stops (cs : List Char) : Bool :=
  closed cs && (link? cs).isNone && (after? " ESCAPE " cs).isNone

/-- The item reads the text as the given thing, whatever admissible text follows. -/
def Reads {α : Type} (item : List Char → Option (α × List Char)) (ends : List Char → Bool)
    (text : String) (a : α) : Prop :=
  ∀ rest, ends rest = true → item (text.toList ++ rest) = some (a, rest)

theorem stops_iff {rest : List Char} :
    stops rest = true ↔
      closed rest = true ∧ link? rest = none ∧ after? " ESCAPE " rest = none := by
  rw [stops, Bool.and_eq_true, Bool.and_eq_true, Option.isNone_iff_eq_none,
    Option.isNone_iff_eq_none, and_assoc]

theorem closed_of_stops {rest : List Char} (h : stops rest = true) : closed rest = true :=
  (stops_iff.mp h).1

theorem after?_go_append (ps cs : List Char) : after?.go ps (ps ++ cs) = some cs := by
  induction ps with
  | nil => rfl
  | cons p ps ih => rw [List.cons_append, after?.go, if_pos rfl, ih]

@[simp]
theorem after?_append (text : String) (cs : List Char) :
    after? text (text.toList ++ cs) = some cs :=
  after?_go_append _ cs

theorem eq_of_after?_go {ps cs rest : List Char} (h : after?.go ps cs = some rest) :
    cs = ps ++ rest := by
  induction ps generalizing cs with
  | nil => exact Option.some.inj h
  | cons p ps ih =>
      cases cs with
      | nil => cases h
      | cons c cs =>
          rw [after?.go] at h
          split at h
          · next hp => rw [hp, ih h, List.cons_append]
          · cases h

theorem eq_of_after? {text : String} {cs rest : List Char} (h : after? text cs = some rest) :
    cs = text.toList ++ rest :=
  eq_of_after?_go h

/-! ## Runs of characters -/

theorem head?_of_closed {rest : List Char} (h : closed rest = true) :
    ∀ c ∈ rest.head?, isPathChar c = false ∧ c ≠ '(' ∧ c ≠ '"' := by
  cases rest with
  | nil => exact nofun
  | cons c rest =>
      intro d hd
      rw [List.head?_cons, Option.mem_some_iff] at hd
      subst hd
      simpa [closed, and_assoc] using h

theorem path_append {w rest : List Char} (hw : ∀ c ∈ w, isPathChar c = true)
    (hrest : ∀ c ∈ rest.head?, isPathChar c = false) : path (w ++ rest) = some (w, rest) := by
  rw [path, takeWhile_run hw hrest, dropWhile_run hw hrest]

theorem path_closed {w rest : List Char} (hw : ∀ c ∈ w, isPathChar c = true)
    (hrest : closed rest = true) : path (w ++ rest) = some (w, rest) :=
  path_append hw fun c hc => (head?_of_closed hrest c hc).1

theorem isWordChar_of_isDigit {c : Char} (h : c.isDigit = true) : isWordChar c = true := by
  rw [isWordChar, Char.isAlphanum, h, Bool.or_true, Bool.true_or, Bool.true_or]

theorem numeral_reads (m : Nat) : Reads numeral closed (toString m) m := by
  intro rest hrest
  have hdigits : ∀ c ∈ (toString m).toList, c.isDigit = true := by
    intro c hc
    rw [Nat.toString_eq_repr, Nat.toList_repr] at hc
    exact isDigit_toDigits hc
  have hstop : ∀ c ∈ rest.head?, c.isDigit = false := by
    intro c hc
    have hpath := (head?_of_closed hrest c hc).1
    cases hd : c.isDigit with
    | false => rfl
    | true => rw [isPathChar, isWordChar_of_isDigit hd] at hpath; cases hpath
  rw [numeral, takeWhile_run hdigits hstop, dropWhile_run hdigits hstop]
  simp

/-- Doubled quotes are undone whatever follows them. -/
theorem quoted_append (s rest : List Char) :
    quoted (Text.doubleQuotes s ++ rest) = (quoted rest).map fun r => (s ++ r.1, r.2) := by
  induction s with
  | nil => exact (congrFun Option.map_id (quoted rest)).symm
  | cons c s ih =>
      rw [Text.doubleQuotes]
      split
      · next hc =>
          rw [List.cons_append, List.cons_append, quoted, ih, Option.map_map, hc]
          rfl
      · next hc =>
          rw [List.cons_append, quoted, ih, Option.map_map]
          · rfl
          · exact fun _ h => absurd h hc
          · exact hc

/-- A string is read up to its quote if that quote is not the first of two. -/
theorem quoted_doubleQuotes (s : List Char) {rest : List Char} (hrest : rest.head? ≠ some '"') :
    quoted (Text.doubleQuotes s ++ '"' :: rest) = some (s, rest) := by
  have hquote : quoted ('"' :: rest) = some ([], rest) := by
    rw [quoted]
    rintro cs rfl
    exact hrest rfl
  rw [quoted_append, hquote, Option.map_some, List.append_nil]

/-! ## Lists -/

theorem sequence_reads {α β : Type} {item : List Char → Option (α × List Char)}
    {ends : List Char → Bool} {render : β → String} {f : β → α} {xs : List β} {n : Nat}
    {rest : List Char} (h : ∀ x ∈ xs, Reads item ends (render x) (f x))
    (hcomma : ∀ cs, ends (", ".toList ++ cs) = true) (hrest : ends rest = true)
    (hend : after? ", " rest = none) (hnone : xs = [] → item rest = none) (hn : xs.length ≤ n) :
    sequence item n ((commas (xs.map render)).toList ++ rest) = (xs.map f, rest) := by
  induction xs generalizing n with
  | nil =>
      change sequence item n rest = ([], rest)
      cases n with
      | zero => rfl
      | succ n => rw [sequence, hnone rfl]
  | cons x xs ih =>
      obtain ⟨n, rfl⟩ : ∃ m, n = m + 1 := ⟨n - 1, by rw [List.length_cons] at hn; omega⟩
      have hx := h x List.mem_cons_self
      cases xs with
      | nil =>
          rw [commas, List.map_singleton, String.intercalate_singleton, sequence, hx rest hrest]
          simp only [hend]
          rfl
      | cons y ys =>
          have htail := ih (n := n) (fun z hz => h z (List.mem_cons_of_mem x hz)) nofun
            (Nat.le_of_succ_le_succ hn)
          rw [List.map_cons] at htail
          rw [commas, List.map_cons, List.map_cons, String.intercalate_cons_cons,
            String.toList_append, String.toList_append, List.append_assoc, List.append_assoc,
            sequence, hx _ (hcomma _)]
          simp only [after?_append]
          rw [← commas, htail]
          rfl

/-! ## Words and what they begin -/

/-- The characters are those of a word. -/
structure IsWord (w : List Char) : Prop where
  nonempty : w ≠ []
  chars : w.all isWordChar = true

theorem IsWord.wordChar {w : List Char} (h : IsWord w) : ∀ c ∈ w, isWordChar c = true :=
  List.all_eq_true.mp h.chars

theorem IsWord.head {w : List Char} (h : IsWord w) : w.head?.any isWordChar = true := by
  obtain ⟨c, rest, rfl⟩ := List.exists_cons_of_ne_nil h.nonempty
  exact h.wordChar c List.mem_cons_self

theorem isPathChar_of_isWordChar {c : Char} (h : isWordChar c = true) : isPathChar c = true := by
  rw [isPathChar, h, Bool.true_or]

theorem IsWord.pathChar {w : List Char} (h : IsWord w) : ∀ c ∈ w, isPathChar c = true :=
  fun c hc => isPathChar_of_isWordChar (h.wordChar c hc)

theorem paren_head (cs : List Char) : ∀ c ∈ ("(".toList ++ cs).head?, isPathChar c = false := by
  intro c hc
  cases hc
  rfl

theorem after?_paren_of_closed {rest : List Char} (h : closed rest = true) :
    after? "(" rest = none := by
  cases rest with
  | nil => rfl
  | cons c rest =>
      have hc := (head?_of_closed h c rfl).2.1
      exact if_neg hc.symm

section Inside

variable {inside : List Char → Option (Phrase × List Char)} {n : Nat}

theorem operand_worded {w : List Char} (h : w.head?.any isWordChar = true) (cs : List Char) :
    operand inside n (w ++ cs) = worded inside n (w ++ cs) := by
  cases w with
  | nil => cases h
  | cons c w =>
      rw [List.cons_append, operand]
      all_goals
        intro _ hc
        cases hc
        change isWordChar _ = true at h
        exact absurd h (by decide)

theorem operand_call {w : String} (hw : IsWord w.toList) (cs : List Char) :
    operand inside n (w.toList ++ ("(".toList ++ cs)) = do
      let (e, cs) ← call inside n w.toList cs
      return (.expr e, cs) := by
  rw [operand_worded hw.head, worded, path_append hw.pathChar (paren_head cs)]
  rfl

theorem operand_bare {w rest : List Char} (hfirst : w.head?.any isWordChar = true)
    (hw : ∀ c ∈ w, isPathChar c = true) (hrest : closed rest = true) :
    operand inside n (w ++ rest) = bare inside n w rest := by
  rw [operand_worded hfirst, worded, path_closed hw hrest]
  simp only [Option.bind_eq_bind, Option.bind_some, after?_paren_of_closed hrest]

theorem operand_keyword {w : String} (hw : IsWord w.toList) {rest : List Char}
    (hrest : closed rest = true) :
    operand inside n (w.toList ++ rest) = bare inside n w.toList rest :=
  operand_bare hw.head hw.pathChar hrest

/-! ## Rules for operands -/

theorem Reads.expression {item : List Char → Option (Phrase × List Char)}
    {ends : List Char → Bool} {text : String} {e : Expr} (h : Reads item ends text (.expr e)) :
    Reads (expression item) ends text e := by
  intro rest hrest
  rw [Statement.expression, h rest hrest]

theorem Reads.condition {item : List Char → Option (Phrase × List Char)}
    {ends : List Char → Bool} {text : String} {c : Condition}
    (h : Reads item ends text (.condition c)) : Reads (condition item) ends text c := by
  intro rest hrest
  rw [Statement.condition, h rest hrest]

theorem stops_paren (cs : List Char) : stops (")".toList ++ cs) = true := by rfl

theorem stops_comma (cs : List Char) : stops (", ".toList ++ cs) = true := by rfl

theorem stops_end (cs : List Char) : stops (" END".toList ++ cs) = true := by rfl

theorem stops_as (cs : List Char) : stops (" AS ".toList ++ cs) = true := by rfl

theorem operand_group {text : String} {p : Phrase} (h : Reads inside stops text p) :
    Reads (operand inside n) closed ("(" ++ text ++ ")") p := by
  intro rest _
  rw [String.toList_append, String.toList_append, List.append_assoc, List.append_assoc]
  change operand inside n ('(' :: (text.toList ++ (")".toList ++ rest))) = _
  rw [operand, h _ (stops_paren rest)]
  rfl

theorem aggregate_isWord (func : Aggregate) : IsWord func.text.toList := by
  cases func <;> exact ⟨by decide, by decide⟩

theorem function_isWord (func : Function) : IsWord func.text.toList := by
  cases func <;> exact ⟨by decide, by decide⟩

theorem call_cast (cs : List Char) : call inside n "CAST".toList cs = castBody inside cs := rfl

theorem call_count (cs : List Char) : call inside n "COUNT".toList cs = countBody inside cs := rfl

theorem call_aggregate (func : Aggregate) (cs : List Char) :
    call inside n func.text.toList cs = (do
      let (operand, cs) ← expression inside cs
      let cs ← after? ")" cs
      return (.aggregate func operand, cs)) := by
  cases func <;> rfl

theorem call_function (func : Function) (cs : List Char) :
    call inside n func.text.toList cs = (do
      let (args, cs) := sequence (expression inside) n cs
      let cs ← after? ")" cs
      return (.call func args, cs)) := by
  cases func <;> rfl

theorem operand_aggregate (func : Aggregate) {text : String} {e : Expr}
    (h : Reads inside stops text (.expr e)) :
    Reads (operand inside n) closed (func.text ++ "(" ++ text ++ ")")
      (.expr (.aggregate func e)) := by
  intro rest _
  simp only [String.toList_append, List.append_assoc]
  rw [operand_call (aggregate_isWord func), call_aggregate, h.expression _ (stops_paren rest)]
  rfl

theorem operand_function (func : Function) {text : String} {es : List Expr}
    (h : ∀ rest, sequence (expression inside) n (text.toList ++ (")".toList ++ rest)) =
      (es, ")".toList ++ rest)) :
    Reads (operand inside n) closed (func.text ++ "(" ++ text ++ ")") (.expr (.call func es)) := by
  intro rest _
  simp only [String.toList_append, List.append_assoc]
  rw [operand_call (function_isWord func), call_function, h rest]
  rfl

theorem operand_count {text : String} {e : Expr} (h : Reads inside stops text (.expr e)) :
    Reads (operand inside n) closed ("COUNT(" ++ text ++ ")") (.expr (.count e false)) := by
  intro rest _
  simp only [String.toList_append, List.append_assoc]
  change operand inside n ("COUNT".toList ++ ("(".toList ++ _)) = _
  rw [operand_call ⟨by decide, by decide⟩, call_count, countBody,
    h.expression _ (stops_paren rest)]
  rfl

/-- No phrase begins as the operand of a count of distinct values does. -/
theorem operand_countDistinct {text : String} {e : Expr} (h : Reads inside stops text (.expr e))
    (hnone : ∀ cs, inside ("DISTINCT ".toList ++ cs) = none) :
    Reads (operand inside n) closed ("COUNT(DISTINCT " ++ text ++ ")")
      (.expr (.count e true)) := by
  intro rest _
  simp only [String.toList_append, List.append_assoc]
  change operand inside n ("COUNT".toList ++ ("(".toList ++ ("DISTINCT ".toList ++ _))) = _
  rw [operand_call ⟨by decide, by decide⟩, call_count, countBody, expression, hnone]
  have hrows : after? "*)" ("DISTINCT ".toList ++ (text.toList ++ (")".toList ++ rest))) = none := by
    rfl
  simp only [hrows, after?_append, Option.bind_eq_bind, Option.bind_some,
    h.expression _ (stops_paren rest)]
  rfl

theorem operand_countRows (hnone : ∀ cs, inside ("*".toList ++ cs) = none) :
    Reads (operand inside n) closed "COUNT(*)" (.expr (.countRows false)) := by
  intro rest _
  change operand inside n
    ("COUNT".toList ++ ("(".toList ++ ("*".toList ++ (")".toList ++ rest)))) = _
  rw [operand_call ⟨by decide, by decide⟩, call_count, countBody, expression, hnone]
  rfl

theorem operand_case {text default : String} {bs : List (Condition × Expr)} {e : Expr}
    (hblank : ∀ rest, closed (text.toList ++ (" ELSE ".toList ++ rest)) = true)
    (hbs : ∀ rest, branches inside n (text.toList ++ (" ELSE ".toList ++ rest)) =
      some (bs, " ELSE ".toList ++ rest))
    (h : Reads inside stops default (.expr e)) :
    Reads (operand inside n) closed ("CASE" ++ text ++ " ELSE " ++ default ++ " END")
      (.expr (.case bs e)) := by
  intro rest _
  simp only [String.toList_append, List.append_assoc]
  rw [operand_keyword ⟨by decide, by decide⟩ (hblank _), bare, if_pos rfl, caseBody, hbs]
  simp only [after?_append, Option.bind_eq_bind, Option.bind_some, h.expression _ (stops_end rest)]
  rfl

theorem operand_param {name : String} (hname : ∀ c ∈ name.toList, isPathChar c = true) :
    Reads (operand inside n) closed ("&" ++ name) (.expr (.param ⟨name⟩)) := by
  intro rest hrest
  rw [String.toList_append, List.append_assoc]
  change operand inside n ('&' :: (name.toList ++ rest)) = _
  rw [operand, path_closed hname hrest]
  simp only [Option.bind_eq_bind, Option.bind_some, String.ofList_toList]
  rfl

theorem operand_negate {text : String} {e : Expr}
    (h : Reads (operand inside n) closed text (.expr e)) :
    Reads (operand inside n) closed ("-" ++ text) (.expr (minus e)) := by
  intro rest hrest
  rw [String.toList_append, List.append_assoc]
  change operand inside n ('-' :: (text.toList ++ rest)) = _
  rw [operand, h rest hrest]

theorem operand_not {text : String} {c : Condition} (h : Reads inside stops text (.condition c)) :
    Reads (operand inside n) closed ("NOT (" ++ text ++ ")") (.condition (.not c)) := by
  intro rest _
  simp only [String.toList_append, List.append_assoc]
  change operand inside n ("NOT".toList ++ (" (".toList ++ (text.toList ++ (")".toList ++ rest)))) = _
  rw [operand_keyword ⟨by decide, by decide⟩ (by rfl), bare, if_neg (by decide), if_pos rfl, notBody,
    after?_append]
  simp only [after?_append, Option.bind_eq_bind, Option.bind_some, h.condition _ (stops_paren rest)]
  rfl

/-! ## Literals -/

theorem operand_constant {w : String} (hw : w ∈ constantWords) :
    Reads (operand inside n) closed w (.expr (.literal (textual w))) := by
  have hall : ∀ v ∈ constantWords, v.toList ≠ [] ∧ v.toList.all isWordChar = true ∧
      v.toList ≠ "CASE".toList ∧ v.toList ≠ "NOT".toList := by decide
  obtain ⟨hne, hchars, hcase, hnot⟩ := hall w hw
  intro rest hrest
  rw [operand_keyword ⟨hne, hchars⟩ hrest, bare, if_neg hcase, if_neg hnot, String.ofList_toList,
    if_pos (by rw [Bool.or_eq_true]; exact .inr (List.contains_iff_mem.mpr hw))]

theorem operand_number {cs : List Char} (h : IsNumeral cs) :
    Reads (operand inside n) closed (String.ofList cs)
      (.expr (.literal (textual (String.ofList cs)))) := by
  intro rest hrest
  have hfirst : cs.head?.any isWordChar = true := by
    cases cs with
    | nil => cases h.1
    | cons c cs => exact isWordChar_of_isDigit h.1
  have hchars : ∀ c ∈ cs, isPathChar c = true := by
    intro c hc
    rcases h.2 c hc with hd | rfl
    · exact isPathChar_of_isWordChar (isWordChar_of_isDigit hd)
    · rfl
  rw [String.toList_ofList, operand_bare hfirst hchars hrest, bare, if_neg, if_neg, h.1,
    Bool.true_or, if_pos rfl]
  · rintro rfl
    exact absurd h.1 (by decide)
  · rintro rfl
    exact absurd h.1 (by decide)

theorem quote_append (s : String) (rest : List Char) :
    (Text.quote s).toList ++ rest = '"' :: (Text.doubleQuotes s.toList ++ '"' :: rest) := by
  simp [Text.quote]

theorem stringConstant_quote (s : String) {rest : List Char} (hrest : rest.head? ≠ some '"') :
    stringConstant ((Text.quote s).toList ++ rest) = some (s, rest) := by
  rw [quote_append, stringConstant, quoted_doubleQuotes _ hrest]
  change some (String.ofList s.toList, rest) = _
  rw [String.ofList_toList]

theorem stringConstant_reads (s : String) : Reads stringConstant closed (Text.quote s) s :=
  fun _ hrest => stringConstant_quote s fun hquote => (head?_of_closed hrest '"' hquote).2.2 rfl

theorem operand_quoted (s : String) :
    Reads (operand inside n) closed (Text.quote s) (.expr (.literal (textual (Text.quote s)))) := by
  intro rest hrest
  have hread := stringConstant_reads s rest hrest
  rw [quote_append] at hread ⊢
  rw [operand, hread]
  rfl

theorem operand_dateTime {parts : List Char} (h : ∀ c ∈ parts, c ≠ ')') :
    Reads (operand inside n) closed ("DATETIME(" ++ String.ofList parts ++ ")")
      (.expr (.literal (textual ("DATETIME(" ++ String.ofList parts ++ ")")))) := by
  intro rest _
  have hparts : ∀ c ∈ parts, decide (c ≠ ')') = true := fun c hc => decide_eq_true (h c hc)
  have hstop : ∀ c ∈ (")".toList ++ rest).head?, decide (c ≠ ')') = false := by
    intro c hc
    cases hc
    rfl
  simp only [String.toList_append, String.toList_ofList, List.append_assoc]
  change operand inside n ("DATETIME".toList ++ ("(".toList ++ (parts ++ (")".toList ++ rest)))) = _
  rw [operand_call ⟨by decide, by decide⟩, call, if_neg (by decide), if_neg (by decide), if_pos rfl]
  simp only [takeWhile_run hparts hstop, dropWhile_run hparts hstop]
  rfl

theorem minus_textual (s : String) :
    minus (.literal (textual s)) =
      if s.toList.head?.any Char.isDigit then .literal (textual ("-" ++ s))
      else .negate (.literal (textual s)) := rfl

theorem operand_literal {text : String} (h : LiteralForm text) :
    Reads (operand inside n) closed text (.expr (.literal (textual text))) := by
  cases h with
  | word h => exact operand_constant h
  | quoted s => exact operand_quoted s
  | number h => exact operand_number h
  | @negative cs h =>
      have hminus : minus (.literal (textual (String.ofList cs))) =
          .literal (textual ("-" ++ String.ofList cs)) := by
        rw [minus_textual, String.toList_ofList, if_pos h.1]
      rw [← hminus]
      exact operand_negate (operand_number h)
  | dateTime h => exact operand_dateTime h

/-! ## Fields and types -/

theorem foldl_fieldStep {w : List Char} (hw : ∀ c ∈ w, isWordChar c = true) (table : Expr)
    (v : List Char) : w.foldl fieldStep (table, v) = (table, v ++ w) := by
  induction w generalizing v with
  | nil => rw [List.append_nil]; rfl
  | cons c w ih =>
      have hc : c ≠ '.' := by
        rintro rfl
        exact absurd (hw '.' List.mem_cons_self) (by decide)
      rw [List.foldl_cons, fieldStep, if_neg hc, ih fun d hd => hw d (List.mem_cons_of_mem c hd),
        List.append_assoc]
      rfl

theorem fieldAt_word {name : String} (hname : ∀ c ∈ name.toList, isWordChar c = true)
    (table : Expr) : fieldAt table name.toList = .field table ⟨name⟩ := by
  rw [fieldAt, foldl_fieldStep hname]
  simp

theorem fieldAt_step {name : String} (hname : ∀ c ∈ name.toList, isWordChar c = true)
    (table : Expr) (w : List Char) :
    fieldAt table (name.toList ++ '.' :: w) = fieldAt (.field table ⟨name⟩) w := by
  rw [fieldAt, List.foldl_append, foldl_fieldStep hname, List.foldl_cons, fieldStep, if_pos rfl]
  simp [fieldAt]

theorem fieldsOf_closed (table : Expr) {rest : List Char} (hrest : closed rest = true) :
    fieldsOf table rest = some (table, rest) := by
  have hnone : after? "." rest = none := by
    cases rest with
    | nil => rfl
    | cons c rest =>
        have hc := (head?_of_closed hrest c rfl).1
        refine if_neg ?_
        rintro rfl
        exact absurd hc (by decide)
  rw [fieldsOf, optional, hnone]
  rfl

theorem fieldsOf_path (table : Expr) {w rest : List Char} (hw : ∀ c ∈ w, isPathChar c = true)
    (hrest : closed rest = true) :
    fieldsOf table ('.' :: (w ++ rest)) = some (fieldAt table w, rest) := by
  have hpath : optional "." path (".".toList ++ (w ++ rest)) = some (some w, rest) := by
    rw [optional, after?_append]
    simp only [path_closed hw hrest]
    rfl
  change fieldsOf table (".".toList ++ (w ++ rest)) = _
  rw [fieldsOf, hpath]
  rfl

theorem lengths_closed {rest : List Char} (hrest : closed rest = true) :
    lengths rest = some ([], rest) := by
  rw [lengths, after?_paren_of_closed hrest]

theorem lengths_commas {ns : List Nat} (hne : ns ≠ []) (hlen : ns.length ≤ 2)
    (rest : List Char) :
    lengths ("(".toList ++ ((commas (ns.map toString)).toList ++ (")".toList ++ rest))) =
      some (ns, rest) := by
  have hread : sequence numeral 2 ((commas (ns.map toString)).toList ++ (")".toList ++ rest)) =
      (ns.map id, ")".toList ++ rest) :=
    sequence_reads (fun m _ => numeral_reads m) (fun _ => by rfl)
      (show closed (")".toList ++ rest) = true by rfl) (by rfl) (fun h => absurd h hne) hlen
  rw [lengths, after?_append]
  simp only [hread, List.map_id]
  rfl

theorem castType_sized {w : String} (hw : IsWord w.toList) {ns : List Nat} (hne : ns ≠ [])
    (hlen : ns.length ≤ 2) (rest : List Char) :
    castType (w.toList ++
      ("(".toList ++ ((commas (ns.map toString)).toList ++ (")".toList ++ rest)))) =
      some (typeOf w.toList ns, rest) := by
  rw [castType, path_append hw.pathChar (paren_head _)]
  simp only [Option.bind_eq_bind, Option.bind_some, lengths_commas hne hlen]
  rfl

theorem toList_ne_printed {name w : String} (hname : name ∉ printedWords)
    (hw : w ∈ printedWords) : name.toList ≠ w.toList := by
  intro h
  rw [String.toList_inj.mp h] at hname
  exact hname hw

theorem castType_table {name : String} (hchars : ∀ c ∈ name.toList, isPathChar c = true)
    (hname : name ∉ printedWords) : Reads castType closed name (.table name) := by
  intro rest hrest
  rw [castType, path_closed hchars hrest]
  simp only [Option.bind_eq_bind, Option.bind_some, lengths_closed hrest]
  rw [typeOf, if_neg (toList_ne_printed hname (by decide)),
    if_neg (toList_ne_printed hname (by decide)), if_neg (toList_ne_printed hname (by decide)),
    if_neg (toList_ne_printed hname (by decide)), String.ofList_toList]
  · rfl
  · exact nofun
  · exact nofun

theorem operand_cast {text : String} {e : Expr} {type : CastType}
    (h : Reads inside stops text (.expr e))
    (htype : ∀ rest, castType (type.render.toList ++ (")".toList ++ rest)) =
      some (type, ")".toList ++ rest)) (cs : List Char) :
    operand inside n (("CAST(" ++ text ++ " AS " ++ type.render ++ ")").toList ++ cs) = (do
      let (e, cs) ← fieldsOf (.cast e type) cs
      return (.expr e, cs)) := by
  simp only [String.toList_append, List.append_assoc]
  change operand inside n ("CAST".toList ++ ("(".toList ++ _)) = _
  rw [operand_call ⟨by decide, by decide⟩, call_cast, castBody, h.expression _ (stops_as _)]
  simp only [after?_append, Option.bind_eq_bind, Option.bind_some, htype]

/-! ## Rules for phrases -/

/-- No link is the beginning of another, and none continues an operand. -/
theorem link_read (l : Link) (cs : List Char) :
    link? (l.text.toList ++ cs) = some (l, cs) ∧ closed (l.text.toList ++ cs) = true := by
  cases l with
  | arith op => cases op <;> exact ⟨rfl, rfl⟩
  | between positive => cases positive <;> exact ⟨rfl, rfl⟩
  | inList positive hierarchy => cases positive <;> cases hierarchy <;> exact ⟨rfl, rfl⟩
  | isNull positive => cases positive <;> exact ⟨rfl, rfl⟩
  | like positive => cases positive <;> exact ⟨rfl, rfl⟩
  | logic op => cases op <;> exact ⟨rfl, rfl⟩
  | refs => exact ⟨rfl, rfl⟩
  | relation op => cases op <;> exact ⟨rfl, rfl⟩

theorem phraseBody_operand {text : String} {p : Phrase}
    (h : Reads (operand inside n) closed text p) : Reads (phraseBody inside n) stops text p := by
  intro rest hrest
  rw [phraseBody, h rest (closed_of_stops hrest)]
  simp only [Option.bind_eq_bind, Option.bind_some, (stops_iff.mp hrest).2.1]
  rfl

theorem phraseBody_link {lhs body : String} {l : Link} {p q : Phrase}
    (hlhs : Reads (operand inside n) closed lhs p)
    (hbody : Reads (complete inside n p l) stops body q) :
    Reads (phraseBody inside n) stops (lhs ++ l.text ++ body) q := by
  intro rest hrest
  rw [String.toList_append, String.toList_append, List.append_assoc, List.append_assoc, phraseBody,
    hlhs _ (link_read l _).2]
  simp only [Option.bind_eq_bind, Option.bind_some, (link_read l _).1]
  exact hbody rest hrest

-- the equations of `complete`, derived once for the rules below
attribute [local simp] complete

theorem complete_arith {text : String} (op : Arith) (a : Expr) {b : Expr}
    (h : Reads (operand inside n) closed text (.expr b)) :
    Reads (complete inside n (.expr a) (.arith op)) stops text (.expr (.arith op a b)) := by
  intro rest hrest
  simp [h.expression rest (closed_of_stops hrest)]

theorem complete_relation {text : String} (op : Relation) (a : Expr) {b : Expr}
    (h : Reads (operand inside n) closed text (.expr b)) :
    Reads (complete inside n (.expr a) (.relation op)) stops text
      (.condition (.relation a op b)) := by
  intro rest hrest
  simp [h.expression rest (closed_of_stops hrest)]

theorem complete_logic {text : String} (op : Connective) (a : Condition) {b : Condition}
    (h : Reads (operand inside n) closed text (.condition b)) :
    Reads (complete inside n (.condition a) (.logic op)) stops text
      (.condition (.logic a op b)) := by
  intro rest hrest
  simp [h.condition rest (closed_of_stops hrest)]

theorem complete_between {start stop : String} (positive : Bool) (e : Expr) {a b : Expr}
    (ha : Reads (operand inside n) closed start (.expr a))
    (hb : Reads (operand inside n) closed stop (.expr b)) :
    Reads (complete inside n (.expr e) (.between positive)) stops (start ++ " AND " ++ stop)
      (.condition (.between e a b positive)) := by
  intro rest hrest
  rw [String.toList_append, String.toList_append, List.append_assoc, List.append_assoc, complete,
    ha.expression _ (by rfl)]
  simp only [after?_append, Option.bind_eq_bind, Option.bind_some,
    hb.expression rest (closed_of_stops hrest)]
  rfl

theorem complete_inList {text : String} (positive hierarchy : Bool) (e : Expr) {es : List Expr}
    (h : ∀ rest, sequence (expression inside) n (text.toList ++ (")".toList ++ rest)) =
      (es, ")".toList ++ rest)) :
    Reads (complete inside n (.expr e) (.inList positive hierarchy)) stops (text ++ ")")
      (.condition (.inList e es positive hierarchy)) := by
  intro rest _
  rw [String.toList_append, List.append_assoc, complete, h rest]
  rfl

theorem complete_like (pattern : String) (positive : Bool) (e : Expr) :
    Reads (complete inside n (.expr e) (.like positive)) stops (Text.quote pattern)
      (.condition (.like e pattern none positive)) := by
  intro rest hrest
  obtain ⟨hclosed, -, hescape⟩ := stops_iff.mp hrest
  rw [complete, stringConstant_reads pattern rest hclosed]
  simp only [Option.bind_eq_bind, Option.bind_some, optional, hescape]
  rfl

theorem complete_likeEscape (pattern : String) (c : Char) (positive : Bool) (e : Expr) :
    Reads (complete inside n (.expr e) (.like positive)) stops
      (Text.quote pattern ++ " ESCAPE " ++ Text.quote (String.ofList [c]))
      (.condition (.like e pattern (some c) positive)) := by
  intro rest hrest
  rw [String.toList_append, String.toList_append, List.append_assoc, List.append_assoc, complete,
    stringConstant_reads pattern _ (by rfl)]
  simp only [Option.bind_eq_bind, Option.bind_some, optional, after?_append,
    stringConstant_reads (String.ofList [c]) rest (closed_of_stops hrest)]
  change some (Phrase.condition (.like e pattern (String.ofList [c]).toList.head? positive), rest) = _
  rw [String.toList_ofList]
  rfl

theorem complete_isNull (positive : Bool) (e : Expr) :
    Reads (complete inside n (.expr e) (.isNull positive)) stops ""
      (.condition (.isNull e positive)) := by
  intro rest _
  rfl

theorem complete_refs {table : String} (e : Expr)
    (htable : ∀ c ∈ table.toList, isPathChar c = true) :
    Reads (complete inside n (.expr e) .refs) stops table (.condition (.refs e table)) := by
  intro rest hrest
  rw [complete, path_closed htable (closed_of_stops hrest)]
  change some (Phrase.condition (.refs e (String.ofList table.toList)), rest) = _
  rw [String.ofList_toList]

end Inside

end Inquiry.Statement
