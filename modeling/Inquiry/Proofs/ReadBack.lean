import Inquiry.Proofs.ReadRules

/-!
# Reading expressions and conditions back

The text of a statement leaves nothing open but the kinds of its literals: a
reader finds, from the text alone, the statement with each literal replaced by
its text. This module proves it for expressions and conditions.

It holds for a class of statements. A name must not look like a number or like
one of the words of the language, for names are written without quotes. The
rest of the conditions keep out what is written alike or not at all: a negated
number and a negative number, rows counted with and without repetition, the
default table outside of a field. Nothing is asked of string constants, of
patterns or of escape characters.

The depth that a reader needs grows with the statement. Rather than measure it,
`Eventually` says that some depth suffices, and so does every greater one.
-/

namespace Inquiry.Statement

/-! ## The class of queries -/

/-- The text is a name that cannot be taken for a number or for a word of the language. -/
structure IsName (text : String) : Prop where
  word : IsWord text.toList
  start : text.toList.head?.any Char.isDigit = false
  free : text ∉ printedWords

/-- The text is made of names with points between them. -/
def IsPath (text : String) : Prop :=
  ∃ names : List String, names ≠ [] ∧ (∀ name ∈ names, IsName name) ∧
    text = ".".intercalate names

def CastType.Plain : CastType → Prop
  | .table name => IsPath name
  | _ => True

/-- Whether the expression is a reference to a row, of which it may name a field. -/
def Expr.isRow : Expr → Bool
  | .field _ _ => true
  | .cast _ type => type.isTable
  | _ => false

/-- Whether the expression is the literal of a number. -/
def Expr.isNumber : Expr → Bool
  | .literal l => l.value.isNumeric
  | _ => false

mutual

/-- The expression can be read back from its text. -/
def Expr.Plain : Expr → Prop
  | .aggregate _ operand => operand.Plain
  | .allColumns => False
  | .arith _ lhs rhs => lhs.Plain ∧ rhs.Plain
  | .case branches default => PlainBranches branches ∧ default.Plain
  | .cast operand type => operand.Plain ∧ type.Plain
  | .columnGroup _ _ => False
  | .count operand _ => operand.Plain
  | .countRows distinct => distinct = false
  | .defaultTable => False
  | .field table name =>
      IsName name.text ∧ (table = .defaultTable ∨ table.isRow = true ∧ table.Plain)
  | .call _ args => PlainAll args
  | .literal _ => True
  | .negate operand => operand.isNumber = false ∧ operand.Plain
  | .param name => IsName name.text

/-- The condition can be read back from its text. -/
def Condition.Plain : Condition → Prop
  | .between operand start stop _ => operand.Plain ∧ start.Plain ∧ stop.Plain
  | .inList operand values _ _ => operand.Plain ∧ PlainAll values
  | .isNull operand _ => operand.Plain
  | .like operand _ _ _ => operand.Plain
  | .logic lhs _ rhs => lhs.Plain ∧ rhs.Plain
  | .not operand => operand.Plain
  | .refs operand table => operand.Plain ∧ IsPath table
  | .relation lhs _ rhs => lhs.Plain ∧ rhs.Plain

/-- All the expressions can be read back. -/
def PlainAll : List Expr → Prop
  | [] => True
  | e :: rest => e.Plain ∧ PlainAll rest

/-- All tests and values of a CASE can be read back. -/
def PlainBranches : List (Condition × Expr) → Prop
  | [] => True
  | (test, value) :: rest => test.Plain ∧ value.Plain ∧ PlainBranches rest

end

/-- The query can be read back from its text. -/
structure Query.Plain (q : Query) : Prop where
  columns : q.select.columns = [.allColumns] ∨ PlainAll q.select.columns
  source : ∀ name, q.source = some name → IsPath name
  filter : ∀ c, q.filter = some c → c.Plain
  order : ∀ keys, q.order = some keys → ∀ k ∈ keys, k.expr.Plain

/-! ## Literals by their text -/

mutual

/-- The expression with the string constant of its text for every literal. -/
def Expr.spelled : Expr → Expr
  | .aggregate func operand => .aggregate func operand.spelled
  | .allColumns => .allColumns
  | .arith op lhs rhs => .arith op lhs.spelled rhs.spelled
  | .case branches default => .case (spelledBranches branches) default.spelled
  | .cast operand type => .cast operand.spelled type
  | .columnGroup table fields => .columnGroup table.spelled fields
  | .count operand distinct => .count operand.spelled distinct
  | .countRows distinct => .countRows distinct
  | .defaultTable => .defaultTable
  | .field table name => .field table.spelled name
  | .call func args => .call func (spelledAll args)
  | .literal l => .literal (textual l.text)
  | .negate operand => .negate operand.spelled
  | .param name => .param name

/-- The condition with the string constant of its text for every literal. -/
def Condition.spelled : Condition → Condition
  | .between operand start stop positive =>
      .between operand.spelled start.spelled stop.spelled positive
  | .inList operand values positive hierarchy =>
      .inList operand.spelled (spelledAll values) positive hierarchy
  | .isNull operand positive => .isNull operand.spelled positive
  | .like operand pattern escape positive => .like operand.spelled pattern escape positive
  | .logic lhs op rhs => .logic lhs.spelled op rhs.spelled
  | .not operand => .not operand.spelled
  | .refs operand table => .refs operand.spelled table
  | .relation lhs op rhs => .relation lhs.spelled op rhs.spelled

/-- Several expressions with the string constants of their texts for the literals. -/
def spelledAll : List Expr → List Expr
  | [] => []
  | e :: rest => e.spelled :: spelledAll rest

/-- The branches of a CASE with the string constants of their texts for the literals. -/
def spelledBranches : List (Condition × Expr) → List (Condition × Expr)
  | [] => []
  | (test, value) :: rest => (test.spelled, value.spelled) :: spelledBranches rest

end

/-- The sort key with the string constant of its text for every literal. -/
def SortKey.spelled (k : SortKey) : SortKey := { k with expr := k.expr.spelled }

/-- The query with the string constant of its text for every literal. -/
def Query.spelled (q : Query) : Query where
  select := { q.select with columns := spelledAll q.select.columns }
  source := q.source
  filter := q.filter.map Condition.spelled
  order := q.order.map (·.map SortKey.spelled)

theorem renderAll_eq_map (es : List Expr) : renderAll es = es.map Expr.render := by
  induction es with
  | nil => rfl
  | cons e es ih => rw [renderAll, ih, List.map_cons]

theorem spelledAll_eq_map (es : List Expr) : spelledAll es = es.map Expr.spelled := by
  induction es with
  | nil => rfl
  | cons e es ih => rw [spelledAll, ih, List.map_cons]

/-! ## Names -/

theorem IsPath.chars {text : String} (h : IsPath text) :
    ∀ c ∈ text.toList, isPathChar c = true := by
  obtain ⟨names, -, hnames, rfl⟩ := h
  induction names with
  | nil => exact nofun
  | cons name names ih =>
      have hname := (hnames name List.mem_cons_self).word.pathChar
      cases names with
      | nil => rwa [String.intercalate_singleton]
      | cons next names =>
          intro c hc
          rw [String.intercalate_cons_cons, String.toList_append, String.toList_append,
            List.mem_append, List.mem_append] at hc
          rcases hc with (hc | hc) | hc
          · exact hname c hc
          · cases hc with
            | head => rfl
            | tail _ hc => cases hc
          · exact ih (fun m hm => hnames m (List.mem_cons_of_mem name hm)) c hc

theorem dot_not_printed {w : List Char} (h : '.' ∈ w) : String.ofList w ∉ printedWords := by
  have hall : ∀ v ∈ printedWords, '.' ∉ v.toList := by decide
  intro hw
  exact hall _ hw (by rwa [String.toList_ofList])

theorem IsPath.free {text : String} (h : IsPath text) : text ∉ printedWords := by
  obtain ⟨names, hne, hnames, rfl⟩ := h
  match names with
  | [] => exact absurd rfl hne
  | [name] =>
      rw [String.intercalate_singleton]
      exact (hnames name List.mem_cons_self).free
  | a :: b :: rest =>
      rw [String.intercalate_cons_cons, ← String.ofList_toList (s := _ ++ _)]
      exact dot_not_printed (by simp)

theorem castType_plain {type : CastType} (h : type.Plain) (rest : List Char) :
    castType (type.render.toList ++ (")".toList ++ rest)) = some (type, ")".toList ++ rest) := by
  cases type with
  | boolean | date | number | string => rfl
  | numberOf length =>
      simp only [CastType.render, String.toList_append, List.append_assoc]
      change castType ("NUMBER".toList ++ ("(".toList ++
        ((commas ([length].map toString)).toList ++ (")".toList ++ (")".toList ++ rest))))) = _
      exact castType_sized ⟨by decide, by decide⟩ (by simp) (by simp) _
  | numberWith length precision =>
      have hcommas : commas ([length, precision].map toString) =
          toString length ++ ", " ++ toString precision := rfl
      have hread := castType_sized (w := "NUMBER") ⟨by decide, by decide⟩
        (List.cons_ne_nil length [precision]) (by simp) (")".toList ++ rest)
      rw [hcommas] at hread
      simp only [CastType.render, String.toList_append, List.append_assoc] at hread ⊢
      exact hread
  | stringOf length =>
      simp only [CastType.render, String.toList_append, List.append_assoc]
      change castType ("STRING".toList ++ ("(".toList ++
        ((commas ([length].map toString)).toList ++ (")".toList ++ (")".toList ++ rest))))) = _
      exact castType_sized ⟨by decide, by decide⟩ (by simp) (by simp) _
  | table name => exact castType_table (IsPath.chars h) (IsPath.free h) _ (by rfl)

/-- A path of names, the first of which cannot be taken for something else, is a field. -/
theorem operand_fieldPath {inside : List Char → Option (Phrase × List Char)} {n : Nat}
    {w rest : List Char} (hfirst : w.head?.any isWordChar = true)
    (hstart : w.head?.any Char.isDigit = false) (hw : ∀ c ∈ w, isPathChar c = true)
    (hfree : String.ofList w ∉ printedWords) (hrest : closed rest = true) :
    operand inside n (w ++ rest) = some (.expr (fieldAt .defaultTable w), rest) := by
  have hconstant : String.ofList w ∉ constantWords := fun h => hfree (List.mem_append_right _ h)
  have hcase : w ≠ "CASE".toList := by
    rintro rfl
    exact absurd hfree (by decide)
  have hnot : w ≠ "NOT".toList := by
    rintro rfl
    exact absurd hfree (by decide)
  have hne : w.isEmpty = false := by
    cases w with
    | nil => cases hfirst
    | cons c w => rfl
  rw [operand_bare hfirst hw hrest, bare, if_neg hcase, if_neg hnot, hstart, hne,
    List.contains_eq_mem, List.contains_eq_mem, decide_eq_false hfree, decide_eq_false hconstant]
  rfl

/-! ## Enough depth -/

/-- The property holds from some number on. -/
def Eventually (P : Nat → Prop) : Prop := ∃ k, ∀ n, k ≤ n → P n

namespace Eventually

theorem always {P : Nat → Prop} (h : ∀ n, P n) : Eventually P := ⟨0, fun n _ => h n⟩

theorem length_le (k : Nat) : Eventually (k ≤ ·) := ⟨k, fun _ h => h⟩

theorem and {P Q : Nat → Prop} (hp : Eventually P) (hq : Eventually Q) :
    Eventually fun n => P n ∧ Q n := by
  obtain ⟨k, hk⟩ := hp
  obtain ⟨l, hl⟩ := hq
  exact ⟨max k l, fun n hn => ⟨hk n (by omega), hl n (by omega)⟩⟩

theorem mono {P Q : Nat → Prop} (hp : Eventually P) (h : ∀ n, P n → Q n) : Eventually Q := by
  obtain ⟨k, hk⟩ := hp
  exact ⟨k, fun n hn => h n (hk n hn)⟩

theorem succ {P Q : Nat → Prop} (hp : Eventually P) (h : ∀ n, P n → Q (n + 1)) :
    Eventually Q := by
  obtain ⟨k, hk⟩ := hp
  refine ⟨k + 1, fun n hn => ?_⟩
  obtain ⟨m, rfl⟩ : ∃ m, n = m + 1 := ⟨n - 1, by omega⟩
  exact h m (hk m (by omega))

end Eventually

/-- The expression is read back, at the given depth, as an operand and as a phrase. -/
structure Expr.ReadBack (e : Expr) (n : Nat) : Prop where
  operand : Reads (operand (phrase n) n) closed (grouped e.hasSpaces e.render) (.expr e.spelled)
  phrase : Reads (phrase n) stops e.render (.expr e.spelled)

/-- The condition is read back at the given depth. -/
def Condition.ReadBack (c : Condition) (n : Nat) : Prop :=
  Reads (phrase n) stops c.render (.condition c.spelled)

theorem Condition.ReadBack.operand {c : Condition} {n : Nat} (h : c.ReadBack n) :
    Reads (operand (phrase n) n) closed (grouped c.hasSpaces c.render) (.condition c.spelled) :=
  operand_group h

/-- What is written without blanks of its own is a phrase where it is an operand. -/
theorem readBack_of_operand {e : Expr} (hspaces : e.hasSpaces = false)
    (h : Eventually fun n => Reads (operand (phrase n) n) closed e.render (.expr e.spelled)) :
    Eventually e.ReadBack := by
  have hphrase : Eventually fun n => Reads (phrase n) stops e.render (.expr e.spelled) :=
    h.succ fun _ hn => phraseBody_operand hn
  refine (h.and hphrase).mono fun n hn => ⟨?_, hn.2⟩
  rw [hspaces]
  exact hn.1

theorem phrase_distinct (n : Nat) (cs : List Char) : phrase n ("DISTINCT ".toList ++ cs) = none := by
  cases n <;> rfl

theorem phrase_star (n : Nat) (cs : List Char) : phrase n ("*".toList ++ cs) = none := by
  cases n <;> rfl

theorem phrase_paren (n : Nat) (cs : List Char) : phrase n (")".toList ++ cs) = none := by
  cases n <;> rfl

theorem sequence_paren {es : List Expr} {n : Nat} (h : ∀ e ∈ es, e.ReadBack n)
    (hn : es.length ≤ n) (rest : List Char) :
    sequence (expression (phrase n)) n ((commas (renderAll es)).toList ++ (")".toList ++ rest)) =
      (spelledAll es, ")".toList ++ rest) := by
  rw [renderAll_eq_map, spelledAll_eq_map]
  refine sequence_reads (fun e he => (h e he).phrase.expression) stops_comma (stops_paren rest)
    (by rfl) (fun _ => ?_) hn
  rw [expression, phrase_paren]

theorem stops_then (cs : List Char) : stops (" THEN ".toList ++ cs) = true := by rfl

theorem stops_branches (bs : List (Condition × Expr)) (rest : List Char) :
    stops ((renderBranches bs).toList ++ (" ELSE ".toList ++ rest)) = true := by
  cases bs with
  | nil => rfl
  | cons b bs =>
      obtain ⟨test, value⟩ := b
      simp only [renderBranches, String.toList_append, List.append_assoc]
      rfl

theorem branches_read {bs : List (Condition × Expr)} {n m : Nat}
    (h : ∀ b ∈ bs, b.1.ReadBack n ∧ b.2.ReadBack n) (hm : bs.length < m) (rest : List Char) :
    branches (phrase n) m ((renderBranches bs).toList ++ (" ELSE ".toList ++ rest)) =
      some (spelledBranches bs, " ELSE ".toList ++ rest) := by
  induction bs generalizing m with
  | nil =>
      obtain ⟨m, rfl⟩ : ∃ k, m = k + 1 := ⟨m - 1, by rw [List.length_nil] at hm; omega⟩
      rfl
  | cons b bs ih =>
      obtain ⟨m, rfl⟩ : ∃ k, m = k + 1 := ⟨m - 1, by omega⟩
      obtain ⟨test, value⟩ := b
      obtain ⟨htest, hvalue⟩ := h (test, value) List.mem_cons_self
      have htail := ih (fun b hb => h b (List.mem_cons_of_mem _ hb)) (Nat.lt_of_succ_lt_succ hm)
      simp only [renderBranches, String.toList_append, List.append_assoc]
      rw [branches, after?_append]
      simp only [htest.condition _ (stops_then _), after?_append, Option.bind_eq_bind,
        Option.bind_some, hvalue.phrase.expression _ (stops_branches bs rest), htail]
      rfl

theorem minus_spelled {e : Expr} (h : e.isNumber = false) : minus e.spelled = .negate e.spelled := by
  cases e with
  | literal l => rw [Expr.spelled, minus_textual, Literal.head_text h, if_neg Bool.false_ne_true]
  | _ => rfl

/-- The row is read back together with the fields that follow it. -/
def Expr.RowReadBack (e : Expr) (n : Nat) : Prop :=
  ∀ w rest, (∀ c ∈ w, isPathChar c = true) → closed rest = true →
    operand (phrase n) n (e.render.toList ++ '.' :: (w ++ rest)) =
      some (.expr (fieldAt e.spelled w), rest)

theorem field_render {table : Expr} (h : table.isRow = true) (name : Name) :
    (Expr.field table name).render = table.render ++ "." ++ name.text := by
  cases table with
  | field _ _ | cast _ _ => rfl
  | _ => cases h

theorem IsName.pathChar {name : String} (h : IsName name) :
    ∀ c ∈ name.toList, isPathChar c = true :=
  h.word.pathChar

theorem IsName.pathChar_dot {name : String} (h : IsName name) {w : List Char}
    (hw : ∀ c ∈ w, isPathChar c = true) :
    ∀ c ∈ name.toList ++ '.' :: w, isPathChar c = true := by
  intro c hc
  rcases List.mem_append.mp hc with hc | hc
  · exact h.pathChar c hc
  · rcases List.mem_cons.mp hc with rfl | hc
    · rfl
    · exact hw c hc

theorem default_readBack {name : Name} (h : IsName name.text) (n : Nat) :
    Reads (operand (phrase n) n) closed (Expr.field .defaultTable name).render
      (.expr (.field .defaultTable name)) := by
  intro rest hrest
  have hfree : String.ofList name.text.toList ∉ printedWords := by
    rw [String.ofList_toList]
    exact h.free
  change operand (phrase n) n (name.text.toList ++ rest) = _
  rw [operand_fieldPath h.word.head h.start h.pathChar hfree hrest, fieldAt_word h.word.wordChar]

theorem default_rowReadBack {name : Name} (h : IsName name.text) (n : Nat) :
    (Expr.field .defaultTable name).RowReadBack n := by
  intro w rest hw hrest
  have hhead : (name.text.toList ++ '.' :: w).head? = name.text.toList.head? := by
    cases hc : name.text.toList with
    | nil => exact absurd hc h.word.nonempty
    | cons c cs => rfl
  change operand (phrase n) n (name.text.toList ++ ('.' :: w ++ rest)) = _
  rw [← List.append_assoc, operand_fieldPath (by rw [hhead]; exact h.word.head)
    (by rw [hhead]; exact h.start) (h.pathChar_dot hw) (dot_not_printed (by simp)) hrest,
    fieldAt_step h.word.wordChar]
  rfl

theorem field_rowReadBack {table : Expr} {name : Name} {n : Nat} (hrow : table.isRow = true)
    (hname : IsName name.text) (h : table.RowReadBack n) :
    (Expr.field table name).RowReadBack n := by
  intro w rest hw hrest
  have hread := h (name.text.toList ++ '.' :: w) rest (hname.pathChar_dot hw) hrest
  rw [fieldAt_step hname.word.wordChar, List.append_assoc] at hread
  rw [field_render hrow, String.toList_append, String.toList_append, List.append_assoc,
    List.append_assoc]
  exact hread

theorem field_readBack {table : Expr} {name : Name} {n : Nat} (hrow : table.isRow = true)
    (hname : IsName name.text) (h : table.RowReadBack n) :
    Reads (operand (phrase n) n) closed (Expr.field table name).render
      (.expr (Expr.field table name).spelled) := by
  intro rest hrest
  have hread := h name.text.toList rest hname.pathChar hrest
  rw [fieldAt_word hname.word.wordChar] at hread
  rw [field_render hrow, String.toList_append, String.toList_append, List.append_assoc,
    List.append_assoc]
  exact hread

theorem cast_rowReadBack {x : Expr} {type : CastType} {n : Nat} (h : x.ReadBack n)
    (htype : type.Plain) : (Expr.cast x type).RowReadBack n := by
  intro w rest hw hrest
  rw [Expr.render, operand_cast h.phrase (castType_plain htype), fieldsOf_path _ hw hrest]
  rfl

theorem cast_readBack {x : Expr} {type : CastType} {n : Nat} (h : x.ReadBack n)
    (htype : type.Plain) :
    Reads (operand (phrase n) n) closed (Expr.cast x type).render
      (.expr (Expr.cast x type).spelled) := by
  intro rest hrest
  rw [Expr.render, operand_cast h.phrase (castType_plain htype), fieldsOf_closed _ hrest]
  rfl

theorem count_readBack {x : Expr} {n : Nat} (h : x.ReadBack n) (distinct : Bool) :
    Reads (operand (phrase n) n) closed (Expr.count x distinct).render
      (.expr (Expr.count x distinct).spelled) := by
  cases distinct with
  | false => exact operand_count h.phrase
  | true => exact operand_countDistinct h.phrase (phrase_distinct n)

theorem case_readBack {bs : List (Condition × Expr)} {default : Expr} {n : Nat}
    (hbs : ∀ b ∈ bs, b.1.ReadBack n ∧ b.2.ReadBack n) (hn : bs.length < n)
    (h : default.ReadBack n) :
    Reads (operand (phrase n) n) closed (Expr.case bs default).render
      (.expr (Expr.case bs default).spelled) :=
  operand_case (fun rest => closed_of_stops (stops_branches bs rest)) (branches_read hbs hn)
    h.phrase

theorem negate_readBack {x : Expr} {n : Nat} (hx : x.isNumber = false) (h : x.ReadBack n) :
    Reads (operand (phrase n) n) closed (Expr.negate x).render
      (.expr (Expr.negate x).spelled) := by
  rw [Expr.spelled, ← minus_spelled hx]
  exact operand_negate h.operand

theorem phrase_link {lhs body text : String} {l : Link} {p q : Phrase} {n : Nat}
    (hlhs : Reads (operand (phrase n) n) closed lhs p)
    (hbody : Reads (complete (phrase n) n p l) stops body q)
    (htext : text = lhs ++ l.text ++ body) : Reads (phrase (n + 1)) stops text q := by
  rw [htext]
  exact phraseBody_link hlhs hbody

theorem arith_readBack {op : Arith} {lhs rhs : Expr} {n : Nat} (hl : lhs.ReadBack n)
    (hr : rhs.ReadBack n) :
    Reads (phrase (n + 1)) stops (Expr.arith op lhs rhs).render
      (.expr (Expr.arith op lhs rhs).spelled) := by
  refine phrase_link (operand_group hl.phrase) (complete_arith op _ (operand_group hr.phrase)) ?_
  change "(" ++ lhs.render ++ (")" ++ " ") ++ op.token ++ (" " ++ "(") ++ rhs.render ++ ")" =
    "(" ++ lhs.render ++ ")" ++ (" " ++ op.token ++ " ") ++ ("(" ++ rhs.render ++ ")")
  simp only [String.append_assoc]

theorem like_readBack {x : Expr} {n : Nat} (h : x.ReadBack n) (pattern : String)
    (escape : Option Char) (positive : Bool) :
    (Condition.like x pattern escape positive).ReadBack (n + 1) := by
  cases escape with
  | none =>
      refine phrase_link h.operand (complete_like pattern positive _) ?_
      change _ ++ negation positive ++ " LIKE " ++ Text.quote pattern ++ "" =
        _ ++ (negation positive ++ " LIKE ") ++ Text.quote pattern
      simp only [String.append_assoc, String.append_empty]
  | some c =>
      refine phrase_link h.operand (complete_likeEscape pattern c positive _) ?_
      change _ ++ negation positive ++ " LIKE " ++ Text.quote pattern ++
          (" ESCAPE " ++ Text.quote (String.ofList [c])) =
        _ ++ (negation positive ++ " LIKE ") ++
          (Text.quote pattern ++ " ESCAPE " ++ Text.quote (String.ofList [c]))
      simp only [String.append_assoc]

theorem inList_readBack {x : Expr} {values : List Expr} {n : Nat} (h : x.ReadBack n)
    (hvalues : ∀ e ∈ values, e.ReadBack n) (hn : values.length ≤ n) (positive hierarchy : Bool) :
    (Condition.inList x values positive hierarchy).ReadBack (n + 1) := by
  refine phrase_link h.operand
    (complete_inList positive hierarchy _ (sequence_paren hvalues hn)) ?_
  change _ ++ negation positive ++ " IN " ++ (if hierarchy then "HIERARCHY " else "") ++ "(" ++
      commas (renderAll values) ++ ")" =
    _ ++ (negation positive ++ " IN " ++ (if hierarchy then "HIERARCHY " else "") ++ "(") ++
      (commas (renderAll values) ++ ")")
  simp only [String.append_assoc]

theorem between_readBack {x start stop : Expr} {n : Nat} (h : x.ReadBack n)
    (hstart : start.ReadBack n) (hstop : stop.ReadBack n) (positive : Bool) :
    (Condition.between x start stop positive).ReadBack (n + 1) := by
  refine phrase_link h.operand (complete_between positive _ hstart.operand hstop.operand) ?_
  change _ ++ negation positive ++ " BETWEEN " ++ _ ++ " AND " ++ _ =
    _ ++ (negation positive ++ " BETWEEN ") ++ (_ ++ " AND " ++ _)
  simp only [String.append_assoc]

theorem isNull_readBack {x : Expr} {n : Nat} (h : x.ReadBack n) (positive : Bool) :
    (Condition.isNull x positive).ReadBack (n + 1) :=
  phrase_link h.operand (complete_isNull positive _) String.append_empty.symm

/-- Two operands beside an infix word, with the blanks given to the word. -/
theorem append_spaced (lhs word rhs : String) :
    lhs ++ " " ++ word ++ " " ++ rhs = lhs ++ (" " ++ word ++ " ") ++ rhs := by
  simp only [String.append_assoc]

theorem logic_readBack {lhs rhs : Condition} {n : Nat} (hl : lhs.ReadBack n) (hr : rhs.ReadBack n)
    (op : Connective) : (Condition.logic lhs op rhs).ReadBack (n + 1) :=
  phrase_link hl.operand (complete_logic op _ hr.operand) (append_spaced _ op.keyword _)

theorem relation_readBack {lhs rhs : Expr} {n : Nat} (hl : lhs.ReadBack n) (hr : rhs.ReadBack n)
    (op : Relation) : (Condition.relation lhs op rhs).ReadBack (n + 1) :=
  phrase_link hl.operand (complete_relation op _ hr.operand) (append_spaced _ op.token _)

theorem refs_readBack {x : Expr} {table : String} {n : Nat} (h : x.ReadBack n)
    (htable : IsPath table) : (Condition.refs x table).ReadBack (n + 1) :=
  phrase_link h.operand (complete_refs _ htable.chars) rfl

theorem not_readBack {c : Condition} {n : Nat} (h : c.ReadBack n) :
    (Condition.not c).ReadBack (n + 1) :=
  phraseBody_operand (operand_not h)

mutual

theorem Expr.eventually_readBack (e : Expr) (h : e.Plain) : Eventually e.ReadBack := by
  match e with
  | .aggregate func x =>
      refine readBack_of_operand rfl ((x.eventually_readBack h).mono fun _ hx => ?_)
      exact operand_aggregate func hx.phrase
  | .arith op lhs rhs =>
      -- the one expression that is read as a phrase first, and as an operand only in parentheses
      have hphrase : Eventually fun n => Reads (phrase n) stops (Expr.arith op lhs rhs).render
          (.expr (Expr.arith op lhs rhs).spelled) :=
        ((lhs.eventually_readBack h.1).and (rhs.eventually_readBack h.2)).succ fun _ hn =>
          arith_readBack hn.1 hn.2
      exact hphrase.mono fun _ hn => ⟨operand_group hn, hn⟩
  | .case bs default =>
      refine readBack_of_operand rfl (((eventually_readBackBranches bs h.1).and
        ((default.eventually_readBack h.2).and (.length_le (bs.length + 1)))).mono fun _ hn => ?_)
      exact case_readBack hn.1 hn.2.2 hn.2.1
  | .cast x type =>
      refine readBack_of_operand rfl ((x.eventually_readBack h.1).mono fun _ hx => ?_)
      exact cast_readBack hx h.2
  | .count x distinct =>
      refine readBack_of_operand rfl ((x.eventually_readBack h).mono fun _ hx => ?_)
      exact count_readBack hx distinct
  | .countRows distinct =>
      cases (h : distinct = false)
      exact readBack_of_operand rfl (.always fun n => operand_countRows (phrase_star n))
  | .field table name =>
      obtain ⟨hname, rfl | ⟨hrow, htable⟩⟩ := h
      · exact readBack_of_operand rfl (.always (default_readBack hname))
      · refine readBack_of_operand rfl ((table.eventually_rowReadBack htable hrow).mono fun _ hn => ?_)
        exact field_readBack hrow hname hn
  | .call func args =>
      refine readBack_of_operand rfl (((eventually_readBackAll args h).and
        (.length_le args.length)).mono fun _ hn => ?_)
      exact operand_function func (sequence_paren hn.1 hn.2)
  | .literal l => exact readBack_of_operand rfl (.always fun _ => operand_literal l.form)
  | .negate x =>
      refine readBack_of_operand rfl ((x.eventually_readBack h.2).mono fun _ hx => ?_)
      exact negate_readBack h.1 hx
  | .param name => exact readBack_of_operand rfl (.always fun _ => operand_param (IsName.pathChar h))
  | .allColumns | .columnGroup _ _ | .defaultTable => exact False.elim h

theorem Expr.eventually_rowReadBack (e : Expr) (h : e.Plain) (hrow : e.isRow = true) :
    Eventually e.RowReadBack := by
  match e with
  | .field table name =>
      obtain ⟨hname, rfl | ⟨hrow, htable⟩⟩ := h
      · exact .always (default_rowReadBack hname)
      · exact (table.eventually_rowReadBack htable hrow).mono fun _ hn =>
          field_rowReadBack hrow hname hn
  | .cast x type =>
      exact (x.eventually_readBack h.1).mono fun _ hx => cast_rowReadBack hx h.2

theorem Condition.eventually_readBack (c : Condition) (h : c.Plain) : Eventually c.ReadBack := by
  match c with
  | .between x start stop positive =>
      exact ((x.eventually_readBack h.1).and ((start.eventually_readBack h.2.1).and
        (stop.eventually_readBack h.2.2))).succ fun _ hn =>
          between_readBack hn.1 hn.2.1 hn.2.2 positive
  | .inList x values positive hierarchy =>
      exact ((x.eventually_readBack h.1).and ((eventually_readBackAll values h.2).and
        (.length_le values.length))).succ fun _ hn =>
          inList_readBack hn.1 hn.2.1 hn.2.2 positive hierarchy
  | .isNull x positive =>
      exact (x.eventually_readBack h).succ fun _ hx => isNull_readBack hx positive
  | .like x pattern escape positive =>
      exact (x.eventually_readBack h).succ fun _ hx => like_readBack hx pattern escape positive
  | .logic lhs op rhs =>
      exact ((lhs.eventually_readBack h.1).and (rhs.eventually_readBack h.2)).succ fun _ hn =>
        logic_readBack hn.1 hn.2 op
  | .not x => exact (x.eventually_readBack h).succ fun _ hx => not_readBack hx
  | .refs x table => exact (x.eventually_readBack h.1).succ fun _ hx => refs_readBack hx h.2
  | .relation lhs op rhs =>
      exact ((lhs.eventually_readBack h.1).and (rhs.eventually_readBack h.2)).succ fun _ hn =>
        relation_readBack hn.1 hn.2 op

theorem eventually_readBackAll (es : List Expr) (h : PlainAll es) :
    Eventually fun n => ∀ e ∈ es, e.ReadBack n := by
  match es with
  | [] => exact .always fun _ => nofun
  | e :: rest =>
      refine ((e.eventually_readBack h.1).and (eventually_readBackAll rest h.2)).mono ?_
      rintro n ⟨he, hrest⟩ d hd
      rcases List.mem_cons.mp hd with rfl | hd
      · exact he
      · exact hrest d hd

theorem eventually_readBackBranches (bs : List (Condition × Expr)) (h : PlainBranches bs) :
    Eventually fun n => ∀ b ∈ bs, b.1.ReadBack n ∧ b.2.ReadBack n := by
  match bs with
  | [] => exact .always fun _ => nofun
  | (test, value) :: rest =>
      refine ((test.eventually_readBack h.1).and ((value.eventually_readBack h.2.1).and
        (eventually_readBackBranches rest h.2.2))).mono ?_
      rintro n ⟨htest, hvalue, hrest⟩ b hb
      rcases List.mem_cons.mp hb with rfl | hb
      · exact ⟨htest, hvalue⟩
      · exact hrest b hb

end

end Inquiry.Statement
