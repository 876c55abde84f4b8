import Inquiry.Proofs.CharacterRuns
import Inquiry.Proofs.QueryText
import Inquiry.Proofs.WellFormed

/-!
# References in a text

The server that runs a query looks for the parameters in its text: it skips
strings, and takes the letters, digits and underscores behind an `&` for the
name of a parameter. `references` is that scan.

A string constant is skipped as a whole, whatever is in it, because its quotes
are doubled. A reference ends where its name ends, because what follows it is
always a blank, a comma, a point, a parenthesis or nothing. `Spells` says that
a text, scanned outside strings, spells certain references, provided that what
comes after does not continue the last name; `Seals` says the same without the
proviso. The rules for the two put texts together, and an induction over
statements only has to name the rules.
-/

namespace Inquiry.Statement

/-! ## The scan -/

/-- The characters of names: letters, digits and underscores. Which characters
beyond ASCII are letters or digits is left open. -/
structure WordChars where
  test : Char → Bool
  ascii : ∀ c : Char, c.toNat < 0x80 → test c = (c.isAlphanum || c == '_')

/-- The references in a text. The flag says whether the scan is inside a string.
No character of a name is a quote or an `&`, so the scan goes on right behind
the `&` of a reference. -/
def references (w : WordChars) : Bool → List Char → List String
  | _, [] => []
  | inside, c :: cs =>
      if c = '"' then references w (!inside) cs
      else if c = '&' && !inside then
        String.ofList (cs.takeWhile w.test) :: references w inside cs
      else references w inside cs

/-- The text has neither a quote nor an `&`. -/
def Clean (text : String) : Prop := '"' ∉ text.toList ∧ '&' ∉ text.toList

instance (text : String) : Decidable (Clean text) := inferInstanceAs (Decidable (_ ∧ _))

/-- Whether the character is one that no name contains. -/
def isBreak (c : Char) : Bool := decide (c.toNat < 0x80) && !(c.isAlphanum || c == '_')

/-- A text that ends a name before it. -/
def Separator (text : String) : Prop :=
  text.toList.head?.any isBreak = true ∧ Clean text

instance (text : String) : Decidable (Separator text) := inferInstanceAs (Decidable (_ ∧ _))

section

variable {w : WordChars}

theorem WordChars.test_break {c : Char} (h : isBreak c = true) : w.test c = false := by
  rw [isBreak, Bool.and_eq_true, decide_eq_true_eq, Bool.not_eq_true'] at h
  rw [w.ascii c h.1, h.2]

theorem WordChars.test_digit {c : Char} (h : c.isDigit = true) : w.test c = true := by
  have hrange : c.toNat < 0x80 := by
    have hdigit : 48 ≤ c.toNat ∧ c.toNat ≤ 57 := Char.isDigit_iff_toNat.mp h
    omega
  rw [w.ascii c hrange, Char.isAlphanum, h, Bool.or_true, Bool.true_or]

/-- The text behind a reference does not continue its name. -/
def Ends (w : WordChars) (rest : List Char) : Prop := ∀ c, rest.head? = some c → w.test c = false

theorem Ends.separator {sep : String} (h : Separator sep) (rest : List Char) :
    Ends w (sep.toList ++ rest) := by
  obtain ⟨hbreak, _⟩ := h
  cases hsep : sep.toList with
  | nil => rw [hsep] at hbreak; cases hbreak
  | cons c cs =>
      rw [hsep] at hbreak
      intro d hd
      cases hd
      exact WordChars.test_break hbreak

theorem references_clean {cs : List Char} (hquote : '"' ∉ cs) (hamp : '&' ∉ cs) (inside : Bool)
    (rest : List Char) : references w inside (cs ++ rest) = references w inside rest := by
  induction cs with
  | nil => rfl
  | cons c cs ih =>
      rw [List.mem_cons, not_or] at hquote hamp
      rw [List.cons_append, references, if_neg (Ne.symm hquote.1), if_neg, ih hquote.2 hamp.2]
      simp [Ne.symm hamp.1]

/-- A doubled quote leaves the string and enters it again; the first quote that is
not doubled ends it. -/
theorem references_doubleQuotes (s rest : List Char) :
    references w true (Text.doubleQuotes s ++ '"' :: rest) = references w false rest := by
  induction s with
  | nil => rw [Text.doubleQuotes, List.nil_append, references, if_pos rfl]; rfl
  | cons c s ih =>
      rw [Text.doubleQuotes]
      split
      · rw [List.cons_append, List.cons_append, references, if_pos rfl, references, if_pos rfl]
        exact ih
      · next hc => rw [List.cons_append, references, if_neg hc, if_neg (by simp), ih]

theorem references_quote (s : String) (rest : List Char) :
    references w false ((Text.quote s).toList ++ rest) = references w false rest := by
  rw [quote_append, references, if_pos rfl]
  exact references_doubleQuotes s.toList rest

/-- The name is made of characters of names. -/
def IsRun (w : WordChars) (name : String) : Prop := ∀ c ∈ name.toList, w.test c = true

instance (name : String) : Decidable (IsRun w name) :=
  decidable_of_iff (name.toList.all w.test = true) List.all_eq_true

theorem IsRun.clean {name : String} (h : IsRun w name) : Clean name := by
  constructor <;> intro hmem
  · exact absurd (h _ hmem) (by rw [WordChars.test_break (by decide)]; decide)
  · exact absurd (h _ hmem) (by rw [WordChars.test_break (by decide)]; decide)

theorem references_name {name : String} (h : IsRun w name) {rest : List Char}
    (hrest : Ends w rest) :
    references w false (("&" ++ name).toList ++ rest) = name :: references w false rest := by
  rw [String.toList_append, List.append_assoc]
  change references w false ('&' :: (name.toList ++ rest)) = _
  -- the scan goes over the name once more, and finds nothing in it
  rw [references, if_neg (by decide), if_pos (by decide), Text.takeWhile_run h hrest,
    references_clean h.clean.1 h.clean.2, String.ofList_toList]

/-- All parameters have names that are scanned as a whole. -/
def Runs (w : WordChars) (ns : List Name) : Prop := ∀ n ∈ ns, IsRun w n.text

theorem runs_append {ms ns : List Name} : Runs w (ms ++ ns) ↔ Runs w ms ∧ Runs w ns :=
  List.forall_mem_append

/-! ## Putting texts together -/

/-- The text spells the names, whatever follows. -/
def Seals (w : WordChars) (text : String) (names : List String) : Prop :=
  ∀ rest, references w false (text.toList ++ rest) = names ++ references w false rest

/-- The text spells the names if its end is the end of the last one. -/
def Spells (w : WordChars) (text : String) (names : List String) : Prop :=
  ∀ rest, Ends w rest →
    references w false (text.toList ++ rest) = names ++ references w false rest

theorem Seals.clean {t : String} (h : Clean t) : Seals w t [] :=
  fun rest => references_clean h.1 h.2 false rest

theorem Seals.quote (s : String) : Seals w (Text.quote s) [] := references_quote s

theorem Seals.spells {t : String} {names : List String} (h : Seals w t names) :
    Spells w t names :=
  fun rest _ => h rest

theorem Spells.clean {t : String} (h : Clean t) : Spells w t [] := (Seals.clean h).spells

theorem Spells.reference {name : String} (h : IsRun w name) : Spells w ("&" ++ name) [name] :=
  fun _ hrest => references_name h hrest

section

variable {t u : String} {names others : List String}

theorem Seals.append (h : Seals w t names) (hmore : Seals w u others) :
    Seals w (t ++ u) (names ++ others) := by
  intro rest
  rw [String.toList_append, List.append_assoc, h, hmore, List.append_assoc]

theorem Seals.followed (h : Seals w t names) (hmore : Spells w u others) :
    Spells w (t ++ u) (names ++ others) := by
  intro rest hrest
  rw [String.toList_append, List.append_assoc, h, hmore rest hrest, List.append_assoc]

theorem Spells.sealed (h : Spells w t names) (hmore : Separator u) :
    Seals w (t ++ u) names := by
  intro rest
  rw [String.toList_append, List.append_assoc, h _ (.separator hmore rest),
    references_clean hmore.2.1 hmore.2.2]

theorem Seals.fixed (h : Seals w t names) (hmore : Clean u) : Seals w (t ++ u) names := by
  have happend := h.append (Seals.clean hmore)
  rwa [List.append_nil] at happend

/-- Fixed text in front changes nothing. -/
theorem Spells.after (h : Spells w t names) (hmore : Clean u) : Spells w (u ++ t) names :=
  (Seals.clean hmore).followed h

theorem Spells.empty (h : Spells w t names) : Spells w (t ++ "") names := by
  rwa [String.append_empty]

theorem Spells.negation (h : Spells w t names) (positive : Bool) :
    Spells w (t ++ negation positive) names := by
  cases positive with
  | true => exact h.empty
  | false => exact (h.sealed (by decide)).spells

theorem Spells.grouped (h : Spells w t names) (needed : Bool) :
    Spells w (grouped needed t) names := by
  cases needed with
  | true => exact ((h.after (by decide)).sealed (u := ")") (by decide)).spells
  | false => exact h

theorem Spells.clause {α : Type} {word : String} {x : Option α} {render : α → String}
    {others : α → List String} (h : Spells w t names) (hword : Separator word)
    (hx : ∀ a, x = some a → Spells w (render a) (others a)) :
    Spells w (t ++ clause word (x.map render)) (names ++ (x.map others).getD []) := by
  cases x with
  | none =>
      rw [Option.map_none, Option.map_none, Option.getD_none, List.append_nil]
      exact h.empty
  | some a =>
      rw [Option.map_some, Statement.clause, ← String.append_assoc]
      exact (h.sealed hword).followed (hx a rfl)

end

theorem Spells.commas {α : Type} {items : List α} {text : α → String} {names : α → List String}
    (h : ∀ a ∈ items, Spells w (text a) (names a)) :
    Spells w (commas (items.map text)) (items.flatMap names) := by
  induction items with
  | nil => exact Spells.clean (t := "") (by decide)
  | cons a rest ih =>
      have ha := h a List.mem_cons_self
      have hrest := ih fun b hb => h b (List.mem_cons_of_mem a hb)
      cases rest with
      | nil => simpa [Statement.commas] using ha
      | cons b rest =>
          have hlink := (ha.sealed (u := ", ") (by decide)).followed hrest
          rw [List.map_cons, List.map_cons, Statement.commas, String.intercalate_cons_cons]
          exact hlink

theorem Spells.references_eq {t : String} {names : List String} (h : Spells w t names) :
    references w false t.toList = names := by
  have hend := h [] nofun
  rwa [List.append_nil, references, List.append_nil] at hend

end

/-! ## Clean texts -/

theorem Clean.append {t u : String} (ht : Clean t) (hu : Clean u) : Clean (t ++ u) := by
  rw [Clean, String.toList_append]
  exact ⟨fun h => (List.mem_append.mp h).elim ht.1 hu.1,
    fun h => (List.mem_append.mp h).elim ht.2 hu.2⟩

theorem clean_numeral {cs : List Char} (h : IsNumeral cs) : Clean (String.ofList cs) := by
  rw [Clean, String.toList_ofList]
  constructor <;> intro hmem
  · rcases h.2 _ hmem with hdigit | hpoint
    · exact absurd hdigit (by decide)
    · exact absurd hpoint (by decide)
  · rcases h.2 _ hmem with hdigit | hpoint
    · exact absurd hdigit (by decide)
    · exact absurd hpoint (by decide)

theorem clean_signed {cs : List Char} (h : IsNumeral cs) (negative : Bool) :
    Clean (if negative then "-" ++ String.ofList cs else String.ofList cs) := by
  cases negative with
  | true => exact Clean.append (by decide) (clean_numeral h)
  | false => exact clean_numeral h

theorem clean_nat (n : Nat) : Clean (toString n) := by
  rw [Nat.toString_eq_repr, Nat.repr_eq_ofList_toDigits]
  exact clean_numeral (toDigits_isNumeral n)

theorem clean_int (i : Int) : Clean (toString i) := by
  rw [Int.toString_eq_repr, Int.repr_eq_if]
  split
  · exact clean_nat _
  · exact Clean.append (by decide) (clean_nat _)

theorem clean_single {x : Single} (h : x.isFinite = true) : Clean x.text := by
  rw [Single.isFinite] at h
  rw [Single.text]
  split at h
  · next negative _ _ hx =>
      rw [hx]
      exact clean_signed (Binary.Shortest.positional_isNumeral _) negative
  · cases h

theorem clean_double {x : Double} (h : x.isFinite = true) : Clean x.text := by
  rw [Double.isFinite] at h
  rw [Double.text]
  split at h
  · next negative _ _ hx =>
      rw [hx]
      exact clean_signed (Binary.Shortest.positional_isNumeral _) negative
  · cases h

theorem CastType.clean_render {type : CastType} (h : type.Named Clean) : Clean type.render := by
  cases type with
  | boolean | date | number | string => exact (by decide)
  | numberOf n | stringOf n => exact (Clean.append (by decide) (clean_nat n)).append (by decide)
  | numberWith n q =>
      exact (((Clean.append (by decide) (clean_nat n)).append (by decide)).append
        (clean_nat q)).append (by decide)
  | table name => exact h

/-- A literal is clean unless it is a quoted string. -/
theorem clean_written {v : Value} {text : String} (h : v.literalText? = some text)
    (hstring : ∀ s, v ≠ .string s) (hchar : ∀ c, v ≠ .char c) : Clean text := by
  cases v with
  | string s => exact absurd rfl (hstring s)
  | char c => exact absurd rfl (hchar c)
  | null => cases h; decide
  | bool b => cases b <;> cases h <;> decide
  | int16 i | int32 i | int64 i => cases h; exact clean_int i.toInt
  | uint8 n => cases h; exact clean_nat n.toNat
  | decimal d =>
      cases h
      exact clean_signed (Decimal.digits_isNumeral _ _) d.normalize.negative
  | single x =>
      rw [Value.literalText?] at h
      split at h
      · next hx => cases h; exact clean_single hx
      · cases h
  | double x =>
      rw [Value.literalText?] at h
      split at h
      · next hx => cases h; exact clean_double hx
      · cases h
  | dateTime t =>
      cases h
      have hsep : Clean ", " := by decide
      have hdate := (((Clean.append (t := "DATETIME(") (by decide) (clean_int t.date.year)).append
        hsep).append (clean_nat t.date.month)).append hsep |>.append (clean_nat t.date.day)
      have htime := (((hdate.append hsep).append (clean_nat t.time.hour)).append hsep).append
        (clean_nat t.time.minute)
      exact ((htime.append hsep).append (clean_nat t.time.second)).append (by decide)
  | list _ | record _ => cases h

section

variable {w : WordChars}

/-- A literal spells no reference: it is a quoted string, or it is clean. -/
theorem seals_written {v : Value} {text : String} (h : v.literalText? = some text) :
    Seals w text [] := by
  cases v with
  | string s => cases h; exact Seals.quote s
  | char c => cases h; exact Seals.quote _
  | _ => exact Seals.clean (clean_written h nofun nofun)

theorem Literal.seals (l : Literal) : Seals w l.text [] := by
  cases l with
  | constant v text written => exact seals_written written
  | period kind => cases kind <;> exact Seals.clean (by decide)

end

end Inquiry.Statement

namespace Inquiry.Compiler

/-- The letters and digits of ASCII. -/
def asciiWords : Statement.WordChars := ⟨fun c => c.isAlphanum || c == '_', fun _ _ => rfl⟩

end Inquiry.Compiler
