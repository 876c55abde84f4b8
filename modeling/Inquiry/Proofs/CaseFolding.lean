import Inquiry.Text.Case

/-!
# Lower case is final

The lower-case form of a letter has no lower-case form of its own, so a text in
lower case stays as it is. For ASCII this is seen by trying all characters. For
the rest it is a property of the table: no run of letters is moved into another
run, nor into itself. Runs whose images overlap another run do so with letters
in every second place only, and there the image takes the other places; all
others are moved away as a whole. `CaseRun.misses` tests this for two runs by
their ends, without looking at the letters between them.
-/

namespace Inquiry.Text

namespace CaseRun

/-- The lower-case form of the first letter. -/
def below (r : CaseRun) : Nat := Int.toNat (r.first + r.offset)

/-- The lower-case form of the last letter. -/
def above (r : CaseRun) : Nat := Int.toNat (r.last + r.offset)

/-- A test that no letter of the first run has a letter of the second one as its
lower-case form. -/
def misses (r q : CaseRun) : Bool :=
  r.above.blt q.first || (q.last.blt r.below ||
    (q.step.beq 2 && ((r.step.beq 2 || r.first.beq r.last) &&
      (Nat.blt 0 r.below && ((r.below + q.first) % 2).beq 1))))

theorem holds_iff {r : CaseRun} {n : Nat} :
    r.holds n = true ↔ r.first ≤ n ∧ n ≤ r.last ∧ (n - r.first) % r.step = 0 := by
  simp [holds, and_assoc]

theorem misses_sound {r q : CaseRun} (h : r.misses q = true) {n : Nat} (hn : r.holds n = true) :
    q.holds (Int.toNat (n + r.offset)) = false := by
  rw [Bool.eq_false_iff, ne_eq, holds_iff]
  rintro ⟨hfirst, hlast, hstep⟩
  obtain ⟨hlow, hhigh, hplace⟩ := holds_iff.mp hn
  simp only [misses, below, above, Bool.or_eq_true, Bool.and_eq_true, Nat.blt_eq, Nat.beq_eq] at h
  rcases h with h | h | ⟨htwo, h, hpos, hodd⟩
  · omega
  · omega
  · -- the forms are an even number of places apart, and the first of them is an odd number
    -- of places away from the letters of the other run
    rw [htwo] at hstep
    rcases h with h | h
    · rw [h] at hplace
      omega
    · omega

end CaseRun

theorem ascii_forall {P : Char → Prop} (h : ∀ n < 0x80, P (Char.ofNat n)) {c : Char}
    (hc : c.toNat < 0x80) : P c := by
  have hchar := h c.toNat hc
  rwa [Char.ofNat_toNat] at hchar

/-- All upper-case letters, in runs. -/
def upperRuns : List CaseRun := ⟨0x41, 0x5A, 1, 32⟩ :: ⟨0x130, 0x130, 1, 0⟩ :: caseRuns

/-- A character that is in no run is its own lower-case form. -/
theorem lower_of_not_holds {c : Char} (h : ∀ q ∈ upperRuns, q.holds c.toNat = false) :
    lower c = [c] := by
  rw [lower]
  split
  · next hascii =>
      have hlower := ascii_forall (P := fun c => CaseRun.holds ⟨0x41, 0x5A, 1, 32⟩ c.toNat = false →
        c.toLower = c) (by decide) hascii
      rw [hlower (h _ List.mem_cons_self)]
  · split
    · next heq =>
        have hdotted := h ⟨0x130, 0x130, 1, 0⟩ (List.mem_cons_of_mem _ List.mem_cons_self)
        rw [heq] at hdotted
        cases hdotted
    · split
      · next r hfind =>
          have hmem : r ∈ upperRuns :=
            List.mem_cons_of_mem _ (List.mem_cons_of_mem _ (List.mem_of_find?_eq_some hfind))
          have hholds := List.find?_some hfind
          rw [h r hmem] at hholds
          cases hholds
      · rfl

theorem caseRuns_miss : caseRuns.all (fun r => upperRuns.all r.misses) = true := by
  decide +kernel

/-- The lower-case form of a letter of a run. -/
theorem lower_image {r : CaseRun} (hr : r ∈ caseRuns) {n : Nat} (hn : r.holds n = true) :
    lower (Char.ofNat (Int.toNat (n + r.offset))) = [Char.ofNat (Int.toNat (n + r.offset))] := by
  by_cases hvalid : (Int.toNat (n + r.offset)).isValidChar
  · have hnat : (Char.ofNat (Int.toNat (n + r.offset))).toNat = Int.toNat (n + r.offset) := by
      rw [Char.ofNat, dif_pos hvalid]
      rfl
    refine lower_of_not_holds fun q hq => ?_
    rw [hnat]
    have hmisses := List.all_eq_true.mp (List.all_eq_true.mp caseRuns_miss r hr) q hq
    exact CaseRun.misses_sound hmisses hn
  · -- no code point outside the valid ones is a letter
    have hzero : Char.ofNat (Int.toNat (n + r.offset)) = Char.ofNat 0 := by
      rw [Char.ofNat, dif_neg hvalid]
      rfl
    rw [hzero]
    rfl

theorem lower_lower {c x : Char} (h : x ∈ lower c) : lower x = [x] := by
  rw [lower] at h
  split at h
  · next hascii =>
      rw [List.mem_singleton.mp h]
      exact ascii_forall (P := fun c => lower c.toLower = [c.toLower]) (by decide) hascii
  · split at h
    · rcases List.mem_cons.mp h with rfl | h
      · decide
      · rw [List.mem_singleton.mp h]
        decide
    · split at h
      · next r hfind =>
          have hholds := List.find?_some (p := fun q => CaseRun.holds q c.toNat) hfind
          rw [List.mem_singleton.mp h]
          exact lower_image (List.mem_of_find?_eq_some hfind) hholds
      · next hfind =>
          rw [List.mem_singleton.mp h, lower, if_neg ‹_›, if_neg ‹_›, hfind]

/-- A text in lower case is in lower case. -/
theorem lowerAll_lowerAll (s : String) : lowerAll (String.ofList (lowerAll s)) = lowerAll s := by
  rw [lowerAll, String.toList_ofList]
  have hall : ∀ x ∈ lowerAll s, lower x = [x] := by
    intro x hx
    obtain ⟨c, _, hc⟩ := List.mem_flatMap.mp hx
    exact lower_lower hc
  generalize lowerAll s = cs at hall
  induction cs with
  | nil => rfl
  | cons c rest ih =>
      rw [List.flatMap_cons, hall c List.mem_cons_self,
        ih fun x hx => hall x (List.mem_cons_of_mem c hx)]
      rfl

end Inquiry.Text
