import Inquiry.Proofs.CharacterRuns
import Inquiry.Value.Convert
import Mathlib.Data.List.TakeWhile

/-!
# Dates survive their text

The text of a point in time has the second that a clock shows and drops what is below it.
Reading is more liberal than writing is, so what it makes of a written text has to be followed
field by field. Every number is written with leading zeros to a fixed width, and reading
takes no more digits than that width, so it stops where the number ends, and blanks it
would skip there are none. Only the year has no fixed width: before year 0 and after
year 9999 it has a sign, and then reading takes all digits that follow. The hyphen ends
them.

A leap second is written as second 60. Reading takes 60 for second 59 and a full second
more, which is how leap seconds are kept, so they stay apart from second 59. A full
second more after any other second is written as the next second, and then nothing tells
the two apart: reading takes it for the next second, and the point in time moves on.
-/

namespace Inquiry

open Number (tenTo twoTo)

/-! ## Whole seconds -/

namespace Calendar

theorem isTime_iff (hour minute second nanosecond : Nat) :
    isTime hour minute second nanosecond = true ↔
      hour < 24 ∧ minute < 60 ∧ second < 60 ∧ nanosecond < 2000000000 := by
  rw [isTime]
  simp only [Bool.and_eq_true, decide_eq_true_eq, and_assoc]
  exact Iff.rfl

theorem isShown_iff (second nanosecond : Nat) :
    isShown second nanosecond = true ↔ nanosecond < 1000000000 ∨ second = 59 := by
  rw [isShown]
  simp only [Bool.or_eq_true, decide_eq_true_eq, beq_iff_eq]
  exact Iff.rfl

end Calendar

open Calendar

/-- The beginning of the second. Further nanoseconds begin a second of their own. -/
def Time.toSecond (t : Time) : Time where
  hour := t.hour
  minute := t.minute
  second := t.second
  nanosecond := t.nanosecond - t.nanosecond % nanos
  valid := by
    have h := (isTime_iff _ _ _ _).mp t.valid
    exact (isTime_iff _ _ _ _).mpr ⟨h.1, h.2.1, h.2.2.1, by omega⟩

/-- The beginning of the second that a clock shows: this second or its leap second, if it
is the last one, and else the second that the nanoseconds run into. -/
def Time.shownSecond (t : Time) : Time :=
  if h : isShown t.second t.nanosecond = true then t.toSecond
  else
    ⟨t.hour, t.minute, t.second + 1, 0, by
      have hvalid := (isTime_iff _ _ _ _).mp t.valid
      have hlate := (not_congr (isShown_iff _ _)).mp h
      exact (isTime_iff _ _ _ _).mpr ⟨hvalid.1, hvalid.2.1, by omega, by decide⟩⟩

/-- A clock shows a second, or second 60 for a leap second. -/
theorem Time.shownSecond_parts (t : Time) :
    (t.shownSecond.hour = t.hour ∧ t.shownSecond.minute = t.minute) ∧
      (t.shownSecond.second = t.second + t.nanosecond / nanos ∧ t.shownSecond.nanosecond = 0 ∧
          t.shownSecond.second < 60 ∨
        t.shownSecond.second = 59 ∧ t.shownSecond.nanosecond = nanos ∧
          t.second + t.nanosecond / nanos = 60) := by
  obtain ⟨_, _, hsecond, hnano⟩ := (isTime_iff _ _ _ _).mp t.valid
  rw [nanos, Time.shownSecond]
  split
  · next h =>
      have hshown := (isShown_iff _ _).mp h
      have hwhole : t.toSecond.nanosecond = t.nanosecond - t.nanosecond % 1000000000 := rfl
      have hsame : t.toSecond.second = t.second := rfl
      refine ⟨⟨rfl, rfl⟩, ?_⟩
      omega
  · next h =>
      have hlate := (not_congr (isShown_iff _ _)).mp h
      refine ⟨⟨rfl, rfl⟩, .inl ⟨?_, rfl, ?_⟩⟩
      · show t.second + 1 = _
        omega
      · show t.second + 1 < 60
        omega

/-- The beginning of the second; a leap second is one of its own. -/
def DateTime.toSecond (t : DateTime) : DateTime := ⟨t.date, t.time.toSecond⟩

/-- The beginning of the second that a clock shows. -/
def DateTime.shownSecond (t : DateTime) : DateTime := ⟨t.date, t.time.shownSecond⟩

namespace Calendar

/-! ## Numbers with leading zeros -/

section Padded

variable {width n : Nat}

theorem isDigit_padded : ∀ c ∈ padded width n, c.isDigit = true := by
  intro c hc
  rcases List.mem_append.mp hc with hzero | hdigit
  · rw [List.eq_of_mem_replicate hzero]
    rfl
  · exact isDigit_toDigits hdigit

theorem padded_ne_nil : padded width n ≠ [] := by
  simp [padded]

theorem ofDigitChars_padded : Nat.ofDigitChars 10 (padded width n) 0 = n := by
  rw [padded, Nat.ofDigitChars_append, Nat.ofDigitChars_replicate_zero, Nat.mul_zero,
    Nat.ofDigitChars_ten_toDigits]

theorem length_padded (hwidth : 0 < width) (h : n < tenTo width) :
    (padded width n).length = width := by
  have hdigits : (Nat.toDigits 10 n).length ≤ width :=
    (Nat.length_toDigits_le_iff (by decide) hwidth).mpr h
  rw [padded, List.length_append, List.length_replicate]
  omega

theorem head?_padded (rest : List Char) :
    ∀ c ∈ (padded width n ++ rest).head?, c.isDigit = true := by
  intro c hc
  rw [List.head?_append, List.head?_eq_some_head padded_ne_nil] at hc
  cases hc
  exact isDigit_padded _ (List.head_mem padded_ne_nil)

theorem trimStart_of_head? {cs : List Char} (h : ∀ c ∈ cs.head?, Text.isBlank c = false) :
    Text.trimStart cs = cs :=
  Text.dropWhile_run (w := []) nofun h

theorem trimStart_padded (rest : List Char) :
    Text.trimStart (padded width n ++ rest) = padded width n ++ rest :=
  trimStart_of_head? fun c hc => Text.isBlank_of_isDigit (head?_padded rest c hc)

theorem readNumber_padded (hn : n < twoTo 63) (rest : List Char) :
    readNumber (padded width n) (padded width n ++ rest) = .ok (n, rest) := by
  have hcs : (padded width n ++ rest).isEmpty = false := by
    simp [padded_ne_nil]
  have hdigits : (padded width n).isEmpty = false := by
    simp [padded_ne_nil]
  rw [readNumber, hcs, hdigits, ofDigitChars_padded]
  simp [hn]

/-- A number of a fixed width is read back, whatever follows. -/
theorem readShort_padded (hwidth : 0 < width) (h : n < tenTo width) (hn : n < twoTo 63)
    (rest : List Char) : readShort width (padded width n ++ rest) = .ok (n, rest) := by
  have hlength := length_padded hwidth h
  have hrun : (padded width n).takeWhile Char.isDigit = padded width n :=
    List.takeWhile_eq_self_iff.mpr isDigit_padded
  have hdigits : ((padded width n ++ rest).take width).takeWhile Char.isDigit = padded width n := by
    rw [List.take_append_of_le_length (by omega), List.take_of_length_le (by omega), hrun]
  rw [readShort, hdigits, readNumber_padded hn]

/-- A number of any width is read back, if no digit follows. -/
theorem readLong_padded (hn : n < twoTo 63) {rest : List Char}
    (hrest : ∀ c ∈ rest.head?, c.isDigit = false) :
    readLong (padded width n ++ rest) = .ok (n, rest) := by
  rw [readLong, Text.takeWhile_run isDigit_padded hrest, readNumber_padded hn]

theorem readField_padded {least most : Nat} (hleast : least ≤ n) (hmost : n ≤ most)
    (h : most < 100) (rest : List Char) :
    readField least most (padded 2 n ++ rest) = .ok (n, rest) := by
  have hwidth : n < tenTo 2 := Nat.lt_of_le_of_lt hmost h
  have hword : n < twoTo 63 := Nat.lt_trans hwidth (by decide)
  rw [readField, trimStart_padded, readShort_padded (by decide) hwidth hword]
  show (if least ≤ n && n ≤ most then _ else _) = _
  simp [hleast, hmost]

end Padded

/-! ## Days and times of day -/

theorem date_bounds (d : Date) :
    (-262143 ≤ d.year ∧ d.year ≤ 262142) ∧ (1 ≤ d.month ∧ d.month ≤ 12) ∧
      1 ≤ d.day ∧ d.day ≤ 31 := by
  have h := d.valid
  simp only [isDate, Bool.and_eq_true, decide_eq_true_eq] at h
  have hlength : monthLength d.year d.month ≤ 31 := by
    rw [monthLength]
    repeat' split
    all_goals decide
  omega

theorem readSignedYear_unsigned {n : Nat} (hn : n < 10000) (rest : List Char) :
    readSignedYear (padded 4 n ++ rest) = .ok ((n : Int), rest) := by
  have hshort : readShort 4 (padded 4 n ++ rest) = .ok (n, rest) :=
    readShort_padded (by decide) hn (Nat.lt_trans hn (by decide)) rest
  have hhead : ∀ c ∈ (padded 4 n ++ rest).head?, c.isDigit = true := head?_padded rest
  rw [readSignedYear.eq_def]
  split
  · next heq =>
      rw [heq] at hhead
      exact absurd (hhead '-' rfl) (by decide)
  · next heq =>
      rw [heq] at hhead
      exact absurd (hhead '+' rfl) (by decide)
  · rw [hshort]
    rfl

/-- A year is read back, if no digit follows. -/
theorem readYear_yearText {year : Int} (hyear : -262143 ≤ year ∧ year ≤ 262142) {rest : List Char}
    (hrest : ∀ c ∈ rest.head?, c.isDigit = false) :
    readYear (yearText year ++ rest) = .ok (year, rest) := by
  have hword : year.natAbs < twoTo 63 := Nat.lt_of_le_of_lt (by omega : _ ≤ 262143) (by decide)
  have hsigned : readSignedYear (Text.trimStart (yearText year ++ rest)) = .ok (year, rest) := by
    rw [yearText]
    split
    · next h =>
        simp only [Bool.and_eq_true, decide_eq_true_eq] at h
        rw [trimStart_padded, readSignedYear_unsigned (by omega)]
        simp only [Int.natAbs_of_nonneg h.1]
    · split
      · have hvalue : -(year.natAbs : Int) = year := by omega
        rw [List.cons_append, trimStart_of_head? (by simp [Text.isBlank]), readSignedYear,
          readLong_padded hword hrest]
        show Except.ok (-(year.natAbs : Int), rest) = _
        rw [hvalue]
      · have hvalue : (year.natAbs : Int) = year := by omega
        rw [List.cons_append, trimStart_of_head? (by simp [Text.isBlank]), readSignedYear,
          readLong_padded hword hrest]
        show Except.ok ((year.natAbs : Int), rest) = _
        rw [hvalue]
  have htwo : (twoTo 31 : Int) = 2147483648 := by decide
  rw [readYear, hsigned]
  show (if -(twoTo 31 : Int) ≤ year && year < twoTo 31 then _ else _) = _
  rw [htwo, if_pos]
  simp
  omega

theorem readDay_dateText (d : Date) (rest : List Char) :
    readDay (dateText d ++ rest) = .ok ((d.year, d.month, d.day), rest) := by
  obtain ⟨hyear, hmonth, hday⟩ := date_bounds d
  rw [readDay, dateText, List.append_assoc, List.cons_append, List.append_assoc, List.cons_append,
    readYear_yearText hyear (by simp)]
  simp only [bind, Except.bind, readMark, if_true]
  rw [readField_padded hmonth.1 hmonth.2 (by decide)]
  simp only [if_true]
  rw [readField_padded hday.1 hday.2 (by decide)]

theorem readClock_timeText (t : Time) (rest : List Char) :
    readClock (timeText t ++ rest) =
      .ok ((t.hour, t.minute, t.second + t.nanosecond / nanos), rest) := by
  obtain ⟨hhour, hminute, hsecond, hnano⟩ := (isTime_iff _ _ _ _).mp t.valid
  have hsixty : t.second + t.nanosecond / nanos ≤ 60 := by
    rw [nanos]
    omega
  rw [readClock, timeText, List.append_assoc, List.cons_append, List.append_assoc,
    List.cons_append, readField_padded (Nat.zero_le _) (by omega) (by decide)]
  simp only [bind, Except.bind, readMark, if_true]
  rw [readField_padded (Nat.zero_le _) (by omega) (by decide)]
  simp only [if_true]
  rw [readField_padded (Nat.zero_le _) hsixty (by decide)]

theorem dayOf_parts (d : Date) : dayOf (d.year, d.month, d.day) = .ok d := by
  rw [dayOf, Date.ofParts?, dif_pos d.valid]

/-- A time that a clock shows is made from its parts. -/
theorem ofParts?_of_isShown {t : Time} (h : isShown t.second t.nanosecond = true) :
    Time.ofParts? t.hour t.minute t.second t.nanosecond = some t := by
  rw [Time.ofParts?, dif_pos t.valid, if_pos h]

theorem clockOf_parts (t : Time) :
    clockOf (t.hour, t.minute, t.second + t.nanosecond / nanos) = .ok t.shownSecond := by
  obtain ⟨⟨hhour, hminute⟩, hsecond⟩ := t.shownSecond_parts
  rw [← hhour, ← hminute, clockOf]
  rcases hsecond with ⟨hsecond, hnano, hlt⟩ | ⟨hsecond, hnano, hsixty⟩
  · have hshown : isShown t.shownSecond.second t.shownSecond.nanosecond = true :=
      (isShown_iff _ _).mpr (.inl (by omega))
    have hparts := ofParts?_of_isShown hshown
    have hleap : (t.shownSecond.second == 60) = false := by simp; omega
    rw [hnano] at hparts
    simp only [← hsecond, hleap, Bool.false_eq_true, if_false, hparts]
  · -- the second is the 59th, and the nanoseconds make one more
    have hshown : isShown t.shownSecond.second t.shownSecond.nanosecond = true :=
      (isShown_iff _ _).mpr (.inr hsecond)
    have hparts := ofParts?_of_isShown hshown
    rw [hsecond, hnano] at hparts
    simp only [hsixty, beq_self_eq_true, if_true, hparts]

example : clockOf (23, 59, 60) = .ok ⟨23, 59, 59, 1000000000, by decide⟩ := rfl

/-! ## Points in time -/

theorem toList_text (t : DateTime) :
    t.text.toList = dateText t.date ++ 'T' :: timeText t.time := by
  rw [DateTime.text, String.toList_ofList]

/-- Reading the text of a point in time gives the beginning of the second that is shown. -/
theorem readMoment_text (t : DateTime) : readMoment t.text.toList = .ok t.shownSecond := by
  have hclock := readClock_timeText t.time []
  rw [List.append_nil] at hclock
  rw [toList_text, readMoment, readDay_dateText]
  simp only [bind, Except.bind, readMark, if_true]
  rw [hclock]
  simp only [readEnd, dayOf_parts, clockOf_parts]
  rfl

/-- The text of a point in time is not that of a day: it goes on after the day. -/
theorem readDate_text (t : DateTime) : readDate t.text.toList = .error .tooLong := by
  rw [toList_text, readDate, readDay_dateText]
  rfl

/-- The text is that of the beginning of the second that is shown. -/
theorem text_shownSecond (t : DateTime) : t.shownSecond.text = t.text := by
  obtain ⟨⟨hhour, hminute⟩, hparts⟩ := t.time.shownSecond_parts
  have hsecond : t.time.shownSecond.second + t.time.shownSecond.nanosecond / nanos =
      t.time.second + t.time.nanosecond / nanos := by
    rw [nanos] at hparts ⊢
    omega
  rw [DateTime.text, DateTime.text, timeText, timeText]
  simp only [DateTime.shownSecond, hhour, hminute, hsecond]

/-- Points in time have the same text if they are shown as the same second. -/
theorem text_eq_iff (s t : DateTime) : s.text = t.text ↔ s.shownSecond = t.shownSecond := by
  constructor
  · intro h
    have hs := readMoment_text s
    rw [h, readMoment_text t] at hs
    exact (Except.ok.inj hs).symm
  · intro h
    rw [← text_shownSecond s, ← text_shownSecond t, h]

end Calendar

namespace Value

/-- A point in time has a text. It is read as a whole point in time, never as a day, and
it converts back to the beginning of the second that a clock shows, whatever the year.
That is its own second without what is below it, where leap seconds are seconds of their
own; only from further nanoseconds after another second than the last one it moves on.
Two points in time have one text exactly if they are shown as one second. -/
theorem dateTime_text_converts_back (t : DateTime) :
    ∃ s, (dateTime t).convert .string = .ok (.string s) ∧
      (string s).convert .dateTime = .ok (.dateTime t.shownSecond) ∧
      readMoment s.toList = .ok t.shownSecond ∧ readDate s.toList = .error .tooLong ∧
      ∀ u, (dateTime u).convert .string = .ok (.string s) ↔ u.shownSecond = t.shownSecond := by
  refine ⟨t.text, rfl, ?_, readMoment_text t, readDate_text t, fun u => ?_⟩
  · show ((DateTime.read t.text.toList).mapError _).map dateTime = _
    rw [DateTime.read, readMoment_text]
    rfl
  · rw [← text_eq_iff]
    show Except.ok (string u.text) = Except.ok (string t.text) ↔ _
    simp

/-- Half a second more than the whole of second 7, which is kept as second 7. -/
def lateSecond : DateTime :=
  ⟨⟨2024, 3, 9, by decide⟩, ⟨14, 5, 7, 1500000000, by decide⟩⟩

/-- The second after that. -/
def nextSecond : DateTime := ⟨⟨2024, 3, 9, by decide⟩, ⟨14, 5, 8, 0, by decide⟩⟩

/-- What is kept as second 7 is read back as second 8, which has the same text. -/
theorem lateSecond_reads_as_next :
    (dateTime lateSecond).convert .string = .ok (.string "2024-03-09T14:05:08") ∧
      (dateTime nextSecond).convert .string = .ok (.string "2024-03-09T14:05:08") ∧
      (string "2024-03-09T14:05:08").convert .dateTime = .ok (.dateTime nextSecond) ∧
      nextSecond ≠ lateSecond.toSecond ∧ nextSecond.time.second ≠ lateSecond.time.second :=
  ⟨rfl, rfl, rfl, by decide, by decide⟩

end Value

end Inquiry
