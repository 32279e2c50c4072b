import Chronometry.DateText.Basic
import Chronometry.Proofs.Civil.Timeline
import Chronometry.Proofs.Text.WrittenDigits

/-!
# Written instants

An instant is written as a date, a time of day and a `Z`.  Each part is written so that its reader
stops where the next part begins, whatever that part contains; reading the parts one after another
therefore gives back the instant.  Years before the year zero have six digits behind their sign and
all others have four, which is enough because instants have no years beyond 9999.
-/

namespace Chronometry

namespace Civil

/-! ## Parts of dates and times -/

theorem Date.ofParts?_self (date : Date) :
    Date.ofParts? date.year date.month date.day = some date :=
  dif_pos ⟨⟨date.month_pos, date.month_le⟩, date.day_pos, date.day_le⟩

theorem Date.day_le_31 (date : Date) : date.day ≤ 31 := by
  have bounded : ∀ leap : Bool, ∀ month, monthLength leap month ≤ 31 := by
    intro leap month
    unfold monthLength
    cases leap <;> split <;> decide
  exact Nat.le_trans date.day_le (bounded _ _)

theorem Date.day_lt (date : Date) : date.day < 100 :=
  Nat.lt_of_le_of_lt date.day_le_31 (by decide)

namespace TimeOfDay

theorem parts_lt (time : TimeOfDay) :
    time.hour < 24 ∧ time.minute < 60 ∧ time.second < 60 ∧ time.nanosecond < secondNanos := by
  have inDay := time.inDay
  simp only [hour, minute, second, nanosecond, secondNanos, dayNanos] at inDay ⊢
  omega

theorem ofParts?_self (time : TimeOfDay) :
    ofParts? time.hour time.minute time.second time.nanosecond = some time := by
  rw [ofParts?, dif_pos time.parts_lt]
  congr 1
  rcases time with ⟨nanoOfDay, inDay⟩
  simp only [hour, minute, second, nanosecond, secondNanos, mk.injEq]
  omega

end TimeOfDay
end Civil

namespace DateText

open Text (zeroPadded readFixed_zeroPadded)

/-! ## Readers at their own texts -/

theorem exists_digit_zeroPadded (width n : Nat) :
    ∃ c digits, (zeroPadded width n).toList = c :: digits ∧ c.isDigit = true := by
  cases written : (zeroPadded width n).toList with
  | nil => exact absurd written (Text.zeroPadded_ne_nil width n)
  | cons c digits =>
      have listed : c ∈ (zeroPadded width n).toList := written ▸ List.mem_cons_self
      exact ⟨c, digits, rfl, Text.isDigit_of_mem_zeroPadded listed⟩

theorem readYear_of_minus (text : List Char) :
    readYear ('-' :: text) = (Text.readFixed 6 text).bind fun (year, rest) =>
      if year = 0 then none else some (-(year : Int), rest) := rfl

/-- A year without a sign is read in four digits. -/
theorem readYear_of_unsigned {c : Char} (minus : c ≠ '-') (plus : c ≠ '+') (text : List Char) :
    readYear (c :: text) = (Text.readFixed 4 (c :: text)).map fun (year, rest) =>
      ((year : Int), rest) := by
  unfold readYear
  split
  next same => exact absurd (List.cons.inj same).1 minus
  next same => exact absurd (List.cons.inj same).1 plus
  next =>
    cases Text.readFixed 4 (c :: text) <;> rfl

theorem readYear_yearText {year : Int} (inRange : Civil.yearInRange year = true)
    (rest : List Char) :
    readYear ((Civil.yearText year).toList ++ rest) = some (year, rest) := by
  have bounds := of_decide_eq_true inRange
  by_cases negative : year < 0
  · have fits : year.natAbs < Nat.pow 10 6 := by
      change year.natAbs < 1000000
      omega
    have nonzero : year.natAbs ≠ 0 := by omega
    have restored : -(year.natAbs : Int) = year := by omega
    have shape : (Civil.yearText year).toList ++ rest =
        '-' :: ((zeroPadded 6 year.natAbs).toList ++ rest) := by
      simp only [Civil.yearText, if_pos negative, String.toList_append, String.reduceToList,
        List.cons_append, List.nil_append]
    rw [shape, readYear_of_minus, readFixed_zeroPadded (by decide) fits, Option.bind_some]
    simp only [nonzero, if_false, restored]
  · have fits : year.natAbs < Nat.pow 10 4 := by
      change year.natAbs < 10000
      omega
    have restored : (year.natAbs : Int) = year := by omega
    rcases exists_digit_zeroPadded 4 year.natAbs with ⟨c, digits, written, digit⟩
    rw [Civil.yearText, if_neg negative]
    have unsigned := readYear_of_unsigned (Text.ne_of_isDigit digit '-' rfl)
      (Text.ne_of_isDigit digit '+' rfl) (digits ++ rest)
    rw [← List.cons_append, ← written, readFixed_zeroPadded (by decide) fits] at unsigned
    simp only [unsigned, Option.map_some, restored]

theorem afterSeparator_cons (separator : Char) (rest : List Char) :
    afterSeparator separator true (separator :: rest) = some rest := by
  simp [afterSeparator]

theorem readDate_text {date : Civil.Date} (inRange : Civil.yearInRange date.year = true)
    (rest : List Char) :
    readDate (date.text.toList ++ rest) = some (date, rest) := by
  have monthFits : date.month < Nat.pow 10 2 := Nat.lt_of_le_of_lt date.month_le (by decide)
  have dayFits : date.day < Nat.pow 10 2 := date.day_lt
  have shape : date.text.toList ++ rest = (Civil.yearText date.year).toList ++
      ('-' :: ((zeroPadded 2 date.month).toList ++
        ('-' :: ((zeroPadded 2 date.day).toList ++ rest)))) := by
    simp only [Civil.Date.text, String.toList_append, List.append_assoc, String.reduceToList,
      List.cons_append, List.nil_append]
  rw [shape, readDate, readYear_yearText inRange]
  simp only [Option.bind_eq_bind, Option.bind_some, List.head?_cons, decide_true,
    afterSeparator_cons, readFixed_zeroPadded (by decide) monthFits,
    readFixed_zeroPadded (by decide) dayFits, inRange, Bool.not_true, Bool.false_eq_true, if_false,
    Civil.Date.ofParts?_self]
  rfl

/-- A fraction is read up to the letter behind it. -/
theorem readFraction_pointedFraction {parts : Nat} (fits : parts < Nat.pow 10 9)
    (rest : List Char) :
    readFraction ((Text.pointedFraction 9 parts).toList ++ 'Z' :: rest) =
      some (parts, 'Z' :: rest) := by
  by_cases none : parts = 0
  · rw [Text.pointedFraction, if_pos none, none]
    rfl
  · have nonempty := Text.fractionDigits_ne_nil (by decide) fits none
    have short := Text.length_fractionDigits_le (by decide) fits
    have value := Text.natOfDigits_fractionDigits (by decide) fits
    have digits : ((Text.fractionDigits 9 parts).toList ++ 'Z' :: rest).takeWhile Char.isDigit =
        (Text.fractionDigits 9 parts).toList := by
      rw [List.takeWhile_append_of_pos fun c listed => Text.isDigit_of_mem_fractionDigits listed,
        List.takeWhile_cons_of_neg (by decide), List.append_nil]
    have shape : (Text.pointedFraction 9 parts).toList ++ 'Z' :: rest =
        '.' :: ((Text.fractionDigits 9 parts).toList ++ 'Z' :: rest) := by
      simp only [Text.pointedFraction, if_neg none, String.toList_append, String.reduceToList,
        List.cons_append, List.nil_append]
    simp only [shape, readFraction, true_or, if_true, digits, List.take_of_length_le short,
      List.isEmpty_iff, nonempty, if_false, value, List.drop_left]

theorem readTime_text (time : Civil.TimeOfDay) (rest : List Char) :
    readTime (time.text.toList ++ 'Z' :: rest) = some (time, 'Z' :: rest) := by
  rcases time.parts_lt with ⟨hour, minute, second, nanosecond⟩
  have hourFits : time.hour < Nat.pow 10 2 := Nat.lt_trans hour (by decide)
  have minuteFits : time.minute < Nat.pow 10 2 := Nat.lt_trans minute (by decide)
  have secondFits : time.second < Nat.pow 10 2 := Nat.lt_trans second (by decide)
  have noLeap : leapSecond time.second = time.second := if_neg (Nat.ne_of_lt second)
  have shape : time.text.toList ++ 'Z' :: rest = (zeroPadded 2 time.hour).toList ++
      (':' :: ((zeroPadded 2 time.minute).toList ++ (':' :: ((zeroPadded 2 time.second).toList ++
        ((Text.pointedFraction 9 time.nanosecond).toList ++ 'Z' :: rest))))) := by
    simp only [Civil.TimeOfDay.text, String.toList_append, List.append_assoc, String.reduceToList,
      List.cons_append, List.nil_append]
  rw [shape, readTime, readFixed_zeroPadded (by decide) hourFits]
  simp only [Option.bind_eq_bind, Option.bind_some, List.head?_cons, decide_true, hasMore, if_true,
    Bool.not_true, Bool.false_eq_true, if_false, afterSeparator_cons,
    readFixed_zeroPadded (by decide) minuteFits, readFixed_zeroPadded (by decide) secondFits,
    readFraction_pointedFraction nanosecond, noLeap, Civil.TimeOfDay.ofParts?_self]
  rfl

/-- A datetime at offset zero is read as its parts. -/
theorem written?_text {civil : Civil.DateTime}
    (inRange : Civil.yearInRange civil.date.year = true) :
    written? ((civil.text ++ "Z").toList) = some ⟨civil.date, some civil.time, some 0, none⟩ := by
  have shape : (civil.text ++ "Z").toList =
      civil.date.text.toList ++ ('T' :: (civil.time.text.toList ++ ['Z'])) := by
    simp only [Civil.DateTime.text, String.toList_append, List.append_assoc, String.reduceToList,
      List.cons_append, List.nil_append]
  have clock : readClock ('T' :: (civil.time.text.toList ++ ['Z'])) =
      some (some civil.time, some 0, []) := by
    simp only [readClock, true_or, or_true, if_true, readTime_text]
    rfl
  have unnoted : notes? [] = some [] := by rw [notes?]
  rw [shape, written?, readDate_text inRange]
  simp only [Option.bind_eq_bind, Option.bind_some, clock, unnoted, zoneOfNotes?]
  rfl

theorem timestamp?_text (i : Instant) : timestamp? i.text.toList = some i := by
  have atZero : (i.atOffset 0).toNanos = i.nanoseconds := by
    rw [Instant.atOffset, Civil.DateTime.toNanos_ofNanos, Int.zero_mul, Int.add_zero]
  rw [timestamp?, Instant.text, written?_text (i.yearInRange_atOffset (by decide))]
  simp only [Option.bind_eq_bind, Option.bind_some]
  change Instant.ofNanoseconds? ((i.atOffset 0).toNanos - 0 * Civil.secondNanos) = some i
  rw [atZero, Int.zero_mul, Int.sub_zero]
  exact Instant.ofNanoseconds?_eq_some_iff.mpr rfl

end DateText
end Chronometry
