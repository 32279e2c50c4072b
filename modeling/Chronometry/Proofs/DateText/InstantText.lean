import Chronometry.Proofs.Coercion.DateText
import Chronometry.Proofs.DateText.AbsoluteEnds
import Chronometry.Proofs.DateText.WrittenInstant
import Chronometry.Proofs.Session.Standing

/-!
# Instants read from their own texts

A written instant begins with a digit or a minus sign and ends in `Z`.  Neither end is trimmed, and
no phrase has such ends, so that the text goes to the reader of timestamps, which gives back the
instant.  What is read from text is then rounded down to a millisecond.  This is the only loss, and
it is a loss downward before the epoch as well.
-/

namespace Chronometry

/-! ## The ends of the text -/

namespace DateText

/-- A year begins with its minus sign or with a digit. -/
theorem exists_yearText_cons (year : Int) :
    ∃ first rest,
      (Civil.yearText year).toList = first :: rest ∧ (first = '-' ∨ first.isDigit = true) := by
  by_cases negative : year < 0
  · refine ⟨'-', (Text.zeroPadded 6 year.natAbs).toList, ?_, Or.inl rfl⟩
    simp only [Civil.yearText, if_pos negative, String.toList_append, String.reduceToList,
      List.cons_append, List.nil_append]
  · rcases exists_digit_zeroPadded 4 year.natAbs with ⟨first, rest, written, digit⟩
    refine ⟨first, rest, ?_, Or.inr digit⟩
    rw [Civil.yearText, if_neg negative, written]

theorem exists_text_ends (i : Instant) :
    ∃ first middle,
      i.text.toList = first :: (middle ++ ['Z']) ∧ (first = '-' ∨ first.isDigit = true) := by
  rcases exists_yearText_cons (i.atOffset 0).date.year with ⟨first, rest, written, begins⟩
  refine ⟨first, rest ++ ('-' :: ((Text.zeroPadded 2 (i.atOffset 0).date.month).toList ++
    ('-' :: ((Text.zeroPadded 2 (i.atOffset 0).date.day).toList ++
      ('T' :: (i.atOffset 0).time.text.toList))))), ?_, begins⟩
  simp only [Instant.text, Civil.DateTime.text, Civil.Date.text, String.toList_append,
    String.reduceToList, List.append_assoc, List.cons_append, List.nil_append, written]

/-- A written instant denotes itself, in the zone of the reference. -/
theorem moment?_text {zones : Zone.Database} (i : Instant) (reference : Moment) :
    moment? zones i.text.toList reference = some ⟨i, reference.zone⟩ := by
  rcases exists_text_ends i with ⟨first, middle, written, begins⟩
  have inked : Text.isBlank first = false := by
    rcases begins with rfl | digit
    · rfl
    · exact Text.isBlank_of_isDigit digit
  have trimmed : Text.trim i.text.toList = i.text.toList := by
    rw [written]
    exact Text.trim_eq_self middle inked rfl
  have timestamp : absolute? zones i.text.toList reference = some ⟨i, reference.zone⟩ := by
    rw [absolute?, timestamp?_text]
  rcases ends_of_absolute? timestamp with ⟨opens, closed⟩
  rw [moment?_of_opens opens closed trimmed, timestamp]

end DateText

namespace Engine

/-- An engine with the everyday reader of dates reads a written instant as the last whole
millisecond at or before it, whatever its clock, its zone and the zones that it knows by name; and
so it reads the instant itself exactly when that is a whole number of milliseconds. -/
theorem instant_reads_own_text (engine : Engine) (i : Instant) {zones : Zone.Database}
    (everyday : engine.dates = .everyday zones) :
    ∃ r : Instant, engine.instant (.text i.text) = .ok r ∧
      (1000000 : Int) ∣ r.nanoseconds ∧ r.nanoseconds ≤ i.nanoseconds ∧
      (∀ count : Int, (1000000 : Int) ∣ count -> count ≤ i.nanoseconds -> count ≤ r.nanoseconds) ∧
      (engine.instant (.text i.text) = .ok i ↔ (1000000 : Int) ∣ i.nanoseconds) := by
  have read : engine.instant (.text i.text) = .ok i.floorMillisecond := by
    have own : DateReader.everyday zones i.text engine.reference =
        some ⟨i, engine.reference.zone⟩ := DateText.moment?_text i engine.reference
    rw [instant, everyday, Source.toInstant_text_eq_floor own]
  rcases i.floorMillisecond_spec with ⟨whole, notLater, last⟩
  refine ⟨i.floorMillisecond, read, whole, notLater, last, ?_⟩
  rw [read, Except.ok.injEq]
  exact i.floorMillisecond_eq_self_iff

/-- The nanosecond before the epoch is written in the year 1969 and read as the millisecond before
it. -/
theorem nanosecond_before_epoch_is_read_downward :
    ∃ r : Instant, atEpoch.instant (.text (Instant.text ⟨-1, by decide, by decide⟩)) = .ok r ∧
      r.nanoseconds = -1000000 := by
  rcases instant_reads_own_text atEpoch ⟨-1, by decide, by decide⟩ rfl with
    ⟨r, read, ⟨milliseconds, count⟩, notLater, last, _⟩
  have least := last (-1000000) ⟨-1, rfl⟩ (by decide)
  refine ⟨r, read, ?_⟩
  change r.nanoseconds ≤ -1 at notLater
  omega

end Engine
end Chronometry
