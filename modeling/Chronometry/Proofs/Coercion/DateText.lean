import Chronometry.Coercion
import Chronometry.Proofs.Instant.Millisecond

/-!
# Instants from date text

A reader of dates answers with a moment, which may be any nanosecond between the limits.  What is
made of the text is the beginning of the millisecond in which the moment lies.  Nothing is assumed
of the reader: it may be any function of the text and the reference, so that every statement here is
about what happens after the text has been read.
-/

namespace Chronometry

namespace Source

variable {dates : DateReader} {written : String} {reference moment : Moment}

/-- A text that the reader does not understand is named in the error as it was written. -/
theorem toInstant_text_of_unread (unread : dates written reference = none) :
    (text written).toInstant dates reference = .error (.unreadable .instant written) := by
  simp only [toInstant, unread]

/-- The count of whole milliseconds of a moment is held against the limits of instants, and none of
them is left. -/
theorem toInstant_text_of_read (read : dates written reference = some moment) :
    (text written).toInstant dates reference =
      Instant.ofMilliseconds (moment.instant.nanoseconds / 1000000) := by
  simp only [toInstant, read]
  rfl

theorem toInstant_text_eq_floor (read : dates written reference = some moment) :
    (text written).toInstant dates reference = .ok moment.instant.floorMillisecond :=
  (toInstant_text_of_read read).trans moment.instant.ofMilliseconds_div

theorem toInstant_text_eq_ok_iff (read : dates written reference = some moment) (r : Instant) :
    (text written).toInstant dates reference = .ok r ↔ moment.instant.InMillisecondOf r := by
  rw [toInstant_text_eq_floor read, Instant.inMillisecondOf_iff, Except.ok.injEq, eq_comm]

theorem toInstant_text_within_limits (fault : RangeFault) :
    (text written).toInstant dates reference ≠ .error (.outOfRange fault) := by
  cases read : dates written reference with
  | none =>
      rw [toInstant_text_of_unread read]
      simp
  | some moment =>
      rw [toInstant_text_eq_floor read]
      simp

end Source

/-- A text is read as the beginning of the millisecond in which its moment lies, whatever reads it.
The answer exists for every moment within the limits, it is the only instant of its kind, it is the
moment itself when that is a whole number of milliseconds, and it is not earlier for a later moment.
A text without a moment is refused by its own words. -/
theorem date_text_is_read_down_to_millisecond (dates : DateReader) (written : String)
    (reference : Moment) :
    (dates written reference = none ->
      (Source.text written).toInstant dates reference = .error (.unreadable .instant written)) ∧
    (∀ moment, dates written reference = some moment ->
      (Source.text written).toInstant dates reference =
        Instant.ofMilliseconds (moment.instant.nanoseconds / 1000000) ∧
      (∃ r, (Source.text written).toInstant dates reference = .ok r) ∧
      (∀ r, (Source.text written).toInstant dates reference = .ok r ↔
        moment.instant.InMillisecondOf r) ∧
      ((Source.text written).toInstant dates reference = .ok moment.instant ↔
        (1000000 : Int) ∣ moment.instant.nanoseconds)) ∧
    (∀ fault, (Source.text written).toInstant dates reference ≠ .error (.outOfRange fault)) ∧
    (∀ (otherDates : DateReader) (otherWritten : String) (otherReference moment later : Moment)
      (r s : Instant),
      dates written reference = some moment ->
      otherDates otherWritten otherReference = some later ->
      moment.instant.nanoseconds ≤ later.instant.nanoseconds ->
      (Source.text written).toInstant dates reference = .ok r ->
      (Source.text otherWritten).toInstant otherDates otherReference = .ok s ->
      r.nanoseconds ≤ s.nanoseconds) := by
  refine ⟨Source.toInstant_text_of_unread, ?_, Source.toInstant_text_within_limits, ?_⟩
  · intro moment read
    have answers := Source.toInstant_text_eq_ok_iff read
    refine ⟨Source.toInstant_text_of_read read, ⟨moment.instant.floorMillisecond, ?_⟩,
      answers, ?_⟩
    · exact (answers _).mpr (Instant.inMillisecondOf_iff.mpr rfl)
    · rw [answers, Instant.inMillisecondOf_iff, eq_comm, Instant.floorMillisecond_eq_self_iff]
  · intro otherDates otherWritten otherReference moment later r s read readLater ordered
      first second
    rw [Source.toInstant_text_eq_ok_iff read, Instant.inMillisecondOf_iff] at first
    rw [Source.toInstant_text_eq_ok_iff readLater, Instant.inMillisecondOf_iff] at second
    rw [first, second]
    exact Instant.floorMillisecond_mono ordered

/-- A reader that knows the last nanosecond of the first millisecond within the limits, and the last
one before the epoch. -/
def atEndsOfMilliseconds : DateReader := fun written _ =>
  if written = "first" then some ⟨⟨-377705023200999000001, by decide, by decide⟩, .utc⟩
  else if written = "before" then some ⟨⟨-1, by decide, by decide⟩, .utc⟩
  else none

/-- The first millisecond begins with the lower limit, and the last one before the epoch begins a
million nanoseconds before it. -/
theorem ends_of_milliseconds_are_read_down :
    (∃ r, (Source.text "first").toInstant atEndsOfMilliseconds ⟨.epoch, .utc⟩ = .ok r ∧
      r.nanoseconds = -377705023201000000000) ∧
    (∃ r, (Source.text "before").toInstant atEndsOfMilliseconds ⟨.epoch, .utc⟩ = .ok r ∧
      r.nanoseconds = -1000000) ∧
    (Source.text "After").toInstant atEndsOfMilliseconds ⟨.epoch, .utc⟩ =
      .error (.unreadable .instant "After") := by
  have first := date_text_is_read_down_to_millisecond atEndsOfMilliseconds "first" ⟨.epoch, .utc⟩
  have before := date_text_is_read_down_to_millisecond atEndsOfMilliseconds "before" ⟨.epoch, .utc⟩
  have after := date_text_is_read_down_to_millisecond atEndsOfMilliseconds "After" ⟨.epoch, .utc⟩
  refine ⟨⟨⟨-377705023201000000000, by decide, by decide⟩, ?_, rfl⟩,
    ⟨⟨-1000000, by decide, by decide⟩, ?_, rfl⟩, ?_⟩
  · exact ((first.2.1 _ rfl).2.2.1 _).mpr ⟨by decide, by decide, by decide⟩
  · exact ((before.2.1 _ rfl).2.2.1 _).mpr ⟨by decide, by decide, by decide⟩
  · exact after.1 rfl

end Chronometry
