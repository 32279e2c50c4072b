import Chronometry.Engine
import Chronometry.Proofs.Civil.Timeline
import Chronometry.Proofs.Coercion.DateText
import Chronometry.Proofs.DateText.Frame
import Chronometry.Proofs.Instant.Translation

/-!
# The next day and the day before

`tomorrow` and `yesterday` move the local date by a day and keep the local time.  In a zone that
never changes its offset this is a step of 24 hours on the line of absolute time, over the ends of
months and years and over leap days as well, because dates and day numbers correspond one to one.
The step exists exactly where it stays within the limits of instants: the calendar, which is asked
as well, is a little longer than they are.  In such a zone, therefore, each of the two words undoes
the other.
-/

namespace Chronometry

open Civil (dayNanos)

namespace Moment

/-- In a zone of fixed offset a distance between local datetimes is one between instants. -/
theorem ofCivil?_fixed {seconds distance : Int} {civil : Civil.DateTime} {i : Instant}
    (reached : civil.toNanos - seconds * Civil.secondNanos = i.nanoseconds + distance) :
    ofCivil? (.fixed seconds) civil = (i.shift? distance).map (⟨·, .fixed seconds⟩) := by
  rw [ofCivil?, Zone.instantOf?, Zone.fixed_offsetOfLocal, reached]
  rfl

/-- In a zone of fixed offset a number of days is a number of nanoseconds. -/
theorem addDays?_of_fixed (moment : Moment) {seconds : Int} (fixed : moment.zone = .fixed seconds)
    (admitted : seconds.natAbs ≤ Offset.limit) (days : Int) :
    moment.addDays? days = (moment.instant.shift? (days * dayNanos)).map (⟨·, moment.zone⟩) := by
  rcases moment with ⟨i, zone⟩
  obtain rfl : zone = .fixed seconds := fixed
  have civil : (⟨i, .fixed seconds⟩ : Moment).civil = i.atOffset seconds := rfl
  have moved := Civil.DateTime.toNanos_addDays (i.atOffset seconds) days
  have reached :
      (⟨(i.atOffset seconds).date.addDays days, (i.atOffset seconds).time⟩ :
        Civil.DateTime).toNanos - seconds * Civil.secondNanos =
          i.nanoseconds + days * dayNanos := by
    rw [moved, i.toNanos_atOffset]
    omega
  rw [addDays?, civil, ofCivil?_fixed reached]
  cases shifted : i.shift? (days * dayNanos) with
  | none => exact ite_self none
  | some t =>
      -- What is reached is an instant again, and so its local datetime lies in the calendar.
      have same : t.atOffset seconds =
          ⟨(i.atOffset seconds).date.addDays days, (i.atOffset seconds).time⟩ := by
        have later := Instant.shift?_eq_some_iff.mp shifted
        rw [← Civil.DateTime.toNanos_inj, moved, t.toNanos_atOffset, i.toNanos_atOffset, later]
        omega
      have dated := t.yearInRange_atOffset admitted
      rw [same] at dated
      exact if_pos dated

end Moment

namespace DateReader

/-- The words for the neighbouring days are days on the calendar of the reference. -/
theorem everyday_neighbours {zones : Zone.Database} (reference : Moment) :
    everyday zones "tomorrow" reference = reference.addDays? 1 ∧
      everyday zones "yesterday" reference = reference.addDays? (-1) := by
  have tomorrow : DateText.absolute? zones "tomorrow".toList reference = none :=
    DateText.absolute?_eq_none_of_last (show DateText.isClosing 'w' = false by decide)
      "tomorro".toList reference
  have yesterday : DateText.absolute? zones "yesterday".toList reference = none :=
    DateText.absolute?_eq_none_of_last (show DateText.isClosing 'y' = false by decide)
      "yesterda".toList reference
  exact ⟨DateText.moment?_of_trim rfl (by decide) tomorrow,
    DateText.moment?_of_trim rfl (by decide) yesterday⟩

end DateReader

namespace Engine

/-- The engine with its clock put to an instant. -/
def putTo (engine : Engine) (now : Instant) : Engine :=
  { engine with clock := engine.clock.set now }

/-- A word stands for the instant a number of nanoseconds away from the present.  It is read as the
beginning of the millisecond of that instant, or refused by its own letters where that instant is
beyond the limits. -/
structure ReadsAway (engine : Engine) (word : String) (distance : Int) : Prop where
  within : ∀ (lower : -377705023201000000000 ≤ engine.now.nanoseconds + distance)
    (upper : engine.now.nanoseconds + distance ≤ 253402207200999999999),
    ∃ r, engine.instant (.text word) = .ok r ∧
      (⟨engine.now.nanoseconds + distance, lower, upper⟩ : Instant).InMillisecondOf r
  beyond : ¬(-377705023201000000000 ≤ engine.now.nanoseconds + distance ∧
      engine.now.nanoseconds + distance ≤ 253402207200999999999) ->
    engine.instant (.text word) = .error (.unreadable .instant word)

variable {engine : Engine} {zones : Zone.Database} {word : String} {distance : Int}

theorem readsAway_of_shift (zone : Zone)
    (read : engine.dates word engine.reference = (engine.now.shift? distance).map (⟨·, zone⟩)) :
    engine.ReadsAway word distance where
  within lower upper := by
    have shifted : engine.now.shift? distance =
        some ⟨engine.now.nanoseconds + distance, lower, upper⟩ :=
      Instant.shift?_eq_some_iff.mpr rfl
    rw [shifted, Option.map_some] at read
    refine ⟨_, ?_, Instant.inMillisecondOf_iff.mpr rfl⟩
    exact (Source.toInstant_text_eq_ok_iff read _).mpr (Instant.inMillisecondOf_iff.mpr rfl)
  beyond outside := by
    have missing : engine.now.shift? distance = none := dif_neg outside
    rw [missing, Option.map_none] at read
    exact Source.toInstant_text_of_unread read

/-- On whole milliseconds a word for one distance is undone by any word for the opposite one. -/
theorem ReadsAway.undone {other : String} {r : Instant} (reads : engine.ReadsAway word distance)
    (back : (engine.putTo r).ReadsAway other (-distance))
    (whole : (1000000 : Int) ∣ engine.now.nanoseconds) (step : (1000000 : Int) ∣ distance)
    (answered : engine.instant (.text word) = .ok r) :
    (engine.putTo r).instant (.text other) = .ok engine.now := by
  by_cases inside : -377705023201000000000 ≤ engine.now.nanoseconds + distance ∧
      engine.now.nanoseconds + distance ≤ 253402207200999999999
  · rcases reads.within inside.1 inside.2 with ⟨_, ok, beginning, notLater, next⟩
    rw [answered] at ok
    cases ok
    have reached : r.nanoseconds = engine.now.nanoseconds + distance := by
      change r.nanoseconds ≤ engine.now.nanoseconds + distance at notLater
      change engine.now.nanoseconds + distance < r.nanoseconds + 1000000 at next
      omega
    have present : (engine.putTo r).now = r := rfl
    have lower := engine.now.lower_le
    have upper := engine.now.le_upper
    have returned : r.nanoseconds + -distance = engine.now.nanoseconds := by omega
    rcases back.within (by rw [present]; omega) (by rw [present]; omega)
      with ⟨last, again, millisecond, before, after⟩
    change last.nanoseconds ≤ r.nanoseconds + -distance at before
    change r.nanoseconds + -distance < last.nanoseconds + 1000000 at after
    have same : last = engine.now := Instant.eq_iff.mpr (by omega)
    rw [again, same]
  · rw [reads.beyond inside] at answered
    contradiction

theorem dvd_dayNanos : (1000000 : Int) ∣ dayNanos := by decide

/-- In a zone of fixed offset the words for the neighbouring days stand for the instants 24 hours
away. -/
theorem readsAway_neighbours {seconds : Int} (everyday : engine.dates = .everyday zones)
    (fixed : engine.settings.zone = .fixed seconds) (admitted : seconds.natAbs ≤ Offset.limit) :
    engine.ReadsAway "tomorrow" dayNanos ∧ engine.ReadsAway "yesterday" (-dayNanos) := by
  have moved (days : Int) := engine.reference.addDays?_of_fixed fixed admitted days
  rcases DateReader.everyday_neighbours engine.reference with ⟨tomorrow, yesterday⟩
  refine ⟨readsAway_of_shift engine.settings.zone ?_,
    readsAway_of_shift engine.settings.zone ?_⟩
  · rw [everyday, tomorrow, moved, Int.one_mul]
    rfl
  · rw [everyday, yesterday, moved, Int.neg_one_mul]
    rfl

/-- In a zone of fixed offset `tomorrow` and `yesterday` are 24 hours away.  They are read whenever
those instants are within the limits, rounded down to a millisecond, and refused by their own
letters otherwise.  On a clock of whole milliseconds each of them leads back from the answer of the
other. -/
theorem neighbouring_days_are_a_day_away (engine : Engine) {zones : Zone.Database} {seconds : Int}
    (everyday : engine.dates = .everyday zones) (fixed : engine.settings.zone = .fixed seconds)
    (admitted : seconds.natAbs ≤ Offset.limit) :
    engine.ReadsAway "tomorrow" dayNanos ∧ engine.ReadsAway "yesterday" (-dayNanos) ∧
    ((1000000 : Int) ∣ engine.now.nanoseconds -> ∀ r : Instant,
      (engine.instant (.text "tomorrow") = .ok r ->
        (engine.putTo r).instant (.text "yesterday") = .ok engine.now) ∧
      (engine.instant (.text "yesterday") = .ok r ->
        (engine.putTo r).instant (.text "tomorrow") = .ok engine.now)) := by
  rcases readsAway_neighbours everyday fixed admitted with ⟨tomorrow, yesterday⟩
  refine ⟨tomorrow, yesterday, ?_⟩
  intro whole r
  have neighbours : (engine.putTo r).ReadsAway "tomorrow" dayNanos ∧
      (engine.putTo r).ReadsAway "yesterday" (-dayNanos) :=
    readsAway_neighbours everyday fixed admitted
  refine ⟨tomorrow.undone neighbours.2 whole dvd_dayNanos,
    yesterday.undone ?_ whole (Int.dvd_neg.mpr dvd_dayNanos)⟩
  rw [Int.neg_neg]
  exact neighbours.1

/-- An engine at offset +05:30, with its clock put to an instant. -/
def eastward (now : Instant) : Engine :=
  everyday (fun _ => none) ⟨now⟩ { Settings.utc with zone := .fixed 19800 }

/-- On the eve of a leap day, where the local date is the leap day already, the next day is the
first of March, and the day before it leads back.  The last instant of all has no next day. -/
theorem leap_day_is_a_day_away :
    ∃ r : Instant, r.nanoseconds = 1709247600000000000 ∧
      (eastward ⟨1709161200000000000, by decide, by decide⟩).instant (.text "tomorrow") = .ok r ∧
      (eastward r).instant (.text "yesterday") = .ok ⟨1709161200000000000, by decide, by decide⟩ ∧
      (eastward .last).instant (.text "tomorrow") = .error (.unreadable .instant "tomorrow") := by
  rcases neighbouring_days_are_a_day_away (eastward ⟨1709161200000000000, by decide, by decide⟩)
    rfl rfl (by decide) with ⟨tomorrow, _, undone⟩
  rcases neighbouring_days_are_a_day_away (eastward .last) rfl rfl (by decide)
    with ⟨beyondLast, _, _⟩
  rcases tomorrow.within (by decide) (by decide) with ⟨r, read, millisecond⟩
  rw [Instant.inMillisecondOf_iff, Instant.eq_iff] at millisecond
  exact ⟨r, millisecond, read, (undone (by decide) r).1 read, beyondLast.beyond (by decide)⟩

end Engine
end Chronometry
