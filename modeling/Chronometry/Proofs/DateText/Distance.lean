import Chronometry.Proofs.Coercion.DateText
import Chronometry.Proofs.DateText.Frame
import Chronometry.Proofs.DurationText.SmallLetters
import Chronometry.Proofs.Session.Standing

/-!
# Phrases of distance

What the reader of phrases hands on to the reader of durations is a text in small letters.  A phrase
moves the reference by the duration that the text in small letters denotes, and a text without the
letter of the month denotes the same duration in small letters.
-/

namespace Chronometry
namespace DateText

/-- A text as it counts in phrases. -/
def smallLetters (text : String) : String :=
  String.ofList (text.toList.map foldCase)

end DateText

namespace Engine

open DateText

/-- The phrases around a text move the current instant by a duration, and what is reached is rounded
down to a millisecond. -/
structure PhrasesMove (engine : Engine) (text : String) (d : Duration) : Prop where
  later : ∀ r : Instant, r.nanoseconds = engine.now.nanoseconds + d.length ->
    engine.instant (.text ("in " ++ text)) = .ok r.floorMillisecond ∧
      engine.instant (.text (text ++ " from now")) = .ok r.floorMillisecond
  earlier : ∀ r : Instant, r.nanoseconds = engine.now.nanoseconds - d.length ->
    engine.instant (.text (text ++ " ago")) = .ok r.floorMillisecond

variable {engine : Engine} {zones : Zone.Database}

theorem instant_of_moment? (dates : engine.dates = .everyday zones) {text : String}
    {moment : Moment} (found : moment? zones text.toList engine.reference = some moment) :
    engine.instant (.text text) = .ok moment.instant.floorMillisecond := by
  rw [instant, dates]
  exact Source.toInstant_text_eq_floor found

theorem duration_text_eq_ok_iff (durations : engine.durations = .everyday) {text : String}
    {d : Duration} :
    engine.duration (.text text) = .ok d ↔
      ∃ length, DurationText.milliseconds? text.toList = some length ∧
        Duration.ofMilliseconds length = .ok d := by
  rw [duration, durations, Source.toDuration]
  simp only [DurationReader.everyday]
  cases DurationText.milliseconds? text.toList with
  | none => simp
  | some length => simp

theorem phrasesMove_of_small (dates : engine.dates = .everyday zones) {text : String}
    {length : Binary64} {d : Duration}
    (read : DurationText.milliseconds? (text.toList.map foldCase) = some length)
    (made : Duration.ofMilliseconds length = .ok d) : engine.PhrasesMove text d where
  later r reached := by
    have distant : distant? engine.now false (text.toList.map foldCase) = some r :=
      distant?_eq_some_iff.mpr ⟨length, d, read, made, reached⟩
    have beginning : moment? zones ("in ".toList ++ text.toList) engine.reference = _ :=
      moment?_in text.toList engine.reference
    have ending : moment? zones (text.toList ++ " from now".toList) engine.reference = _ :=
      ending_fromNow.moment?_append text.toList engine.reference
    rw [← String.toList_append, reference, distant, Option.map_some] at beginning ending
    exact ⟨instant_of_moment? dates beginning, instant_of_moment? dates ending⟩
  earlier r reached := by
    have distant : distant? engine.now true (text.toList.map foldCase) = some r :=
      distant?_eq_some_iff.mpr ⟨length, d, read, made, reached⟩
    have ending : moment? zones (text.toList ++ " ago".toList) engine.reference = _ :=
      ending_ago.moment?_append text.toList engine.reference
    rw [← String.toList_append, reference, distant, Option.map_some] at ending
    exact instant_of_moment? dates ending

/-- The phrases around a text mean the duration that the text in small letters denotes.  Without the
letter of the month this is the duration that the text itself denotes; with it, months would be
taken for minutes. -/
theorem phrases_move_by_duration (engine : Engine) {zones : Zone.Database}
    (dates : engine.dates = .everyday zones) (durations : engine.durations = .everyday)
    (text : String) (d : Duration) :
    (engine.duration (.text (smallLetters text)) = .ok d -> engine.PhrasesMove text d) ∧
      ('M' ∉ text.toList -> engine.duration (.text text) = .ok d -> engine.PhrasesMove text d) := by
  simp only [duration_text_eq_ok_iff durations, smallLetters, String.toList_ofList]
  constructor
  · rintro ⟨length, read, made⟩
    exact phrasesMove_of_small dates read made
  · rintro noMonth ⟨length, read, made⟩
    exact phrasesMove_of_small dates (DurationText.milliseconds?_map_foldCase read noMonth) made

/-- Ninety minutes, written with a fraction, lead from noon to half past one and to half past
ten. -/
theorem phrases_move_by_ninety_minutes :
    atNoon.duration (.text "1.5h") =
      .ok ⟨⟨0, 0, 0, 0, 0, 0, 0, 5400000, 0, 0⟩, by decide, by decide⟩ ∧
      atNoon.instant (.text "in 1.5h") = .ok ⟨1710077400000000000, by decide, by decide⟩ ∧
      atNoon.instant (.text "1.5h ago") = .ok ⟨1710066600000000000, by decide, by decide⟩ := by
  have read : atNoon.duration (.text "1.5h") =
      .ok ⟨⟨0, 0, 0, 0, 0, 0, 0, 5400000, 0, 0⟩, by decide, by decide⟩ := by decide +kernel
  have moves := (phrases_move_by_duration atNoon rfl rfl "1.5h" _).2 (by decide) read
  exact ⟨read, (moves.later ⟨1710077400000000000, by decide, by decide⟩ (by decide)).1,
    moves.earlier ⟨1710066600000000000, by decide, by decide⟩ (by decide)⟩

/-- A duration text of one month is a phrase of one minute, although the instant a month later lies
within the limits. -/
theorem letter_of_month_is_minute_in_phrases :
    ∃ (d : Duration) (reached answered : Instant), atNoon.duration (.text "1 M") = .ok d ∧
      reached.nanoseconds = atNoon.now.nanoseconds + d.length ∧
      atNoon.instant (.text "in 1 M") = .ok answered ∧
      answered ≠ reached.floorMillisecond ∧
      d.length = 2630016000000000 ∧
        answered.nanoseconds = atNoon.now.nanoseconds + 60000000000 := by
  refine ⟨⟨⟨0, 0, 0, 0, 0, 0, 0, 2630016000, 0, 0⟩, by decide, by decide⟩,
    ⟨1712702016000000000, by decide, by decide⟩, ⟨1710072060000000000, by decide, by decide⟩,
    ?_, ?_, ?_, ?_, ?_, ?_⟩
  all_goals decide +kernel

end Engine
end Chronometry
