import Chronometry.Proofs.DateText.AbsoluteEnds
import Chronometry.Proofs.DateText.LowerCase
import Chronometry.Proofs.Instant.Translation

/-!
# Phrases and absolute dates

No text is both.  The ends of an absolute date already keep it from being a phrase, in whatever way
its letters are made small.  So it does not matter which is tried first, and only what has the shape
of a phrase can depend on the instant of the reference; everything else depends on its zone at most.
-/

namespace Chronometry
namespace DateText

/-- The shapes of phrases: the four words, and the three frames around a text. -/
def HasPhraseShape (phrase : List Char) : Prop :=
  String.ofList phrase ∈ phraseWords ∨ "in ".toList <+: phrase ∨ " ago".toList <:+ phrase ∨
    " from now".toList <:+ phrase

variable {zones : Zone.Database} {text small : List Char}

theorem relative?_eq_none_of_shapeless {phrase : List Char} (shapeless : ¬HasPhraseShape phrase)
    (reference : Moment) :
    relative? phrase reference = none := by
  apply Option.eq_none_iff_forall_ne_some.mpr
  intro moment read
  apply shapeless
  rcases word_or_framed_of_relative? read with word | ⟨text, _, rfl | rfl | rfl⟩
  · exact Or.inl word
  · exact Or.inr (Or.inl (List.prefix_append _ _))
  · exact Or.inr (Or.inr (Or.inl (List.suffix_append _ _)))
  · exact Or.inr (Or.inr (Or.inr (List.suffix_append _ _)))

theorem absolute?_nil (reference : Moment) : absolute? zones [] reference = none := by
  cases read : absolute? zones [] reference with
  | none => rfl
  | some moment =>
      rcases ends_of_absolute? read with ⟨⟨_, _, impossible, _⟩, _⟩
      contradiction

/-- Of the reference an absolute date knows the zone. -/
theorem absolute?_of_zone (now later : Instant) (zone : Zone) :
    absolute? zones text ⟨now, zone⟩ = absolute? zones text ⟨later, zone⟩ := rfl

/-- Blank texts need no case of their own: nothing is neither a phrase nor an absolute date. -/
theorem moment?_eq_relative_or_absolute (lowered : Lowercase (Text.trim text) small)
    (reference : Moment) :
    moment? zones text reference =
      (relative? small reference).or (absolute? zones (Text.trim text) reference) := by
  rw [relative?_of_lowercase lowered]
  simp only [moment?]
  split
  next nothing =>
    rw [List.isEmpty_iff.mp nothing, absolute?_nil]
    rfl
  next => rfl

theorem relative?_eq_none_of_lowercase (lowered : Lowercase (Text.trim text) small) {other : Moment}
    (absolute : (absolute? zones (Text.trim text) other).isSome = true) (reference : Moment) :
    relative? small reference = none := by
  rcases Option.isSome_iff_exists.mp absolute with ⟨moment, read⟩
  rw [relative?_of_lowercase lowered, relative?_eq_none_of_absolute? read]

/-- Phrases and absolute dates are disjoint, whatever lower-casing makes of the text, whatever zones
are known by name and whatever the references.  A text means the same when absolute dates are tried
first; and in one zone it means the same at all times, unless it has the shape of a phrase. -/
theorem phrases_and_absolute_dates_are_disjoint (text : List Char) :
    Lowercase (Text.trim text) ((Text.trim text).map foldCase) ∧
    ∀ small, Lowercase (Text.trim text) small ->
      (∀ (zones : Zone.Database) (reference other : Moment),
        (absolute? zones (Text.trim text) other).isSome = true ->
          relative? small reference = none) ∧
      (∀ (zones : Zone.Database) (reference : Moment), moment? zones text reference =
        (absolute? zones (Text.trim text) reference).or (relative? small reference)) ∧
      (¬HasPhraseShape small ->
        ∀ (zones : Zone.Database) (now later : Instant) (zone : Zone),
          moment? zones text ⟨now, zone⟩ = moment? zones text ⟨later, zone⟩) := by
  refine ⟨lowercase_map_foldCase _, fun small lowered => ⟨?_, ?_, ?_⟩⟩
  · intro zones reference other absolute
    exact relative?_eq_none_of_lowercase lowered absolute reference
  · intro zones reference
    rw [moment?_eq_relative_or_absolute lowered]
    cases absolute : absolute? zones (Text.trim text) reference with
    | none => rw [Option.or_none, Option.none_or]
    | some moment =>
        have accepted : (absolute? zones (Text.trim text) reference).isSome = true := by
          rw [absolute]; rfl
        rw [relative?_eq_none_of_lowercase lowered accepted, Option.none_or, Option.some_or]
  · intro shapeless zones now later zone
    rw [moment?_eq_relative_or_absolute lowered, moment?_eq_relative_or_absolute lowered,
      relative?_eq_none_of_shapeless shapeless, relative?_eq_none_of_shapeless shapeless,
      absolute?_of_zone now later]

/-- A database with the zone of Paris alone. -/
def parisian : Zone.Database := fun name =>
  if name = "Europe/Paris" then
    some (.ruled (some name) ⟨⟨"CET", 3600⟩,
      some ⟨⟨"CEST", 7200⟩, ⟨.weekday 3 5 0, 7200⟩, ⟨.weekday 10 5 0, 10800⟩⟩⟩)
  else none

/-- A date with the month in capitals and a summer morning in Paris are absolute dates, and no
phrases in small letters.  The date is the same at both limits of time. -/
theorem march_and_paris_dates_are_no_phrases :
    (∃ moment, moment? parisian "10 MARCH 2024".toList ⟨.first, .utc⟩ = some moment) ∧
      relative? "10 march 2024".toList ⟨.epoch, .utc⟩ = none ∧
      moment? parisian "10 MARCH 2024".toList ⟨.first, .utc⟩ =
        moment? parisian "10 MARCH 2024".toList ⟨.last, .utc⟩ ∧
      (∃ moment, moment? parisian "2024-07-01T09:00[Europe/Paris]".toList ⟨.first, .utc⟩ =
        some moment ∧ moment.instant.nanoseconds = 1719817200000000000) ∧
      relative? "2024-07-01t09:00[europe/paris]".toList ⟨.epoch, .utc⟩ = none := by
  rcases phrases_and_absolute_dates_are_disjoint "10 MARCH 2024".toList with ⟨folded, laws⟩
  rcases laws _ folded with ⟨disjoint, swapped, timeless⟩
  rcases phrases_and_absolute_dates_are_disjoint "2024-07-01T09:00[Europe/Paris]".toList with
    ⟨parisFolded, parisLaws⟩
  rcases parisLaws _ parisFolded with ⟨parisDisjoint, parisSwapped, _⟩
  have read : (absolute? parisian (Text.trim "10 MARCH 2024".toList) ⟨.first, .utc⟩).isSome =
      true := by decide +kernel
  have parisRead : (absolute? parisian (Text.trim "2024-07-01T09:00[Europe/Paris]".toList)
      ⟨.first, .utc⟩).map (·.instant.nanoseconds) = some 1719817200000000000 := by decide +kernel
  have shapeless : ¬HasPhraseShape ((Text.trim "10 MARCH 2024".toList).map foldCase) := by
    unfold HasPhraseShape
    decide +kernel
  rcases Option.isSome_iff_exists.mp read with ⟨moment, found⟩
  rcases Option.map_eq_some_iff.mp parisRead with ⟨morning, parisFound, instant⟩
  refine ⟨⟨moment, ?_⟩, disjoint parisian ⟨.epoch, .utc⟩ ⟨.first, .utc⟩ read,
    timeless shapeless _ _ _ _, ⟨morning, ?_, instant⟩,
    parisDisjoint parisian ⟨.epoch, .utc⟩ ⟨.first, .utc⟩ (by rw [parisFound]; rfl)⟩
  · rw [swapped, found, Option.some_or]
  · rw [parisSwapped, parisFound, Option.some_or]

end DateText
end Chronometry
