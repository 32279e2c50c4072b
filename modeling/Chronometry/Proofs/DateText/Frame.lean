import Chronometry.Proofs.DateText.AbsoluteEnds
import Chronometry.Proofs.Duration.Milliseconds
import Chronometry.Proofs.DurationText.Beginning
import Chronometry.Proofs.DurationText.Characters
import Chronometry.Proofs.Instant.Translation

/-!
# The frames around a duration text

A phrase of distance is a text with `in` in front of it, or with `ago` or `from now` behind it.
Whatever the text is, the phrase denotes the instant at the distance that the text in small letters
denotes, and nothing where the text denotes nothing.  Frames can meet: the text may have a frame of
its own, or be blank, so that its own frame is cut off, or none is left.  But no duration text has
the letter of `ago` or the first one of `from`, and none begins as `in` does, so that then nothing
is read either way.  Trimming the phrase trims the text at its free end only, which its reader would
have done.
-/

namespace Chronometry
namespace DurationText

/-- The frames have letters of their own. -/
theorem not_lengthCharacter_of_frame {c : Char} (letter : c ∈ ['f', 'g']) :
    ¬LengthCharacter c := by
  intro character
  simp only [List.mem_cons, List.not_mem_nil, or_false] at letter
  rcases character.digit_or_blank_or_mark with digit | blank | mark
  · rcases letter with rfl | rfl <;> contradiction
  · rcases letter with rfl | rfl <;> contradiction
  · rcases letter with rfl | rfl <;> exact absurd mark (by decide)

theorem milliseconds?_eq_none_of_frame {text : List Char} {c : Char} (listed : c ∈ text)
    (letter : c ∈ ['f', 'g']) :
    milliseconds? text = none := by
  cases read : milliseconds? text with
  | none => rfl
  | some length =>
      exact absurd (lengthCharacter_of_milliseconds? read c listed)
        (not_lengthCharacter_of_frame letter)

theorem milliseconds?_eq_none_of_not_inked {text : List Char} (blank : ¬Text.Inked text) :
    milliseconds? text = none := by
  cases read : milliseconds? text with
  | none => rfl
  | some length => exact absurd (inked_of_milliseconds? read) blank

/-- What begins as `in` does is no duration text. -/
theorem milliseconds?_eq_none_of_head (rest : List Char) : milliseconds? ('i' :: rest) = none := by
  cases read : milliseconds? ('i' :: rest) with
  | none => rfl
  | some length =>
      rcases exists_beginning_of_trimStart read with ⟨c, others, trimmed, beginning⟩
      cases trimmed
      exact absurd ⟨by decide, by decide, by decide, by decide⟩ beginning

end DurationText

namespace DateText

open DurationText (milliseconds?)

variable {zones : Zone.Database} {text : List Char} {backward : Bool}

theorem toOption_eq_some_iff {outcome : Except Error Duration} {d : Duration} :
    outcome.toOption = some d ↔ outcome = .ok d := by
  cases outcome with
  | error error => simp [Except.toOption]
  | ok value => simp [Except.toOption]

/-- The instant that lies a duration of text after another one, or before it. -/
def distant? (now : Instant) (backward : Bool) (text : List Char) : Option Instant := do
  let milliseconds ← milliseconds? text
  let duration ← (Duration.ofMilliseconds
      (if backward then -milliseconds else milliseconds)).toOption
  now.add? duration

/-- The zone of the reference is kept and not looked at. -/
theorem offsetBy?_eq_distant? (reference : Moment) (backward : Bool) (text : List Char) :
    offsetBy? reference backward text =
      (distant? reference.instant backward text).map (⟨·, reference.zone⟩) := by
  simp only [offsetBy?, distant?, Option.bind_eq_bind, Option.bind_assoc, Option.pure_def,
    Option.map_eq_bind, Function.comp_def]

theorem distant?_eq_none (unread : milliseconds? text = none) (now : Instant) (backward : Bool) :
    distant? now backward text = none := by
  rw [distant?, unread]
  rfl

theorem distant?_of_trim_eq {other : List Char} (same : Text.trim text = Text.trim other)
    (now : Instant) (backward : Bool) :
    distant? now backward text = distant? now backward other := by
  rw [distant?, DurationText.milliseconds?_of_trim_eq same, distant?]

/-- Opposite numbers of milliseconds are durations of opposite lengths, so that one duration tells
both distances. -/
theorem distant?_eq_some_iff {now reached : Instant} :
    distant? now backward text = some reached ↔
      ∃ length d, milliseconds? text = some length ∧ Duration.ofMilliseconds length = .ok d ∧
        reached.nanoseconds = now.nanoseconds + if backward then -d.length else d.length := by
  have added {length : Binary64} {d : Duration} (made : Duration.ofMilliseconds length = .ok d) :
      now.add? d = some reached ↔ reached.nanoseconds = now.nanoseconds + d.length :=
    Instant.add?_eq_some_iff.trans
      (and_iff_right (Duration.not_hasDayFields_of_ofMilliseconds made))
  simp only [distant?, Option.bind_eq_bind, Option.bind_eq_some_iff, toOption_eq_some_iff]
  cases backward with
  | false =>
      simp only [Bool.false_eq_true, if_false]
      constructor
      · rintro ⟨length, read, d, made, moved⟩
        exact ⟨length, d, read, made, (added made).mp moved⟩
      · rintro ⟨length, d, read, made, distance⟩
        exact ⟨length, read, d, made, (added made).mpr distance⟩
  | true =>
      simp only [if_true]
      constructor
      · rintro ⟨length, read, e, opposite, moved⟩
        rcases Duration.exists_ofMilliseconds_neg opposite with ⟨d, made, exactly⟩
        rw [Binary64.neg_neg_eq_self] at made
        have distance := (added opposite).mp moved
        exact ⟨length, d, read, made, by omega⟩
      · rintro ⟨length, d, read, made, distance⟩
        rcases Duration.exists_ofMilliseconds_neg made with ⟨e, opposite, exactly⟩
        exact ⟨length, read, e, opposite, (added opposite).mpr (by omega)⟩

theorem inked_of_map_foldCase (inked : Text.Inked (text.map foldCase)) : Text.Inked text := by
  rcases inked with ⟨small, listed, ink⟩
  rcases List.mem_map.mp listed with ⟨c, member, rfl⟩
  rw [isBlank_foldCase] at ink
  exact ⟨c, member, ink⟩

/-- A blank text denotes no distance. -/
theorem distant?_eq_none_of_blank (blank : ¬Text.Inked text) (now : Instant) (backward : Bool) :
    distant? now backward (text.map foldCase) = none :=
  distant?_eq_none
    (DurationText.milliseconds?_eq_none_of_not_inked (mt inked_of_map_foldCase blank)) now backward

theorem moment?_of_trim {trimmed : List Char} (same : Text.trim text = trimmed)
    (nonempty : trimmed ≠ []) {reference : Moment}
    (notAbsolute : absolute? zones trimmed reference = none) :
    moment? zones text reference = relative? (trimmed.map foldCase) reference := by
  simp only [moment?, same, List.isEmpty_iff, nonempty, if_false, notAbsolute, Option.or_none]

theorem absolute?_eq_none_of_head {c : Char} (head : foldCase c = 'i') (rest : List Char)
    (reference : Moment) :
    absolute? zones (c :: rest) reference = none := by
  cases read : absolute? zones (c :: rest) reference with
  | none => rfl
  | some moment =>
      rcases ends_of_absolute? read with ⟨⟨first, behind, same, opening⟩, _⟩
      cases same
      exact absurd head (foldCase_ne_of_isOpening opening)

theorem absolute?_eq_none_of_last {last : Char} (foot : isClosing last = false) (start : List Char)
    (reference : Moment) : absolute? zones (start ++ [last]) reference = none := by
  cases read : absolute? zones (start ++ [last]) reference with
  | none => rfl
  | some moment =>
      rcases ends_of_absolute? read with ⟨_, before, final, same, closing⟩
      have ends := congrArg List.getLast? same
      rw [List.getLast?_concat, List.getLast?_concat, Option.some.injEq] at ends
      rw [ends, closing] at foot
      contradiction

/-! ## In front -/

theorem trim_in (text : List Char) :
    Text.trim ("in ".toList ++ text) = 'i' :: 'n' :: Text.trimEnd (' ' :: text) := by
  change Text.trim ('i' :: 'n' :: ' ' :: text) = _
  rw [Text.trim, Text.trimStart_cons _ rfl, Text.trimEnd_cons _ rfl, Text.trimEnd_cons _ rfl]

/-- A phrase that begins with `in`. -/
theorem moment?_in (text : List Char) (reference : Moment) :
    moment? zones ("in ".toList ++ text) reference =
      (distant? reference.instant false (text.map foldCase)).map (⟨·, reference.zone⟩) := by
  have notAbsolute : absolute? zones ('i' :: 'n' :: Text.trimEnd (' ' :: text)) reference = none :=
    absolute?_eq_none_of_head rfl _ reference
  rw [moment?_of_trim (trim_in text) (List.cons_ne_nil _ _) notAbsolute]
  by_cases inked : Text.Inked text
  · have kept : Text.trimEnd (' ' :: text) = ' ' :: Text.trimEnd text :=
      Text.trimEnd_append [' '] inked
    have folded : ('i' :: 'n' :: ' ' :: Text.trimEnd text).map foldCase =
        'i' :: 'n' :: ' ' :: Text.trimEnd (text.map foldCase) := by
      rw [trimEnd_map_foldCase]
      rfl
    have spaced : ' ' ∈ 'i' :: 'n' :: ' ' :: Text.trimEnd (text.map foldCase) := by simp
    rw [kept, folded, relative?_of_not_word (not_word_of_space spaced), distance?_in,
      Option.bind_some]
    simp only [offsetBy?_eq_distant?, distant?_of_trim_eq (Text.trim_trimEnd _)]
  · have nothing : Text.trimEnd (' ' :: text) = [] := by
      apply Text.trimEnd_eq_nil_of_not_inked
      rintro ⟨c, listed, ink⟩
      rcases List.mem_cons.mp listed with rfl | later
      · contradiction
      · exact inked ⟨c, later, ink⟩
    rw [nothing, distant?_eq_none_of_blank inked, relative?_of_not_word (by decide)]
    rfl

/-! ## Behind -/

/-- An ending of phrases: what it says about the text in front of it does not depend on that text,
unless that text begins with `in`; and with it nothing is an absolute date. -/
structure Ending (ending : List Char) (backward : Bool) : Prop where
  spaced : ∃ letters, ending = ' ' :: letters
  inked : Text.Inked ending
  trimmed : Text.trimEnd ending = ending
  small : ending.map foldCase = ending
  unclosed : ∃ start last, Text.trimStart ending = start ++ [last] ∧ isClosing last = false
  lettered : ∃ c ∈ ending, c ∈ ['f', 'g']
  distance : ∀ text,
    ¬"in ".toList <+: text ++ ending -> distance? (text ++ ending) = some (backward, text)
  alone : ∀ reference, relative? (Text.trimStart ending) reference = none

theorem ending_ago : Ending " ago".toList true where
  spaced := ⟨"ago".toList, by decide⟩
  inked := ⟨'a', by decide, rfl⟩
  trimmed := by decide
  small := by decide
  unclosed := ⟨"ag".toList, 'o', by decide, by decide⟩
  lettered := ⟨'g', by decide, by decide⟩
  distance _ notIn := distance?_ago notIn
  alone _ := relative?_of_not_word (by decide) _

theorem ending_fromNow : Ending " from now".toList false where
  spaced := ⟨"from now".toList, by decide⟩
  inked := ⟨'f', by decide, rfl⟩
  trimmed := by decide
  small := by decide
  unclosed := ⟨"from no".toList, 'w', by decide, by decide⟩
  lettered := ⟨'f', by decide, by decide⟩
  distance _ notIn := distance?_fromNow notIn
  alone _ := relative?_of_not_word (by decide) _

variable {ending : List Char}

theorem Ending.trim_append (ends : Ending ending backward) (inked : Text.Inked text) :
    Text.trim (text ++ ending) = Text.trimStart text ++ ending := by
  rw [Text.trim, Text.trimStart_append inked, Text.trimEnd_append _ ends.inked, ends.trimmed]

/-- Of a blank text in front of an ending nothing is left, nor of the space between them. -/
theorem Ending.trim_append_of_blank (ends : Ending ending backward) (blank : ¬Text.Inked text) :
    Text.trim (text ++ ending) = Text.trimStart ending := by
  have blanks : ∀ c ∈ text, Text.isBlank c = true := by
    intro c listed
    rw [← Bool.not_eq_false]
    exact fun ink => blank ⟨c, listed, ink⟩
  rw [Text.trim_blanks_append blanks, Text.trim, ← Text.trimStart_trimEnd, ends.trimmed]

theorem Ending.absolute?_eq_none (ends : Ending ending backward) (start : List Char)
    (reference : Moment) :
    absolute? zones (start ++ ending) reference = none := by
  rcases ends.unclosed with ⟨middle, last, written, notClosing⟩
  have split : ending = ending.takeWhile Text.isBlank ++ (middle ++ [last]) := by
    rw [← written]
    exact List.takeWhile_append_dropWhile.symm
  rw [split, ← List.append_assoc, ← List.append_assoc]
  exact absolute?_eq_none_of_last notClosing _ reference

/-- An ending says the same of a text with a frame of its own: both are refused then, one because of
the letters of the ending and the other because of its beginning. -/
theorem Ending.relative?_append (ends : Ending ending backward) (text : List Char)
    (reference : Moment) :
    relative? (text ++ ending) reference = offsetBy? reference backward text := by
  rcases ends.spaced with ⟨letters, spaced⟩
  have space : ' ' ∈ text ++ ending := by simp [spaced]
  rw [relative?_of_not_word (not_word_of_space space)]
  by_cases framed : "in ".toList <+: text ++ ending
  · rcases framed with ⟨rest, same⟩
    have unread : milliseconds? rest = none := by
      rcases ends.lettered with ⟨c, listed, letter⟩
      have inPhrase : c ∈ "in ".toList ++ rest := same ▸ List.mem_append_right text listed
      have notIn : c ∉ "in ".toList := by
        simp only [List.mem_cons, List.not_mem_nil, or_false] at letter
        rcases letter with rfl | rfl <;> decide
      exact DurationText.milliseconds?_eq_none_of_frame
        ((List.mem_append.mp inPhrase).resolve_left notIn) letter
    have unreadText : milliseconds? text = none := by
      cases text with
      | nil =>
          rw [spaced] at same
          exact absurd (List.cons.inj same).1 (by decide)
      | cons c others =>
          rw [← (List.cons.inj same).1]
          exact DurationText.milliseconds?_eq_none_of_head others
    rw [← same]
    change offsetBy? reference false rest = _
    rw [offsetBy?_eq_distant?, offsetBy?_eq_distant?, distant?_eq_none unread,
      distant?_eq_none unreadText]
  · rw [ends.distance text framed, Option.bind_some]

/-- A phrase with an ending. -/
theorem Ending.moment?_append (ends : Ending ending backward) (text : List Char)
    (reference : Moment) :
    moment? zones (text ++ ending) reference =
      (distant? reference.instant backward (text.map foldCase)).map (⟨·, reference.zone⟩) := by
  rcases ends.spaced with ⟨letters, spaced⟩
  by_cases inked : Text.Inked text
  · have nonempty : Text.trimStart text ++ ending ≠ [] := by simp [spaced]
    rw [moment?_of_trim (ends.trim_append inked) nonempty (ends.absolute?_eq_none _ _),
      List.map_append, ← trimStart_map_foldCase, ends.small, ends.relative?_append,
      offsetBy?_eq_distant?, distant?_of_trim_eq (Text.trim_trimStart _)]
  · rcases ends.unclosed with ⟨start, last, written, notClosing⟩
    have notAbsolute : absolute? zones (start ++ [last]) reference = none :=
      absolute?_eq_none_of_last notClosing start reference
    have nonempty : start ++ [last] ≠ [] := by simp
    rw [moment?_of_trim ((ends.trim_append_of_blank inked).trans written) nonempty notAbsolute,
      ← written, ← trimStart_map_foldCase, ends.small, ends.alone, distant?_eq_none_of_blank inked,
      Option.map_none]

end DateText
end Chronometry
