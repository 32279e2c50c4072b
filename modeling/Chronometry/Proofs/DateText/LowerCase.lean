import Chronometry.Proofs.DateText.FoldCase
import Chronometry.Proofs.DateText.Phrase
import Chronometry.Proofs.DurationText.Characters

/-!
# Small letters beyond the alphabet

Lower-casing a whole text changes more than the letters of the alphabet: other scripts have small
letters too, the small form of a letter can depend on its place in a word, and it can have more than
one character.  None of this can make a phrase, or unmake one.  Phrases are written in a few
characters, and the form of a character that is not among them still has a character that is not
among them.  Folding one character at a time is therefore as good as any lower-casing.
-/

namespace Chronometry
namespace DateText

open DurationText (LengthCharacter)
open Text (isBlank)

/-- A character that occurs in no phrase, in whatever case. -/
structure Foreign (c : Char) : Prop where
  notAscii : 128 ≤ c.toNat
  notBlank : isBlank c = false
  notMicro : c ≠ '\u00b5'
  notKelvin : c ≠ '\u212a'

/-- The small form of a character, as far as it is known here: letters of the alphabet and the
Kelvin sign have their small letters, what has no case is kept, and something foreign is left of a
foreign character. -/
inductive SmallForm (c : Char) : List Char -> Prop where
  | ascii (ascii : c.toNat < 128) : SmallForm c [c.toLower]
  | blank (blank : isBlank c = true) : SmallForm c [c]
  | micro (micro : c = '\u00b5') : SmallForm c [c]
  | kelvin (kelvin : c = '\u212a') : SmallForm c ['k']
  | foreign {form : List Char} (foreign : Foreign c) (kept : ∃ d ∈ form, Foreign d) :
      SmallForm c form

/-- A text in small letters: the small forms of its characters one after another, whichever they
are. -/
inductive Lowercase : List Char -> List Char -> Prop where
  | nil : Lowercase [] []
  | cons {c : Char} {text form small : List Char} (first : SmallForm c form)
      (others : Lowercase text small) : Lowercase (c :: text) (form ++ small)

theorem ascii_or_known_or_foreign (c : Char) :
    c.toNat < 128 ∨ isBlank c = true ∨ c = '\u00b5' ∨ c = '\u212a' ∨ Foreign c := by
  by_cases ascii : c.toNat < 128
  · exact Or.inl ascii
  · cases blank : isBlank c with
    | true => exact Or.inr (Or.inl rfl)
    | false =>
        by_cases micro : c = '\u00b5'
        · exact Or.inr (Or.inr (Or.inl micro))
        · by_cases kelvin : c = '\u212a'
          · exact Or.inr (Or.inr (Or.inr (Or.inl kelvin)))
          · exact Or.inr (Or.inr (Or.inr (Or.inr ⟨by omega, blank, micro, kelvin⟩)))

theorem foldCase_of_ascii {c : Char} (ascii : c.toNat < 128) : foldCase c = c.toLower := by
  apply foldCase_of_ne_kelvin
  rintro rfl
  exact absurd ascii (by decide)

theorem foldCase_of_foreign {c : Char} (foreign : Foreign c) : foldCase c = c := by
  rcases foldCase_cases c with same | ⟨capital, _⟩ | ⟨kelvin, _⟩
  · exact same
  · have bounds := toNat_of_isUpper capital
    have outside := foreign.notAscii
    omega
  · exact absurd kelvin foreign.notKelvin

/-- Folding gives every character a small form. -/
theorem smallForm_foldCase (c : Char) : SmallForm c [foldCase c] := by
  rcases ascii_or_known_or_foreign c with ascii | blank | rfl | rfl | foreign
  · rw [foldCase_of_ascii ascii]
    exact .ascii ascii
  · rw [foldCase_of_isBlank blank]
    exact .blank blank
  · exact .micro rfl
  · exact .kelvin rfl
  · rw [foldCase_of_foreign foreign]
    exact .foreign foreign ⟨c, List.mem_cons_self, foreign⟩

theorem lowercase_map_foldCase (text : List Char) : Lowercase text (text.map foldCase) := by
  induction text with
  | nil => exact .nil
  | cons c rest inductionHypothesis => exact .cons (smallForm_foldCase c) inductionHypothesis

/-- The small form of a character is the folded character, unless it is foreign. -/
theorem SmallForm.eq_or_foreign {c : Char} {form : List Char} (small : SmallForm c form) :
    form = [foldCase c] ∨ Foreign (foldCase c) ∧ ∃ d ∈ form, Foreign d := by
  cases small with
  | ascii ascii => exact Or.inl (by rw [foldCase_of_ascii ascii])
  | blank blank => exact Or.inl (by rw [foldCase_of_isBlank blank])
  | micro micro => exact Or.inl (by rw [micro]; rfl)
  | kelvin kelvin => exact Or.inl (by rw [kelvin]; rfl)
  | foreign foreign kept => exact Or.inr ⟨(foldCase_of_foreign foreign).symm ▸ foreign, kept⟩

/-- By induction on the text: the two texts part only where something foreign is left in both of
them. -/
theorem Lowercase.eq_or_foreign {text small : List Char} (lowered : Lowercase text small) :
    small = text.map foldCase ∨ (∃ d ∈ text.map foldCase, Foreign d) ∧ ∃ d ∈ small, Foreign d := by
  induction lowered with
  | nil => exact Or.inl rfl
  | cons first others inductionHypothesis =>
      rcases first.eq_or_foreign with rfl | ⟨foreign, d, listed, foreignToo⟩
      · rcases inductionHypothesis
          with rfl | ⟨⟨d, listed, foreign⟩, e, listedToo, foreignToo⟩
        · exact Or.inl rfl
        · exact Or.inr ⟨⟨d, List.mem_cons_of_mem _ listed, foreign⟩, e,
            List.mem_append_right _ listedToo, foreignToo⟩
      · exact Or.inr
          ⟨⟨_, List.mem_cons_self, foreign⟩, d, List.mem_append_left _ listed, foreignToo⟩

/-! ## Phrases -/

theorem not_foreign_of_ascii {c : Char} (ascii : c.toNat < 128) : ¬Foreign c :=
  fun foreign => absurd foreign.notAscii (Nat.not_le.mpr ascii)

/-- A text without foreign characters, by their code points. -/
abbrev IsAscii (text : List Char) : Prop :=
  text.all (fun c => c.toNat < 128) = true

theorem IsAscii.not_foreign {text : List Char} (ascii : IsAscii text) {c : Char}
    (listed : c ∈ text) :
    ¬Foreign c :=
  not_foreign_of_ascii (of_decide_eq_true (List.all_eq_true.mp ascii c listed))

theorem not_foreign_of_lengthCharacter {c : Char} (character : LengthCharacter c) :
    ¬Foreign c := by
  intro foreign
  rcases character.digit_or_blank_or_mark with digit | blank | mark
  · exact not_foreign_of_ascii
      (Nat.lt_of_le_of_lt (isDigit_iff_toNat.mp digit).2 (by decide)) foreign
  · rw [foreign.notBlank] at blank
    contradiction
  · have every : DurationText.lengthMarks.all (fun c => c.toNat < 128 || c == '\u00b5') = true := by
      decide
    have either := List.all_eq_true.mp every c mark
    rw [Bool.or_eq_true, decide_eq_true_eq, beq_iff_eq] at either
    rcases either with ascii | micro
    · exact not_foreign_of_ascii ascii foreign
    · exact foreign.notMicro micro

/-- No phrase has a foreign character in it: the words and the frames have none, and neither has a
duration text. -/
theorem relative?_eq_none_of_foreign {phrase : List Char} {c : Char} (listed : c ∈ phrase)
    (foreign : Foreign c) (reference : Moment) :
    relative? phrase reference = none := by
  apply Option.eq_none_iff_forall_ne_some.mpr
  intro moment read
  rcases word_or_framed_of_relative? read with word | ⟨text, counted, framed⟩
  · have every : ∀ text ∈ phraseWords.map String.toList, IsAscii text := by decide
    exact (every _ (toList_mem_of_word word)).not_foreign listed foreign
  · have beside (frame : String) (ascii : IsAscii frame.toList)
        (either : c ∈ frame.toList ∨ c ∈ text) : c ∈ text :=
      either.resolve_left fun inFrame => ascii.not_foreign inFrame foreign
    have inText : c ∈ text := by
      rcases framed with rfl | rfl | rfl
      · exact beside "in " (by decide) (List.mem_append.mp listed)
      · exact beside " ago" (by decide) (List.mem_append.mp listed).symm
      · exact beside " from now" (by decide) (List.mem_append.mp listed).symm
    rcases Option.isSome_iff_exists.mp counted with ⟨length, isLength⟩
    exact not_foreign_of_lengthCharacter
      (DurationText.lengthCharacter_of_milliseconds? isLength c inText) foreign

/-- Every lower-casing of a text is the same phrase. -/
theorem relative?_of_lowercase {text small : List Char} (lowered : Lowercase text small)
    (reference : Moment) :
    relative? small reference = relative? (text.map foldCase) reference := by
  rcases lowered.eq_or_foreign with rfl | ⟨⟨d, listed, foreign⟩, e, listedToo, foreignToo⟩
  · rfl
  · rw [relative?_eq_none_of_foreign listed foreign,
      relative?_eq_none_of_foreign listedToo foreignToo]

end DateText
end Chronometry
