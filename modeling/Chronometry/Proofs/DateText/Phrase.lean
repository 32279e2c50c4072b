import Chronometry.DateText.Basic

/-!
# What a phrase is not

A text is taken for a phrase before it is taken for a date.  A phrase is one of four words, or it
has one of three forms: it begins with `in` and a space, or it ends with `ago` or with `from now`
behind a space.  The statements here say how to tell from the first and the last characters of a
text that it is none of these, or which one it is.
-/

namespace Chronometry
namespace DateText

/-- The phrases of a single word. -/
def phraseWords : List String := ["now", "today", "tomorrow", "yesterday"]

/-- What is no word is told by its distance. -/
theorem relative?_of_not_word {phrase : List Char} (notWord : String.ofList phrase ∉ phraseWords)
    (reference : Moment) :
    relative? phrase reference =
      (distance? phrase).bind fun (backward, text) => offsetBy? reference backward text := by
  simp only [phraseWords, List.mem_cons, List.not_mem_nil, or_false, not_or] at notWord
  simp only [relative?, notWord, or_self, if_false]
  rfl

theorem toList_mem_of_word {phrase : List Char} (word : String.ofList phrase ∈ phraseWords) :
    phrase ∈ phraseWords.map String.toList :=
  List.mem_map.mpr ⟨_, word, String.toList_ofList⟩

theorem not_word_of_space {phrase : List Char} (space : ' ' ∈ phrase) :
    String.ofList phrase ∉ phraseWords := by
  intro word
  have unspaced : ∀ text ∈ phraseWords.map String.toList, ' ' ∉ text := by decide
  exact unspaced _ (toList_mem_of_word word) space

/-! ## Distances -/

theorem isSuffixOf_append (start ending : List Char) : ending.isSuffixOf (start ++ ending) = true :=
  List.isSuffixOf_iff_suffix.mpr (List.suffix_append start ending)

/-- Texts that end in different characters have no common ending. -/
theorem isSuffixOf_concat_eq_false {last other : Char} (different : last ≠ other)
    (start text : List Char) :
    (text ++ [last]).isSuffixOf (start ++ [other]) = false := by
  rw [Bool.eq_false_iff]
  intro suffix
  rcases List.isSuffixOf_iff_suffix.mp suffix with ⟨before, same⟩
  have ends := congrArg List.getLast? same
  rw [← List.append_assoc, List.getLast?_concat, List.getLast?_concat, Option.some.injEq] at ends
  exact different ends

theorem distance?_in (text : List Char) :
    distance? ('i' :: 'n' :: ' ' :: text) = some (false, text) := rfl

/-- Without `in` at its beginning a phrase is told by its ending. -/
theorem distance?_of_not_in {phrase : List Char} (notIn : ¬"in ".toList <+: phrase) :
    distance? phrase =
      (if " ago".toList.isSuffixOf phrase then some (true, phrase.take (phrase.length - 4))
      else if " from now".toList.isSuffixOf phrase then
        some (false, phrase.take (phrase.length - 9))
      else none) := by
  unfold distance?
  split
  next rest => exact absurd (List.prefix_append "in ".toList rest) notIn
  next =>
    change Option.or (Option.map _ (if _ then some (phrase.take (phrase.length - 4)) else none))
      (Option.map _ (if _ then some (phrase.take (phrase.length - 9)) else none)) = _
    split
    · rfl
    · split <;> rfl

/-- What stands in front of an ending of known length. -/
theorem take_length_sub (start ending : List Char) {length : Nat} (known : ending.length = length) :
    (start ++ ending).take ((start ++ ending).length - length) = start := by
  rw [List.length_append, known, Nat.add_sub_cancel, List.take_left]

/-- What is left in front of an ending that was cut off. -/
theorem eq_append_of_cut {phrase start : List Char} {ending : String}
    (cut : (if ending.toList.isSuffixOf phrase then
      some (phrase.take (phrase.length - ending.length)) else none) = some start) :
    phrase = start ++ ending.toList := by
  split at cut
  next suffix =>
    rcases List.isSuffixOf_iff_suffix.mp suffix with ⟨before, rfl⟩
    rw [take_length_sub before ending.toList String.length_toList] at cut
    rw [Option.some.inj cut]
  next => contradiction

/-- A phrase of distance is its text within one of the three frames. -/
theorem distance?_eq_some {phrase text : List Char} {backward : Bool}
    (found : distance? phrase = some (backward, text)) :
    phrase = "in ".toList ++ text ∨ phrase = text ++ " ago".toList ∨
      phrase = text ++ " from now".toList := by
  unfold distance? at found
  split at found
  next rest =>
    cases found
    exact Or.inl rfl
  next =>
    rcases Option.or_eq_some_iff.mp found with ago | ⟨_, fromNow⟩
    · rcases Option.map_eq_some_iff.mp ago with ⟨start, cut, same⟩
      cases same
      exact Or.inr (Or.inl (eq_append_of_cut cut))
    · rcases Option.map_eq_some_iff.mp fromNow with ⟨start, cut, same⟩
      cases same
      exact Or.inr (Or.inr (eq_append_of_cut cut))

/-- A phrase is one of the words, or a duration text within one of the three frames. -/
theorem word_or_framed_of_relative? {phrase : List Char} {reference moment : Moment}
    (read : relative? phrase reference = some moment) :
    String.ofList phrase ∈ phraseWords ∨ ∃ text, (DurationText.milliseconds? text).isSome = true ∧
      (phrase = "in ".toList ++ text ∨ phrase = text ++ " ago".toList ∨
        phrase = text ++ " from now".toList) := by
  by_cases word : String.ofList phrase ∈ phraseWords
  · exact Or.inl word
  · rw [relative?_of_not_word word] at read
    rcases Option.bind_eq_some_iff.mp read with ⟨⟨backward, text⟩, found, moved⟩
    rcases Option.bind_eq_some_iff.mp moved with ⟨length, counted, _⟩
    exact Or.inr ⟨text, Option.isSome_of_eq_some counted, distance?_eq_some found⟩

/-- What is no phrase is told by its two ends: phrases of distance begin with `in`, or they end in
the last letter of `ago` or `now`, and the words end in that of `now` or of `today`. -/
theorem relative?_eq_none_of_ends {phrase : List Char} (head : phrase.head? ≠ some 'i')
    (foot : ∀ last ∈ phrase.getLast?, last ∉ ['o', 'w', 'y']) (reference : Moment) :
    relative? phrase reference = none := by
  apply Option.eq_none_iff_forall_ne_some.mpr
  intro moment read
  rcases word_or_framed_of_relative? read with word | ⟨text, _, rfl | rfl | rfl⟩
  · have ends : ∀ text ∈ phraseWords.map String.toList,
        text.getLast? ∈ ['o', 'w', 'y'].map some := by decide
    rcases List.mem_map.mp (ends _ (toList_mem_of_word word)) with ⟨last, letter, isLast⟩
    exact foot last isLast.symm letter
  · exact head rfl
  · refine absurd (by decide) (foot 'o' ?_)
    rw [List.getLast?_append]
    rfl
  · refine absurd (by decide) (foot 'w' ?_)
    rw [List.getLast?_append]
    rfl

theorem distance?_ago {text : List Char} (notIn : ¬"in ".toList <+: text ++ " ago".toList) :
    distance? (text ++ " ago".toList) = some (true, text) := by
  have before := take_length_sub text " ago".toList (show _ = 4 by decide)
  rw [distance?_of_not_in notIn, if_pos (isSuffixOf_append _ _), before]

theorem distance?_fromNow {text : List Char}
    (notIn : ¬"in ".toList <+: text ++ " from now".toList) :
    distance? (text ++ " from now".toList) = some (false, text) := by
  have before := take_length_sub text " from now".toList (show _ = 9 by decide)
  have notAgo :=
    isSuffixOf_concat_eq_false (show 'o' ≠ 'w' by decide) (text ++ " from no".toList) " ag".toList
  have ago : " ago".toList = " ag".toList ++ ['o'] := by decide
  have fromNow : " from now".toList = " from no".toList ++ ['w'] := by decide
  rw [List.append_assoc, ← ago, ← fromNow] at notAgo
  rw [distance?_of_not_in notIn, notAgo, if_neg Bool.false_ne_true,
    if_pos (isSuffixOf_append _ _), before]

end DateText
end Chronometry
