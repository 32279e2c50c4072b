import Chronometry.Proofs.DateText.FoldCase
import Chronometry.DateText.Layout

/-!
# Names of months

The names of the months differ in their first three letters, in whatever case these are written, and
the short names are these letters.  So at most one name can be read at the head of a text: the one
with the letters that the text begins with.  A short name may be a full name as well, as it is for
May, but then both are names of one month.
-/

namespace Chronometry
namespace DateText

variable {text rest : List Char} {names : List String} {name : String}

/-- A text begins with a name, in whatever case. -/
def Begins (name : String) (text : List Char) : Prop :=
  name.toList.map Char.toLower <+: text.map Char.toLower

/-- The first three letters of a name in small letters, which tell the names of months apart. -/
def stem (name : String) : List Char :=
  (name.toList.map Char.toLower).take 3

theorem begins_iff :
    (name.toLower == String.ofList ((text.take name.length).map Char.toLower)) = true ↔
      Begins name text := by
  have small : name.toLower.toList = name.toList.map Char.toLower := String.toList_map
  rw [beq_iff_eq, ← String.toList_inj, String.toList_ofList, small, Begins, List.prefix_iff_eq_take,
    List.length_map, String.length_toList, List.map_take]

theorem begins_append (name : String) (rest : List Char) : Begins name (name.toList ++ rest) :=
  (List.prefix_append _ _).map _

/-- A name that a text begins with has the stem that the text has. -/
theorem stem_eq_of_begins (long : 3 ≤ name.length) (begins : Begins name text) :
    stem name = (text.map Char.toLower).take 3 := by
  have within : 3 ≤ (name.toList.map Char.toLower).length := by
    rwa [List.length_map, String.length_toList]
  rw [stem, List.prefix_iff_eq_take.mp begins, List.take_take, Nat.min_eq_left within]

/-- Names of at least three letters, without digits and spaces, which the first three letters tell
apart. -/
structure Told (names : List String) : Prop where
  long : ∀ name ∈ names, 3 ≤ name.length
  lettered : ∀ name ∈ names,
    (name.toList.map Char.toLower).all (fun c => !c.isDigit && c != ' ') = true
  apart : names.Pairwise fun name other => stem name ≠ stem other

theorem told_monthNames : Told Civil.monthNames where
  long := by decide
  lettered := by decide
  apart := by decide

theorem told_abbreviated : Told (Civil.monthNames.map Civil.abbreviated) where
  long := by decide
  lettered := by decide
  apart := by decide

/-- Of the names only the one with the stem of the text can be read. -/
theorem Told.readName_eq (told : Told names) {index : Nat} (listed : index < names.length)
    (same : stem names[index] = (text.map Char.toLower).take 3) :
    (Begins names[index] text ->
      readName names text = some (index + 1, text.drop names[index].length)) ∧
      (¬Begins names[index] text -> readName names text = none) := by
  have only {other : Nat} (inNames : other < names.length) (begins : Begins names[other] text) :
      other = index := by
    have stems : stem names[other] = stem names[index] :=
      (stem_eq_of_begins (told.long _ (List.getElem_mem inNames)) begins).trans same.symm
    have apart := List.pairwise_iff_getElem.mp told.apart
    rcases Nat.lt_trichotomy other index with earlier | equal | later
    · exact absurd stems (apart _ _ inNames listed earlier)
    · exact equal
    · exact absurd stems.symm (apart _ _ listed inNames later)
  constructor
  · intro begins
    have found : names.findIdx? (fun name =>
        name.toLower == String.ofList ((text.take name.length).map Char.toLower)) = some index := by
      refine List.findIdx?_eq_some_iff_getElem.mpr
        ⟨listed, begins_iff.mpr begins, fun other earlier begun => ?_⟩
      exact absurd (only (Nat.lt_trans earlier listed) (begins_iff.mp begun)) (Nat.ne_of_lt earlier)
    have name : names.getD index "" = names[index] := by
      rw [List.getD_eq_getElem?_getD, List.getElem?_eq_getElem listed, Option.getD_some]
    simp only [readName, found, name]
  · intro other
    have missing : names.findIdx? (fun name =>
        name.toLower == String.ofList ((text.take name.length).map Char.toLower)) = none := by
      refine List.findIdx?_eq_none_iff.mpr fun name member => ?_
      rcases List.getElem_of_mem member with ⟨found, inNames, rfl⟩
      refine Bool.eq_false_iff.mpr fun begun => ?_
      have begins := begins_iff.mp begun
      cases only inNames begins
      exact other begins
    simp only [readName, missing]

/-- A name is read in front of whatever follows it. -/
theorem Told.readName_append (told : Told names) {index : Nat} (listed : index < names.length)
    (rest : List Char) :
    readName names (names[index].toList ++ rest) = some (index + 1, rest) := by
  have begins := begins_append names[index] rest
  have same := stem_eq_of_begins (told.long _ (List.getElem_mem listed)) begins
  rw [(told.readName_eq listed same).1 begins, List.drop_left' String.length_toList]

theorem Told.readName_of_isDigit (told : Told names) {c : Char} (digit : c.isDigit = true)
    (rest : List Char) :
    readName names (c :: rest) = none := by
  have missing : names.findIdx? (fun name =>
      name.toLower == String.ofList (((c :: rest).take name.length).map Char.toLower)) = none := by
    refine List.findIdx?_eq_none_iff.mpr fun name member => Bool.eq_false_iff.mpr fun begun => ?_
    have begins : Begins name (c :: rest) := begins_iff.mp begun
    have lettered := told.lettered name member
    cases letters : name.toList.map Char.toLower with
    | nil =>
        have long := told.long name member
        rw [← String.length_toList, ← List.length_map Char.toLower, letters] at long
        contradiction
    | cons letter others =>
        rw [Begins, letters, List.map_cons, List.cons_prefix_cons] at begins
        rw [letters, begins.1, List.all_cons, toLower_of_isDigit digit, digit] at lettered
        contradiction
  simp only [readName, missing]

/-- What stands in front of a character that it does not have. -/
theorem length_le_of_prefix {word front : List Char} {c : Char}
    (begins : word <+: front ++ c :: rest) (other : c ∉ word) :
    word.length ≤ front.length := by
  apply Nat.le_of_not_lt
  intro longer
  have stands : word[front.length] = c := by
    rw [begins.getElem longer, List.getElem_append_right (Nat.le_refl _)]
    simp
  exact other (stands ▸ List.getElem_mem longer)

/-- The short name of a month in front of a space is no full name, or it is the full name of the
month. -/
theorem eq_of_readName_abbreviated {index month : Nat} {after : List Char}
    (listed : index < Civil.monthNames.length)
    (read : readName Civil.monthNames
      ((Civil.abbreviated Civil.monthNames[index]).toList ++ ' ' :: rest) = some (month, after)) :
    month = index + 1 ∧ after = ' ' :: rest := by
  have long := told_monthNames.long _ (List.getElem_mem listed)
  have lettered := told_monthNames.lettered _ (List.getElem_mem listed)
  generalize full : Civil.monthNames[index] = name at read long lettered
  have short : (name.toList.take 3).length = 3 := by
    rw [List.length_take, String.length_toList, Nat.min_eq_left long]
  have same : stem Civil.monthNames[index] =
      ((name.toList.take 3 ++ ' ' :: rest).map Char.toLower).take 3 := by
    rw [List.map_append, List.take_left' (by rw [List.length_map, short]), full, stem,
      List.map_take]
  rw [Civil.abbreviated, String.toList_ofList] at read
  rcases told_monthNames.readName_eq listed same with ⟨own, other⟩
  by_cases begins : Begins Civil.monthNames[index] (name.toList.take 3 ++ ' ' :: rest)
  · rw [own begins] at read
    have within : name.length ≤ 3 := by
      have unspaced : ' ' ∉ name.toList.map Char.toLower := by
        intro space
        have letter := List.all_eq_true.mp lettered ' ' space
        contradiction
      rw [Begins, full, List.map_append, List.map_cons] at begins
      have bounded := length_le_of_prefix begins unspaced
      rwa [List.length_map, List.length_map, String.length_toList, short] at bounded
    cases read
    rw [full, Nat.le_antisymm within long, List.drop_left' short]
    exact ⟨rfl, rfl⟩
  · rw [other begins] at read
    contradiction

/-- The month of a date has a name in the list. -/
theorem exists_monthName (date : Civil.Date) :
    ∃ index, ∃ listed : index < Civil.monthNames.length,
      index + 1 = date.month ∧ Civil.monthName date.month = Civil.monthNames[index] := by
  have positive := date.month_pos
  have listed : date.month - 1 < Civil.monthNames.length := by
    have bounded := date.month_le
    change date.month - 1 < 12
    omega
  refine ⟨date.month - 1, listed, by omega, ?_⟩
  rw [Civil.monthName, List.getD_eq_getElem?_getD, List.getElem?_eq_getElem listed,
    Option.getD_some]

end DateText
end Chronometry
