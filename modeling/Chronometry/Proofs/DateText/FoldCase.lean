import Chronometry.DateText.Basic
import Chronometry.Proofs.Text.Trim

/-!
# Small letters

Phrases are read in small letters.  What is no letter stays as it is, and no letter becomes a digit
or a blank, so that a text is trimmed and split at its digits in the same places before and after.
Numbers are read in any case by themselves.
-/

namespace Chronometry
namespace DateText

open Text (isBlank)

/-! ## Characters -/

theorem toLower_of_not_isUpper {c : Char} (small : c.isUpper = false) : c.toLower = c :=
  dif_neg (of_decide_eq_false small)

theorem toNat_of_isUpper {c : Char} (capital : c.isUpper = true) :
    65 ≤ c.toNat ∧ c.toNat ≤ 90 :=
  of_decide_eq_true capital

theorem toNat_of_isLower {c : Char} (small : c.isLower = true) :
    97 ≤ c.toNat ∧ c.toNat ≤ 122 := by
  rcases Bool.and_eq_true_iff.mp small with ⟨low, high⟩
  exact ⟨of_decide_eq_true low, of_decide_eq_true high⟩

theorem toNat_toLower {c : Char} (capital : c.isUpper = true) : c.toLower.toNat = c.toNat + 32 := by
  have bounds := toNat_of_isUpper capital
  have lowered : c.toLower.val = c.val + 32 :=
    congrArg Char.val (dif_pos (of_decide_eq_true capital))
  change c.toLower.val.toNat = c.val.toNat + 32
  rw [lowered]
  change 65 ≤ c.val.toNat ∧ c.val.toNat ≤ 90 at bounds
  rw [UInt32.toNat_add]
  change (c.val.toNat + 32) % 4294967296 = c.val.toNat + 32
  omega

theorem foldCase_of_ne_kelvin {c : Char} (other : c ≠ '\u212a') : foldCase c = c.toLower :=
  if_neg other

/-- A character is changed by neither rule, by the rule for capitals, or by the rule for the Kelvin
sign. -/
theorem foldCase_cases (c : Char) :
    foldCase c = c ∨ (c.isUpper = true ∧ (foldCase c).toNat = c.toNat + 32) ∨
      (c = '\u212a' ∧ foldCase c = 'k') := by
  by_cases kelvin : c = '\u212a'
  · exact Or.inr (Or.inr ⟨kelvin, kelvin ▸ rfl⟩)
  · rw [foldCase_of_ne_kelvin kelvin]
    cases capital : c.isUpper with
    | true => exact Or.inr (Or.inl ⟨rfl, toNat_toLower capital⟩)
    | false => exact Or.inl (toLower_of_not_isUpper capital)

theorem isBlank_foldCase (c : Char) : isBlank (foldCase c) = isBlank c := by
  rcases foldCase_cases c with same | ⟨capital, moved⟩ | ⟨rfl, _⟩
  · rw [same]
  · have bounds := toNat_of_isUpper capital
    rw [Bool.eq_iff_iff]
    simp only [isBlank, Text.blankRanges, List.any_cons, List.any_nil, Bool.or_false,
      Bool.or_eq_true, Bool.and_eq_true, decide_eq_true_eq, moved]
    omega
  · rfl

theorem isDigit_iff_toNat {c : Char} : c.isDigit = true ↔ 48 ≤ c.toNat ∧ c.toNat ≤ 57 := by
  simp only [Char.isDigit, Bool.and_eq_true, decide_eq_true_eq, ge_iff_le, UInt32.le_iff_toNat_le]
  exact Iff.rfl

theorem isDigit_foldCase (c : Char) : (foldCase c).isDigit = c.isDigit := by
  rcases foldCase_cases c with same | ⟨capital, moved⟩ | ⟨rfl, _⟩
  · rw [same]
  · have bounds := toNat_of_isUpper capital
    rw [Bool.eq_iff_iff, isDigit_iff_toNat, isDigit_iff_toNat, moved]
    omega
  · rfl

theorem foldCase_of_isDigit {c : Char} (digit : c.isDigit = true) : foldCase c = c := by
  rcases foldCase_cases c with same | ⟨capital, _⟩ | ⟨rfl, _⟩
  · exact same
  · have bounds := toNat_of_isUpper capital
    have range := isDigit_iff_toNat.mp digit
    omega
  · contradiction

theorem toLower_of_isDigit {c : Char} (digit : c.isDigit = true) : c.toLower = c := by
  by_cases kelvin : c = '\u212a'
  · rw [kelvin] at digit
    contradiction
  · rw [← foldCase_of_ne_kelvin kelvin, foldCase_of_isDigit digit]

theorem foldCase_of_isBlank {c : Char} (blank : isBlank c = true) : foldCase c = c := by
  rcases foldCase_cases c with same | ⟨capital, _⟩ | ⟨rfl, _⟩
  · exact same
  · have bounds := toNat_of_isUpper capital
    simp only [isBlank, Text.blankRanges, List.any_cons, List.any_nil, Bool.or_false,
      Bool.or_eq_true, Bool.and_eq_true, decide_eq_true_eq] at blank
    omega
  · contradiction

/-- Nothing else becomes a character that is no letter. -/
theorem foldCase_eq_iff {c target : Char} (letterless : target.isAlpha = false)
    (other : target ≠ '\u212a') :
    foldCase c = target ↔ c = target := by
  replace letterless : target.isUpper = false ∧ target.isLower = false :=
    Bool.or_eq_false_iff.mp letterless
  have kept : foldCase target = target := by
    rw [foldCase_of_ne_kelvin other, toLower_of_not_isUpper letterless.1]
  constructor
  · rintro rfl
    rcases foldCase_cases c with same | ⟨capital, moved⟩ | ⟨rfl, _⟩
    · exact same.symm
    · have bounds := toNat_of_isUpper capital
      have small : (foldCase c).isLower = true := by
        have range : 97 ≤ (foldCase c).toNat ∧ (foldCase c).toNat ≤ 122 := by omega
        exact Bool.and_eq_true_iff.mpr ⟨decide_eq_true range.1, decide_eq_true range.2⟩
      exact absurd small (Bool.eq_false_iff.mp letterless.2)
    · exact absurd letterless.2 (by decide)
  · rintro rfl
    exact kept

/-- The letter that begins an exponent is the same letter in any case. -/
theorem foldCase_eq_exponent_iff (c : Char) :
    (foldCase c = 'e' ∨ foldCase c = 'E') ↔ (c = 'e' ∨ c = 'E') := by
  rcases foldCase_cases c with same | ⟨capital, moved⟩ | ⟨rfl, _⟩
  · rw [same]
  · have bounds := toNat_of_isUpper capital
    simp only [← Char.toNat_inj, moved]
    change (c.toNat + 32 = 101 ∨ c.toNat + 32 = 69) ↔ (c.toNat = 101 ∨ c.toNat = 69)
    omega
  · decide

/-- Folding a letter twice is folding it once, but for the Kelvin sign and what it becomes. -/
theorem toLower_foldCase_eq_iff {c target : Char} (notK : target ≠ 'k')
    (notKelvin : target ≠ '\u212a') :
    (foldCase c).toLower = target ↔ c.toLower = target := by
  by_cases kelvin : c = '\u212a'
  · subst kelvin
    constructor
    · intro same
      exact absurd same.symm notK
    · intro same
      exact absurd same.symm notKelvin
  · rw [foldCase_of_ne_kelvin kelvin]
    cases capital : c.isUpper with
    | false => rw [toLower_of_not_isUpper capital, toLower_of_not_isUpper capital]
    | true =>
        have small : c.toLower.isUpper = false := by
          have bounds := toNat_of_isUpper capital
          apply decide_eq_false
          change ¬(65 ≤ c.toLower.toNat ∧ c.toLower.toNat ≤ 90)
          rw [toNat_toLower capital]
          omega
        rw [toLower_of_not_isUpper small]

/-! ## Texts -/

/-- A run of characters of a class that knows no case is the same run after folding. -/
theorem takeWhile_map_foldCase {wanted : Char -> Bool}
    (caseless : ∀ c, wanted (foldCase c) = wanted c) (text : List Char) :
    (text.map foldCase).takeWhile wanted = (text.takeWhile wanted).map foldCase := by
  have same : wanted ∘ foldCase = wanted := funext caseless
  rw [List.takeWhile_map, same]

theorem dropWhile_map_foldCase {wanted : Char -> Bool}
    (caseless : ∀ c, wanted (foldCase c) = wanted c) (text : List Char) :
    (text.map foldCase).dropWhile wanted = (text.dropWhile wanted).map foldCase := by
  have same : wanted ∘ foldCase = wanted := funext caseless
  rw [List.dropWhile_map, same]

theorem map_foldCase_eq_self {text : List Char} (kept : ∀ c ∈ text, foldCase c = c) :
    text.map foldCase = text := by
  rw [List.map_congr_left kept, List.map_id']

theorem trimStart_map_foldCase (text : List Char) :
    Text.trimStart (text.map foldCase) = (Text.trimStart text).map foldCase :=
  dropWhile_map_foldCase isBlank_foldCase text

theorem trimEnd_map_foldCase (text : List Char) :
    Text.trimEnd (text.map foldCase) = (Text.trimEnd text).map foldCase := by
  rw [Text.trimEnd, ← List.map_reverse, trimStart_map_foldCase, ← List.map_reverse,
    Text.trimEnd]

theorem trim_map_foldCase (text : List Char) :
    Text.trim (text.map foldCase) = (Text.trim text).map foldCase := by
  rw [Text.trim, trimStart_map_foldCase, trimEnd_map_foldCase, Text.trim]

theorem digits_map_foldCase (text : List Char) :
    (text.map foldCase).takeWhile Char.isDigit = text.takeWhile Char.isDigit := by
  rw [takeWhile_map_foldCase isDigit_foldCase]
  apply map_foldCase_eq_self
  intro c listed
  exact foldCase_of_isDigit (List.all_eq_true.mp List.all_takeWhile c listed)

end DateText
end Chronometry
