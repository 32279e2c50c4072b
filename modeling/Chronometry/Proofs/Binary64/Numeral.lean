import Chronometry.Proofs.DurationText.SmallLetters
import Chronometry.Proofs.Text.Runs
import Chronometry.Proofs.Text.WrittenDigits

/-!
# Numerals

A numeral is digits with at most one point among them.  Of the texts that consist of digits and
points, the numerals with a digit are those that denote numbers: the digits before the first point
are read, then the digits behind it, and a second point cannot be the beginning of an exponent.
-/

namespace Chronometry
namespace Binary64

variable {c : Char} {numeral whole rest : List Char} {fraction : Option (List Char)} {x : Binary64}

/-- The digits of a fraction behind their point, or nothing if there is no point. -/
def pointed : Option (List Char) -> List Char
  | none => []
  | some digits => '.' :: digits

/-- A text is the digits on the two sides of its point. -/
structure Splits (numeral whole : List Char) (fraction : Option (List Char)) : Prop where
  spelled : numeral = whole ++ pointed fraction
  wholeDigits : ∀ c ∈ whole, c.isDigit = true
  fractionDigits : ∀ c ∈ fraction.getD [], c.isDigit = true

/-- The number that digits on the two sides of a point denote. -/
def ofDigits (whole : List Char) (fraction : Option (List Char)) : Binary64 :=
  ofDecimal false (Text.natOfDigits (whole ++ fraction.getD [])) (-(fraction.getD []).length)

/-! ## The first character -/

/-- What begins with a digit or a point can only be a number in digits. -/
theorem ofText?_of_numeral (begins : c.isDigit = true ∨ c = '.') (rest : List Char) :
    ofText? (c :: rest) = decimal? false (c :: rest) := by
  have unlike : ∀ other : Char, other.isDigit = false ∧ other ≠ '.' -> c ≠ other := by
    rintro other ⟨notDigit, notPoint⟩
    rcases begins with digit | rfl
    · exact Text.ne_of_isDigit digit other notDigit
    · exact Ne.symm notPoint
  have kept : c.toLower = c := by
    rcases begins with digit | rfl
    · exact DateText.toLower_of_isDigit digit
    · rfl
  have notWord : ∀ (word : String) (first : Char), word.toList.head? = some first ->
      first.isDigit = false ∧ first ≠ '.' ->
        String.ofList ((c :: rest).map Char.toLower) ≠ word := by
    intro word first begin other same
    rw [← String.toList_inj, String.toList_ofList, List.map_cons, kept] at same
    rw [← same] at begin
    exact unlike first other (Option.some.inj begin)
  have sign := readSign_of_unsigned rest (unlike '-' (by decide)) (unlike '+' (by decide))
  have inf := notWord "inf" 'i' rfl (by decide)
  have infinity := notWord "infinity" 'i' rfl (by decide)
  have nan := notWord "nan" 'n' rfl (by decide)
  simp only [ofText?, sign, inf, infinity, nan, or_self, if_false]

/-! ## Numerals denote numbers -/

theorem Splits.numerals (splits : Splits numeral whole fraction) (listed : c ∈ numeral) :
    c.isDigit = true ∨ c = '.' := by
  rw [splits.spelled, List.mem_append] at listed
  rcases listed with before | behind
  · exact Or.inl (splits.wholeDigits c before)
  · cases fraction with
    | none => contradiction
    | some digits =>
        rcases List.mem_cons.mp behind with point | digit
        · exact Or.inr point
        · exact Or.inl (splits.fractionDigits c digit)

/-- The digits end in front of a text. -/
structure EndsDigits (fraction : Option (List Char)) (rest : List Char) : Prop where
  stops : Text.Stops Char.isDigit rest
  pointless : fraction = none -> rest.head? ≠ some '.'

theorem endsDigits_nil (fraction : Option (List Char)) : EndsDigits fraction [] where
  stops := Text.stops_nil _
  pointless _ := nofun

theorem EndsDigits.spanDigits_eq (ends : EndsDigits fraction rest)
    (digits : ∀ c ∈ whole, c.isDigit = true) :
    Text.spanDigits (whole ++ (pointed fraction ++ rest)) = (whole, pointed fraction ++ rest) := by
  have stops : Text.Stops Char.isDigit (pointed fraction ++ rest) := by
    cases fraction with
    | none => exact ends.stops
    | some behind => exact Text.stops_cons _ rfl
  rw [Text.spanDigits, Text.takeWhile_append_of_stops digits stops,
    Text.dropWhile_append_of_stops digits stops]

theorem EndsDigits.readFraction_eq (ends : EndsDigits fraction rest)
    (digits : ∀ c ∈ fraction.getD [], c.isDigit = true) :
    readFraction (pointed fraction ++ rest) = (fraction.getD [], rest) := by
  cases fraction with
  | none =>
      cases rest with
      | nil => rfl
      | cons c others =>
          exact readFraction_of_pointless others fun point =>
            ends.pointless rfl (congrArg some point)
  | some behind =>
      rw [Option.getD_some] at digits ⊢
      rw [pointed, List.cons_append, readFraction, Text.spanDigits,
        Text.takeWhile_append_of_stops digits ends.stops,
        Text.dropWhile_append_of_stops digits ends.stops]

/-- The digits are read, and what follows them must be an exponent. -/
theorem Splits.ofText?_append (splits : Splits numeral whole fraction) (nonempty : numeral ≠ [])
    (ends : EndsDigits fraction rest) :
    ofText? (numeral ++ rest) =
      if whole.isEmpty && (fraction.getD []).isEmpty then none
      else (exponent? rest).map fun exponent =>
        ofDecimal false (Text.natOfDigits (whole ++ fraction.getD []))
          (exponent - (fraction.getD []).length) := by
  have parts : numeral ++ rest = whole ++ (pointed fraction ++ rest) := by
    rw [splits.spelled, List.append_assoc]
  rcases List.exists_cons_of_ne_nil nonempty with ⟨c, others, written⟩
  have begins := splits.numerals (written ▸ List.mem_cons_self)
  rw [written, List.cons_append, ofText?_of_numeral begins, ← List.cons_append,
    ← written, parts]
  simp only [decimal?, ends.spanDigits_eq splits.wholeDigits,
    ends.readFraction_eq splits.fractionDigits]

theorem Splits.ofText?_eq (splits : Splits numeral whole fraction)
    (some : whole ≠ [] ∨ fraction.getD [] ≠ []) :
    ofText? numeral = .some (ofDigits whole fraction) := by
  have digits : (whole.isEmpty && (fraction.getD []).isEmpty) = false := by
    rwa [Bool.and_eq_false_iff, List.isEmpty_eq_false_iff, List.isEmpty_eq_false_iff]
  have nonempty : numeral ≠ [] := by
    rintro rfl
    rcases List.nil_eq_append_iff.mp splits.spelled with ⟨rfl, noPoint⟩
    cases fraction with
    | none => simp at some
    | some => contradiction
  have read := splits.ofText?_append nonempty (endsDigits_nil fraction)
  rw [List.append_nil, digits, if_neg Bool.false_ne_true, exponent?, Option.map_some,
    Int.zero_sub] at read
  exact read

theorem Splits.ofText?_eq_none (splits : Splits numeral whole fraction)
    (nothing : ¬(whole ≠ [] ∨ fraction.getD [] ≠ [])) : ofText? numeral = none := by
  rw [not_or, Decidable.not_not, Decidable.not_not] at nothing
  rw [splits.spelled, nothing.1]
  cases fraction with
  | none => decide
  | some digits =>
      rw [Option.getD_some] at nothing
      rw [nothing.2]
      decide

/-- No number goes on with what is neither a digit, nor a point, nor the letter of the exponent. -/
theorem Splits.ofText?_append_eq_none (splits : Splits numeral whole fraction)
    (nonempty : numeral ≠ []) (ends : EndsDigits fraction rest)
    (noExponent : exponent? rest = none) :
    ofText? (numeral ++ rest) = none := by
  rw [splits.ofText?_append nonempty ends, noExponent, Option.map_none, ite_self]

/-! ## Other texts denote no numbers -/

/-- A text of digits and points is parted at its first point. -/
theorem exists_first_point (numerals : ∀ c ∈ numeral, c.isDigit = true ∨ c = '.') :
    (∀ c ∈ numeral, c.isDigit = true) ∨
      ∃ whole rest, numeral = whole ++ '.' :: rest ∧ ∀ c ∈ whole, c.isDigit = true := by
  have parts : numeral.takeWhile Char.isDigit ++ numeral.dropWhile Char.isDigit = numeral :=
    List.takeWhile_append_dropWhile
  have digits : ∀ c ∈ numeral.takeWhile Char.isDigit, c.isDigit = true :=
    fun c => Text.mem_takeWhile
  cases stopped : numeral.dropWhile Char.isDigit with
  | nil =>
      rw [stopped, List.append_nil] at parts
      exact Or.inl (parts ▸ digits)
  | cons c rest =>
      have notDigit : c.isDigit = false :=
        Text.stops_dropWhile Char.isDigit numeral c (stopped ▸ rfl)
      have member : c ∈ numeral := (List.dropWhile_sublist _).mem (stopped ▸ List.mem_cons_self)
      have point : c = '.' := (numerals c member).resolve_left (by simp [notDigit])
      rw [stopped, point] at parts
      exact Or.inr ⟨_, rest, parts.symm, digits⟩

/-- Digits and points with one point at most split at it. -/
theorem exists_splits (numerals : ∀ c ∈ numeral, c.isDigit = true ∨ c = '.')
    (few : numeral.count '.' ≤ 1) :
    ∃ whole fraction, Splits numeral whole fraction := by
  rcases exists_first_point numerals with digits | ⟨whole, rest, spelled, digits⟩
  · exact ⟨numeral, none, (List.append_nil _).symm, digits, fun _ listed => nomatch listed⟩
  · refine ⟨whole, some rest, spelled, digits, fun c listed => ?_⟩
    have later : c ∈ numeral := by
      rw [spelled]
      exact List.mem_append_right _ (List.mem_cons_of_mem _ listed)
    refine (numerals c later).resolve_right ?_
    rintro rfl
    have another : 0 < rest.count '.' := List.count_pos_iff.mpr listed
    rw [spelled, List.count_append, List.count_cons_self] at few
    omega

theorem Splits.count_le (splits : Splits numeral whole fraction) : numeral.count '.' ≤ 1 := by
  have pointless : ∀ digits : List Char,
      (∀ c ∈ digits, c.isDigit = true) -> digits.count '.' = 0 := by
    intro digits every
    apply List.count_eq_zero.mpr
    intro listed
    exact Text.ne_of_isDigit (every _ listed) '.' rfl rfl
  rw [splits.spelled, List.count_append, pointless whole splits.wholeDigits, Nat.zero_add]
  cases fraction with
  | none => exact Nat.zero_le 1
  | some digits =>
      have behind := pointless digits splits.fractionDigits
      exact Nat.le_of_eq (List.count_cons_self.trans (congrArg Nat.succ behind))

/-- A second point ends the digits, and it is no exponent. -/
theorem ofText?_of_second_point {digits : List Char}
    (wholeDigits : ∀ c ∈ whole, c.isDigit = true)
    (fractionDigits : ∀ c ∈ digits, c.isDigit = true) (rest : List Char) :
    ofText? (whole ++ '.' :: (digits ++ '.' :: rest)) = none := by
  have splits : Splits (whole ++ '.' :: digits) whole (some digits) :=
    ⟨rfl, wholeDigits, fractionDigits⟩
  have ends : EndsDigits (some digits) ('.' :: rest) := ⟨Text.stops_cons rest rfl, nofun⟩
  have unread := splits.ofText?_append_eq_none (by simp) ends rfl
  rwa [List.append_assoc, List.cons_append] at unread

/-- What denotes a number is the digits on the two sides of a point, and there is one at least. -/
theorem exists_splits_of_ofText? (numerals : ∀ c ∈ numeral, c.isDigit = true ∨ c = '.')
    (read : ofText? numeral = some x) :
    ∃ whole fraction, Splits numeral whole fraction ∧ (whole ≠ [] ∨ fraction.getD [] ≠ []) ∧
      x = ofDigits whole fraction := by
  have found : ∃ whole fraction, Splits numeral whole fraction := by
    rcases exists_first_point numerals with digits | ⟨whole, rest, rfl, digits⟩
    · exact ⟨numeral, none, (List.append_nil _).symm, digits, fun _ listed => nomatch listed⟩
    · have later : ∀ c ∈ rest, c.isDigit = true ∨ c = '.' := fun c listed =>
        numerals c (List.mem_append_right _ (List.mem_cons_of_mem _ listed))
      rcases exists_first_point later with fraction | ⟨behind, more, rfl, fraction⟩
      · exact ⟨whole, some rest, rfl, digits, fraction⟩
      · rw [ofText?_of_second_point digits fraction more] at read
        contradiction
  rcases found with ⟨whole, fraction, splits⟩
  by_cases some : whole ≠ [] ∨ fraction.getD [] ≠ []
  · rw [splits.ofText?_eq some] at read
    exact ⟨whole, fraction, splits, some, (Option.some.inj read).symm⟩
  · rw [splits.ofText?_eq_none some] at read
    contradiction

theorem Splits.exists_digit_iff (splits : Splits numeral whole fraction) :
    (∃ c ∈ numeral, c.isDigit = true) ↔ whole ≠ [] ∨ fraction.getD [] ≠ [] := by
  rw [splits.spelled]
  constructor
  · rintro ⟨c, listed, digit⟩
    rcases List.mem_append.mp listed with before | behind
    · exact Or.inl (List.ne_nil_of_mem before)
    · cases fraction with
      | none => contradiction
      | some digits =>
          rcases List.mem_cons.mp behind with rfl | later
          · contradiction
          · exact Or.inr (List.ne_nil_of_mem later)
  · rintro (before | behind)
    · rcases List.exists_mem_of_ne_nil _ before with ⟨c, listed⟩
      exact ⟨c, List.mem_append_left _ listed, splits.wholeDigits c listed⟩
    · rcases List.exists_mem_of_ne_nil _ behind with ⟨c, listed⟩
      refine ⟨c, List.mem_append_right _ ?_, splits.fractionDigits c listed⟩
      cases fraction with
      | none => exact absurd rfl behind
      | some digits => exact List.mem_cons_of_mem _ listed

/-- Among the texts of digits and points, those with a digit and at most one point denote
numbers. -/
theorem isSome_ofText?_iff (numerals : ∀ c ∈ numeral, c.isDigit = true ∨ c = '.') :
    (ofText? numeral).isSome = true ↔
      (∃ c ∈ numeral, c.isDigit = true) ∧ numeral.count '.' ≤ 1 := by
  constructor
  · intro reads
    rcases Option.isSome_iff_exists.mp reads with ⟨x, read⟩
    rcases exists_splits_of_ofText? numerals read with ⟨whole, fraction, splits, some, _⟩
    exact ⟨splits.exists_digit_iff.mpr some, splits.count_le⟩
  · rintro ⟨digit, few⟩
    rcases exists_splits numerals few with ⟨whole, fraction, splits⟩
    rw [splits.ofText?_eq (splits.exists_digit_iff.mp digit), Option.isSome_some]

end Binary64
end Chronometry
