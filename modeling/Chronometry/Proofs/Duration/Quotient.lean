import Chronometry.Proofs.Duration.Sign
import Chronometry.Proofs.Duration.Total

/-!
# Ratios of durations

One duration is divided by another through the totals of the two.  A total is rounded twice, and yet
it is zero for a length of zero alone, because the total of a single nanosecond is far above the
smallest number; and the totals of the longest durations are far below the limit.  A ratio is
therefore a finite number, and it is zero with its dividend.  What is left to settle is the order of
the refusals: the divisor is looked at before the dividend, and its fields before its length.
-/

namespace Chronometry

namespace Binary64

/-- The sign of a number by value: minus one, zero or one.  What is not a number has none. -/
def sign? (x : Binary64) : Option Int :=
  x.position?.map Int.sign

theorem sign?_of_standsAt {x : Binary64} {p : Int} (standing : x.StandsAt p) :
    x.sign? = some p.sign := by
  rw [sign?, standing.2, Option.map_some]

end Binary64

namespace Duration

open Binary64

variable {x y : Duration} {length : Int}

/-! ## The size of a total -/

/-- The total of the shortest length is far from zero. -/
theorem quantaPerOne_le_totalPosition (nonzero : length ≠ 0) :
    quantaPerOne ≤ Nat.pow 2 20 * (totalPosition length).natAbs := by
  have power : ∃ shift, quantaPerOne = Nat.pow 2 20 * Nat.pow 2 shift := ⟨1054, by decide +kernel⟩
  rcases power with ⟨shift, split⟩
  have nanoseconds : quantaPerOne ≤ (rounded (length * quantaPerOne) 1).natAbs := by
    apply le_natAbs_rounded kept_quantaPerOne Nat.one_pos
    rw [Nat.mul_one, Int.natAbs_mul, Int.natAbs_natCast]
    exact Nat.le_mul_of_pos_left _ (Int.natAbs_pos.mpr nonzero)
  have total : Nat.pow 2 shift ≤ (totalPosition length).natAbs := by
    apply le_natAbs_rounded (kept_two_pow shift) (by decide)
    simp only [Nat.pow_eq] at *
    omega
  rw [split]
  exact Nat.mul_le_mul_left _ total

/-- The total of a duration is far from the limit of the format. -/
theorem natAbs_totalPosition_le (d : Duration) :
    (totalPosition d.length).natAbs ≤ Nat.pow 2 54 * quantaPerOne := by
  have size := (totalPosition_close d.length).natAbs_le (by decide)
  have length := Nat.mul_le_mul_right quantaPerOne d.natAbs_length_le
  rw [Int.natAbs_mul, Int.natAbs_mul, Int.natAbs_natCast] at size
  change (totalPosition d.length).natAbs * 1000000 ≤ _ at size
  simp only [Nat.pow_eq] at *
  omega

theorem totalPosition_ne_zero (nonzero : length ≠ 0) : totalPosition length ≠ 0 := by
  intro nothing
  have least := quantaPerOne_le_totalPosition nonzero
  rw [nothing] at least
  exact absurd quantaPerOne_pos (Nat.not_lt.mpr least)

theorem totalPosition_zero : totalPosition 0 = 0 := by
  decide +kernel

theorem sign_totalPosition (length : Int) : (totalPosition length).sign = length.sign := by
  by_cases zero : length = 0
  · rw [zero, totalPosition_zero]
  · have total := totalPosition_ne_zero zero
    have nanoseconds : rounded (length * quantaPerOne) 1 ≠ 0 := by
      intro nothing
      rw [totalPosition, nothing] at total
      exact total (rounded_zero (by decide))
    rw [totalPosition, sign_rounded (by decide) total, sign_rounded Nat.one_pos nanoseconds,
      Int.sign_mul, sign_quantaPerOne, Int.mul_one]

/-! ## The position of a ratio -/

/-- The position of the ratio of the totals of two lengths. -/
def ratioPosition (above below : Int) : Int :=
  rounded (totalPosition above * quantaPerOne * (totalPosition below).sign)
    (totalPosition below).natAbs

section Ratio

variable (nonzero : y.length ≠ 0)

include nonzero

theorem natAbs_dividend :
    (totalPosition x.length * quantaPerOne * (totalPosition y.length).sign).natAbs =
      (totalPosition x.length).natAbs * quantaPerOne := by
  rw [Int.natAbs_mul, Int.natAbs_mul, Int.natAbs_natCast,
    Int.natAbs_sign_of_ne_zero (totalPosition_ne_zero nonzero), Nat.mul_one]

/-- The longest duration divided by the shortest one is far from the limit. -/
theorem ratioPosition_within : (ratioPosition x.length y.length).natAbs < quantaLimit := by
  have least :=
    Nat.mul_le_mul_left (Nat.pow 2 54 * quantaPerOne) (quantaPerOne_le_totalPosition nonzero)
  have most := Nat.mul_le_mul_right quantaPerOne x.natAbs_totalPosition_le
  have kept : Kept (Nat.pow 2 74 * quantaPerOne) := kept_power rfl
  have inside : Nat.pow 2 74 * quantaPerOne < quantaLimit := power_lt_quantaLimit rfl (by decide)
  refine Nat.lt_of_le_of_lt
    (natAbs_rounded_le kept (Int.natAbs_pos.mpr (totalPosition_ne_zero nonzero)) ?_) inside
  rw [natAbs_dividend nonzero]
  calc (totalPosition x.length).natAbs * quantaPerOne ≤
      Nat.pow 2 54 * quantaPerOne * quantaPerOne := most
    _ ≤ Nat.pow 2 54 * quantaPerOne * (Nat.pow 2 20 * (totalPosition y.length).natAbs) := least
    _ = Nat.pow 2 74 * quantaPerOne * (totalPosition y.length).natAbs := by
        rw [← Nat.mul_assoc, Nat.mul_right_comm (Nat.pow 2 54)]

/-- The shortest duration divided by the longest one is not zero. -/
theorem ratioPosition_ne_zero (some : x.length ≠ 0) : ratioPosition x.length y.length ≠ 0 := by
  have least := quantaPerOne_le_totalPosition some
  have most := y.natAbs_totalPosition_le
  have many : Nat.pow 2 20 * Nat.pow 2 54 ≤ quantaPerOne := by decide +kernel
  have dividend : Nat.pow 2 54 ≤ (totalPosition x.length).natAbs :=
    Nat.le_of_mul_le_mul_left (Nat.le_trans many least) (Nat.two_pow_pos 20)
  have one : 1 ≤ (ratioPosition x.length y.length).natAbs := by
    apply le_natAbs_rounded (Nat.one_dvd 1) (Int.natAbs_pos.mpr (totalPosition_ne_zero nonzero))
    rw [natAbs_dividend nonzero, Nat.one_mul]
    exact Nat.le_trans most (Nat.mul_le_mul_right _ dividend)
  exact Int.natAbs_pos.mp one

/-- The ratio has the product of the two signs, and so it is zero with the dividend alone. -/
theorem sign_ratioPosition :
    (ratioPosition x.length y.length).sign = x.length.sign * y.length.sign := by
  have positive := Int.natAbs_pos.mpr (totalPosition_ne_zero nonzero)
  by_cases zero : x.length = 0
  · rw [ratioPosition, zero, totalPosition_zero, Int.zero_mul, Int.zero_mul, rounded_zero positive,
      Int.sign_zero, Int.zero_mul]
  · rw [ratioPosition, sign_rounded positive (ratioPosition_ne_zero nonzero zero), Int.sign_mul,
      Int.sign_mul, sign_quantaPerOne, Int.sign_sign, sign_totalPosition, sign_totalPosition,
      Int.mul_one]

theorem ratioPosition_eq_zero_iff : ratioPosition x.length y.length = 0 ↔ x.length = 0 := by
  constructor
  · intro zero
    exact Decidable.not_not.mp fun some => ratioPosition_ne_zero nonzero some zero
  · intro zero
    rw [← Int.sign_eq_zero_iff_zero, sign_ratioPosition nonzero, zero, Int.sign_zero,
      Int.zero_mul]

end Ratio

/-! ## The operation -/

/-- A ratio of two totals is a finite number.  It is zero when the dividend is, and otherwise it has
the product of the two signs. -/
structure IsRatio (x y : Duration) (above below : Binary64) : Prop where
  dividend : x.totalMilliseconds = .ok above
  divisor : y.totalMilliseconds = .ok below
  finite : (above / below).isFinite = true
  zero : (above / below).isZero = true ↔ x.isZero = true
  sign : (above / below).sign? = some (x.sign * y.sign)

/-- How one duration is divided by another.  The divisor is looked at first. -/
structure DividesInOrder (x y : Duration) (outcome : Except Error Value) : Prop where
  calendarDivisor : y.HasCalendarFields ->
    outcome = .error (.outOfRange (.limits (.total y)))
  zeroDivisor : ¬y.HasCalendarFields -> y.length = 0 -> outcome = .error .divisionByZero
  calendarDividend : ¬y.HasCalendarFields -> y.length ≠ 0 -> x.HasCalendarFields ->
    outcome = .error (.outOfRange (.limits (.total x)))
  ratio : ¬y.HasCalendarFields -> y.length ≠ 0 -> ¬x.HasCalendarFields ->
    ∃ above below, outcome = .ok (.number (above / below)) ∧ IsRatio x y above below

theorem totalMilliseconds_of_calendar (calendar : x.HasCalendarFields) :
    x.totalMilliseconds = .error (.outOfRange (.limits (.total x))) :=
  if_pos (x.isCalendar_iff.mpr calendar)

/-- A total is refused as a divisor only for a length of zero, however short the length. -/
theorem divisor_of_standsAt {total : Binary64} (standing : total.StandsAt (totalPosition length)) :
    Arithmetic.divisor total = if length = 0 then .error .divisionByZero else .ok total := by
  have zero : total.isZero = true ↔ length = 0 := by
    rw [isZero_iff_of_standsAt standing, ← Int.sign_eq_zero_iff_zero, sign_totalPosition,
      Int.sign_eq_zero_iff_zero]
  simp only [Arithmetic.divisor, zero]

theorem isRatio {above below : Binary64} (left : ¬x.HasCalendarFields)
    (right : ¬y.HasCalendarFields) (nonzero : y.length ≠ 0)
    (dividend : x.totalMilliseconds = .ok above) (divisor : y.totalMilliseconds = .ok below)
    (aboveStanding : above.StandsAt (totalPosition x.length))
    (belowStanding : below.StandsAt (totalPosition y.length)) :
    IsRatio x y above below := by
  have quotient : (above / below).StandsAt (ratioPosition x.length y.length) :=
    div_signed_standsAt aboveStanding belowStanding (totalPosition_ne_zero nonzero)
      (ratioPosition_within nonzero)
  refine ⟨dividend, divisor, quotient.1, ?_, ?_⟩
  · rw [isZero_iff_of_standsAt quotient, ratioPosition_eq_zero_iff nonzero, isZero_iff left]
  · rw [sign?_of_standsAt quotient, sign_ratioPosition nonzero, sign_eq_sign_length left,
      sign_eq_sign_length right]

theorem apply_divide_of_divisor {below : Binary64} (divisor : y.totalMilliseconds = .ok below) :
    Registry.standard.apply .divide (.duration x) (.duration y) =
      Arithmetic.divisor below >>= fun below =>
        x.totalMilliseconds >>= fun above => .ok (.number (above / below)) := by
  rw [Registry.apply_divide_durations, divisor]
  rfl

theorem dividesInOrder (x y : Duration) :
    DividesInOrder x y (Registry.standard.apply .divide (.duration x) (.duration y)) := by
  refine ⟨?_, ?_, ?_, ?_⟩
  · intro calendar
    rw [Registry.apply_divide_durations, totalMilliseconds_of_calendar calendar]
    rfl
  · intro plain zero
    rcases totalMilliseconds_standsAt plain with ⟨below, divisor, standing⟩
    rw [apply_divide_of_divisor divisor, divisor_of_standsAt standing, if_pos zero]
    rfl
  · intro plain nonzero calendar
    rcases totalMilliseconds_standsAt plain with ⟨below, divisor, standing⟩
    rw [apply_divide_of_divisor divisor, divisor_of_standsAt standing, if_neg nonzero,
      totalMilliseconds_of_calendar calendar]
    rfl
  · intro right nonzero left
    rcases totalMilliseconds_standsAt right with ⟨below, divisor, belowStanding⟩
    rcases totalMilliseconds_standsAt left with ⟨above, dividend, aboveStanding⟩
    refine ⟨above, below, ?_,
      isRatio left right nonzero dividend divisor aboveStanding belowStanding⟩
    rw [apply_divide_of_divisor divisor, divisor_of_standsAt belowStanding,
      if_neg nonzero, dividend]
    rfl

variable {outcome : Except Error Value}

/-- Nothing but a divisor of length zero is refused as one. -/
theorem DividesInOrder.eq_divisionByZero_iff (divides : DividesInOrder x y outcome) :
    outcome = .error .divisionByZero ↔ ¬y.HasCalendarFields ∧ y.length = 0 := by
  constructor
  · intro refused
    by_cases calendar : y.HasCalendarFields
    · rw [divides.calendarDivisor calendar] at refused
      cases refused
    · refine ⟨calendar, Decidable.not_not.mp fun nonzero => ?_⟩
      by_cases dividend : x.HasCalendarFields
      · rw [divides.calendarDividend calendar nonzero dividend] at refused
        cases refused
      · rcases divides.ratio calendar nonzero dividend with ⟨above, below, answered, _⟩
        rw [answered] at refused
        contradiction
  · rintro ⟨plain, zero⟩
    exact divides.zeroDivisor plain zero

/-- Whatever is answered is a finite number. -/
theorem DividesInOrder.isFinite (divides : DividesInOrder x y outcome) {value : Value}
    (answered : outcome = .ok value) :
    ∃ number, value = .number number ∧ number.isFinite = true := by
  subst answered
  by_cases calendar : y.HasCalendarFields
  · exact absurd (divides.calendarDivisor calendar) (by simp)
  · by_cases zero : y.length = 0
    · exact absurd (divides.zeroDivisor calendar zero) (by simp)
    · by_cases dividend : x.HasCalendarFields
      · exact absurd (divides.calendarDividend calendar zero dividend) (by simp)
      · rcases divides.ratio calendar zero dividend with ⟨above, below, answered, isRatio⟩
        exact ⟨_, Except.ok.inj answered, isRatio.finite⟩

/-- Durations are divided through their totals, and the order in which they are refused is settled:
a divisor with calendar grains, a divisor of length zero, a dividend with calendar grains.  Only a
length of zero is a divisor of zero, and no ratio is infinite or not a number. -/
theorem durations_divide_in_order (x y : Duration) :
    DividesInOrder x y (Registry.standard.apply .divide (.duration x) (.duration y)) ∧
      (Registry.standard.apply .divide (.duration x) (.duration y) = .error .divisionByZero ↔
        ¬y.HasCalendarFields ∧ y.length = 0) ∧
      ∀ value, Registry.standard.apply .divide (.duration x) (.duration y) = .ok value ->
        ∃ number, value = .number number ∧ number.isFinite = true :=
  ⟨dividesInOrder x y, (dividesInOrder x y).eq_divisionByZero_iff, fun _ =>
    (dividesInOrder x y).isFinite⟩

/-- A divisor of zero is refused before the weeks of the dividend are. -/
example :
    Registry.standard.apply .divide
      (.duration ⟨⟨0, 0, 1, 0, 0, 0, 0, 0, 0, 0⟩, by decide, by decide⟩)
    (.duration .zero) = .error .divisionByZero := by decide +kernel

end Duration
end Chronometry
