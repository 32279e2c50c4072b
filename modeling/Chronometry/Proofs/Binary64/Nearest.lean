import Chronometry.Binary64.Basic

/-!
# Rounding is rounding to the nearest

Rounding is defined by dividing with a remainder on a grid that is chosen by the number of
significant bits.  The word nearest does not occur in that definition.  Here it is shown to be
earned: no number in the format lies closer to the fraction that was rounded than the number that it
was rounded to.  The grid is the reason.  Above the power of two from which the grid is used, every
number lies on the grid; below it, the power of two itself is closer than all of them.

Distances are compared after multiplication with the denominator, so that they are distances between
whole numbers.  The infinities take part at the limit of the finite magnitudes, which is where an
overflow begins to count as one.
-/

namespace Chronometry
namespace Binary64

/-- A count of quanta keeps 53 significant bits, whether or not it is within the limit. -/
def Kept (quanta : Nat) : Prop :=
  Nat.pow 2 (quanta.log2 - 52) ∣ quanta

instance (quanta : Nat) : Decidable (Kept quanta) :=
  inferInstanceAs (Decidable (_ ∣ _))

theorem divNearestEven_cases (numerator denominator : Nat) :
    (divNearestEven numerator denominator = numerator / denominator ∧
      2 * (numerator % denominator) ≤ denominator) ∨
      (divNearestEven numerator denominator = numerator / denominator + 1 ∧
        denominator ≤ 2 * (numerator % denominator)) := by
  simp only [divNearestEven]
  split
  · exact Or.inl ⟨rfl, by omega⟩
  · split
    · exact Or.inr ⟨rfl, by omega⟩
    · split
      · exact Or.inl ⟨rfl, by omega⟩
      · exact Or.inr ⟨rfl, by omega⟩

/-- No multiple of the denominator is closer to the numerator than the one that is chosen. -/
theorem divNearestEven_nearest (numerator : Nat) {denominator : Nat} (positive : 0 < denominator)
    (other : Nat) :
    (((divNearestEven numerator denominator * denominator : Nat) : Int) - numerator).natAbs ≤
      (((other * denominator : Nat) : Int) - numerator).natAbs := by
  have division := Nat.div_add_mod' numerator denominator
  have remainder := Nat.mod_lt numerator positive
  have side : other * denominator ≤ numerator / denominator * denominator ∨
      (numerator / denominator + 1) * denominator ≤ other * denominator := by
    rcases Nat.lt_or_ge (numerator / denominator) other with above | below
    · exact Or.inr (Nat.mul_le_mul_right _ above)
    · exact Or.inl (Nat.mul_le_mul_right _ below)
  have next : (numerator / denominator + 1) * denominator =
      numerator / denominator * denominator + denominator :=
    Nat.succ_mul _ _
  rcases divNearestEven_cases numerator denominator with ⟨chosen, half⟩ | ⟨chosen, half⟩
  · rw [chosen]
    omega
  · rw [chosen]
    omega

/-- The power of two from which a grid is used is not above the fraction that is rounded on the
grid. -/
theorem gridStart_le {numerator denominator : Nat}
    (coarse : 0 < roundingShift (numerator / denominator)) :
    Nat.pow 2 (52 + roundingShift (numerator / denominator)) * denominator ≤ numerator := by
  have exponent : 52 + roundingShift (numerator / denominator) =
      (numerator / denominator).log2 := by
    unfold roundingShift at coarse ⊢
    omega
  have nonzero : numerator / denominator ≠ 0 := by
    intro zero
    rw [zero] at coarse
    exact absurd coarse (by decide)
  rw [exponent]
  exact Nat.le_trans (Nat.mul_le_mul_right _ (Nat.log2_self_le nonzero)) (Nat.div_mul_le_self _ _)

/-- From the start of a grid on, every count that keeps its bits lies on the grid. -/
theorem dvd_of_gridStart_le {shift quanta : Nat} (kept : Kept quanta)
    (above : Nat.pow 2 (52 + shift) ≤ quanta) :
    Nat.pow 2 shift ∣ quanta := by
  have nonzero : quanta ≠ 0 := Nat.ne_of_gt (Nat.lt_of_lt_of_le (Nat.two_pow_pos _) above)
  have exponent : 52 + shift ≤ quanta.log2 := (Nat.le_log2 nonzero).mpr above
  exact Nat.dvd_trans (Nat.pow_dvd_pow 2 (by omega)) kept

/-- No count on the grid is closer to a fraction than the one that it is rounded to. -/
theorem roundQuanta_nearest_of_dvd (numerator : Nat) {denominator : Nat}
    (positive : 0 < denominator) {other : Nat}
    (onGrid : Nat.pow 2 (roundingShift (numerator / denominator)) ∣ other) :
    (((roundQuanta numerator denominator * denominator : Nat) : Int) - numerator).natAbs ≤
      (((other * denominator : Nat) : Int) - numerator).natAbs := by
  have spacing : 0 < denominator * Nat.pow 2 (roundingShift (numerator / denominator)) :=
    Nat.mul_pos positive (Nat.two_pow_pos _)
  have rounded : roundQuanta numerator denominator * denominator =
      divNearestEven numerator (denominator * Nat.pow 2 (roundingShift (numerator / denominator))) *
        (denominator * Nat.pow 2 (roundingShift (numerator / denominator))) := by
    simp only [roundQuanta]
    ac_rfl
  rcases onGrid with ⟨steps, rfl⟩
  have multiple : Nat.pow 2 (roundingShift (numerator / denominator)) * steps * denominator =
      steps * (denominator * Nat.pow 2 (roundingShift (numerator / denominator))) := by ac_rfl
  rw [rounded, multiple]
  exact divNearestEven_nearest numerator spacing steps

/-- No count that keeps 53 significant bits is closer to a fraction than the one that it is rounded
to. -/
theorem roundQuanta_nearest (numerator : Nat) {denominator : Nat} (positive : 0 < denominator)
    {other : Nat} (kept : Kept other) :
    (((roundQuanta numerator denominator * denominator : Nat) : Int) - numerator).natAbs ≤
      (((other * denominator : Nat) : Int) - numerator).natAbs := by
  by_cases onGrid : Nat.pow 2 (roundingShift (numerator / denominator)) ∣ other
  · exact roundQuanta_nearest_of_dvd numerator positive onGrid
  · -- Off the grid there are only counts below its start, and the start is closer than those.
    have coarse : 0 < roundingShift (numerator / denominator) := by
      apply Nat.pos_of_ne_zero
      intro fine
      rw [fine] at onGrid
      exact onGrid (Nat.one_dvd other)
    have below : other ≤ Nat.pow 2 (52 + roundingShift (numerator / denominator)) := by
      apply Nat.le_of_not_le
      intro above
      exact onGrid (dvd_of_gridStart_le kept above)
    have startNearest := roundQuanta_nearest_of_dvd numerator positive
      (Nat.pow_dvd_pow 2 (Nat.le_add_left (roundingShift (numerator / denominator)) 52))
    have startBelow := gridStart_le coarse
    have otherBelow := Nat.mul_le_mul_right denominator below
    simp only [Nat.pow_eq] at startBelow otherBelow
    omega

/-- What keeps its bits is not rounded. -/
theorem roundQuanta_of_kept {quanta : Nat} (kept : Kept quanta) :
    roundQuanta quanta 1 = quanta := by
  have nearest := roundQuanta_nearest quanta Nat.one_pos kept
  simp only [Nat.mul_one, Int.sub_self, Int.natAbs_zero] at nearest
  omega

/-- Rounding does not pass a count that keeps its bits. -/
theorem roundQuanta_le_of_kept {quanta bound : Nat} (kept : Kept bound)
    (within : quanta ≤ bound) :
    roundQuanta quanta 1 ≤ bound := by
  have nearest := roundQuanta_nearest quanta Nat.one_pos kept
  omega

theorem roundQuanta_ne_zero {numerator : Nat} (positive : 0 < numerator) :
    roundQuanta numerator 1 ≠ 0 := by
  intro zero
  have kept : Kept 1 := Nat.one_dvd 1
  have nearest := roundQuanta_nearest numerator Nat.one_pos kept
  rw [zero] at nearest
  omega

/-! ## Numbers in the format -/

/-- A number stands as close to a fraction of quanta as any number does. -/
def Nearest (x : Binary64) (numerator : Int) (denominator : Nat) : Prop :=
  ∃ p, x.position? = some p ∧ ∀ (y : Binary64) (q : Int), y.position? = some q ->
    (p * denominator - numerator).natAbs ≤ (q * denominator - numerator).natAbs

theorem quantaPerOne_pos : 0 < quantaPerOne := by
  decide +kernel

theorem kept_quantaLimit : Kept quantaLimit := by
  decide +kernel

theorem kept_two_pow (exponent : Nat) : Kept (Nat.pow 2 exponent) := by
  unfold Kept
  rw [Nat.pow_eq, Nat.pow_eq, Nat.log2_two_pow]
  exact Nat.pow_dvd_pow 2 (Nat.sub_le _ _)

/-- The bounds in the proofs about numbers are powers of two, which keep all their bits. -/
theorem kept_power {power exponent : Nat} (same : power = Nat.pow 2 exponent) :
    Kept (power * quantaPerOne) := by
  -- The number of places stays unknown, for with the number every later step would compute the
  -- power.
  have unit : ∃ places, quantaPerOne = 2 ^ places := ⟨1074, by decide +kernel⟩
  rcases unit with ⟨places, unit⟩
  rw [same, unit, Nat.pow_eq, ← Nat.pow_add]
  exact kept_two_pow _

theorem power_lt_quantaLimit {power exponent : Nat} (same : power = Nat.pow 2 exponent)
    (small : exponent < 1024) :
    power * quantaPerOne < quantaLimit := by
  have limit : ∃ places, quantaLimit = Nat.pow 2 places * quantaPerOne ∧ 1024 ≤ places :=
    ⟨1024, by decide +kernel, Nat.le_refl _⟩
  rcases limit with ⟨places, top, large⟩
  rw [same, top]
  exact Nat.mul_lt_mul_of_pos_right
    (Nat.pow_lt_pow_right (by decide) (Nat.lt_of_lt_of_le small large)) quantaPerOne_pos

/-- One more than the greatest signed word of 128 bits is a number. -/
theorem kept_word : Kept (Nat.pow 2 127 * quantaPerOne) :=
  kept_power rfl

theorem word_lt_quantaLimit : Nat.pow 2 127 * quantaPerOne < quantaLimit :=
  power_lt_quantaLimit rfl (by decide)

/-- The position of a number is a count that keeps its bits, on either side of zero. -/
theorem exists_signed_of_position? {y : Binary64} {q : Int} (found : y.position? = some q) :
    ∃ negative magnitude,
      q = signed negative magnitude ∧ Kept magnitude ∧ magnitude ≤ quantaLimit := by
  cases y with
  | nan => contradiction
  | infinity negative =>
      exact ⟨negative, quantaLimit, (Option.some.inj found).symm, kept_quantaLimit,
        Nat.le_refl _⟩
  | finite negative magnitude representable =>
      exact ⟨negative, magnitude, (Option.some.inj found).symm, representable.1,
        Nat.le_of_lt representable.2⟩

theorem position?_round (negative : Bool) (numerator denominator : Nat) :
    (round negative numerator denominator).position? =
      some (signed negative (min (roundQuanta numerator denominator) quantaLimit)) := by
  unfold round
  split
  next within =>
    rw [Nat.min_eq_left (Nat.le_of_lt within)]
    rfl
  next beyond =>
    rw [Nat.min_eq_right (Nat.le_of_not_lt beyond)]
    rfl

/-- Cutting off at the limit keeps the nearest count the nearest of those within the limit. -/
theorem min_roundQuanta_nearest (numerator : Nat) {denominator : Nat} (positive : 0 < denominator)
    {other : Nat} (kept : Kept other) (within : other ≤ quantaLimit) :
    (((min (roundQuanta numerator denominator) quantaLimit * denominator : Nat) : Int) -
      numerator).natAbs ≤
      (((other * denominator : Nat) : Int) - numerator).natAbs := by
  have otherNearest := roundQuanta_nearest numerator positive kept
  have limitNearest := roundQuanta_nearest numerator positive kept_quantaLimit
  rcases Nat.le_total (roundQuanta numerator denominator) quantaLimit with fits | overflows
  · rw [Nat.min_eq_left fits]
    exact otherNearest
  · -- The limit is no closer than what lies beyond it, so that the fraction lies beyond it as well.
    rw [Nat.min_eq_right overflows]
    have := Nat.mul_le_mul_right denominator within
    have := Nat.mul_le_mul_right denominator overflows
    omega

/-- Rounding answers with the nearest number. -/
theorem round_nearest (negative : Bool) (numerator : Nat) {denominator : Nat}
    (positive : 0 < denominator) :
    (round negative numerator denominator).Nearest (signed negative numerator) denominator := by
  refine ⟨_, position?_round negative numerator denominator, ?_⟩
  intro y q found
  rcases exists_signed_of_position? found with ⟨side, magnitude, rfl, kept, within⟩
  have sameSide := min_roundQuanta_nearest numerator positive kept within
  have fromZero :=
    min_roundQuanta_nearest numerator positive (Nat.dvd_zero _) (Nat.zero_le quantaLimit)
  simp only [Nat.zero_mul, Int.natCast_mul] at sameSide fromZero
  have opposite : 0 ≤ (magnitude : Int) * denominator :=
    Int.mul_nonneg (Int.natCast_nonneg _) (Int.natCast_nonneg _)
  cases negative <;> cases side <;>
    simp only [signed, Bool.false_eq_true, if_false, if_true, Int.neg_mul] <;> omega

theorem signed_natAbs (value : Int) (scale : Nat) :
    signed (value < 0) (value.natAbs * scale) = value * scale := by
  unfold signed
  rw [Int.natCast_mul]
  by_cases negative : value < 0
  · have magnitude : (value.natAbs : Int) = -value :=
      Int.ofNat_natAbs_of_nonpos (Int.le_of_lt negative)
    rw [if_pos (decide_eq_true negative), magnitude, Int.neg_mul, Int.neg_neg]
  · have magnitude : (value.natAbs : Int) = value := Int.natAbs_of_nonneg (Int.not_lt.mp negative)
    have nonnegative : ¬decide (value < 0) = true := by rwa [decide_eq_true_iff]
    rw [if_neg nonnegative, magnitude]

/-- A whole number becomes the number nearest to it. -/
theorem ofInt_nearest (value : Int) : (ofInt value).Nearest (value * quantaPerOne) 1 := by
  have nearest := round_nearest (value < 0) (value.natAbs * quantaPerOne) Nat.one_pos
  rw [signed_natAbs] at nearest
  exact nearest

/-- Whole numbers of 128 bits do not overflow. -/
theorem isFinite_ofInt {value : Int} (within : value.natAbs ≤ Nat.pow 2 127) :
    (ofInt value).isFinite = true := by
  have rounded := roundQuanta_le_of_kept kept_word (Nat.mul_le_mul_right quantaPerOne within)
  unfold ofInt round
  rw [dif_pos (Nat.lt_of_le_of_lt rounded word_lt_quantaLimit)]
  rfl

/-! ## Exact sums -/

theorem round_of_representable (negative : Bool) {quanta : Nat}
    (representable : Representable quanta) :
    round negative quanta 1 = .finite negative quanta representable := by
  have exact := roundQuanta_of_kept representable.1
  unfold round
  split
  next => simp only [exact]
  next beyond =>
    rw [exact] at beyond
    exact absurd representable.2 beyond

theorem ofInt_zero : ofInt 0 = zero false := by
  decide +kernel

theorem natAbs_signed (negative : Bool) (quanta : Nat) :
    (signed negative quanta).natAbs = quanta := by
  cases negative
  · rfl
  · exact Int.natAbs_neg quanta

theorem signed_lt_zero_iff {quanta : Nat} (nonzero : quanta ≠ 0) (negative : Bool) :
    signed negative quanta < 0 ↔ negative = true := by
  cases negative
  · simp [signed]
  · simp [signed, Nat.pos_of_ne_zero nonzero]

/-- Adding zero changes nothing, except that a negative zero loses its sign. -/
theorem finite_add_zero {negative : Bool} {quanta : Nat} (representable : Representable quanta)
    (unsignedZero : negative = true -> quanta ≠ 0) :
    finite negative quanta representable + zero false = .finite negative quanta representable := by
  have sum : signed negative quanta + signed false 0 = signed negative quanta := Int.add_zero _
  change (if signed negative quanta + signed false 0 = 0 then zero (negative && false)
    else round (signed negative quanta + signed false 0 < 0)
    (signed negative quanta + signed false 0).natAbs 1) = _
  rw [sum]
  by_cases none : quanta = 0
  · have positive : negative = false := by
      cases negative
      · rfl
      · exact absurd none (unsignedZero rfl)
    subst none positive
    rfl
  · have nonzero : signed negative quanta ≠ 0 := by
      rw [← Int.natAbs_ne_zero, natAbs_signed]
      exact none
    have side : decide (signed negative quanta < 0) = negative := by
      rw [Bool.eq_iff_iff, decide_eq_true_iff, signed_lt_zero_iff none]
    rw [if_neg nonzero, side, natAbs_signed]
    exact round_of_representable negative representable

theorem ofInt_add_zero (value : Int) : ofInt value + ofInt 0 = ofInt value := by
  rw [ofInt_zero]
  have unsignedZero : decide (value < 0) = true ->
      roundQuanta (value.natAbs * quantaPerOne) 1 ≠ 0 := by
    intro negative
    have below : value < 0 := of_decide_eq_true negative
    exact roundQuanta_ne_zero
      (Nat.mul_pos (Int.natAbs_pos.mpr (Int.ne_of_lt below)) quantaPerOne_pos)
  unfold ofInt round
  split
  next => exact finite_add_zero _ unsignedZero
  next => rfl

theorem round_zero (negative : Bool) {denominator : Nat} (positive : 0 < denominator) :
    round negative 0 denominator = zero negative := by
  have nearest := roundQuanta_nearest 0 positive (Nat.dvd_zero _)
  have none : roundQuanta 0 denominator = 0 := by
    rw [Nat.zero_mul] at nearest
    have product : roundQuanta 0 denominator * denominator = 0 := by omega
    exact (Nat.mul_eq_zero.mp product).resolve_right (Nat.ne_of_gt positive)
  unfold round
  split
  next => simp only [none, zero]
  next beyond =>
    rw [none] at beyond
    exact absurd quantaLimit_pos beyond

/-- A positive divisor leaves nothing of zero. -/
theorem ofInt_zero_div {divisor : Nat} (positive : 0 < divisor) :
    ofInt 0 / ofInt divisor = ofInt 0 := by
  have nonnegative : decide ((divisor : Int) < 0) = false :=
    decide_eq_false (Int.not_lt.mpr (Int.natCast_nonneg _))
  have nonzero := roundQuanta_ne_zero (Nat.mul_pos positive quantaPerOne_pos)
  rw [ofInt_zero, ofInt, nonnegative, Int.natAbs_natCast, round]
  split
  next =>
    change (if roundQuanta (divisor * quantaPerOne) 1 = 0 then _ else
      round false (0 * quantaPerOne) _) = _
    rw [if_neg nonzero, Nat.zero_mul]
    exact round_zero false (Nat.pos_of_ne_zero nonzero)
  next => rfl

end Binary64
end Chronometry
