import Chronometry.Proofs.Binary64.AtMost
import Chronometry.Proofs.Duration.Counts
import Chronometry.Proofs.Duration.Embedding
import Chronometry.Proofs.DurationText.Grammar
import Chronometry.Proofs.Session.Standing

/-!
# Lengths that overflow

A bare number is refused if it is infinite, and exact terms are counted in words that cannot hold
more than a finite length.  Decimal terms are added up without a limit.  Their sum is at most half a
year of milliseconds behind as many zeros as the text has characters, so that 298 characters are not
enough for an infinite sum, but 299 are: the last is the letter of the year.  Such a length is read
as infinite, and it becomes no duration.
-/

namespace Chronometry

open Binary64

namespace DurationText

variable {body text : List Char} {length total : Binary64}

/-! ## Ceilings -/

/-- Half a nominal year in milliseconds. -/
def halfYear : Nat := 15778800000

/-- So many quanta at most are read from so many characters of decimal terms. -/
def ceiling (characters : Nat) : Nat :=
  Nat.pow 10 characters * (halfYear * quantaPerOne)

theorem ceiling_mono {few many : Nat} (fewer : few ≤ many) : ceiling few ≤ ceiling many :=
  Nat.mul_le_mul_right _ (Nat.pow_le_pow_right (by decide) fewer)

theorem ceiling_lt_quantaLimit : ceiling 298 < quantaLimit := by
  decide +kernel

/-- A number with a letter behind it takes two characters at least, and these leave room for what
the term adds. -/
theorem ceiling_add (characters : Nat) {digits more : Nat} (some : 1 ≤ digits)
    (longer : digits + 1 ≤ more) :
    9 * (ceiling characters + 8 * ceiling digits) ≤ 8 * ceiling (characters + more) := by
  have weights : 9 * (Nat.pow 10 characters + 8 * Nat.pow 10 digits) ≤
      8 * (10 * (Nat.pow 10 characters * Nat.pow 10 digits)) := by
    have ten : 10 ≤ Nat.pow 10 digits := Nat.le_pow some
    have one : 1 ≤ Nat.pow 10 characters := Nat.pow_pos (by decide)
    have before := Nat.mul_le_mul_left (Nat.pow 10 characters) ten
    have added := Nat.mul_le_mul_right (Nat.pow 10 digits) one
    omega
  have power : Nat.pow 10 (characters + (digits + 1)) =
      10 * (Nat.pow 10 characters * Nat.pow 10 digits) := by
    rw [← Nat.add_assoc, Nat.pow_eq, Nat.pow_succ', Nat.pow_add]
    rfl
  calc 9 * (ceiling characters + 8 * ceiling digits)
      = 9 * (Nat.pow 10 characters + 8 * Nat.pow 10 digits) * (halfYear * quantaPerOne) := by
        unfold ceiling
        rw [← Nat.mul_assoc 8, ← Nat.add_mul, ← Nat.mul_assoc 9]
    _ ≤ 8 * (10 * (Nat.pow 10 characters * Nat.pow 10 digits)) * (halfYear * quantaPerOne) :=
        Nat.mul_le_mul_right _ weights
    _ = 8 * ceiling (characters + (digits + 1)) := by rw [ceiling, power, Nat.mul_assoc 8]
    _ ≤ 8 * ceiling (characters + more) :=
        Nat.mul_le_mul_left 8 (ceiling_mono (Nat.add_le_add_left longer _))

/-! ## Decimal terms -/

/-- No unit is longer than a year. -/
theorem exists_unit_standsAt (grain : Grain) :
    ∃ quanta : Nat, (millisecondsOf (nominalNanoseconds grain)).StandsAt quanta ∧ 0 < quanta ∧
      quanta ≤ 2 * halfYear * quantaPerOne := by
  have bounds : ∀ grain,
      nominalNanoseconds grain ≤ Nat.pow 2 127 ∧
        0 < countedPosition (nominalNanoseconds grain) ∧
      countedPosition (nominalNanoseconds grain) ≤ (2 * halfYear * quantaPerOne : Nat) := by
    decide +kernel
  rcases bounds grain with ⟨within, positive, most⟩
  have standing := millisecondsOf_standsAt (isFinite_millisecondsOf within)
  rcases Int.eq_ofNat_of_zero_le (Int.le_of_lt positive) with ⟨quanta, position⟩
  rw [position] at standing positive most
  exact ⟨quanta, standing, Int.natCast_pos.mp positive, Int.ofNat_le.mp most⟩

theorem double_product (power half scale : Nat) :
    2 * (2 * power * scale * (2 * half * scale)) = 8 * (power * (half * scale)) * scale := by
  grind

theorem WrittenTerm.milliseconds_atMost (written : WrittenTerm) :
    written.milliseconds.AtMost (8 * ceiling written.numeral.length) := by
  rcases written.exists_grain with ⟨grain, _, unit⟩
  rcases exists_unit_standsAt grain with ⟨quanta, standing, positive, most⟩
  rw [unit] at standing
  have numerals : ∀ c ∈ written.numeral, c.isDigit = true ∨ c = '.' :=
    fun c listed => isNumeral_iff.mp (written.runs.numerals c listed)
  rcases exists_splits_of_ofText? numerals written.reads
    with ⟨whole, fraction, splits, _, magnitude⟩
  have digits := splits.ofDigits_atMost
  rw [← magnitude] at digits
  apply mul_atMost digits standing positive most
  · exact Nat.le_of_eq (double_product _ _ _)
  · have wider : quantaPerOne ≤ halfYear * quantaPerOne := Nat.le_mul_of_pos_left _ (by decide)
    rw [Nat.mul_assoc]
    exact Nat.mul_le_mul (by decide) (Nat.mul_le_mul_left _ wider)

/-- One term more is at most the ceiling of its characters more. -/
theorem WrittenTerm.add_atMost {characters : Nat} (written : WrittenTerm)
    (before : total.AtMost (ceiling characters)) :
    (total + written.milliseconds).AtMost (ceiling (characters + written.text.length)) := by
  have digits : 1 ≤ written.numeral.length := List.length_pos_iff.mpr written.runs.someNumeral
  have longer : written.numeral.length + 1 ≤ written.text.length := by
    have letters := List.length_pos_iff.mpr written.runs.someLetter
    simp only [text, List.length_append]
    omega
  exact Binary64.add_atMost before written.milliseconds_atMost
    (ceiling_add characters digits longer)

/-- By induction on the row, for a sum of what stands before it. -/
theorem foldl_atMost (terms : List WrittenTerm) {characters : Nat}
    (before : total.AtMost (ceiling characters)) :
    (terms.foldl (fun total written => total + written.milliseconds) total).AtMost
      (ceiling (characters + (writtenText terms).length)) := by
  induction terms generalizing total characters with
  | nil => exact before
  | cons written others inductionHypothesis =>
      rw [writtenText_cons, List.length_append, ← Nat.add_assoc, List.foldl_cons]
      exact inductionHypothesis (written.add_atMost before)

theorem writtenSum_atMost (terms : List WrittenTerm) :
    (writtenSum terms).AtMost (ceiling (writtenText terms).length) := by
  have start : (ofInt 0).AtMost (ceiling 0) := by
    rw [ofInt_zero]
    exact zero_atMost _
  have most := foldl_atMost terms start
  rw [Nat.zero_add] at most
  exact most

/-- A sum that is not finite is infinite, and it is written in 299 characters or more. -/
theorem writtenSum_overflows {terms : List WrittenTerm}
    (infinite : (writtenSum terms).isFinite = false) :
    writtenSum terms = .infinity false ∧ 298 < (writtenText terms).length := by
  rcases (writtenSum_atMost terms).eq_infinity infinite with ⟨sum, reached⟩
  refine ⟨sum, Nat.lt_of_not_le fun short => ?_⟩
  exact Nat.not_lt.mpr reached (Nat.lt_of_le_of_lt (ceiling_mono short) ceiling_lt_quantaLimit)

/-! ## Exact terms -/

variable {nanoseconds sum : Nat}

/-- A length that is counted in a word of seconds. -/
def FitsSeconds (nanoseconds : Nat) : Prop :=
  nanoseconds < UInt64.size * 1000000000

theorem lt_of_word? {n m : Nat} (fits : word? n = some m) : m = n ∧ n < UInt64.size := by
  unfold word? at fits
  split at fits
  next within => exact ⟨(Option.some.inj fits).symm, within⟩
  next => contradiction

theorem fitsSeconds_of_extend? {seconds more : Nat}
    (extended : extend? nanoseconds seconds more = some sum) :
    FitsSeconds sum := by
  simp only [extend?, Option.bind_eq_bind, Option.bind_eq_some_iff, Option.pure_def,
    Option.some.injEq] at extended
  rcases extended with ⟨carried, fitsCarried, inSeconds, fits, rfl⟩
  rcases lt_of_word? fitsCarried with ⟨rfl, _⟩
  rcases lt_of_word? fits with ⟨rfl, within⟩
  have quotient : (nanoseconds + seconds * 1000000000 + more) / 1000000000 =
      nanoseconds / 1000000000 + seconds + (nanoseconds % 1000000000 + more) / 1000000000 := by
    omega
  rw [← quotient, Nat.div_lt_iff_lt_mul (by decide)] at within
  exact within

theorem fitsSeconds_of_extendWhole? {whole : Nat} {grain : Grain}
    (extended : extendWhole? nanoseconds whole grain = some sum) : FitsSeconds sum := by
  unfold extendWhole? at extended
  split at extended <;>
  · rcases Option.bind_eq_some_iff.mp extended with ⟨_, _, extended⟩
    exact fitsSeconds_of_extend? extended

theorem fitsSeconds_of_extendFraction? {numerator denominator : Nat} {grain : Grain}
    (extended : extendFraction? nanoseconds numerator denominator grain = some sum) :
    FitsSeconds sum := by
  unfold extendFraction? at extended
  split at extended
  next => contradiction
  next =>
    split at extended <;>
    · rcases Option.bind_eq_some_iff.mp extended with ⟨_, _, extended⟩
      rcases Option.bind_eq_some_iff.mp extended with ⟨_, _, extended⟩
      exact fitsSeconds_of_extend? extended

theorem fitsSeconds_of_extendTerm? {term : ExactTerm}
    (extended : extendTerm? nanoseconds term = some sum) :
    FitsSeconds sum := by
  unfold extendTerm? at extended
  rcases Option.bind_eq_some_iff.mp extended with ⟨_, _, extended⟩
  rcases Option.bind_eq_some_iff.mp extended with ⟨whole, extendedWhole, extended⟩
  split at extended
  next => exact Option.some.inj extended ▸ fitsSeconds_of_extendWhole? extendedWhole
  next => contradiction
  next =>
    rcases Option.bind_eq_some_iff.mp extended with ⟨_, _, extended⟩
    exact fitsSeconds_of_extendFraction? extended

/-- By induction on the terms, each of which leaves a length that fits. -/
theorem fitsSeconds_of_foldlM {terms : List ExactTerm} (fits : FitsSeconds nanoseconds)
    (extended : terms.foldlM extendTerm? nanoseconds = some sum) : FitsSeconds sum := by
  induction terms generalizing nanoseconds with
  | nil => exact Option.some.inj extended ▸ fits
  | cons term others inductionHypothesis =>
      rw [List.foldlM_cons] at extended
      rcases Option.bind_eq_some_iff.mp extended with ⟨next, extendedNext, extended⟩
      exact inductionHypothesis (fitsSeconds_of_extendTerm? extendedNext) extended

theorem fitsSeconds_of_exactNanoseconds? (counted : exactNanoseconds? body = some nanoseconds) :
    FitsSeconds nanoseconds := by
  rcases Option.bind_eq_some_iff.mp counted with ⟨terms, _, extended⟩
  split at extended
  next => contradiction
  next => exact fitsSeconds_of_foldlM (by decide : 0 < UInt64.size * 1000000000) extended

theorem isFinite_of_exactNanoseconds? (counted : exactNanoseconds? body = some nanoseconds) :
    (millisecondsOf nanoseconds).isFinite = true :=
  isFinite_millisecondsOf
    (Nat.le_trans (Nat.le_of_lt (fitsSeconds_of_exactNanoseconds? counted)) (by decide))

/-! ## Texts -/

/-- The body of a text is a row of decimal terms, read as such, and the row has an infinite sum. -/
structure Overflows (body : List Char) : Prop where
  notNumber : ofText? body = none
  notExact : exactNanoseconds? body = none
  infinite : ∃ terms, writtenText terms = body ∧ writtenSum terms = .infinity false

/-- No shorter row of terms has a sum beyond all numbers. -/
theorem Overflows.long (overflows : Overflows body) : 298 < body.length := by
  rcases overflows.infinite with ⟨terms, rfl, sum⟩
  have infinite : (writtenSum terms).isFinite = false := by rw [sum]; rfl
  exact (writtenSum_overflows infinite).2

/-- Of the three readers of a body only the last answers with a length that is not finite. -/
theorem bodyMilliseconds?_not_finite_iff :
    (bodyMilliseconds? body = some length ∧ length.isFinite = false) ↔
      Overflows body ∧ length = .infinity false := by
  constructor
  · rintro ⟨read, infinite⟩
    unfold bodyMilliseconds? at read
    split at read
    next number _ =>
      split at read
      next finite =>
        rw [← Option.some.inj read, finite] at infinite
        contradiction
      next => contradiction
    next notNumber =>
      split at read
      next nanoseconds counted =>
        rw [← Option.some.inj read, isFinite_of_exactNanoseconds? counted] at infinite
        contradiction
      next notExact =>
        rcases decimalMilliseconds?_eq_some_iff.mp read with ⟨terms, rfl, rfl⟩
        have sum := (writtenSum_overflows infinite).1
        exact ⟨⟨notNumber, notExact, ⟨terms, rfl, sum⟩⟩, sum⟩
  · rintro ⟨overflows, rfl⟩
    have terms := decimalMilliseconds?_eq_some_iff.mpr overflows.infinite
    refine ⟨?_, rfl⟩
    simp only [bodyMilliseconds?, overflows.notNumber, overflows.notExact, terms]

theorem Overflows.beginsSigned_eq (overflows : Overflows body) : beginsSigned body = false := by
  rcases overflows.infinite with ⟨terms, written, _⟩
  have follows : MayFollow body := written ▸ mayFollow_writtenText terms
  cases body with
  | nil => rfl
  | cons c rest =>
      have numeral := follows c rfl
      apply beginsSigned_of_unsigned
      · rintro rfl
        contradiction
      · rintro rfl
        contradiction

/-- A text is read as what is not finite exactly when its body overflows, and then its sign is the
only one there is. -/
theorem milliseconds?_not_finite_iff :
    (milliseconds? text = some length ∧ length.isFinite = false) ↔
      Overflows (splitSign (Text.trim text)).2 ∧
        length = .infinity (splitSign (Text.trim text)).1 := by
  rw [milliseconds?_eq_some_iff]
  rcases splitSign (Text.trim text) with ⟨negative, body⟩
  constructor
  · rintro ⟨⟨_, _, magnitude, read, rfl⟩, infinite⟩
    have unsigned : magnitude.isFinite = false := by
      cases negative with
      | false => exact infinite
      | true => rwa [if_pos rfl, isFinite_neg] at infinite
    rcases bodyMilliseconds?_not_finite_iff.mp ⟨read, unsigned⟩ with ⟨overflows, rfl⟩
    refine ⟨overflows, ?_⟩
    cases negative <;> rfl
  · rintro ⟨overflows, rfl⟩
    have nonempty : body ≠ [] := by
      rintro rfl
      exact Nat.not_lt_zero _ overflows.long
    refine ⟨⟨nonempty, overflows.beginsSigned_eq, .infinity false, ?_, ?_⟩, rfl⟩
    · exact (bodyMilliseconds?_not_finite_iff.mpr ⟨overflows, rfl⟩).1
    · cases negative <;> rfl

end DurationText

/-! ## Durations -/

namespace Duration

variable {milliseconds : Binary64}

theorem ofMilliseconds_of_isFinite (finite : milliseconds.isFinite = true) :
    (∃ d, ofMilliseconds milliseconds = .ok d) ∨
      ∃ fault, ofMilliseconds milliseconds = .error (.outOfRange fault) := by
  unfold ofMilliseconds
  rw [finite, Bool.not_true, if_neg Bool.false_ne_true]
  split
  next count _ =>
    split
    next =>
      cases made : ofNanoseconds count with
      | ok d => exact Or.inl ⟨d, rfl⟩
      | error error => exact Or.inr ⟨_, congrArg _ (error_of_ofNanoseconds made)⟩
    next => exact Or.inr ⟨_, rfl⟩
  next => exact Or.inr ⟨_, rfl⟩

theorem ofMilliseconds_of_not_isFinite (infinite : milliseconds.isFinite = false) :
    ofMilliseconds milliseconds = .error (.coercion (.durationNotFinite milliseconds)) := by
  unfold ofMilliseconds
  rw [infinite, Bool.not_false, if_pos rfl]

end Duration
namespace DurationText

/-- What becomes of a text: a duration or a failure, by what is read in the text. -/
structure BecomesDuration (text : String) (outcome : Except Error Duration) : Prop where
  unreadable : milliseconds? text.toList = none -> outcome = .error (.unreadable .duration text)
  finite : ∀ length, milliseconds? text.toList = some length -> length.isFinite = true ->
    (∃ d, outcome = .ok d) ∨ ∃ fault, outcome = .error (.outOfRange fault)
  infinite : ∀ length, milliseconds? text.toList = some length -> length.isFinite = false ->
    outcome = .error (.coercion (.durationNotFinite length))

theorem becomesDuration (text : String) :
    BecomesDuration text ((Source.text text).toDuration .everyday) where
  unreadable unread := by simp only [Source.toDuration, DurationReader.everyday, unread]
  finite length read isFinite := by
    simp only [Source.toDuration, DurationReader.everyday, read]
    exact Duration.ofMilliseconds_of_isFinite isFinite
  infinite length read notFinite := by
    simp only [Source.toDuration, DurationReader.everyday, read]
    exact Duration.ofMilliseconds_of_not_isFinite notFinite

/-- A text denotes a finite length or none, unless it is a row of decimal terms with an infinite
sum, which takes 299 characters at least.  With the everyday reader an unreadable text fails as
such, a finite length becomes a duration or is out of range, and an infinite length is refused as no
finite duration. -/
theorem lengths_are_finite_unless_terms_overflow (engine : Engine) (text : String) :
    BecomesDuration text ({ engine with durations := .everyday }.duration (.text text)) ∧
      (∀ length, (milliseconds? text.toList = some length ∧ length.isFinite = false) ↔
        Overflows (splitSign (Text.trim text.toList)).2 ∧
          length = .infinity (splitSign (Text.trim text.toList)).1) ∧
      (Overflows (splitSign (Text.trim text.toList)).2 ->
        298 < (splitSign (Text.trim text.toList)).2.length) :=
  ⟨becomesDuration text, fun _ => milliseconds?_not_finite_iff, Overflows.long⟩

/-- So many years that their digits make 298 characters. -/
def countlessYears : String :=
  String.ofList (List.replicate 298 '9' ++ ['y'])

/-- The years can be written in a text, but not in a finite number of milliseconds.  They should not
be readable. -/
theorem countless_years_are_infinite :
    milliseconds? countlessYears.toList = some (.infinity false) ∧
      Engine.atEpoch.duration (.text countlessYears) =
        .error (.coercion (.durationNotFinite (.infinity false))) := by
  have spelled : countlessYears.toList = List.replicate 298 '9' ++ ['y'] := String.toList_ofList
  have infinite : milliseconds? (List.replicate 298 '9' ++ ['y']) = some (.infinity false) := by
    decide +kernel
  have read := (congrArg milliseconds? spelled).trans infinite
  exact ⟨read, (becomesDuration countlessYears).infinite _ read rfl⟩

end DurationText
end Chronometry
