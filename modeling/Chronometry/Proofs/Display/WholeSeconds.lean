import Chronometry.Display
import Chronometry.Proofs.Civil.Timeline
import Chronometry.Proofs.Text.Runs
import Chronometry.Proofs.Text.WrittenDigits

/-!
# Instants by the default pattern

The default pattern writes an instant as counts with separators between them.  A count goes on to
its separator whether it is padded or not, so that every count can be read off the text again:
month, day and year, the hour on a clock of twelve hours with its half of the day, minute and
second.  They tell every second of local time from every other and nothing within a second.  At a
fixed offset the seconds of local time are those of the line of instants, on either side of its
origin.
-/

namespace Chronometry

namespace Pattern

/-! ## Counts and their separators -/

/-- The characters of a count that is padded with zeros. -/
def inCount (c : Char) : Bool :=
  c.isDigit || c == '-'

/-- A count that is padded with zeros, as it is written. -/
def zeroCount (width : Nat) (value : Int) : List Char :=
  (if value < 0 then ['-'] else []) ++ (Text.zeroPadded width value.natAbs).toList

variable {width : Nat} {x y : Int} {rest rest' : List Char} {c : Char}

theorem inCount_of_mem_zeroCount (listed : c ∈ zeroCount width x) : inCount c = true := by
  rw [zeroCount, List.mem_append] at listed
  rcases listed with sign | digit
  · split at sign
    · rw [List.mem_singleton.mp sign]
      rfl
    · contradiction
  · rw [inCount, Text.isDigit_of_mem_zeroPadded digit, Bool.true_or]

theorem not_mem_minus_zeroPadded (width n : Nat) : '-' ∉ (Text.zeroPadded width n).toList :=
  fun listed =>
    Text.ne_of_isDigit (Text.isDigit_of_mem_zeroPadded listed) '-' rfl rfl

theorem mem_minus_zeroCount_iff : '-' ∈ zeroCount width x ↔ x < 0 := by
  simp [zeroCount, not_mem_minus_zeroPadded]

/-- A count is read off its text: the minus tells its sign, and the digits its size. -/
theorem zeroCount_inj : zeroCount width x = zeroCount width y ↔ x = y := by
  constructor
  · intro same
    have sign : x < 0 ↔ y < 0 := by
      rw [← @mem_minus_zeroCount_iff width x, same, mem_minus_zeroCount_iff]
    simp only [zeroCount, sign, List.append_cancel_left_eq] at same
    have size := congrArg Text.natOfDigits same
    rw [Text.natOfDigits_zeroPadded, Text.natOfDigits_zeroPadded] at size
    omega
  · rintro rfl
    rfl

/-- A count ends where its separator stands. -/
theorem zeroCount_cons_inj (separator : inCount c = false) :
    zeroCount width x ++ c :: rest = zeroCount width y ++ c :: rest' ↔
      x = y ∧ rest = rest' := by
  constructor
  · intro same
    rcases Text.run_unique (fun _ => inCount_of_mem_zeroCount) (Text.stops_cons rest separator)
      (fun _ => inCount_of_mem_zeroCount) (Text.stops_cons rest' separator) same
        with ⟨counts, tails⟩
    exact ⟨zeroCount_inj.mp counts, (List.cons.inj tails).2⟩
  · rintro ⟨rfl, rfl⟩
    rfl

/-! ## The default pattern -/

/-- The parts of the default pattern. -/
def defaultPieces : Pattern :=
  [.count .month '0' 2 ⟨some .unpadded, none⟩, .literal '/',
    .count .day '0' 2 ⟨some .unpadded, none⟩, .literal '/',
    .count .year '0' 4 ⟨none, none⟩, .literal ',', .literal ' ',
    .count .clockHour '0' 2 ⟨some .unpadded, none⟩, .literal ':',
    .count .minute '0' 2 ⟨none, none⟩, .literal ':',
    .count .second '0' 2 ⟨none, none⟩, .literal ' ', .word .half ⟨none, none⟩]

theorem ofText?_defaultPattern : ofText? Settings.defaultPattern.toList = some defaultPieces := by
  -- The reading is by recursion on the length of the text, which the kernel alone unfolds.
  decide +kernel

/-- A local datetime by the default pattern. -/
def defaultText (civil : Civil.DateTime) : List Char :=
  zeroCount 0 civil.date.month ++ '/' :: (zeroCount 0 civil.date.day ++ '/' ::
    (zeroCount 4 civil.date.year ++ ',' :: ' ' :: (zeroCount 0 civil.time.clockHour ++ ':' ::
      (zeroCount 2 civil.time.minute ++ ':' :: (zeroCount 2 civil.time.second ++ ' ' ::
        if civil.time.hour < 12 then ['A', 'M'] else ['P', 'M'])))))

theorem toList_renderCount {modifier : Modifier} (noSpaces : modifier.flag ≠ some .spaces)
    (width : Nat) :
    (renderCount x '0' width modifier).toList =
      zeroCount (min (if modifier.flag = some .unpadded then 0 else modifier.width.getD width)
        widestCount) x := by
  have sign : (if x < 0 then "-" else "").toList = if x < 0 then ['-'] else [] := by split <;> rfl
  rcases modifier with ⟨flag, written⟩
  rcases flag with _ | _ | _ | _ | _ | _
  case some.spaces => exact absurd rfl noSpaces
  all_goals
    rw [renderCount, String.toList_append, sign]
    rfl

theorem toList_renderWord_half (moment : Moment) :
    (renderWord .half ⟨none, none⟩ moment).toList = if moment.civil.time.hour < 12 then ['A', 'M']
      else ['P', 'M'] := by
  have capitals : "AM".toUpper.toList = ['A', 'M'] ∧ "PM".toUpper.toList = ['P', 'M'] := by
    decide +kernel
  by_cases morning : moment.civil.time.hour < 12
  · simp only [renderWord, Word.text, morning, decide_true, if_true]
    exact capitals.1
  · simp only [renderWord, Word.text, morning, decide_false, Bool.false_eq_true, if_false, if_true]
    exact capitals.2

theorem render?_defaultPieces (moment : Moment) :
    defaultPieces.render? moment = some (String.ofList (defaultText moment.civil)) := by
  have parts : defaultPieces.render? moment =
    some (String.join [renderCount moment.civil.date.month '0' 2 ⟨some .unpadded, none⟩, "/",
    renderCount moment.civil.date.day '0' 2 ⟨some .unpadded, none⟩, "/",
    renderCount moment.civil.date.year '0' 4 ⟨none, none⟩, ",", " ",
    renderCount moment.civil.time.clockHour '0' 2 ⟨some .unpadded, none⟩, ":",
    renderCount moment.civil.time.minute '0' 2 ⟨none, none⟩, ":", renderCount
    moment.civil.time.second '0' 2 ⟨none, none⟩, " ", renderWord .half ⟨none, none⟩ moment]) := rfl
  rw [parts, Option.some.injEq, ← String.toList_inj]
  simp [String.join, toList_renderCount, toList_renderWord_half, defaultText, widestCount]

end Pattern

namespace Civil

/-! ## Seconds of local time -/

variable {civil other : DateTime}

/-- The hour on the clock, the half of the day, minute and second tell the seconds of a day from
each other. -/
theorem TimeOfDay.sameSecond_iff {time other : TimeOfDay} :
    (time.clockHour = other.clockHour ∧ time.minute = other.minute ∧
      time.second = other.second ∧
      (time.hour < 12 ↔ other.hour < 12)) ↔
        time.nanoOfDay / secondNanos = other.nanoOfDay / secondNanos := by
  have inDay := time.inDay
  have otherInDay := other.inDay
  simp only [clockHour, hour, minute, second, secondNanos, dayNanos] at inDay otherInDay ⊢
  omega

theorem DateTime.toNanos_div_secondNanos (civil : DateTime) :
    civil.toNanos / secondNanos =
      civil.date.dayNumber * 86400 + (civil.time.nanoOfDay / secondNanos : Nat) := by
  simp only [toNanos, secondNanos, dayNanos]
  omega

/-- Local datetimes are in the same second when their dates and the seconds of their days are the
same. -/
theorem DateTime.sameSecond_iff : civil.toNanos / secondNanos = other.toNanos / secondNanos ↔
    civil.date = other.date ∧
      civil.time.nanoOfDay / secondNanos = other.time.nanoOfDay / secondNanos := by
  have inDay := civil.time.inDay
  have otherInDay := other.time.inDay
  rw [toNanos_div_secondNanos, toNanos_div_secondNanos, ← Date.dayNumber_inj]
  simp only [secondNanos, dayNanos] at inDay otherInDay ⊢
  omega

theorem Date.eq_iff {date other : Date} :
    date = other ↔
      date.year = other.year ∧ date.month = other.month ∧ date.day = other.day := by
  cases date
  cases other
  exact mk.injEq .. ▸ Iff.rfl

/-- The default pattern tells the seconds of local time from each other, and nothing else. -/
theorem defaultText_inj :
    Pattern.defaultText civil = Pattern.defaultText other ↔
      civil.toNanos / secondNanos = other.toNanos / secondNanos := by
  have halves : (if civil.time.hour < 12 then ['A', 'M'] else ['P', 'M']) =
      (if other.time.hour < 12 then ['A', 'M'] else ['P', 'M']) ↔
        (civil.time.hour < 12 ↔ other.time.hour < 12) := by
    split <;> split <;> simp [*]
  rw [DateTime.sameSecond_iff, Date.eq_iff, ← TimeOfDay.sameSecond_iff, Pattern.defaultText,
    Pattern.defaultText, Pattern.zeroCount_cons_inj rfl, Pattern.zeroCount_cons_inj rfl,
    Pattern.zeroCount_cons_inj rfl, List.cons_inj_right, Pattern.zeroCount_cons_inj rfl,
    Pattern.zeroCount_cons_inj rfl, Pattern.zeroCount_cons_inj rfl, halves]
  simp only [Int.natCast_inj]
  constructor
  · rintro ⟨month, day, year, time⟩
    exact ⟨⟨year, month, day⟩, time⟩
  · rintro ⟨⟨year, month, day⟩, time⟩
    exact ⟨month, day, year, time⟩

end Civil

namespace Display

variable {settings : Settings} {seconds : Int}

theorem instant_of_defaultPattern (pattern : settings.pattern = Settings.defaultPattern)
    (i : Instant) :
    instant i settings = .ok (String.ofList (Pattern.defaultText (settings.zone.civilOf i))) := by
  rw [instant, pattern, Pattern.ofText?_defaultPattern]
  exact congrArg (Error.withinLimits _) (Pattern.render?_defaultPieces ⟨i, settings.zone⟩)

/-- By the default pattern an instant is displayed at every offset, and it loses the fraction of its
second alone: the texts of two instants are the same exactly when both are in the same second,
counted upward on the line of time. -/
theorem default_display_keeps_seconds (pattern : settings.pattern = Settings.defaultPattern)
    (fixed : ∀ i, settings.zone.offsetAt i = seconds) (a b : Instant) :
    ∃ first last, instant a settings = .ok first ∧ instant b settings = .ok last ∧
      (first = last ↔ a.nanoseconds / 1000000000 = b.nanoseconds / 1000000000) := by
  refine ⟨_, _, instant_of_defaultPattern pattern a, instant_of_defaultPattern pattern b, ?_⟩
  have shifted (i : Instant) :
      (settings.zone.civilOf i).toNanos / Civil.secondNanos =
        i.nanoseconds / 1000000000 + seconds := by
    rw [Zone.civilOf, fixed, Instant.toNanos_atOffset]
    simp only [Civil.secondNanos]
    omega
  rw [String.ofList_inj, Civil.defaultText_inj, shifted, shifted, Int.add_left_inj]

/-- The settings for the time of Tokyo. -/
def eastern : Settings :=
  { Settings.utc with zone := .ruled (some "Asia/Tokyo") ⟨⟨"JST", 32400⟩, none⟩ }

/-- The first and the last nanosecond of the second before the epoch are displayed alike, and the
epoch itself is not. -/
theorem second_before_epoch_is_kept :
    ∃ text later, instant ⟨-1000000000, by decide, by decide⟩ eastern = .ok text ∧
      instant ⟨-1, by decide, by decide⟩ eastern = .ok text ∧
        instant .epoch eastern = .ok later ∧
        text ≠ later := by
  have fixed : ∀ i, eastern.zone.offsetAt i = 32400 := fun _ => rfl
  have keeps := default_display_keeps_seconds rfl fixed
  rcases keeps ⟨-1000000000, by decide, by decide⟩ ⟨-1, by decide, by decide⟩ with
    ⟨text, last, displayed, atLast, sameSecond⟩
  rcases keeps ⟨-1000000000, by decide, by decide⟩ .epoch
    with ⟨first, later, atFirst, atEpoch, nextSecond⟩
  obtain rfl : text = last := sameSecond.mpr (by decide)
  obtain rfl : text = first := Except.ok.inj (displayed.symm.trans atFirst)
  exact ⟨text, later, displayed, atLast, atEpoch, mt nextSecond.mp (by decide)⟩

end Display
end Chronometry
