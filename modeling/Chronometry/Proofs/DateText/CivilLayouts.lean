import Chronometry.Coercion
import Chronometry.Proofs.DateText.WrittenLayout

/-!
# Civil layouts

A date is written in numbers or with the month as a word, and a time may stand behind it.  In
whatever layout a date with a year in four digits is written, the same moment is read, in every
zone: the noon of the date, or its time.  Neither a phrase nor a timestamp nor a zoned datetime is
seen in such a text, and no layout that is tried before its own sees another date in it.
-/

namespace Chronometry
namespace DateText

open Text (zeroPadded)

variable {zones : Zone.Database} {civil : Civil.DateTime} {layout : Layout}
  {text rest : List Char}

/-! ## Layouts of the list -/

namespace Layout

theorem inOrder_dateTimes : InOrder dateTimes where
  spaced := by decide
  yields := by decide

theorem inOrder_dates : InOrder dates where
  spaced := by decide
  yields := by decide

theorem record_of_mem_dates (civil : Civil.DateTime) (listed : layout ∈ dates) :
    layout.record civil .initial =
      ⟨civil.date.year, civil.date.month, civil.date.day, 0, 0, 0⟩ := by
  simp only [dates, wordDates, List.mem_append, List.mem_cons, List.not_mem_nil, or_false] at listed
  rcases listed with ((rfl | rfl) | (rfl | rfl | rfl)) | (rfl | rfl | rfl) <;> rfl

theorem record_of_mem_dateTimes (civil : Civil.DateTime) (listed : layout ∈ dateTimes) :
    layout.record civil .initial = ⟨civil.date.year, civil.date.month, civil.date.day,
      civil.time.hour, civil.time.minute, if .second ∈ layout then civil.time.second else 0⟩ := by
  simp only [dateTimes, List.mem_cons, List.not_mem_nil, or_false] at listed
  rcases listed with rfl | rfl | rfl | rfl | rfl | rfl <;> rfl

/-- A date alone stands for its noon. -/
theorem civil?_written_date (early : 0 ≤ civil.date.year) (late : civil.date.year ≤ 9999)
    (listed : layout ∈ dates) :
    civil? (layout.written civil) = some ⟨civil.date, .noon⟩ := by
  have untimed :
      dateTimes.findSome? (fun dated =>
        (dated.parts? (layout.written civil)).bind Parts.dateTime?) = none := by
    have colons : ∀ date ∈ dates,
        ∀ dated ∈ dateTimes, date.count (.literal ':') < dated.count (.literal ':') := by
      decide
    refine List.findSome?_eq_none_iff.mpr fun dated member => ?_
    cases isRead : dated.parts? (layout.written civil) with
    | none => rfl
    | some found =>
        have missing := colons layout listed dated member
        exact absurd (parts?_eq_some_iff.mp isRead) (read_ne_some_of_count (by decide) missing)
  have found : dates.findSome? (fun date => (date.parts? (layout.written civil)).bind
      fun parts => parts.date?.bind fun date => some ⟨date, .noon⟩) =
        some (⟨civil.date, .noon⟩ : Civil.DateTime) := by
    refine inOrder_dates.findSome?_written early late listed _ ?_
    rw [record_of_mem_dates civil listed, Parts.date?, Civil.Date.ofParts?_self, Option.bind_some]
  exact Option.or_eq_some_iff.mpr (Or.inr ⟨untimed, found⟩)

/-- A date with a time stands for both. -/
theorem civil?_written_dateTime (early : 0 ≤ civil.date.year) (late : civil.date.year ≤ 9999)
    (whole : civil.time.nanosecond = 0) (listed : layout ∈ dateTimes)
    (seconds : .second ∈ layout ∨ civil.time.second = 0) :
    civil? (layout.written civil) = some civil := by
  refine Option.or_eq_some_iff.mpr
    (Or.inl (inOrder_dateTimes.findSome?_written early late listed _ ?_))
  have second : (if .second ∈ layout then civil.time.second else 0) = civil.time.second := by
    rcases seconds with counted | zero
    · rw [if_pos counted]
    · rw [zero, ite_self]
  have time := civil.time.ofParts?_self
  rw [whole] at time
  rw [record_of_mem_dateTimes civil listed, second, Parts.dateTime?, Parts.date?,
    Civil.Date.ofParts?_self, time]
  rfl

end Layout

/-! ## No written moment -/

theorem notes?_eq_nil {notes : List (List Char)} (unbracketed : '[' ∉ text)
    (read : notes? text = some notes) :
    notes = [] := by
  unfold notes? at read
  split at read
  next =>
    cases read
    rfl
  next => exact absurd List.mem_cons_self unbracketed
  next => contradiction

/-- Without a bracket no zone is named. -/
theorem zoned?_eq_none (unbracketed : '[' ∉ text) : zoned? zones text = none := by
  cases read : written? text with
  | none =>
      rw [zoned?, read]
      rfl
  | some written =>
      rcases Option.bind_eq_some_iff.mp read with ⟨⟨date, afterDate⟩, readDate, readRest⟩
      rcases Option.bind_eq_some_iff.mp readRest
        with ⟨⟨time, offset, afterClock⟩, readClock, readZone⟩
      rcases Option.bind_eq_some_iff.mp readZone with ⟨notes, readNotes, readNote⟩
      have within : '[' ∉ afterClock := by
        have dated := readsClosed_readDate text _ _ readDate
        have clocked := (dated.then_optional (closedOrSame_of_readClock readClock)).suffix
        exact fun bracket => unbracketed (clocked.subset bracket)
      cases notes?_eq_nil within readNotes
      cases readNote
      rw [zoned?, read]
      rfl

/-- The characters with which offsets begin. -/
def offsetMarks : List Char :=
  ['Z', 'z', '+', '-']

theorem offset_eq_none_of_readOffset {offset : Option Int}
    (unmarked : ∀ mark ∈ offsetMarks, mark ∉ text)
    (read : readOffset text = some (offset, rest)) :
    offset = none := by
  unfold readOffset at read
  split at read
  next =>
    cases read
    rfl
  next c behind =>
    have unlike : ∀ mark ∈ offsetMarks, c ≠ mark := by
      rintro mark listed rfl
      exact unmarked _ listed List.mem_cons_self
    have noZero : ¬(c = 'Z' ∨ c = 'z') := not_or.mpr ⟨unlike _ (by decide), unlike _ (by decide)⟩
    have noSign : ¬(c = '+' ∨ c = '-') := not_or.mpr ⟨unlike _ (by decide), unlike _ (by decide)⟩
    rw [if_neg noZero, if_neg noSign] at read
    cases read
    rfl

theorem offset_eq_none_of_readClock {time : Option Civil.TimeOfDay} {offset : Option Int}
    (unmarked : ∀ mark ∈ offsetMarks, mark ∉ text)
    (read : readClock text = some (time, offset, rest)) :
    offset = none := by
  rcases readClock_cases read
    with ⟨none, _⟩ | ⟨c, behind, found, after, rfl, readTime, readOffset⟩
  · exact none
  · refine offset_eq_none_of_readOffset (fun mark listed member => ?_) readOffset
    have within := (readsClosed_readTime behind _ _ readTime).suffix.subset member
    exact unmarked mark listed (List.mem_cons_of_mem _ within)

/-- A date with nothing behind it that could be an offset is no timestamp. -/
theorem timestamp?_eq_none_of_date {date : Civil.Date}
    (inRange : Civil.yearInRange date.year = true)
    (unmarked : ∀ mark ∈ offsetMarks, mark ∉ rest) :
    timestamp? (date.text.toList ++ rest) = none := by
  cases read : written? (date.text.toList ++ rest) with
  | none =>
      rw [timestamp?, read]
      rfl
  | some written =>
      rcases Option.bind_eq_some_iff.mp read with ⟨⟨found, afterDate⟩, readDate, readRest⟩
      rcases Option.bind_eq_some_iff.mp readRest
        with ⟨⟨time, offset, afterClock⟩, readClock, readZone⟩
      rcases Option.bind_eq_some_iff.mp readZone with ⟨notes, readNotes, readNote⟩
      rcases Option.bind_eq_some_iff.mp readNote with ⟨zone, _, same⟩
      rw [readDate_text inRange] at readDate
      cases readDate
      cases offset_eq_none_of_readClock unmarked readClock
      cases same
      rw [timestamp?, read]
      cases time <;> rfl

/-- A text that does not begin with a year is no timestamp. -/
theorem timestamp?_eq_none_of_readYear (unread : readYear text = none) :
    timestamp? text = none := by
  rw [timestamp?, written?, readDate, unread]
  rfl

/-- A layout that begins with two digits in front of another character, or with a name. -/
def Layout.yearless : Layout -> Bool
  | .month :: .literal c :: _ => !c.isDigit
  | .day :: .blank :: _ => true
  | .monthName :: _ | .monthShort :: _ => true
  | _ => false

theorem readYear_of_pair {c : Char} (other : c.isDigit = false) {n : Nat} (fits : n < Nat.pow 10 2)
    (rest : List Char) :
    readYear ((zeroPadded 2 n).toList ++ c :: rest) = none := by
  have short : (zeroPadded 2 n).toList.length < 4 := by
    rw [Text.length_zeroPadded (by decide) fits]
    decide
  have unread := Text.readFixed_eq_none short other rest
  rcases exists_digit_zeroPadded 2 n with ⟨first, digits, written, digit⟩
  rw [written, List.cons_append] at unread ⊢
  rw [readYear_of_unsigned (Text.ne_of_isDigit digit '-' rfl) (Text.ne_of_isDigit digit '+' rfl),
    unread, Option.map_none]

theorem readYear_of_name {element : Element} (name : element.isName = true) (rest : List Char) :
    readYear (element.written civil ++ rest) = none := by
  rcases exists_name_cons civil name with ⟨c, others, written, letter⟩
  have other := isNumeric_of_isAlpha letter
  simp only [isNumeric, Bool.or_eq_false_iff, beq_eq_false_iff_ne] at other
  rcases other with ⟨⟨⟨notDigit, _⟩, minus⟩, plus⟩
  have unread : Text.readFixed 4 (c :: (others ++ rest)) = none :=
    Text.readFixed_eq_none (show ([] : List Char).length < 4 by decide) notDigit (others ++ rest)
  rw [written, List.cons_append, readYear_of_unsigned minus plus, unread, Option.map_none]

namespace Layout

theorem readYear_written (noYear : layout.yearless = true) :
    readYear (layout.written civil) = none := by
  have month : civil.date.month < Nat.pow 10 2 := Nat.lt_of_le_of_lt civil.date.month_le (by decide)
  unfold yearless at noYear
  split at noYear
  next c others =>
    rw [Bool.not_eq_true'] at noYear
    exact readYear_of_pair noYear month (written others civil)
  next others => exact readYear_of_pair (c := ' ') rfl civil.date.day_lt (written others civil)
  next others => exact readYear_of_name rfl (written others civil)
  next others => exact readYear_of_name rfl (written others civil)
  next => contradiction

theorem written_append (first second : Layout) (civil : Civil.DateTime) :
    written (first ++ second) civil = first.written civil ++ second.written civil :=
  List.flatMap_append

theorem hyphenDate_written (early : 0 ≤ civil.date.year) :
    hyphenDate.written civil = civil.date.text.toList := by
  simp only [Civil.Date.text, Civil.yearText, if_neg (Int.not_lt.mpr early), String.toList_append]
  simp [hyphenDate, written, Element.written]

/-- No layout writes an offset, and those that do not begin with a date in hyphens do not begin with
a year either. -/
theorem timestamp?_written (early : 0 ≤ civil.date.year) (late : civil.date.year ≤ 9999)
    (listed : layout ∈ dateTimes ++ dates) : timestamp? (layout.written civil) = none := by
  have forms : ∀ layout ∈ dateTimes ++ dates,
      layout.yearless = true ∨ layout = hyphenDate ++ layout.drop 5 ∧
      offsetMarks.all (fun mark => mark ∈ marks && (layout.drop 5).count (.literal mark) == 0) =
        true := by
    decide
  rcases forms layout listed with noYear | ⟨hyphens, unmarked⟩
  · exact timestamp?_eq_none_of_readYear (readYear_written noYear)
  · have inRange : Civil.yearInRange civil.date.year = true := decide_eq_true ⟨by omega, late⟩
    rw [hyphens, written_append, hyphenDate_written early]
    refine timestamp?_eq_none_of_date inRange fun mark member => ?_
    have absent := List.all_eq_true.mp unmarked mark member
    rw [Bool.and_eq_true, decide_eq_true_eq, beq_iff_eq] at absent
    exact List.count_eq_zero.mp ((count_written absent.1 _).trans absent.2)

theorem zoned?_written (listed : layout ∈ dateTimes ++ dates) :
    zoned? zones (layout.written civil) = none := by
  have unbracketed : ∀ layout ∈ dateTimes ++ dates, layout.count (.literal '[') = 0 := by decide
  exact zoned?_eq_none
    (List.count_eq_zero.mp ((count_written (by decide) layout).trans (unbracketed layout listed)))

end Layout

/-! ## Texts -/

/-- A text that is read as a local datetime in a layout, and in which what is tried before the
layouts sees nothing. -/
structure ReadAs (text : String) (civil : Civil.DateTime) : Prop where
  notPhrase : ∀ reference, relative? ((Text.trim text.toList).map foldCase) reference = none
  notTimestamp : timestamp? (Text.trim text.toList) = none
  notZoned : ∀ zones : Zone.Database, zoned? zones (Text.trim text.toList) = none
  layout : Layout.civil? (Text.trim text.toList) = some civil
  moment : ∀ (zones : Zone.Database) (reference : Moment),
    DateReader.everyday zones text reference = Moment.ofCivil? reference.zone civil

theorem isBlank_of_isClosing {c : Char} (closing : isClosing c = true) :
    Text.isBlank c = false := by
  simp only [isClosing, Bool.or_eq_true, beq_iff_eq] at closing
  rcases closing with ((digit | rfl) | rfl) | rfl
  · exact Text.isBlank_of_isDigit digit
  all_goals decide

theorem isBlank_of_isAlphanum {c : Char} (inked : c.isAlphanum = true) :
    Text.isBlank c = false := by
  rcases Bool.or_eq_true_iff.mp inked with letter | digit
  · have visible : 64 < c.toNat ∧ c.toNat < 123 := by
      rcases Bool.or_eq_true_iff.mp letter with capital | small
      · have range := toNat_of_isUpper capital
        omega
      · have range := toNat_of_isLower small
        omega
    simp [Text.isBlank, Text.blankRanges]
    omega
  · exact Text.isBlank_of_isDigit digit

/-- Nothing is trimmed from what is written in a layout. -/
theorem Layout.trim_written (listed : layout ∈ dateTimes ++ dates)
    (closed : ClosedBefore (layout.written civil) []) :
    Text.trim (layout.written civil) = layout.written civil := by
  have solid : ∀ layout ∈ dateTimes ++ dates, layout.head?.any Element.isSolid = true := by
    decide
  apply Text.trim_eq_self_of_stops
  · rcases exists_head_written civil (solid layout listed) with ⟨c, behind, same, inked⟩
    rw [same]
    exact Text.stops_cons _ (isBlank_of_isAlphanum inked)
  · rcases closed with ⟨start, last, same, closing⟩
    rw [same, List.reverse_append, List.reverse_singleton, List.singleton_append]
    exact Text.stops_cons _ (isBlank_of_isClosing closing)

theorem readAs_of_written {written : String} {denoted : Civil.DateTime}
    (early : 0 ≤ civil.date.year) (late : civil.date.year ≤ 9999)
    (listed : layout ∈ Layout.dateTimes ++ Layout.dates)
    (same : written.toList = layout.written civil)
    (read : Layout.civil? (layout.written civil) = some denoted) :
    ReadAs written denoted := by
  rcases ends_of_civil? read with ⟨opens, closed⟩
  have trimmed := Layout.trim_written listed closed
  have notTimestamp := Layout.timestamp?_written early late listed
  have notZoned (zones : Zone.Database) : zoned? zones (layout.written civil) = none :=
    Layout.zoned?_written listed
  have unchanged : Text.trim written.toList = layout.written civil := by rw [same, trimmed]
  refine ⟨?_, unchanged ▸ notTimestamp, unchanged ▸ notZoned, unchanged ▸ read,
    fun zones reference => ?_⟩
  · rw [unchanged]
    exact relative?_eq_none_of_opens opens closed
  · rw [DateReader.everyday, same, moment?_of_opens opens closed trimmed]
    simp only [absolute?, notTimestamp, notZoned, read]

/-- A date in numbers, and with the month as a word, in full and abbreviated. -/
def dateTexts (date : Civil.Date) : List String :=
  let year := zeroPadded 4 date.year.natAbs
  let month := zeroPadded 2 date.month
  let day := zeroPadded 2 date.day
  let name := Civil.monthName date.month
  let short := Civil.abbreviated name
  [year ++ "-" ++ month ++ "-" ++ day, month ++ "/" ++ day ++ "/" ++ year,
    name ++ " " ++ day ++ ", " ++ year, name ++ " " ++ day ++ " " ++ year,
      day ++ " " ++ name ++ " " ++ year,
    short ++ " " ++ day ++ ", " ++ year, short ++ " " ++ day ++ " " ++ year,
      day ++ " " ++ short ++ " " ++ year]

/-- A date in numbers with a time behind it. -/
def timedTexts (date : Civil.Date) (clock : String) : List String :=
  let year := zeroPadded 4 date.year.natAbs
  let month := zeroPadded 2 date.month
  let day := zeroPadded 2 date.day
  [year ++ "-" ++ month ++ "-" ++ day ++ "T" ++ clock, year ++ "-" ++ month ++ "-" ++ day ++ " " ++
    clock, month ++ "/" ++ day ++ "/" ++ year ++ " " ++ clock]

theorem dateTexts_eq (date : Civil.Date) :
    (dateTexts date).map String.toList = Layout.dates.map (Layout.written · ⟨date, .noon⟩) := by
  simp [dateTexts, Layout.dates, Layout.wordDates, Layout.hyphenDate, Layout.slashDate,
    Layout.written, Element.written]

/-- The layouts of a date in numbers with a time behind it. -/
def Layout.timed (clock : Layout) : List Layout :=
  [hyphenDate ++ [.literal 'T'] ++ clock, hyphenDate ++ [.blank] ++ clock,
    slashDate ++ [.blank] ++ clock]

theorem timedTexts_eq {clock : String} {layout : Layout}
    (same : clock.toList = layout.written civil) :
    (timedTexts civil.date clock).map String.toList =
      layout.timed.map (Layout.written · civil) := by
  have text := same
  rw [Layout.written] at text
  simp [timedTexts, Layout.timed, Layout.hyphenDate, Layout.slashDate, Layout.written,
    Element.written, text]

theorem exists_ofParts? {hour minute second : Nat} (hours : hour < 24) (minutes : minute < 60)
    (seconds : second < 60) :
    ∃ time, Civil.TimeOfDay.ofParts? hour minute second 0 = some time ∧ time.hour = hour ∧
      time.minute = minute ∧
      time.second = second ∧ time.nanosecond = 0 := by
  refine ⟨_, dif_pos ⟨hours, minutes, seconds, by decide⟩, ?_⟩
  simp only [Civil.TimeOfDay.hour, Civil.TimeOfDay.minute, Civil.TimeOfDay.second,
    Civil.TimeOfDay.nanosecond, Civil.secondNanos]
  omega

theorem readAs_of_mem_dateTexts {date : Civil.Date} (early : 0 ≤ date.year)
    (late : date.year ≤ 9999) {text : String} (listed : text ∈ dateTexts date) :
    ReadAs text ⟨date, .noon⟩ := by
  have written : text.toList ∈ Layout.dates.map (Layout.written · ⟨date, .noon⟩) :=
    dateTexts_eq date ▸ List.mem_map_of_mem listed
  rcases List.mem_map.mp written with ⟨layout, inDates, same⟩
  exact readAs_of_written early late (List.mem_append_right _ inDates) same.symm
    (Layout.civil?_written_date early late inDates)

theorem readAs_of_mem_timedTexts (early : 0 ≤ civil.date.year) (late : civil.date.year ≤ 9999)
    (whole : civil.time.nanosecond = 0) {clock text : String} {layout : Layout}
    (same : clock.toList = layout.written civil)
    (timed : ∀ form ∈ layout.timed,
      form ∈ Layout.dateTimes ∧ (.second ∈ form ∨ civil.time.second = 0))
    (listed : text ∈ timedTexts civil.date clock) :
    ReadAs text civil := by
  have written : text.toList ∈ layout.timed.map (Layout.written · civil) :=
    timedTexts_eq same ▸ List.mem_map_of_mem listed
  rcases List.mem_map.mp written with ⟨form, inTimed, sameText⟩
  rcases timed form inTimed with ⟨inDateTimes, seconds⟩
  exact readAs_of_written early late (List.mem_append_left _ inDateTimes) sameText.symm
    (Layout.civil?_written_dateTime early late whole inDateTimes seconds)

/-- Hours and minutes in two digits each. -/
def minuteText (hour minute : Nat) : String :=
  zeroPadded 2 hour ++ ":" ++ zeroPadded 2 minute

/-- Hours, minutes and seconds in two digits each. -/
def secondText (hour minute second : Nat) : String :=
  minuteText hour minute ++ ":" ++ zeroPadded 2 second

theorem toList_minuteText (civil : Civil.DateTime) :
    (minuteText civil.time.hour civil.time.minute).toList = Layout.hourMinute.written civil := by
  simp [minuteText, Layout.hourMinute, Layout.written, Element.written]

theorem toList_secondText (civil : Civil.DateTime) :
    (secondText civil.time.hour civil.time.minute civil.time.second).toList =
      Layout.hourMinuteSecond.written civil := by
  rw [secondText, String.toList_append, String.toList_append, toList_minuteText,
    Layout.hourMinuteSecond, Layout.written_append]
  simp [Layout.written, Element.written]

theorem readAs_of_mem_secondText {date : Civil.Date} {time : Civil.TimeOfDay}
    (early : 0 ≤ date.year) (late : date.year ≤ 9999) (whole : time.nanosecond = 0) {text : String}
    (listed : text ∈ timedTexts date (secondText time.hour time.minute time.second)) :
    ReadAs text ⟨date, time⟩ := by
  have timed : ∀ form ∈ Layout.hourMinuteSecond.timed,
      form ∈ Layout.dateTimes ∧ .second ∈ form := by decide
  refine readAs_of_mem_timedTexts early late whole (toList_secondText ⟨date, time⟩)
    (fun form member => ?_) listed
  exact ⟨(timed form member).1, Or.inl (timed form member).2⟩

theorem readAs_of_mem_minuteText {date : Civil.Date} {time : Civil.TimeOfDay}
    (early : 0 ≤ date.year) (late : date.year ≤ 9999) (zero : time.second = 0)
    (whole : time.nanosecond = 0) {text : String}
    (listed : text ∈ timedTexts date (minuteText time.hour time.minute)) :
    ReadAs text ⟨date, time⟩ := by
  have timed : ∀ form ∈ Layout.hourMinute.timed, form ∈ Layout.dateTimes := by decide
  refine readAs_of_mem_timedTexts early late whole (toList_minuteText ⟨date, time⟩)
    (fun form member => ?_) listed
  exact ⟨timed form member, Or.inr zero⟩

end DateText

open DateText

/-- In whatever layout a date with a year in four digits is written, it is read as its noon in the
zone of the reference, as it is with the time 12:00 behind it; and with another time behind it, as
that time, the seconds being zero where none are written.  What is tried before the layouts sees
nothing in these texts. -/
theorem civil_layouts_denote_one_moment (date : Civil.Date) (early : 0 ≤ date.year)
    (late : date.year ≤ 9999) :
    (∀ text ∈ dateTexts date ++ timedTexts date "12:00", ReadAs text ⟨date, .noon⟩) ∧
    (∀ hour minute second, hour < 24 -> minute < 60 -> second < 60 ->
      ∃ time, Civil.TimeOfDay.ofParts? hour minute second 0 = some time ∧
        ∀ text ∈ timedTexts date (secondText hour minute second), ReadAs text ⟨date, time⟩) ∧
    (∀ hour minute, hour < 24 -> minute < 60 ->
      ∃ time, Civil.TimeOfDay.ofParts? hour minute 0 0 = some time ∧
        ∀ text ∈ timedTexts date (minuteText hour minute) ++
            timedTexts date (secondText hour minute 0),
          ReadAs text ⟨date, time⟩) := by
  refine ⟨fun text listed => ?_, ?_, ?_⟩
  · have noon : minuteText Civil.TimeOfDay.noon.hour Civil.TimeOfDay.noon.minute = "12:00" := by
      decide
    rcases List.mem_append.mp listed with alone | timed
    · exact readAs_of_mem_dateTexts early late alone
    · exact readAs_of_mem_minuteText early late (by decide) (by decide) (noon ▸ timed)
  · intro hour minute second hours minutes seconds
    rcases exists_ofParts? hours minutes seconds with ⟨time, made, rfl, rfl, rfl, whole⟩
    exact ⟨time, made, fun text listed => readAs_of_mem_secondText early late whole listed⟩
  · intro hour minute hours minutes
    rcases exists_ofParts? hours minutes (show 0 < 60 by decide)
      with ⟨time, made, rfl, rfl, zero, whole⟩
    refine ⟨time, made, fun text listed => ?_⟩
    rcases List.mem_append.mp listed with short | long
    · exact readAs_of_mem_minuteText early late zero whole short
    · exact readAs_of_mem_secondText early late whole (zero.symm ▸ long)

/-- The fourth of May 2024, in a month whose name has three letters. -/
def fourthOfMay : Civil.Date := ⟨2024, 5, 4, by decide, by decide, by decide, by decide⟩

theorem fourth_of_may_in_every_layout :
    (0 : Int) ≤ 2024 ∧ (2024 : Int) ≤ 9999 ∧
      ∀ text ∈ ["2024-05-04", "05/04/2024", "May 04, 2024", "May 04 2024", "04 May 2024",
        "2024-05-04 12:00"],
        (DateReader.everyday (fun _ => none) text ⟨.epoch, .utc⟩).map (·.instant.nanoseconds) =
          some 1714824000000000000 := by
  refine ⟨by decide, by decide, fun text listed => ?_⟩
  have written : text ∈ dateTexts fourthOfMay ++ timedTexts fourthOfMay "12:00" := by
    simp only [List.mem_cons, List.not_mem_nil, or_false] at listed
    rcases listed with rfl | rfl | rfl | rfl | rfl | rfl <;> decide
  have read := (civil_layouts_denote_one_moment fourthOfMay (by decide) (by decide)).1 text written
  rw [read.moment]
  rfl

end Chronometry
