import Chronometry.Proofs.DateText.FoldCase
import Chronometry.Proofs.DateText.Phrase

/-!
# The ends of absolute dates

Timestamps, zoned datetimes and the layouts have little in common, but all of them end in a digit,
in the letter for offset zero or in the bracket of a note, and none of them begins with the letter
`i`.  That every reader stops behind such a character is carried from the smallest readers to the
largest: a part that was read ends in a closing character, and what is read after it is either
nothing or ends in one again.
-/

namespace Chronometry
namespace DateText

/-- The characters in which absolute dates end. -/
def isClosing (c : Char) : Bool :=
  c.isDigit || c == 'Z' || c == 'z' || c == ']'

/-- What was read of a text in front of its rest ends in a closing character. -/
def ClosedBefore (text rest : List Char) : Prop :=
  ∃ start last, text = start ++ last :: rest ∧ isClosing last = true

/-- Nothing was read of a text, or something that ends in a closing character. -/
def ClosedOrSame (text rest : List Char) : Prop :=
  text = rest ∨ ClosedBefore text rest

variable {zones : Zone.Database} {text middle rest : List Char}

theorem isClosing_of_isDigit {c : Char} (digit : c.isDigit = true) : isClosing c = true := by
  simp only [isClosing, digit, Bool.true_or]

namespace ClosedBefore

theorem cons (c : Char) (closed : ClosedBefore text rest) : ClosedBefore (c :: text) rest := by
  rcases closed with ⟨start, last, rfl, closing⟩
  exact ⟨c :: start, last, rfl, closing⟩

/-- What stands in front of the part that was read does not matter. -/
theorem of_suffix (suffix : middle <:+ text) (closed : ClosedBefore middle rest) :
    ClosedBefore text rest := by
  rcases suffix with ⟨front, rfl⟩
  rcases closed with ⟨start, last, rfl, closing⟩
  exact ⟨front ++ start, last, (List.append_assoc _ _ _).symm, closing⟩

theorem suffix (closed : ClosedBefore text rest) : rest <:+ text := by
  rcases closed with ⟨start, last, rfl, _⟩
  exact ⟨start ++ [last], by rw [List.append_assoc, List.singleton_append]⟩

theorem then_closed (first : ClosedBefore text middle) (second : ClosedBefore middle rest) :
    ClosedBefore text rest :=
  second.of_suffix first.suffix

theorem then_optional (first : ClosedBefore text middle) (second : ClosedOrSame middle rest) :
    ClosedBefore text rest := by
  rcases second with rfl | closed
  · exact first
  · exact first.then_closed closed

theorem of_run {run : List Char} (closing : ∀ c ∈ run, isClosing c = true) (nonempty : run ≠ [])
    (rest : List Char) :
    ClosedBefore (run ++ rest) rest := by
  refine ⟨run.dropLast, run.getLast nonempty, ?_, closing _ (List.getLast_mem nonempty)⟩
  calc run ++ rest = run.dropLast ++ [run.getLast nonempty] ++ rest := by
        rw [List.dropLast_concat_getLast nonempty]
    _ = run.dropLast ++ run.getLast nonempty :: rest := by
        rw [List.append_assoc, List.singleton_append]

end ClosedBefore

/-- Whatever a reader finds, the part of the text that it has read ends in a closing character. -/
def ReadsClosed (text : List Char) (result : Option (α × List Char)) : Prop :=
  ∀ value rest, result = some (value, rest) -> ClosedBefore text rest

namespace ReadsClosed

theorem none : ReadsClosed (α := α) text .none :=
  fun _ _ impossible => nomatch impossible

theorem some {value : α} (closed : ClosedBefore text rest) :
    ReadsClosed text (.some (value, rest)) := by
  intro _ _ same
  cases same
  exact closed

theorem bind {first : Option β} {next : β -> Option (α × List Char)}
    (each : ∀ value, first = .some value -> ReadsClosed text (next value)) :
    ReadsClosed text (first >>= next) := by
  intro value rest read
  rcases Option.bind_eq_some_iff.mp read with ⟨between, found, readNext⟩
  exact each between found value rest readNext

theorem ite {condition : Prop} [Decidable condition] {yes no : Option (α × List Char)}
    (left : ReadsClosed text yes) (right : ReadsClosed text no) :
    ReadsClosed text (if condition then yes else no) := by
  split
  · exact left
  · exact right

/-- What stands in front of the part that was read does not matter. -/
theorem behind {c : Char} {result : Option (α × List Char)} (closed : ReadsClosed text result) :
    ReadsClosed (c :: text) result :=
  fun value rest read => (closed value rest read).cons c

/-- A part that is refused in some condition. -/
theorem guarded {condition : Prop} [Decidable condition] {refused : Unit -> Option (α × List Char)}
    {result : Option (α × List Char)} (closed : ReadsClosed text result) :
    ReadsClosed text (if condition then Option.none >>= refused else result) :=
  .ite (.bind fun _ impossible => nomatch impossible) closed

theorem map {result : Option (β × List Char)} (closed : ReadsClosed text result)
    {change : β × List Char -> α × List Char} (keeps : ∀ found, (change found).2 = found.2) :
    ReadsClosed text (result.map change) := by
  intro value rest read
  rcases Option.map_eq_some_iff.mp read with ⟨found, first, same⟩
  have after := keeps found
  rw [same] at after
  subst after
  exact closed found.1 found.2 first

end ReadsClosed

/-! ## Digits -/

/-- What was read of a text is a run of digits. -/
def DigitsBefore (text rest : List Char) : Prop :=
  ∃ digits, text = digits ++ rest ∧ digits ≠ [] ∧ ∀ c ∈ digits, c.isDigit = true

theorem DigitsBefore.closed (digits : DigitsBefore text rest) : ClosedBefore text rest := by
  rcases digits with ⟨digits, rfl, nonempty, every⟩
  exact .of_run (fun c listed => isClosing_of_isDigit (every c listed)) nonempty rest

theorem digitsBefore_of_readFixed {places number : Nat}
    (read : Text.readFixed (places + 1) text = some (number, rest)) : DigitsBefore text rest := by
  simp only [Text.readFixed] at read
  split at read
  next fixed =>
    rw [Bool.and_eq_true, decide_eq_true_eq] at fixed
    cases read
    refine ⟨text.take (places + 1), (List.take_append_drop _ text).symm, ?_,
      List.all_eq_true.mp fixed.2⟩
    intro nothing
    rw [nothing] at fixed
    exact absurd fixed.1 (Nat.succ_ne_zero places).symm
  next => contradiction

/-- The digits at the head of a text, or as many of them as are taken. -/
theorem digitsBefore_of_take {count : Nat}
    (nonempty : (text.takeWhile Char.isDigit).take count ≠ []) :
    DigitsBefore text (text.drop ((text.takeWhile Char.isDigit).take count).length) := by
  have front : (text.takeWhile Char.isDigit).take count <+: text :=
    (List.take_prefix _ _).trans (List.takeWhile_prefix _)
  refine ⟨_, (List.prefix_iff_eq_append.mp front).symm, nonempty, fun c listed => ?_⟩
  exact List.all_eq_true.mp List.all_takeWhile c (List.mem_of_mem_take listed)

theorem digitsBefore_of_readCount {most number : Nat}
    (read : Text.readCount most text = some (number, rest)) :
    DigitsBefore text rest := by
  simp only [Text.readCount] at read
  split at read
  next => contradiction
  next nonempty =>
    cases read
    rw [List.isEmpty_iff] at nonempty
    exact digitsBefore_of_take nonempty

theorem closedOrSame_of_readFraction {fraction : Nat}
    (read : readFraction text = some (fraction, rest)) :
    ClosedOrSame text rest := by
  unfold readFraction at read
  split at read
  next c behind =>
    split at read
    next =>
      simp only at read
      split at read
      next => contradiction
      next nonempty =>
        cases read
        rw [List.isEmpty_iff] at nonempty
        exact Or.inr ((digitsBefore_of_take nonempty).closed.cons c)
    next =>
      cases read
      exact Or.inl rfl
  next =>
    cases read
    exact Or.inl rfl

/-! ## Written moments -/

theorem suffix_of_afterSeparator {separator : Char} {separated : Bool}
    (found : afterSeparator separator separated text = some rest) : rest <:+ text := by
  unfold afterSeparator at found
  split at found
  next c behind =>
    split at found
    next =>
      cases found
      exact List.suffix_cons _ _
    next => contradiction
  next => contradiction
  next =>
    cases found
    exact List.suffix_rfl

theorem readsClosed_readYear (text : List Char) : ReadsClosed text (readYear text) := by
  unfold readYear
  split
  next =>
    exact .behind (.bind fun (year, after) readYear =>
      .ite .none (.some (digitsBefore_of_readFixed readYear).closed))
  next =>
    exact .behind (.bind fun (year, after) readYear =>
      .some (digitsBefore_of_readFixed readYear).closed)
  next =>
    exact .bind fun (year, after) readYear => .some (digitsBefore_of_readFixed readYear).closed

/-- The next pair of digits, behind a separator or not. -/
theorem closedBefore_of_pair {separator : Char} {separated : Bool} {behind : List Char}
    {number : Nat} (found : afterSeparator separator separated text = some behind)
    (read : Text.readFixed 2 behind = some (number, rest)) :
    ClosedBefore text rest :=
  (digitsBefore_of_readFixed read).closed.of_suffix (suffix_of_afterSeparator found)

theorem readsClosed_readDate (text : List Char) : ReadsClosed text (readDate text) := by
  unfold readDate
  refine .bind fun (year, afterYear) readYear => ?_
  refine .bind fun behindYear foundMonth => .bind fun (month, afterMonth) readMonth => ?_
  refine .bind fun behindMonth foundDay => .bind fun (day, afterDay) readDay => ?_
  refine .ite .none (.bind fun date exists_ => .some ?_)
  exact ((readsClosed_readYear text _ _ readYear).then_closed
    (closedBefore_of_pair foundMonth readMonth)).then_closed (closedBefore_of_pair foundDay readDay)

theorem readsClosed_readTime (text : List Char) : ReadsClosed text (readTime text) := by
  unfold readTime
  refine .bind fun (hour, afterHour) readHour => ?_
  have hours := (digitsBefore_of_readFixed readHour).closed
  refine .ite (.bind fun time made => .some hours) ?_
  refine .bind fun behindHour foundMinute => .bind fun (minute, afterMinute) readMinute => ?_
  have minutes := hours.then_closed (closedBefore_of_pair foundMinute readMinute)
  refine .ite (.bind fun time made => .some minutes) ?_
  refine .bind fun behindMinute foundSecond => .bind fun (second, afterSecond) readSecond => ?_
  have seconds := minutes.then_closed (closedBefore_of_pair foundSecond readSecond)
  refine .bind fun (fraction, afterFraction) readFraction => .bind fun time made => .some ?_
  exact seconds.then_optional (closedOrSame_of_readFraction readFraction)

theorem readsClosed_readOffsetSize (seconds : Bool) (text : List Char) :
    ReadsClosed text (readOffsetSize seconds text) := by
  unfold readOffsetSize
  refine .bind fun (hour, afterHour) readHour => .guarded ?_
  have hours := (digitsBefore_of_readFixed readHour).closed
  refine .ite (.some hours) ?_
  refine .bind fun behindHour foundMinute =>
    .bind fun (minute, afterMinute) readMinute => .guarded ?_
  have minutes := hours.then_closed (closedBefore_of_pair foundMinute readMinute)
  refine .ite (.some minutes) ?_
  refine .bind fun behindMinute foundSecond =>
    .bind fun (second, afterSecond) readSecond => .guarded ?_
  have seconds := minutes.then_closed (closedBefore_of_pair foundSecond readSecond)
  refine .bind fun (fraction, afterFraction) readFraction => .ite (.some ?_) .none
  exact seconds.then_optional (closedOrSame_of_readFraction readFraction)

theorem readsClosed_readSignedOffset (seconds : Bool) (text : List Char) :
    ReadsClosed text (readSignedOffset seconds text) := by
  unfold readSignedOffset
  split
  next =>
    exact .behind (.bind fun (size, after) readSize =>
      .some (readsClosed_readOffsetSize seconds _ _ _ readSize))
  next =>
    exact .behind (.bind fun (size, after) readSize =>
      .some (readsClosed_readOffsetSize seconds _ _ _ readSize))
  next => exact .none

theorem closedOrSame_of_readOffset {offset : Option Int}
    (read : readOffset text = some (offset, rest)) :
    ClosedOrSame text rest := by
  unfold readOffset at read
  split at read
  next =>
    cases read
    exact Or.inl rfl
  next c behind =>
    split at read
    next letter =>
      cases read
      refine Or.inr ⟨[], c, rfl, ?_⟩
      rcases letter with rfl | rfl <;> decide
    next =>
      split at read
      next =>
        rcases Option.map_eq_some_iff.mp read with ⟨⟨seconds, after⟩, readSigned, same⟩
        cases same
        exact Or.inr (readsClosed_readSignedOffset true (c :: behind) _ _ readSigned)
      next =>
        cases read
        exact Or.inl rfl

/-- Nothing is read of a clock, or a character and a time, with the offset behind the time. -/
theorem readClock_cases {time : Option Civil.TimeOfDay} {offset : Option Int}
    (read : readClock text = some (time, offset, rest)) :
    (offset = none ∧ rest = text) ∨
      ∃ c behind found after, text = c :: behind ∧ readTime behind = some (found, after) ∧
        readOffset after = some (offset, rest) := by
  unfold readClock at read
  split at read
  next =>
    cases read
    exact Or.inl ⟨rfl, rfl⟩
  next c behind =>
    split at read
    next =>
      rcases Option.bind_eq_some_iff.mp read with ⟨⟨found, after⟩, readTime, readRest⟩
      rcases Option.bind_eq_some_iff.mp readRest
        with ⟨⟨seconds, afterOffset⟩, readOffset, same⟩
      cases same
      exact Or.inr ⟨c, behind, found, after, rfl, readTime, readOffset⟩
    next =>
      cases read
      exact Or.inl ⟨rfl, rfl⟩

theorem closedOrSame_of_readClock {time : Option Civil.TimeOfDay} {offset : Option Int}
    (read : readClock text = some (time, offset, rest)) : ClosedOrSame text rest := by
  rcases readClock_cases read
    with ⟨_, same⟩ | ⟨c, behind, found, after, rfl, readTime, readOffset⟩
  · exact Or.inl same.symm
  · have timed := readsClosed_readTime behind _ _ readTime
    exact Or.inr ((timed.then_optional (closedOrSame_of_readOffset readOffset)).cons c)

/-- Notes go on to the end of the text, and the last of them ends in its bracket. -/
theorem closedOrSame_of_notes? {notes : List (List Char)} (read : notes? text = some notes) :
    ClosedOrSame text [] := by
  fun_induction notes? text generalizing notes
  case case1 => exact Or.inl rfl
  case case2 text bracket after closed shorter inductionHypothesis =>
    rcases Option.map_eq_some_iff.mp read with ⟨others, readOthers, _⟩
    have atBracket : bracket = ']' := by
      have stopped := List.head?_dropWhile_not (· != ']') text
      rw [closed] at stopped
      simpa using stopped
    have note : ClosedBefore ('[' :: text) after := by
      refine ⟨'[' :: text.takeWhile (· != ']'), bracket, ?_, ?_⟩
      · rw [List.cons_append, ← closed, List.takeWhile_append_dropWhile]
      · rw [atBracket]
        decide
    exact Or.inr (note.then_optional (inductionHypothesis readOthers))
  case case3 => contradiction
  case case4 => contradiction

theorem closedBefore_of_written? {written : Written} (read : written? text = some written) :
    ClosedBefore text [] := by
  rcases Option.bind_eq_some_iff.mp read with ⟨⟨date, afterDate⟩, readDate, readRest⟩
  rcases Option.bind_eq_some_iff.mp readRest
    with ⟨⟨time, offset, afterClock⟩, readClock, readZone⟩
  rcases Option.bind_eq_some_iff.mp readZone with ⟨notes, readNotes, _⟩
  have dated := readsClosed_readDate text _ _ readDate
  have clocked := dated.then_optional (closedOrSame_of_readClock readClock)
  exact clocked.then_optional (closedOrSame_of_notes? readNotes)

/-! ## Layouts -/

/-- The elements that are numbers. -/
def Element.isNumber : Element -> Bool
  | .year | .month | .day | .hour | .minute | .second => true
  | .monthName | .monthShort | .blank | .literal _ => false

theorem readsClosed_readNumber (most : Nat) (text : List Char) :
    ReadsClosed text (readNumber most text) :=
  fun _ _ read => (digitsBefore_of_readCount read).closed.of_suffix (List.dropWhile_suffix _)

theorem readsClosed_readSignedYear (text : List Char) : ReadsClosed text (readSignedYear text) := by
  unfold readSignedYear
  split
  next behind => exact .behind ((readsClosed_readNumber 4 behind).map fun _ => rfl)
  next behind => exact .behind ((readsClosed_readNumber 4 behind).map fun _ => rfl)
  next => exact (readsClosed_readNumber 4 _).map fun _ => rfl

theorem readsClosed_readBounded (low high : Nat) (text : List Char) :
    ReadsClosed text (readBounded low high text) := by
  unfold readBounded
  exact .bind fun (number, after) read =>
    .ite (.some (readsClosed_readNumber 2 text _ _ read)) .none

theorem readsClosed_readElement {element : Element} (number : element.isNumber = true)
    (parts : Parts) (text : List Char) :
    ReadsClosed text (readElement element parts text) := by
  cases element with
  | year => exact (readsClosed_readSignedYear text).map fun _ => rfl
  | month => exact (readsClosed_readBounded 1 12 text).map fun _ => rfl
  | day => exact (readsClosed_readBounded 1 31 text).map fun _ => rfl
  | hour => exact (readsClosed_readBounded 0 23 text).map fun _ => rfl
  | minute => exact (readsClosed_readBounded 0 59 text).map fun _ => rfl
  | second => exact (readsClosed_readBounded 0 60 text).map fun _ => rfl
  | monthName => contradiction
  | monthShort => contradiction
  | blank => contradiction
  | literal => contradiction

theorem suffix_of_readName {names : List String} {number : Nat}
    (read : readName names text = some (number, rest)) :
    rest <:+ text := by
  unfold readName at read
  simp only at read
  split at read
  next =>
    cases read
    exact List.drop_suffix _ _
  next => contradiction

/-- No element gives back what it has read. -/
theorem suffix_of_readElement {element : Element} {before after : Parts}
    (read : readElement element before text = some (after, rest)) : rest <:+ text := by
  by_cases number : element.isNumber = true
  · exact (readsClosed_readElement number before text _ _ read).suffix
  · cases element with
    | monthName =>
        rcases Option.map_eq_some_iff.mp read with ⟨⟨month, behind⟩, readMonth, same⟩
        cases same
        exact suffix_of_readName readMonth
    | monthShort =>
        rcases Option.map_eq_some_iff.mp read with ⟨⟨month, behind⟩, readMonth, same⟩
        cases same
        exact suffix_of_readName readMonth
    | blank =>
        cases read
        exact List.dropWhile_suffix _
    | literal c =>
        simp only [readElement] at read
        split at read
        next =>
          cases read
          exact List.drop_suffix _ _
        next => contradiction
    | _ => exact absurd rfl number

/-- The parts that a row of elements adds to those before it, and what follows the row. -/
def Layout.read (layout : Layout) (state : Parts × List Char) : Option (Parts × List Char) :=
  layout.foldlM (fun state element => readElement element state.1 state.2) state

theorem Layout.suffix_of_read {layout : Layout} {before after : Parts}
    (read : layout.read (before, text) = some (after, rest)) : rest <:+ text := by
  induction layout generalizing before text with
  | nil =>
      cases read
      exact List.suffix_rfl
  | cons element others inductionHypothesis =>
      rw [Layout.read, List.foldlM_cons] at read
      rcases Option.bind_eq_some_iff.mp read with ⟨⟨between, middle⟩, readFirst, readOthers⟩
      exact (inductionHypothesis readOthers).trans (suffix_of_readElement readFirst)

/-- A row that ends with a number is closed as a whole. -/
theorem Layout.readsClosed_read {layout : Layout} {last : Element}
    (ends : layout.getLast? = some last) (number : last.isNumber = true) (parts : Parts)
    (text : List Char) :
    ReadsClosed text (layout.read (parts, text)) := by
  rcases List.getLast?_eq_some_iff.mp ends with ⟨front, rfl⟩
  intro after rest read
  rw [Layout.read, List.foldlM_append] at read
  rcases Option.bind_eq_some_iff.mp read with ⟨⟨between, middle⟩, readFront, readLast⟩
  rw [List.foldlM_cons] at readLast
  rcases Option.bind_eq_some_iff.mp readLast with ⟨⟨found, behind⟩, readNumber, same⟩
  cases same
  exact (readsClosed_readElement number between middle _ _ readNumber).of_suffix
    (Layout.suffix_of_read readFront)

theorem Layout.parts?_eq_some_iff {layout : Layout} {parts : Parts} :
    layout.parts? text = some parts ↔ layout.read (Parts.initial, text) = some (parts, []) := by
  constructor
  · intro found
    rcases Option.bind_eq_some_iff.mp found with ⟨⟨between, rest⟩, readAll, finished⟩
    simp only at finished
    split at finished
    next nothing =>
      cases finished
      rwa [List.isEmpty_iff.mp nothing] at readAll
    next => contradiction
  · intro readAll
    exact Option.bind_eq_some_iff.mpr ⟨(parts, []), readAll, rfl⟩

theorem Layout.exists_of_civil? {civil : Civil.DateTime} (read : Layout.civil? text = some civil) :
    ∃ layout ∈ Layout.dateTimes ++ Layout.dates,
      ∃ parts, layout.read (Parts.initial, text) = some (parts, []) := by
  rcases Option.or_eq_some_iff.mp read with dated | ⟨_, noon⟩
  · rcases List.exists_of_findSome?_eq_some dated with ⟨layout, listed, found⟩
    rcases Option.bind_eq_some_iff.mp found with ⟨parts, readParts, _⟩
    exact ⟨layout, List.mem_append_left _ listed, parts, Layout.parts?_eq_some_iff.mp readParts⟩
  · rcases List.exists_of_findSome?_eq_some noon with ⟨layout, listed, found⟩
    rcases Option.bind_eq_some_iff.mp found with ⟨parts, readParts, _⟩
    exact ⟨layout, List.mem_append_right _ listed, parts,
      Layout.parts?_eq_some_iff.mp readParts⟩

/-! ## Beginnings -/

/-- The characters with which the numbers of layouts begin. -/
def isNumeric (c : Char) : Bool :=
  c.isDigit || isLayoutBlank c || c == '-' || c == '+'

/-- The characters with which absolute dates begin: those of numbers and the initials of months. -/
def isOpening (c : Char) : Bool :=
  isNumeric c || "jfmasond".toList.contains c.toLower

/-- A text that begins as absolute dates do. -/
def Opens (text : List Char) : Prop :=
  ∃ c behind, text = c :: behind ∧ isOpening c = true

theorem DigitsBefore.opens (digits : DigitsBefore text rest) : Opens text := by
  rcases digits with ⟨digits, rfl, nonempty, every⟩
  cases digits with
  | nil => exact absurd rfl nonempty
  | cons c others =>
      refine ⟨c, others ++ rest, rfl, ?_⟩
      simp only [isOpening, isNumeric, every c List.mem_cons_self, Bool.true_or]

theorem opens_of_readYear {year : Int} (read : readYear text = some (year, rest)) : Opens text := by
  unfold readYear at read
  split at read
  next => exact ⟨_, _, rfl, by decide⟩
  next => exact ⟨_, _, rfl, by decide⟩
  next =>
    rcases Option.bind_eq_some_iff.mp read with ⟨⟨number, after⟩, readNumber, _⟩
    exact (digitsBefore_of_readFixed readNumber).opens

theorem opens_of_written? {written : Written} (read : written? text = some written) :
    Opens text := by
  rcases Option.bind_eq_some_iff.mp read with ⟨⟨date, afterDate⟩, readDate, _⟩
  rcases Option.bind_eq_some_iff.mp readDate with ⟨⟨year, afterYear⟩, readYear, _⟩
  exact opens_of_readYear readYear

theorem opens_of_readNumber {most number : Nat}
    (read : readNumber most text = some (number, rest)) :
    Opens text := by
  cases text with
  | nil =>
      exact absurd (digitsBefore_of_readCount read).opens fun ⟨_, _, impossible, _⟩ =>
        nomatch impossible
  | cons c behind =>
      cases blank : isLayoutBlank c with
      | true =>
          exact ⟨c, behind, rfl,
            by simp only [isOpening, isNumeric, blank, Bool.or_true, Bool.true_or]⟩
      | false =>
          have digits := digitsBefore_of_readCount read
          rw [List.dropWhile_cons_of_neg (by simp [blank])] at digits
          exact digits.opens

theorem opens_of_readSignedYear {year : Int} (read : readSignedYear text = some (year, rest)) :
    Opens text := by
  unfold readSignedYear at read
  split at read
  next => exact ⟨_, _, rfl, by decide⟩
  next => exact ⟨_, _, rfl, by decide⟩
  next =>
    rcases Option.map_eq_some_iff.mp read with ⟨⟨number, after⟩, readNumber, _⟩
    exact opens_of_readNumber readNumber

theorem opens_of_readBounded {low high number : Nat}
    (read : readBounded low high text = some (number, rest)) :
    Opens text := by
  rcases Option.bind_eq_some_iff.mp read with ⟨⟨found, after⟩, readNumber, _⟩
  exact opens_of_readNumber readNumber

/-- A name begins the text in whatever case, so that the initial does. -/
theorem opens_of_readName {names : List String} {number : Nat}
    (initials : ∀ name ∈ names, name.toLower.toList.head? ∈ "jfmasond".toList.map some)
    (read : readName names text = some (number, rest)) : Opens text := by
  unfold readName at read
  simp only at read
  split at read
  next index found =>
    rcases List.findIdx?_eq_some_iff_getElem.mp found with ⟨inNames, begins, _⟩
    rcases List.mem_map.mp (initials _ (List.getElem_mem inNames)) with ⟨initial, listed, first⟩
    rw [beq_iff_eq, ← String.toList_inj, String.toList_ofList] at begins
    rw [begins, List.head?_map] at first
    rcases Option.map_eq_some_iff.mp first.symm with ⟨c, firstOfTake, rfl⟩
    rw [List.head?_take] at firstOfTake
    split at firstOfTake
    next => contradiction
    next =>
      rcases List.head?_eq_some_iff.mp firstOfTake with ⟨behind, rfl⟩
      exact ⟨c, behind, rfl,
        by simp only [isOpening, List.contains_iff_mem.mpr listed, Bool.or_true]⟩
  next => contradiction

/-- The elements with which layouts begin. -/
def Element.isFirst : Element -> Bool
  | .year | .month | .day | .monthName | .monthShort => true
  | .hour | .minute | .second | .blank | .literal _ => false

theorem opens_of_readElement {element : Element} (isFirst : element.isFirst = true)
    {before after : Parts} (read : readElement element before text = some (after, rest)) :
    Opens text := by
  cases element with
  | year =>
      rcases Option.map_eq_some_iff.mp read with ⟨⟨year, behind⟩, readYear, _⟩
      exact opens_of_readSignedYear readYear
  | month =>
      rcases Option.map_eq_some_iff.mp read with ⟨⟨month, behind⟩, readMonth, _⟩
      exact opens_of_readBounded readMonth
  | day =>
      rcases Option.map_eq_some_iff.mp read with ⟨⟨day, behind⟩, readDay, _⟩
      exact opens_of_readBounded readDay
  | monthName =>
      rcases Option.map_eq_some_iff.mp read with ⟨⟨month, behind⟩, readMonth, _⟩
      exact opens_of_readName (by decide +kernel) readMonth
  | monthShort =>
      rcases Option.map_eq_some_iff.mp read with ⟨⟨month, behind⟩, readMonth, _⟩
      exact opens_of_readName (by decide +kernel) readMonth
  | _ => exact absurd isFirst Bool.false_ne_true

/-! ## Whole texts -/

/-- Every layout begins with a part of a date and ends with a number. -/
theorem Layout.ends_of_mem {layout : Layout}
    (listed : layout ∈ Layout.dateTimes ++ Layout.dates) :
    (∃ first ∈ layout.head?, first.isFirst = true) ∧
      ∃ last ∈ layout.getLast?, last.isNumber = true := by
  have every : ∀ layout ∈ Layout.dateTimes ++ Layout.dates,
      (∃ first ∈ layout.head?, first.isFirst = true) ∧
        ∃ last ∈ layout.getLast?, last.isNumber = true := by
    decide
  exact every layout listed

theorem ends_of_civil? {civil : Civil.DateTime} (read : Layout.civil? text = some civil) :
    Opens text ∧ ClosedBefore text [] := by
  rcases Layout.exists_of_civil? read with ⟨layout, listed, parts, readAll⟩
  rcases Layout.ends_of_mem listed with ⟨⟨first, head, isFirst⟩, last, foot, number⟩
  refine ⟨?_, Layout.readsClosed_read foot number _ _ _ _ readAll⟩
  rcases List.head?_eq_some_iff.mp head with ⟨others, rfl⟩
  rw [Layout.read, List.foldlM_cons] at readAll
  rcases Option.bind_eq_some_iff.mp readAll with ⟨⟨between, middle⟩, readFirst, _⟩
  exact opens_of_readElement isFirst readFirst

/-- How absolute dates begin and end, whichever of their forms they have. -/
theorem ends_of_absolute? {reference moment : Moment}
    (read : absolute? zones text reference = some moment) :
    Opens text ∧ ClosedBefore text [] := by
  unfold absolute? at read
  split at read
  next instant timestamp =>
    rcases Option.bind_eq_some_iff.mp timestamp with ⟨written, readWritten, _⟩
    exact ⟨opens_of_written? readWritten, closedBefore_of_written? readWritten⟩
  next =>
    split at read
    next moment' zoned =>
      rcases Option.bind_eq_some_iff.mp zoned with ⟨written, readWritten, _⟩
      exact ⟨opens_of_written? readWritten, closedBefore_of_written? readWritten⟩
    next =>
      split at read
      next civil readCivil => exact ends_of_civil? readCivil
      next => contradiction

theorem foldCase_ne_of_isOpening {c : Char} (opening : isOpening c = true) :
    foldCase c ≠ 'i' := by
  simp only [isOpening, isNumeric, isLayoutBlank, Bool.or_eq_true, beq_iff_eq] at opening
  rcases opening with (((digit | blank) | rfl) | rfl) | initial
  · rw [foldCase_of_isDigit digit]
    rintro rfl
    contradiction
  · rcases blank with (((rfl | rfl) | rfl) | rfl) | rfl <;> decide
  · decide
  · decide
  · by_cases kelvin : c = '\u212a'
    · rw [kelvin]
      decide
    · rw [foldCase_of_ne_kelvin kelvin]
      intro same
      rw [same] at initial
      exact absurd initial (by decide)

theorem foldCase_not_mem_of_isClosing {c : Char} (closing : isClosing c = true) :
    foldCase c ∉ ['o', 'w', 'y'] := by
  simp only [isClosing, Bool.or_eq_true, beq_iff_eq] at closing
  rcases closing with ((digit | rfl) | rfl) | rfl
  · rw [foldCase_of_isDigit digit]
    intro letter
    simp only [List.mem_cons, List.not_mem_nil, or_false] at letter
    rcases letter with rfl | rfl | rfl <;> contradiction
  · decide
  · decide
  · decide

/-- What begins and ends as absolute dates do is no phrase. -/
theorem relative?_eq_none_of_opens (opens : Opens text) (closed : ClosedBefore text [])
    (reference : Moment) :
    relative? (text.map foldCase) reference = none := by
  rcases opens with ⟨c, behind, begins, opening⟩
  rcases closed with ⟨start, last, finishes, closing⟩
  refine relative?_eq_none_of_ends ?_ ?_ reference
  · rw [begins, List.map_cons, List.head?_cons, ne_eq, Option.some.injEq]
    exact foldCase_ne_of_isOpening opening
  · intro letter isLast
    rw [finishes, List.map_append, List.map_singleton, List.getLast?_concat] at isLast
    rw [← Option.some.inj isLast]
    exact foldCase_not_mem_of_isClosing closing

/-- Such a text is read as an absolute date if at all. -/
theorem moment?_of_opens (opens : Opens text) (closed : ClosedBefore text [])
    (trimmed : Text.trim text = text) (reference : Moment) :
    moment? zones text reference = absolute? zones text reference := by
  have nonempty : text.isEmpty = false := by
    rcases opens with ⟨c, behind, rfl, _⟩
    rfl
  simp only [moment?, trimmed, nonempty, Bool.false_eq_true, if_false,
    relative?_eq_none_of_opens opens closed, Option.none_or]

/-- An absolute date is no phrase. -/
theorem relative?_eq_none_of_absolute? {other moment : Moment}
    (read : absolute? zones text other = some moment) (reference : Moment) :
    relative? (text.map foldCase) reference = none :=
  relative?_eq_none_of_opens (ends_of_absolute? read).1 (ends_of_absolute? read).2 reference

end DateText
end Chronometry
