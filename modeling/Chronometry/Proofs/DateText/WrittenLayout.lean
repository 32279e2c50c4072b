import Chronometry.Proofs.DateText.AbsoluteEnds
import Chronometry.Proofs.DateText.MonthName
import Chronometry.Proofs.DateText.WrittenInstant
import Chronometry.Proofs.Text.Runs

/-!
# Texts written in a layout

A local datetime is written in a layout with its numbers in full width and with one space wherever
blanks may stand.  The layout then reads what was written in it.  Other layouts may be tried before,
and some of them get a good way into the text; but a layout takes up its own characters one by one,
so that it needs as many of each as it has itself, and a text has no more of them than the layout it
was written in.  Where that does not tell two layouts apart, they have the name of the month in
different places, or one has it in full where the other one has the short name.  The short name of a
month is then either no full name, or it is the full name of the same month.
-/

namespace Chronometry
namespace DateText

open Text (zeroPadded Stops)

variable {text rest : List Char} {civil : Civil.DateTime}

/-! ## Elements -/

/-- What stands in the place of an element when a local datetime is written. -/
def Element.written (civil : Civil.DateTime) : Element -> List Char
  | .year => (zeroPadded 4 civil.date.year.natAbs).toList
  | .month => (zeroPadded 2 civil.date.month).toList
  | .day => (zeroPadded 2 civil.date.day).toList
  | .hour => (zeroPadded 2 civil.time.hour).toList
  | .minute => (zeroPadded 2 civil.time.minute).toList
  | .second => (zeroPadded 2 civil.time.second).toList
  | .monthName => (Civil.monthName civil.date.month).toList
  | .monthShort => (Civil.abbreviated (Civil.monthName civil.date.month)).toList
  | .blank => [' ']
  | .literal c => [c]

/-- The parts with what an element tells of a local datetime. -/
def Element.record (civil : Civil.DateTime) (parts : Parts) : Element -> Parts
  | .year => { parts with year := civil.date.year }
  | .month | .monthName | .monthShort => { parts with month := civil.date.month }
  | .day => { parts with day := civil.date.day }
  | .hour => { parts with hour := civil.time.hour }
  | .minute => { parts with minute := civil.time.minute }
  | .second => { parts with second := civil.time.second }
  | .blank | .literal _ => parts

theorem exists_number_cons (civil : Civil.DateTime) {element : Element}
    (number : element.isNumber = true) :
    ∃ c others, element.written civil = c :: others ∧ c.isDigit = true := by
  cases element with
  | monthName => contradiction
  | monthShort => contradiction
  | blank => contradiction
  | literal => contradiction
  | _ => exact exists_digit_zeroPadded _ _

/-- The elements that are names. -/
def Element.isName : Element -> Bool
  | .monthName | .monthShort => true
  | _ => false

theorem exists_name_cons (civil : Civil.DateTime) {element : Element}
    (name : element.isName = true) :
    ∃ c others, element.written civil = c :: others ∧ c.isAlpha = true := by
  have names : ∀ name ∈ Civil.monthNames, name.toList.head?.any Char.isAlpha = true ∧
      (Civil.abbreviated name).toList.head?.any Char.isAlpha = true := by
    decide
  rcases exists_monthName civil.date with ⟨index, listed, _, same⟩
  have begins : (element.written civil).head?.any Char.isAlpha = true := by
    cases element with
    | monthName =>
        rw [Element.written, same]
        exact (names _ (List.getElem_mem listed)).1
    | monthShort =>
        rw [Element.written, same]
        exact (names _ (List.getElem_mem listed)).2
    | _ => contradiction
  rcases (Option.any_eq_true _ _).mp begins with ⟨c, head, letter⟩
  rcases List.head?_eq_some_iff.mp head with ⟨others, written⟩
  exact ⟨c, others, written, letter⟩

/-- The elements that are numbers or names, which begin with digits and letters. -/
def Element.isSolid (element : Element) : Bool :=
  element.isNumber || element.isName

theorem exists_written_cons (civil : Civil.DateTime) {element : Element}
    (solid : element.isSolid = true) :
    ∃ c others, element.written civil = c :: others ∧ c.isAlphanum = true := by
  rcases Bool.or_eq_true_iff.mp solid with number | name
  · rcases exists_number_cons civil number with ⟨c, others, written, digit⟩
    exact ⟨c, others, written, by rw [Char.isAlphanum, digit, Bool.or_true]⟩
  · rcases exists_name_cons civil name with ⟨c, others, written, letter⟩
    exact ⟨c, others, written, by rw [Char.isAlphanum, letter, Bool.true_or]⟩

theorem isLayoutBlank_of_isAlphanum {c : Char} (inked : c.isAlphanum = true) :
    isLayoutBlank c = false := by
  rw [← Bool.not_eq_true]
  intro blank
  simp only [isLayoutBlank, Bool.or_eq_true, beq_iff_eq] at blank
  rcases blank with (((rfl | rfl) | rfl) | rfl) | rfl <;> contradiction

/-- A number in full width ends with its last digit, whatever follows it. -/
theorem readNumber_zeroPadded {most number : Nat} (positive : 0 < most)
    (fits : number < Nat.pow 10 most) (rest : List Char) :
    readNumber most ((zeroPadded most number).toList ++ rest) = some (number, rest) := by
  have length := Text.length_zeroPadded positive fits
  have unblank : ((zeroPadded most number).toList ++ rest).dropWhile isLayoutBlank =
      (zeroPadded most number).toList ++ rest := by
    rcases exists_digit_zeroPadded most number with ⟨c, digits, written, digit⟩
    have notBlank : isLayoutBlank c = false :=
      isLayoutBlank_of_isAlphanum (by rw [Char.isAlphanum, digit, Bool.or_true])
    rw [written, List.cons_append, List.dropWhile_cons_of_neg (by simp [notBlank])]
  have digits : (((zeroPadded most number).toList ++ rest).takeWhile Char.isDigit).take most =
      (zeroPadded most number).toList := by
    rw [List.takeWhile_append_of_pos fun c listed => Text.isDigit_of_mem_zeroPadded listed,
      List.take_left' length]
  simp only [readNumber, Text.readCount, unblank, digits, List.isEmpty_iff, Text.zeroPadded_ne_nil,
    if_false, Text.natOfDigits_zeroPadded, List.drop_left]

theorem readBounded_zeroPadded {low high number : Nat} (fits : number < Nat.pow 10 2)
    (bounds : low ≤ number ∧ number ≤ high) (rest : List Char) :
    readBounded low high ((zeroPadded 2 number).toList ++ rest) = some (number, rest) := by
  rw [readBounded, readNumber_zeroPadded (by decide) fits]
  exact if_pos bounds

/-- A year that does not begin with a sign. -/
theorem readSignedYear_of_unsigned {c : Char} (minus : c ≠ '-') (plus : c ≠ '+')
    (text : List Char) :
    readSignedYear (c :: text) = (readNumber 4 (c :: text)).map fun (year, rest) =>
      ((year : Int), rest) := by
  unfold readSignedYear
  split
  next same => exact absurd (List.cons.inj same).1 minus
  next same => exact absurd (List.cons.inj same).1 plus
  next => rfl

theorem readSignedYear_zeroPadded {number : Nat} (fits : number < Nat.pow 10 4) (rest : List Char) :
    readSignedYear ((zeroPadded 4 number).toList ++ rest) = some ((number : Int), rest) := by
  have read := readNumber_zeroPadded (by decide) fits rest
  rcases exists_digit_zeroPadded 4 number with ⟨c, digits, written, digit⟩
  rw [written, List.cons_append] at read ⊢
  rw [readSignedYear_of_unsigned (Text.ne_of_isDigit digit '-' rfl)
    (Text.ne_of_isDigit digit '+' rfl), read, Option.map_some]

/-- Each element reads what was written in its place, and blanks need something else behind them. -/
theorem readElement_written (early : 0 ≤ civil.date.year) (late : civil.date.year ≤ 9999)
    (element : Element) (parts : Parts) (stops : element = .blank -> Stops isLayoutBlank rest) :
    readElement element parts (element.written civil ++ rest) =
      some (element.record civil parts, rest) := by
  have month : civil.date.month < Nat.pow 10 2 := Nat.lt_of_le_of_lt civil.date.month_le (by decide)
  rcases civil.time.parts_lt with ⟨hour, minute, second, _⟩
  cases element with
  | year =>
      have fits : civil.date.year.natAbs < Nat.pow 10 4 := by
        change civil.date.year.natAbs < 10000
        omega
      have restored : (civil.date.year.natAbs : Int) = civil.date.year := by omega
      simp only [readElement, Element.written, Element.record, Option.map_some,
        readSignedYear_zeroPadded fits, restored]
  | month =>
      simp only [readElement, Element.written, Element.record, Option.map_some,
        readBounded_zeroPadded month ⟨civil.date.month_pos, civil.date.month_le⟩]
  | day =>
      simp only [readElement, Element.written, Element.record, Option.map_some,
        readBounded_zeroPadded civil.date.day_lt ⟨civil.date.day_pos, civil.date.day_le_31⟩]
  | hour =>
      simp only [readElement, Element.written, Element.record, Option.map_some,
        readBounded_zeroPadded (Nat.lt_trans hour (by decide)) ⟨Nat.zero_le _,
        Nat.le_of_lt_succ hour⟩]
  | minute =>
      simp only [readElement, Element.written, Element.record, Option.map_some,
        readBounded_zeroPadded (Nat.lt_trans minute (by decide)) ⟨Nat.zero_le _,
        Nat.le_of_lt_succ minute⟩]
  | second =>
      have noLeap : leapSecond civil.time.second = civil.time.second := if_neg (Nat.ne_of_lt second)
      simp only [readElement, Element.written, Element.record, Option.map_some, noLeap,
        readBounded_zeroPadded (Nat.lt_trans second (by decide)) ⟨Nat.zero_le _,
        Nat.le_of_lt second⟩]
  | monthName =>
      rcases exists_monthName civil.date with ⟨index, listed, counted, name⟩
      simp only [readElement, Element.written, Element.record, Option.map_some, name,
        told_monthNames.readName_append listed, counted]
  | monthShort =>
      rcases exists_monthName civil.date with ⟨index, listed, counted, name⟩
      have inShort : index < (Civil.monthNames.map Civil.abbreviated).length := by
        rwa [List.length_map]
      have read := told_abbreviated.readName_append inShort rest
      rw [List.getElem_map] at read
      simp only [readElement, Element.written, Element.record, Option.map_some, name, read, counted]
  | blank =>
      have blank : ∀ c ∈ [' '], isLayoutBlank c = true := List.forall_mem_singleton.mpr rfl
      have read : (' ' :: rest).dropWhile isLayoutBlank = rest :=
        Text.dropWhile_append_of_stops blank (stops rfl)
      simp only [readElement, Element.written, Element.record, List.cons_append,
        List.nil_append, read]
  | literal c =>
      simp only [readElement, Element.written, Element.record, List.cons_append, List.nil_append,
        List.head?_cons, if_true, List.drop_succ_cons, List.drop_zero]

/-! ## Layouts -/

namespace Layout

/-- A local datetime as it is written in a layout. -/
def written (layout : Layout) (civil : Civil.DateTime) : List Char :=
  layout.flatMap (Element.written civil)

/-- The parts with what a layout tells of a local datetime. -/
def record (layout : Layout) (civil : Civil.DateTime) (parts : Parts) : Parts :=
  layout.foldl (Element.record civil) parts

variable {layout earlier later : Layout} {element : Element} {parts found : Parts}

theorem written_cons (element : Element) (layout : Layout) (civil : Civil.DateTime) :
    written (element :: layout) civil = element.written civil ++ layout.written civil :=
  List.flatMap_cons

theorem read_cons (element : Element) (layout : Layout) (parts : Parts) (text : List Char) :
    read (element :: layout) (parts, text) = (readElement element parts text).bind layout.read :=
  List.foldlM_cons

/-- Behind blanks stands a number or a name, so that no further blank follows them. -/
def spaced : Layout -> Bool
  | [] => true
  | .blank :: others => others.head?.any Element.isSolid && spaced others
  | _ :: others => spaced others

theorem spaced_of_cons (isSpaced : spaced (element :: layout) = true) :
    layout.spaced = true ∧ (element = .blank -> layout.head?.any Element.isSolid = true) := by
  cases element with
  | blank =>
      rw [spaced, Bool.and_eq_true] at isSpaced
      exact ⟨isSpaced.2, fun _ => isSpaced.1⟩
  | _ => exact ⟨isSpaced, Element.noConfusion⟩

theorem exists_head_written (civil : Civil.DateTime)
    (solid : layout.head?.any Element.isSolid = true) :
    ∃ c behind, layout.written civil = c :: behind ∧ c.isAlphanum = true := by
  rcases (Option.any_eq_true _ _).mp solid with ⟨first, head, isSolid⟩
  rcases List.head?_eq_some_iff.mp head with ⟨others, rfl⟩
  rcases exists_written_cons civil isSolid with ⟨c, behind, same, inked⟩
  exact ⟨c, behind ++ written others civil, by rw [written_cons, same, List.cons_append], inked⟩

theorem stops_written (civil : Civil.DateTime) (solid : layout.head?.any Element.isSolid = true)
    (rest : List Char) :
    Stops isLayoutBlank (layout.written civil ++ rest) := by
  rcases exists_head_written civil solid with ⟨c, behind, same, inked⟩
  rw [same]
  exact Text.stops_cons _ (isLayoutBlank_of_isAlphanum inked)

/-- The first element reads what was written in its place. -/
theorem readElement_cons (early : 0 ≤ civil.date.year) (late : civil.date.year ≤ 9999)
    (isSpaced : spaced (element :: layout) = true) (parts : Parts) (rest : List Char) :
    readElement element parts (written (element :: layout) civil ++ rest) =
      some (element.record civil parts, layout.written civil ++ rest) := by
  rw [written_cons, List.append_assoc]
  refine readElement_written early late element parts fun blank => ?_
  exact stops_written civil ((spaced_of_cons isSpaced).2 blank) rest

/-- A layout reads what was written in it. -/
theorem read_written (early : 0 ≤ civil.date.year) (late : civil.date.year ≤ 9999)
    (isSpaced : layout.spaced = true) (parts : Parts) :
    layout.read (parts, layout.written civil) = some (layout.record civil parts, []) := by
  induction layout generalizing parts with
  | nil => rfl
  | cons element others inductionHypothesis =>
      have first := readElement_cons early late isSpaced parts []
      rw [List.append_nil, List.append_nil] at first
      rw [read_cons, first, Option.bind_some, inductionHypothesis (spaced_of_cons isSpaced).1]
      rfl

/-! ## Marks -/

/-- Characters that stand in no number, in no name of a month and for no blank. -/
def marks : List Char :=
  [':', '/', ',', '-', '+', 'T', 'Z', 'z', '[']

theorem not_mem_zeroPadded_of_mark {mark : Char} (listed : mark ∈ marks) (width n : Nat) :
    mark ∉ (zeroPadded width n).toList := by
  intro member
  have notDigit : marks.all (fun mark => !mark.isDigit) = true := by decide
  have other := List.all_eq_true.mp notDigit mark listed
  rw [Text.isDigit_of_mem_zeroPadded member] at other
  exact Bool.noConfusion other

/-- A mark is written by its own element only. -/
theorem count_written_element {mark : Char} (listed : mark ∈ marks) (element : Element) :
    (element.written civil).count mark = if element = .literal mark then 1 else 0 := by
  have number (width n : Nat) : (zeroPadded width n).toList.count mark = 0 :=
    List.count_eq_zero.mpr (not_mem_zeroPadded_of_mark listed width n)
  have unnamed : ∀ name ∈ Civil.monthNames,
      marks.all (fun mark => name.toList.count mark == 0) = true := by decide
  rcases exists_monthName civil.date with ⟨index, inNames, _, name⟩
  have noName :=
    beq_iff_eq.mp (List.all_eq_true.mp (unnamed _ (List.getElem_mem inNames)) mark listed)
  cases element with
  | monthName => rw [Element.written, name, noName, if_neg Element.noConfusion]
  | monthShort =>
      have within := (List.take_sublist 3 (Civil.monthNames[index]).toList).count_le mark
      rw [Element.written, name, Civil.abbreviated, String.toList_ofList,
        if_neg Element.noConfusion]
      omega
  | blank =>
      have unspaced : marks.all (fun mark => [' '].count mark == 0) = true := by decide
      rw [Element.written, beq_iff_eq.mp (List.all_eq_true.mp unspaced mark listed),
        if_neg Element.noConfusion]
  | literal c => simp [Element.written, List.count_cons]
  | _ => rw [Element.written, number, if_neg Element.noConfusion]

/-- A text has a mark as often as the layout in which it was written. -/
theorem count_written {mark : Char} (listed : mark ∈ marks) (layout : Layout) :
    (layout.written civil).count mark = layout.count (.literal mark) := by
  induction layout with
  | nil => rfl
  | cons element others inductionHypothesis =>
      rw [written_cons, List.count_append, inductionHypothesis, count_written_element listed,
        List.count_cons]
      simp only [beq_iff_eq, Nat.add_comm]

/-- A layout takes up its own characters one by one. -/
theorem count_le_of_read (c : Char) (read : layout.read (parts, text) = some (found, rest)) :
    layout.count (.literal c) + rest.count c ≤ text.count c := by
  induction layout generalizing parts text with
  | nil =>
      cases read
      exact Nat.le_of_eq (Nat.zero_add _)
  | cons element others inductionHypothesis =>
      rw [read_cons] at read
      rcases Option.bind_eq_some_iff.mp read with ⟨⟨between, middle⟩, readFirst, readOthers⟩
      have behind := inductionHypothesis readOthers
      by_cases same : element = .literal c
      · subst same
        simp only [readElement] at readFirst
        split at readFirst
        next head =>
          cases readFirst
          rcases List.head?_eq_some_iff.mp head with ⟨tail, rfl⟩
          simp only [List.drop_succ_cons, List.drop_zero, List.count_cons_self] at behind ⊢
          omega
        next => contradiction
      · have kept := (suffix_of_readElement readFirst).sublist.count_le c
        rw [List.count_cons_of_ne same]
        omega

end Layout

/-! ## Layouts that give way -/

/-- A number in the place of a name or of a character that begins no number, or a name in the place
of a number. -/
def Element.misses (element other : Element) : Bool :=
  if element.isNumber then
    match other with
    | .literal c => !isNumeric c
    | other => other.isName
  else element.isName && other.isNumber

theorem isNumeric_of_isAlpha {c : Char} (letter : c.isAlpha = true) : isNumeric c = false := by
  have notBlank : isLayoutBlank c = false :=
    isLayoutBlank_of_isAlphanum (by rw [Char.isAlphanum, letter, Bool.true_or])
  rw [← Bool.not_eq_true]
  intro numeric
  simp only [isNumeric, notBlank, Bool.or_false, Bool.or_eq_true, beq_iff_eq] at numeric
  rcases numeric with (digit | rfl) | rfl
  · have bounds := isDigit_iff_toNat.mp digit
    rcases Bool.or_eq_true_iff.mp letter with capital | small
    · have range := toNat_of_isUpper capital
      omega
    · have range := toNat_of_isLower small
      omega
  · contradiction
  · contradiction

theorem readNumber_eq_none {c : Char} (other : isNumeric c = false) (most : Nat)
    (rest : List Char) :
    readNumber most (c :: rest) = none := by
  simp only [isNumeric, Bool.or_eq_false_iff] at other
  rcases other with ⟨⟨⟨notDigit, notBlank⟩, _⟩, _⟩
  simp only [readNumber, Text.readCount, List.dropWhile_cons, notBlank, List.takeWhile_cons,
    notDigit, Bool.false_eq_true, if_false, List.take_nil, List.isEmpty_nil, if_true]

theorem readElement_of_isNumber {element : Element} (number : element.isNumber = true) {c : Char}
    (other : isNumeric c = false) (parts : Parts) (rest : List Char) :
    readElement element parts (c :: rest) = none := by
  have unread (most : Nat) := readNumber_eq_none other most rest
  simp only [isNumeric, Bool.or_eq_false_iff, beq_eq_false_iff_ne] at other
  cases element with
  | year =>
      rw [readElement, readSignedYear_of_unsigned other.1.2 other.2, unread]
      rfl
  | monthName => contradiction
  | monthShort => contradiction
  | blank => contradiction
  | literal => contradiction
  | _ =>
      rw [readElement, readBounded, unread]
      rfl

theorem readElement_of_isName {element : Element} (name : element.isName = true) {c : Char}
    (digit : c.isDigit = true) (parts : Parts) (rest : List Char) :
    readElement element parts (c :: rest) = none := by
  cases element with
  | monthName => rw [readElement, told_monthNames.readName_of_isDigit digit, Option.map_none]
  | monthShort => rw [readElement, told_abbreviated.readName_of_isDigit digit, Option.map_none]
  | _ => contradiction

theorem readElement_of_misses (civil : Civil.DateTime) {element other : Element}
    (misses : element.misses other = true) (parts : Parts) (rest : List Char) :
    readElement element parts (other.written civil ++ rest) = none := by
  unfold Element.misses at misses
  split at misses
  next number =>
    split at misses
    next c =>
      rw [Bool.not_eq_true'] at misses
      exact readElement_of_isNumber number misses parts rest
    next =>
      rcases exists_name_cons civil misses with ⟨c, others, written, letter⟩
      rw [written, List.cons_append, readElement_of_isNumber number (isNumeric_of_isAlpha letter)]
  next =>
    rw [Bool.and_eq_true] at misses
    rcases exists_number_cons civil misses.2 with ⟨c, others, written, digit⟩
    rw [written, List.cons_append, readElement_of_isName misses.1 digit]

/-- A character that stands for itself and is no blank. -/
def Element.isInked : Element -> Bool
  | .literal c => !isLayoutBlank c
  | _ => false

namespace Layout

variable {layout earlier later : Layout} {parts found : Parts}

/-- No blanks are found where another character stands. -/
theorem readElement_blank (civil : Civil.DateTime) {element : Element}
    (inked : element.isInked = true) (others : Layout) (parts : Parts) :
    readElement .blank parts (written (element :: others) civil) =
      some (parts, written (element :: others) civil) := by
  cases element with
  | literal c =>
      rw [Element.isInked, Bool.not_eq_true'] at inked
      rw [readElement, written_cons, Element.written, List.singleton_append,
        List.dropWhile_cons_of_neg (by simp [inked])]
  | _ => contradiction

/-- A full name reads a short one only if both are names of one month, and then it leaves the blank
behind it. -/
theorem eq_of_readElement_monthName_short (civil : Civil.DateTime) (behind : Layout)
    {rest : List Char}
    (isRead : readElement .monthName parts (written (.monthShort :: .blank :: behind) civil) =
      some (found, rest)) :
    found = Element.record civil parts .monthShort ∧ rest = written (.blank :: behind) civil := by
  rcases exists_monthName civil.date with ⟨index, listed, counted, name⟩
  have shape : written (.monthShort :: .blank :: behind) civil =
      (Civil.abbreviated Civil.monthNames[index]).toList ++ ' ' :: written behind civil := by
    rw [written_cons, written_cons, Element.written, name, Element.written, List.singleton_append]
  rw [readElement, shape] at isRead
  rcases Option.map_eq_some_iff.mp isRead with ⟨⟨month, after⟩, readMonth, same⟩
  rcases eq_of_readName_abbreviated listed readMonth with ⟨rfl, rfl⟩
  cases same
  rw [counted]
  exact ⟨rfl, rfl⟩

/-- A layout that finds nothing in what is written in another one, or the same as the other one.
The two are followed up to an element that misses the other's place; a full name may stand in the
place of a short one with a blank behind it, and blanks need not be there. -/
def concedes : Layout -> Layout -> Bool
  | [], later => later.isEmpty
  | _ :: _, [] => false
  | element :: others, other :: others' =>
    if element = other then concedes others others'
    else if element = .monthName ∧ other = .monthShort ∧
      others'.head? = some .blank then concedes others others'
    else if element = .blank ∧ other.isInked then concedes others (other :: others')
    else element.misses other

theorem eq_record_of_concedes (early : 0 ≤ civil.date.year) (late : civil.date.year ≤ 9999)
    (conceded : earlier.concedes later = true) (isSpaced : later.spaced = true)
    (isRead : earlier.read (parts, later.written civil) = some (found, [])) :
    found = later.record civil parts := by
  fun_induction concedes earlier later generalizing parts
  case case1 later =>
    cases List.isEmpty_iff.mp conceded
    cases isRead
    rfl
  case case2 => contradiction
  case case3 others element others' inductionHypothesis =>
    have first := readElement_cons early late isSpaced parts []
    rw [List.append_nil, List.append_nil] at first
    rw [read_cons, first, Option.bind_some] at isRead
    exact inductionHypothesis conceded (spaced_of_cons isSpaced).1 isRead
  case case4 element others other others' _ names inductionHypothesis =>
    rcases names with ⟨rfl, rfl, head⟩
    rcases List.head?_eq_some_iff.mp head with ⟨behind, rfl⟩
    rw [read_cons] at isRead
    rcases Option.bind_eq_some_iff.mp isRead with ⟨⟨between, middle⟩, readName, readOthers⟩
    rcases eq_of_readElement_monthName_short civil behind readName with ⟨rfl, rfl⟩
    exact inductionHypothesis conceded (spaced_of_cons isSpaced).1 readOthers
  case case5 element others other others' _ _ skipped inductionHypothesis =>
    -- The blanks of the earlier layout take nothing up, so that the later one stays where it is.
    rcases skipped with ⟨rfl, inked⟩
    rw [read_cons, readElement_blank civil inked, Option.bind_some] at isRead
    exact inductionHypothesis conceded isSpaced isRead
  case case6 element others other others' _ _ _ =>
    rw [read_cons, written_cons, readElement_of_misses civil conceded] at isRead
    contradiction

/-- An earlier layout that leaves the texts of a later one to it, because it has a mark more often,
or concedes. -/
def yields (earlier later : Layout) : Bool :=
  marks.any (fun mark => later.count (.literal mark) < earlier.count (.literal mark)) ||
    earlier.concedes later

/-- No layout finds its way through a text that has too few of its marks. -/
theorem read_ne_some_of_count {mark : Char} (listed : mark ∈ marks)
    (more : later.count (.literal mark) < earlier.count (.literal mark)) :
    earlier.read (parts, later.written civil) ≠ some (found, rest) := by
  intro isRead
  have needed := count_le_of_read mark isRead
  rw [count_written listed] at needed
  omega

theorem eq_record_of_yields (early : 0 ≤ civil.date.year) (late : civil.date.year ≤ 9999)
    (yielded : earlier.yields later = true) (isSpaced : later.spaced = true)
    (isRead : earlier.read (parts, later.written civil) = some (found, [])) :
    found = later.record civil parts := by
  rw [yields, Bool.or_eq_true] at yielded
  rcases yielded with outnumbers | conceded
  · rcases List.any_eq_true.mp outnumbers with ⟨mark, listed, more⟩
    exact absurd isRead (read_ne_some_of_count listed (of_decide_eq_true more))
  · exact eq_record_of_concedes early late conceded isSpaced isRead

/-- Layouts that are tried one after another, of which every one yields to those behind it. -/
structure InOrder (layouts : List Layout) : Prop where
  spaced : ∀ layout ∈ layouts, layout.spaced = true
  yields : layouts.Pairwise fun earlier later => earlier.yields later = true

/-- The first layout that a text has gives what was written in any of them. -/
theorem InOrder.findSome?_written {layouts : List Layout} (inOrder : InOrder layouts)
    (early : 0 ≤ civil.date.year) (late : civil.date.year ≤ 9999) (listed : layout ∈ layouts)
    (finish : Parts -> Option α) {value : α}
    (finishes : finish (layout.record civil .initial) = some value) :
    layouts.findSome? (fun layout' => (layout'.parts? (layout.written civil)).bind finish) =
      some value := by
  induction layouts with
  | nil => contradiction
  | cons first others inductionHypothesis =>
      have isSpaced := inOrder.spaced layout listed
      rcases List.pairwise_cons.mp inOrder.yields with ⟨firstYields, othersYield⟩
      rw [List.findSome?_cons]
      cases isRead : first.parts? (layout.written civil) with
      | some found =>
          have same : found = layout.record civil .initial := by
            rw [parts?_eq_some_iff] at isRead
            rcases List.mem_cons.mp listed with rfl | later
            · rw [read_written early late isSpaced] at isRead
              cases isRead
              rfl
            · exact eq_record_of_yields early late (firstYields layout later) isSpaced isRead
          rw [Option.bind_some, same, finishes]
      | none =>
          rw [Option.bind_none]
          rcases List.mem_cons.mp listed with rfl | later
          · rw [parts?_eq_some_iff.mpr (read_written early late isSpaced _)] at isRead
            contradiction
          · exact inductionHypothesis
              ⟨fun _ member => inOrder.spaced _ (List.mem_cons_of_mem _ member), othersYield⟩ later

end Layout

end DateText
end Chronometry
