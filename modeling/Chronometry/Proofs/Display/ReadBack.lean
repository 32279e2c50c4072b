import Mathlib.Data.List.Basic
import Chronometry.Proofs.Display.SameAmount
import Chronometry.Proofs.Text.Runs

/-!
# Reading displayed durations

A displayed duration leaves out the fields of zero and writes the sign once for all others.  Nothing
is lost by that: a reader that knows the labels recovers all ten fields.  It cuts the text at its
commas, and each piece is a count and a label.  The labels of two grains are never the same, for one
of them or for more, so that a piece says which field it is of, and fields without a piece are zero.

Written durations are all that the reader is asked to read.  It makes no attempt to refuse other
texts.
-/

namespace Chronometry
namespace Display

/-! ## The reader -/

/-- The grain of a label, for a count of one or for other counts. -/
def grainOf? (label : List Char) : Option Grain :=
  Grain.all.find? fun grain => (labels grain).1.toList == label || (labels grain).2.toList == label

/-- A count with its label. -/
def readLabelled? (piece : List Char) : Option (Grain × Nat) :=
  let (digits, label) := Text.spanDigits piece
  (grainOf? (Text.trimStart label)).map fun grain => (grain, Text.natOfDigits digits)

/-- Counts with their labels between commas. -/
def readCounts? (text : List Char) : Option (List (Grain × Nat)) :=
  ((text.splitOn ',').map Text.trimStart).mapM readLabelled?

/-- The fields that have given counts, all with one sign.  A grain without a count has a field of
zero. -/
def signedFields (negative : Bool) (counts : List (Grain × Nat)) : Fields :=
  .ofCounts fun grain =>
    let count : Nat := (counts.lookup grain).getD 0
    if negative then -count else count

/-- The fields of a displayed duration. -/
def readFields? (text : String) : Option Fields :=
  match text.toList with
  | '-' :: rest => (readCounts? rest).map (signedFields true)
  | rest => (readCounts? rest).map (signedFields false)

/-! ## Pieces -/

/-- The label that goes with a count. -/
def labelOf (grain : Grain) (count : Nat) : List Char :=
  (if count = 1 then (labels grain).1 else (labels grain).2).toList

/-- No label belongs to two grains. -/
theorem grainOf?_labelOf (grain : Grain) (count : Nat) :
    grainOf? (labelOf grain count) = some grain := by
  unfold labelOf
  split <;> cases grain <;> decide

theorem trimStart_labelOf (grain : Grain) (count : Nat) :
    Text.trimStart (labelOf grain count) = labelOf grain count := by
  unfold labelOf
  split <;> cases grain <;> decide

theorem comma_not_mem_labelOf (grain : Grain) (count : Nat) : ',' ∉ labelOf grain count := by
  unfold labelOf
  split <;> cases grain <;> decide

theorem toList_labelled (grain : Grain) (count : Nat) :
    (labelled grain count).toList = Nat.toDigits 10 count ++ ' ' :: labelOf grain count := by
  rw [labelled, Nat.toString_eq_ofList_toDigits]
  simp [labelOf]

/-- A count is read back with its label. -/
theorem readLabelled?_labelled (grain : Grain) (count : Nat) :
    readLabelled? (labelled grain count).toList = some (grain, count) := by
  have stops : Text.Stops Char.isDigit (' ' :: labelOf grain count) := Text.stops_cons _ rfl
  have filled : ∀ c ∈ Nat.toDigits 10 count, c.isDigit = true :=
    fun _ => Text.isDigit_of_mem_toDigits
  have digits : Text.spanDigits (labelled grain count).toList =
      (Nat.toDigits 10 count, ' ' :: labelOf grain count) := by
    rw [toList_labelled, Text.spanDigits, Text.takeWhile_append_of_stops filled stops,
      Text.dropWhile_append_of_stops filled stops]
  have label : Text.trimStart (' ' :: labelOf grain count) = labelOf grain count := by
    rw [Text.trimStart_cons_of_blank _ rfl, trimStart_labelOf]
  rw [readLabelled?, digits]
  simp only [label, grainOf?_labelOf, Option.map_some, Text.natOfDigits,
    Nat.ofDigitChars_ten_toDigits]

theorem comma_not_mem_labelled (grain : Grain) (count : Nat) :
    ',' ∉ (labelled grain count).toList := by
  rw [toList_labelled, List.mem_append, List.mem_cons]
  rintro (digit | blank | label)
  · exact absurd (Text.isDigit_of_mem_toDigits digit) (by decide)
  · exact absurd blank (by decide)
  · exact comma_not_mem_labelOf grain count label

theorem trimStart_labelled (grain : Grain) (count : Nat) :
    Text.trimStart (labelled grain count).toList = (labelled grain count).toList := by
  have inked : ∀ c ∈ Nat.toDigits 10 count, Text.isBlank c = false := fun _ listed =>
    Text.isBlank_of_isDigit (Text.isDigit_of_mem_toDigits listed)
  rw [toList_labelled]
  exact Text.trimStart_eq_self_of_stops (Text.stops_append_of_ne_nil inked Nat.toDigits_ne_nil _)

/-! ## Texts between commas -/

/-- Texts without commas are recovered from between commas, but for the blanks that they begin
with. -/
theorem map_trimStart_splitOn {pieces : List (List Char)} (nonempty : pieces ≠ [])
    (plain : ∀ piece ∈ pieces, ',' ∉ piece) :
    (([',', ' '].intercalate pieces).splitOn ',').map Text.trimStart =
      pieces.map Text.trimStart := by
  induction pieces with
  | nil => exact absurd rfl nonempty
  | cons piece rest inductionHypothesis =>
      rcases List.forall_mem_cons.mp plain with ⟨first, others⟩
      cases rest with
      | nil => rw [List.intercalate_singleton, List.splitOn_eq_singleton first]
      | cons next later =>
          have separated : [',', ' '].intercalate (piece :: next :: later) =
              piece ++ ',' :: ' ' :: [',', ' '].intercalate (next :: later) := by
            rw [List.intercalate_cons_cons, List.append_assoc]
            rfl
          have blank :
              ((' ' :: [',', ' '].intercalate (next :: later)).splitOn ',').map Text.trimStart =
                (([',', ' '].intercalate (next :: later)).splitOn ',').map Text.trimStart := by
            rw [List.splitOn_cons_eq_if_modifyHead]
            cases ([',', ' '].intercalate (next :: later)).splitOn ',' with
            | nil => rfl
            | cons head tail => exact congrArg (· :: _) (Text.trimStart_cons_of_blank head rfl)
          rw [separated, List.splitOn_append_cons_self_of_not_mem first, List.map_cons,
            List.map_cons, blank, inductionHypothesis (List.cons_ne_nil _ _) others]

theorem mapM_readLabelled?_labelled (counts : List (Grain × Nat)) :
    (counts.map fun count => (labelled count.1 count.2).toList).mapM readLabelled? =
      some counts := by
  induction counts with
  | nil => rfl
  | cons count rest inductionHypothesis =>
      rw [List.map_cons, List.mapM_cons, readLabelled?_labelled, inductionHypothesis]
      rfl

/-- Counts are read back from between commas. -/
theorem readCounts?_intercalate {counts : List (Grain × Nat)} (nonempty : counts ≠ []) :
    readCounts? (", ".intercalate (counts.map fun count => labelled count.1 count.2)).toList =
      some counts := by
  have plain : ∀ piece ∈ counts.map (fun count => (labelled count.1 count.2).toList),
      ',' ∉ piece := by
    intro piece listed
    rcases List.mem_map.mp listed with ⟨count, _, rfl⟩
    exact comma_not_mem_labelled count.1 count.2
  have trimmed : (counts.map fun count => (labelled count.1 count.2).toList).map Text.trimStart =
      counts.map fun count => (labelled count.1 count.2).toList := by
    rw [List.map_map]
    exact List.map_congr_left fun count _ => trimStart_labelled count.1 count.2
  rw [String.toList_intercalate, List.map_map]
  change (((([',', ' '].intercalate (counts.map fun count =>
    (labelled count.1 count.2).toList)).splitOn ',').map
    Text.trimStart).mapM readLabelled?) = some counts
  rw [map_trimStart_splitOn (mt List.map_eq_nil_iff.mp nonempty) plain, trimmed,
    mapM_readLabelled?_labelled]

/-! ## Displayed durations -/

/-- The counts of a duration that are displayed. -/
def shownCounts (d : Duration) : List (Grain × Nat) :=
  (Grain.all.filter fun grain => d.get grain ≠ 0).map fun grain => (grain, (d.get grain).natAbs)

variable {d : Duration}

theorem fieldTexts_eq (d : Duration) :
    fieldTexts d = (shownCounts d).map fun count => labelled count.1 count.2 := by
  rw [fieldTexts, shownCounts, List.map_map]
  rfl

theorem shownCounts_ne_nil (present : ¬∀ grain, d.get grain = 0) : shownCounts d ≠ [] := by
  intro nothing
  apply present
  rw [← fieldTexts_eq_nil_iff, fieldTexts_eq, nothing]
  rfl

/-- A grain that is not displayed has a field of zero. -/
theorem lookup_shownCounts (d : Duration) (grain : Grain) :
    ((shownCounts d).lookup grain).getD 0 = (d.get grain).natAbs := by
  by_cases zero : d.get grain = 0
  · have absent : (shownCounts d).lookup grain = none := by
      rw [List.lookup_eq_none_iff]
      intro count listed
      rcases List.mem_map.mp listed with ⟨other, present, rfl⟩
      have nonzero : d.get other ≠ 0 := of_decide_eq_true (List.mem_filter.mp present).2
      rw [bne_iff_ne]
      rintro rfl
      exact nonzero zero
    rw [absent, zero]
    rfl
  · have present : grain ∈ Grain.all.filter fun grain => d.get grain ≠ 0 :=
      List.mem_filter.mpr ⟨grain.mem_all, decide_eq_true zero⟩
    rw [shownCounts, List.lookup_graph _ present]
    rfl

/-- The displayed counts and the sign make up the fields, because the fields have one sign. -/
theorem signedFields_shownCounts (d : Duration) :
    signedFields (d.sign < 0) (shownCounts d) = d.fields := by
  apply Fields.ext_get
  intro grain
  rw [signedFields, Fields.get_ofCounts, lookup_shownCounts]
  change _ = d.get grain
  by_cases negative : d.sign < 0
  · rcases Duration.sign_neg_iff.mp negative with ⟨other, below⟩
    have nonpos : d.get grain ≤ 0 := by
      rcases d.get_nonneg_or_nonpos with nonneg | nonpos
      · exact absurd (nonneg other) (Int.not_le.mpr below)
      · exact nonpos grain
    rw [if_pos (decide_eq_true negative), Int.ofNat_natAbs_of_nonpos nonpos, Int.neg_neg]
  · have nonneg : 0 ≤ d.get grain :=
      Int.not_lt.mp fun below => negative (Duration.sign_neg_iff.mpr ⟨grain, below⟩)
    rw [if_neg (by simpa using negative), Int.natAbs_of_nonneg nonneg]

theorem duration_eq_of_present (present : ¬∀ grain, d.get grain = 0) :
    duration d = (if d.sign < 0 then "-" else "") ++
      ", ".intercalate ((shownCounts d).map fun count => labelled count.1 count.2) := by
  have shown : (fieldTexts d).isEmpty = false := by
    simpa using mt fieldTexts_eq_nil_iff.mp present
  simp only [duration, shown, Bool.false_eq_true, if_false, ← fieldTexts_eq]

theorem readFields?_of_unsigned {text : String} (unsigned : text.toList.head? ≠ some '-') :
    readFields? text = (readCounts? text.toList).map (signedFields false) := by
  unfold readFields?
  split
  next signed => exact absurd (congrArg List.head? signed) unsigned
  next => rfl

/-- The fields are read off the text of a duration.  Its first count begins with a digit, so that a
minus in front of it is the sign. -/
theorem readFields?_duration (d : Duration) : readFields? (duration d) = some d.fields := by
  by_cases zero : ∀ grain, d.get grain = 0
  · have fields : d.fields = .zero := by
      apply Fields.ext_get
      intro grain
      rw [Fields.zero, Fields.get_ofCounts]
      exact zero grain
    rw [duration_of_zero zero, fields]
    decide +kernel
  · have written := duration_eq_of_present zero
    have read := readCounts?_intercalate (shownCounts_ne_nil zero)
    have fields := signedFields_shownCounts d
    by_cases negative : d.sign < 0
    · rw [if_pos negative] at written
      rw [decide_eq_true negative] at fields
      have signed : (duration d).toList =
          '-' :: (", ".intercalate ((shownCounts d).map fun count =>
            labelled count.1 count.2)).toList := by
        rw [written, String.toList_append]
        rfl
      rw [readFields?, signed]
      change (readCounts? _).map (signedFields true) = _
      rw [read, Option.map_some, fields]
    · rw [if_neg negative, String.empty_append] at written
      rw [decide_eq_false negative] at fields
      have unsigned : (duration d).toList.head? ≠ some '-' :=
        mt duration_begins_minus_iff.mp (mt Duration.sign_neg_iff.mpr negative)
      rw [readFields?_of_unsigned unsigned, written, read, Option.map_some, fields]

/-- No two durations are displayed alike unless they have the same ten fields.  The fields can be
read off the text, which is that of no time at all for fields of zero. -/
theorem displayed_fields_are_read_back :
    (∀ d : Duration, readFields? (duration d) = some d.fields) ∧
      (∀ d e : Duration, duration d = duration e ↔ d.fields = e.fields) ∧
      duration .zero = "0 sec" ∧ readFields? "0 sec" = some .zero := by
  have zero : duration .zero = "0 sec" := duration_of_zero (Fields.get_ofCounts _)
  refine ⟨readFields?_duration,
    fun d e => ⟨?_, ?_⟩, zero, zero ▸ readFields?_duration .zero⟩
  · intro same
    have read := congrArg readFields? same
    rw [readFields?_duration, readFields?_duration] at read
    exact Option.some.inj read
  · intro same
    cases d
    cases e
    obtain rfl := same
    rfl

end Display
end Chronometry
