import Chronometry.Proofs.DateText.Distance

/-!
# Signs in front of a duration text

The sign is taken off before any grammar sees the body, and it counts once only: a body that begins
with another sign is refused, although numbers in other places may have signs of their own.  The
minus is put back on the length in milliseconds.  Every later stage is odd, from the scaling to
nanoseconds to the fields, so that the minus arrives at each of the fields and nowhere else.
-/

namespace Chronometry
namespace DurationText

variable {sign : Char} {text : List Char}

theorem splitSign_of_not_beginsSigned (unsigned : beginsSigned text = false) :
    splitSign text = (false, text) := by
  cases text with
  | nil => rfl
  | cons c rest =>
      rw [beginsSigned, Bool.or_eq_false_iff, beq_eq_false_iff_ne, beq_eq_false_iff_ne] at unsigned
      exact splitSign_of_unsigned rest unsigned.2 unsigned.1

/-- The body behind a sign is the whole text without its blanks, wherever they stand. -/
theorem splitSign_trim_cons (isSign : sign = '+' ∨ sign = '-') (text : List Char) :
    splitSign (Text.trim (sign :: text)) = (sign == '-', Text.trim text) := by
  have ink : Text.isBlank sign = false := by
    rcases isSign with rfl | rfl <;> decide
  rw [Text.trim, Text.trimStart_cons _ ink, Text.trimEnd_cons _ ink, Text.trim,
    ← Text.trimStart_trimEnd]
  rcases isSign with rfl | rfl <;> rfl

theorem milliseconds?_cons_sign (isSign : sign = '+' ∨ sign = '-') (text : List Char) :
    milliseconds? (sign :: text) =
      if (Text.trim text).isEmpty || beginsSigned (Text.trim text) then none
      else (bodyMilliseconds? (Text.trim text)).map fun length =>
        if sign == '-' then -length else length := by
  rw [milliseconds?, splitSign_trim_cons isSign]

/-- Nothing is denoted by a sign alone, nor by two signs. -/
theorem milliseconds?_cons_sign_eq_none (isSign : sign = '+' ∨ sign = '-')
    (bodiless : Text.trim text = [] ∨ beginsSigned (Text.trim text) = true) :
    milliseconds? (sign :: text) = none := by
  have refused : ((Text.trim text).isEmpty || beginsSigned (Text.trim text)) = true := by
    rwa [Bool.or_eq_true, List.isEmpty_iff]
  rw [milliseconds?_cons_sign isSign, if_pos refused]

theorem milliseconds?_cons_sign_of_unsigned (isSign : sign = '+' ∨ sign = '-')
    (unsigned : beginsSigned (Text.trim text) = false) :
    milliseconds? (sign :: text) = (milliseconds? text).map fun length =>
      if sign == '-' then -length else length := by
  rw [milliseconds?_cons_sign isSign, milliseconds?, splitSign_of_not_beginsSigned unsigned]
  simp only [Bool.false_eq_true, if_false, Option.map_id']
  split
  next => rfl
  next => rfl

theorem milliseconds?_plus (unsigned : beginsSigned (Text.trim text) = false) :
    milliseconds? ('+' :: text) = milliseconds? text := by
  rw [milliseconds?_cons_sign_of_unsigned (Or.inl rfl) unsigned]
  exact Option.map_id'

theorem milliseconds?_minus (unsigned : beginsSigned (Text.trim text) = false) :
    milliseconds? ('-' :: text) = (milliseconds? text).map fun length => -length :=
  milliseconds?_cons_sign_of_unsigned (Or.inr rfl) unsigned

/-! ## Blanks -/

variable {before gap after : List Char}

theorem milliseconds?_append_blanks (blankBefore : ∀ c ∈ before, Text.isBlank c = true)
    (blankAfter : ∀ c ∈ after, Text.isBlank c = true) (text : List Char) :
    milliseconds? (before ++ text ++ after) = milliseconds? text :=
  milliseconds?_of_trim_eq (Text.trim_append_blanks blankBefore blankAfter text)

theorem milliseconds?_cons_sign_gap (isSign : sign = '+' ∨ sign = '-')
    (blank : ∀ c ∈ gap, Text.isBlank c = true) (text : List Char) :
    milliseconds? (sign :: (gap ++ text)) = milliseconds? (sign :: text) := by
  rw [milliseconds?_cons_sign isSign, milliseconds?_cons_sign isSign, Text.trim_blanks_append blank]

end DurationText

namespace Engine

open DurationText

variable {engine : Engine} {text : String}

theorem duration_text_of_unread (durations : engine.durations = .everyday)
    (unread : milliseconds? text.toList = none) :
    engine.duration (.text text) = .error (.unreadable .duration text) := by
  rw [duration, durations, Source.toDuration]
  simp only [DurationReader.everyday, unread]

/-- What is said of the length in milliseconds holds of the duration: one exists with the other, and
their fields are opposite. -/
theorem duration_minus (durations : engine.durations = .everyday)
    (unsigned : beginsSigned (Text.trim text.toList) = false) :
    ((∃ e, engine.duration (.text ("-" ++ text)) = .ok e) ↔
      ∃ d, engine.duration (.text text) = .ok d) ∧
      ∀ d e,
        engine.duration (.text text) = .ok d -> engine.duration (.text ("-" ++ text)) = .ok e ->
        ∀ grain, e.get grain = -d.get grain := by
  have written : ("-" ++ text).toList = '-' :: text.toList := String.toList_append
  simp only [duration_text_eq_ok_iff durations, written, milliseconds?_minus unsigned]
  cases read : milliseconds? text.toList with
  | none => simp
  | some length =>
      simp only [Option.map_some, Option.some.injEq, exists_eq_left']
      exact ⟨Duration.exists_ofMilliseconds_neg_iff length, fun d e =>
        Duration.get_of_ofMilliseconds_neg⟩

/-- A sign in front of a text that has none keeps or negates what the text denotes, and does nothing
else; in front of a sign, or of nothing, it is refused.  Blanks count nowhere around the sign and
the text.  The durations of a text and of the text behind a minus exist together, and every field of
one is the opposite of the other's. -/
theorem leading_sign_negates_duration_text (engine : Engine)
    (durations : engine.durations = .everyday) (text : String) :
    (Text.trim text.toList = [] ∨ beginsSigned (Text.trim text.toList) = true ->
      DurationReader.everyday ("+" ++ text) = none ∧
        DurationReader.everyday ("-" ++ text) = none) ∧
    (Text.trim text.toList ≠ [] -> beginsSigned (Text.trim text.toList) = false ->
      DurationReader.everyday ("+" ++ text) = DurationReader.everyday text ∧
        DurationReader.everyday ("-" ++ text) = (DurationReader.everyday text).map fun length =>
          -length) ∧
    (∀ before gap after : String, (∀ c ∈ (before ++ gap ++ after).toList, Text.isBlank c = true) ->
      DurationReader.everyday (before ++ text ++ after) = DurationReader.everyday text ∧
        DurationReader.everyday ("+" ++ gap ++ text) = DurationReader.everyday ("+" ++ text) ∧
        DurationReader.everyday ("-" ++ gap ++ text) = DurationReader.everyday ("-" ++ text)) ∧
    (beginsSigned (Text.trim text.toList) = false ->
      ((∃ e, engine.duration (.text ("-" ++ text)) = .ok e) ↔
        ∃ d, engine.duration (.text text) = .ok d) ∧
        ∀ d e,
          engine.duration (.text text) = .ok d -> engine.duration (.text ("-" ++ text)) = .ok e ->
          ∀ grain, e.get grain = -d.get grain) ∧
    (beginsSigned (Text.trim text.toList) = true ->
      engine.duration (.text ("-" ++ text)) = .error (.unreadable .duration ("-" ++ text))) := by
  have plus : ("+" ++ text).toList = '+' :: text.toList := String.toList_append
  have minus : ("-" ++ text).toList = '-' :: text.toList := String.toList_append
  refine ⟨?_, ?_, ?_, duration_minus durations, ?_⟩
  · intro bodiless
    simp only [DurationReader.everyday, plus, minus]
    exact ⟨milliseconds?_cons_sign_eq_none (Or.inl rfl) bodiless,
      milliseconds?_cons_sign_eq_none (Or.inr rfl) bodiless⟩
  · intro _ unsigned
    simp only [DurationReader.everyday, plus, minus]
    exact ⟨milliseconds?_plus unsigned, milliseconds?_minus unsigned⟩
  · intro before gap after blank
    simp only [String.toList_append, List.mem_append] at blank
    have blankGap : ∀ c ∈ gap.toList, Text.isBlank c = true :=
      fun c listed => blank c (Or.inl (Or.inr listed))
    have spaced (sign : Char) (written : String) (same : written.toList = [sign]) :
        (written ++ gap ++ text).toList = sign :: (gap.toList ++ text.toList) := by
      rw [String.toList_append, String.toList_append, same, List.append_assoc,
        List.singleton_append]
    simp only [DurationReader.everyday, plus, minus, spaced '+' "+" rfl, spaced '-' "-" rfl]
    refine ⟨?_, milliseconds?_cons_sign_gap (Or.inl rfl) blankGap _,
      milliseconds?_cons_sign_gap (Or.inr rfl) blankGap _⟩
    rw [String.toList_append, String.toList_append]
    exact milliseconds?_append_blanks (fun c listed => blank c (Or.inl (Or.inl listed)))
      (fun c listed => blank c (Or.inr listed)) _
  · intro signed
    refine duration_text_of_unread durations ?_
    rw [minus]
    exact milliseconds?_cons_sign_eq_none (Or.inr rfl) (Or.inr signed)

/-- Half an hour and half a millisecond, behind a minus. -/
theorem minus_negates_half_hour :
    ∃ e, atNoon.duration (.text "-30m 0.5ms") = .ok e ∧ e.get .millisecond = -1800000 ∧
      e.get .microsecond = -500 ∧
      DurationReader.everyday "- \t30m 0.5ms" = DurationReader.everyday "-30m 0.5ms" ∧
      DurationReader.everyday "--30m 0.5ms" = none := by
  have read : atNoon.duration (.text "30m 0.5ms") =
      .ok ⟨⟨0, 0, 0, 0, 0, 0, 0, 1800000, 500, 0⟩, by decide, by decide⟩ := by decide +kernel
  rcases leading_sign_negates_duration_text atNoon rfl "30m 0.5ms" with ⟨_, _, blanks, negates, _⟩
  rcases leading_sign_negates_duration_text atNoon rfl "-30m 0.5ms" with ⟨refused, _⟩
  rcases negates (by decide) with ⟨together, opposite⟩
  rcases together.mpr ⟨_, read⟩ with ⟨e, made⟩
  exact ⟨e, made, opposite _ e read made .millisecond, opposite _ e read made .microsecond,
    (blanks "" " \t" "" (List.all_eq_true.mp (by decide))).2.2, (refused (by decide)).2⟩

end Engine
end Chronometry
