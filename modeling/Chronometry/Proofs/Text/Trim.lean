import Chronometry.Text.Blank

/-!
# Trimming

A character that is not blank stops the trimming from either side, and what stands beyond it is kept
as it is.  The two ends are trimmed independently of each other, so that an end that was trimmed
before is not trimmed any further.
-/

namespace Chronometry
namespace Text

/-- A text that does not consist of blanks. -/
def Inked (text : List Char) : Prop :=
  ∃ c ∈ text, isBlank c = false

theorem isBlank_of_isDigit {c : Char} (digit : c.isDigit = true) : isBlank c = false := by
  simp only [Char.isDigit, Bool.and_eq_true, decide_eq_true_eq, ge_iff_le,
    UInt32.le_iff_toNat_le] at digit
  have low : 48 ≤ c.toNat := digit.1
  have high : c.toNat ≤ 57 := digit.2
  simp [isBlank, blankRanges]
  omega

theorem trimStart_cons {c : Char} (rest : List Char) (inked : isBlank c = false) :
    trimStart (c :: rest) = c :: rest :=
  List.dropWhile_cons_of_neg (by simp [inked])

theorem trimStart_cons_of_blank {c : Char} (rest : List Char) (blank : isBlank c = true) :
    trimStart (c :: rest) = trimStart rest :=
  List.dropWhile_cons_of_pos blank

theorem Inked.of_cons_blank {c : Char} {rest : List Char} (inked : Inked (c :: rest))
    (blank : isBlank c = true) :
    Inked rest := by
  rcases inked with ⟨other, listed, ink⟩
  rcases List.mem_cons.mp listed with rfl | later
  · rw [blank] at ink
    contradiction
  · exact ⟨other, later, ink⟩

theorem Inked.reverse {text : List Char} (inked : Inked text) : Inked text.reverse := by
  rcases inked with ⟨c, listed, ink⟩
  exact ⟨c, List.mem_reverse.mpr listed, ink⟩

theorem trimStart_eq_nil_of_not_inked {text : List Char} (blank : ¬Inked text) :
    trimStart text = [] := by
  induction text with
  | nil => rfl
  | cons c rest inductionHypothesis =>
      have blankRest : ¬Inked rest := by
        rintro ⟨other, listed, ink⟩
        exact blank ⟨other, List.mem_cons_of_mem c listed, ink⟩
      cases first : isBlank c with
      | true => rw [trimStart_cons_of_blank rest first, inductionHypothesis blankRest]
      | false => exact absurd ⟨c, List.mem_cons_self, first⟩ blank

theorem trimEnd_eq_nil_of_not_inked {text : List Char} (blank : ¬Inked text) :
    trimEnd text = [] := by
  have backward : ¬Inked text.reverse :=
    fun inked => blank (text.reverse_reverse ▸ inked.reverse)
  rw [trimEnd, trimStart_eq_nil_of_not_inked backward, List.reverse_nil]

/-- Of a text of blanks nothing is left. -/
theorem trim_eq_nil_of_not_inked {text : List Char} (blank : ¬Inked text) : trim text = [] := by
  rw [trim, trimStart_eq_nil_of_not_inked blank]
  rfl

/-- What is left at the start of any other text begins with no blank. -/
theorem exists_trimStart_cons {text : List Char} (inked : Inked text) :
    ∃ c rest, trimStart text = c :: rest ∧ isBlank c = false := by
  induction text with
  | nil =>
      rcases inked with ⟨c, impossible, _⟩
      contradiction
  | cons c rest inductionHypothesis =>
      cases first : isBlank c with
      | true =>
          rw [trimStart_cons_of_blank rest first]
          exact inductionHypothesis (inked.of_cons_blank first)
      | false => exact ⟨c, rest, trimStart_cons rest first, first⟩

theorem trimStart_append {text : List Char} (inked : Inked text) (rest : List Char) :
    trimStart (text ++ rest) = trimStart text ++ rest := by
  induction text with
  | nil =>
      rcases inked with ⟨c, impossible, _⟩
      contradiction
  | cons c text inductionHypothesis =>
      cases blank : isBlank c with
      | true =>
          rw [List.cons_append, trimStart_cons_of_blank _ blank, trimStart_cons_of_blank _ blank]
          exact inductionHypothesis (inked.of_cons_blank blank)
      | false =>
          rw [List.cons_append, trimStart_cons _ blank, trimStart_cons _ blank, List.cons_append]

theorem trimEnd_append (start : List Char) {text : List Char} (inked : Inked text) :
    trimEnd (start ++ text) = start ++ trimEnd text := by
  rw [trimEnd, List.reverse_append, trimStart_append inked.reverse, List.reverse_append,
    List.reverse_reverse, trimEnd]

theorem trimEnd_concat (start : List Char) {c : Char} (inked : isBlank c = false) :
    trimEnd (start ++ [c]) = start ++ [c] := by
  rw [trimEnd, List.reverse_concat, trimStart_cons _ inked, List.reverse_cons, List.reverse_reverse]

/-- A text between two characters that are not blank is trimmed already. -/
theorem trim_eq_self {first last : Char} (middle : List Char) (head : isBlank first = false)
    (foot : isBlank last = false) :
    trim (first :: (middle ++ [last])) = first :: (middle ++ [last]) := by
  rw [trim, trimStart_cons _ head]
  exact trimEnd_concat (first :: middle) foot

/-- A character that is not blank stays in front of what is left when the end is trimmed. -/
theorem trimEnd_cons {c : Char} (rest : List Char) (ink : isBlank c = false) :
    trimEnd (c :: rest) = c :: trimEnd rest := by
  have stopped : [c].dropWhile isBlank = [c] := trimStart_cons [] ink
  simp only [trimEnd, trimStart, List.reverse_cons, List.dropWhile_append, stopped,
    List.isEmpty_iff]
  split
  next nothing => rw [nothing, List.reverse_singleton, List.reverse_nil]
  next => rw [List.reverse_concat]

theorem trimStart_trimEnd (text : List Char) :
    trimStart (trimEnd text) = trimEnd (trimStart text) := by
  by_cases inked : Inked text
  case neg =>
    rw [trimEnd_eq_nil_of_not_inked inked, trimStart_eq_nil_of_not_inked inked]
    rfl
  induction text with
  | nil => rfl
  | cons c rest inductionHypothesis =>
      cases blank : isBlank c with
      | true =>
          have inkedRest := inked.of_cons_blank blank
          rw [trimStart_cons_of_blank rest blank, ← inductionHypothesis inkedRest]
          have kept : trimEnd (c :: rest) = c :: trimEnd rest := trimEnd_append [c] inkedRest
          rw [kept, trimStart_cons_of_blank _ blank]
      | false => rw [trimStart_cons rest blank, trimEnd_cons rest blank, trimStart_cons _ blank]

theorem trimStart_trimStart (text : List Char) : trimStart (trimStart text) = trimStart text := by
  induction text with
  | nil => rfl
  | cons c rest inductionHypothesis =>
      cases blank : isBlank c with
      | true => rw [trimStart_cons_of_blank rest blank, inductionHypothesis]
      | false => rw [trimStart_cons rest blank, trimStart_cons rest blank]

theorem trim_trimStart (text : List Char) : trim (trimStart text) = trim text := by
  rw [trim, trimStart_trimStart, trim]

theorem trim_trimEnd (text : List Char) : trim (trimEnd text) = trim text := by
  rw [trim, trimStart_trimEnd, trimEnd, trimEnd, List.reverse_reverse, trimStart_trimStart,
    trim, trimEnd]

theorem trim_blanks_append {before : List Char} (blank : ∀ c ∈ before, isBlank c = true)
    (text : List Char) :
    trim (before ++ text) = trim text := by
  rw [trim, trimStart, List.dropWhile_append_of_pos blank, trim, trimStart]

/-- Blanks around a text do not outlast its trimming. -/
theorem trim_append_blanks {before after : List Char}
    (blankBefore : ∀ c ∈ before, isBlank c = true)
    (blankAfter : ∀ c ∈ after, isBlank c = true) (text : List Char) :
    trim (before ++ text ++ after) = trim text := by
  have finish : trimEnd (text ++ after) = trimEnd text := by
    rw [trimEnd, List.reverse_append, trimStart,
      List.dropWhile_append_of_pos (by simpa using blankAfter), trimEnd, trimStart]
  rw [List.append_assoc, trim_blanks_append blankBefore, trim, ← trimStart_trimEnd, finish,
    trimStart_trimEnd, trim]

end Text
end Chronometry
