import Chronometry.Text.Letter
import Chronometry.Proofs.Text.Trim

/-!
# Runs of characters

A text is read in runs of characters of one class.  A run goes on as far as it can, so that it is
known by what it is made of and by what it stops at: the end of the text, or a character of another
class.
-/

namespace Chronometry
namespace Text

variable {wanted : Char -> Bool} {run rest : List Char} {c : Char}

/-- A run of the class stops in front of the text. -/
def Stops (wanted : Char -> Bool) (rest : List Char) : Prop :=
  ∀ c ∈ rest.head?, wanted c = false

/-- Of two classes without a common character each excludes the other. -/
theorem eq_false_of_apart {other : Char -> Bool} (apart : wanted c = true -> other c = false)
    (held : other c = true) :
    wanted c = false := by
  rw [← Bool.not_eq_true]
  intro both
  rw [apart both] at held
  contradiction

theorem stops_nil (wanted : Char -> Bool) : Stops wanted [] := by
  intro c listed
  contradiction

theorem stops_cons (rest : List Char) (other : wanted c = false) : Stops wanted (c :: rest) := by
  intro first same
  rwa [← Option.some.inj same]

/-- A run of the class stops at a run of characters outside it, or else where it stops behind that
run. -/
theorem stops_append (others : ∀ c ∈ run, wanted c = false) (stops : Stops wanted rest) :
    Stops wanted (run ++ rest) := by
  cases run with
  | nil => exact stops
  | cons c others' => exact stops_cons _ (others c List.mem_cons_self)

theorem stops_append_of_ne_nil (others : ∀ c ∈ run, wanted c = false) (nonempty : run ≠ [])
    (rest : List Char) :
    Stops wanted (run ++ rest) := by
  cases run with
  | nil => exact absurd rfl nonempty
  | cons c others' => exact stops_cons _ (others c List.mem_cons_self)

theorem takeWhile_append_of_stops (filled : ∀ c ∈ run, wanted c = true)
    (stops : Stops wanted rest) :
    (run ++ rest).takeWhile wanted = run := by
  rw [List.takeWhile_append_of_pos filled]
  cases rest with
  | nil => exact List.append_nil run
  | cons c others =>
      have other := stops c rfl
      rw [List.takeWhile_cons_of_neg (by simp [other]), List.append_nil]

theorem dropWhile_append_of_stops (filled : ∀ c ∈ run, wanted c = true)
    (stops : Stops wanted rest) :
    (run ++ rest).dropWhile wanted = rest := by
  rw [List.dropWhile_append_of_pos filled]
  cases rest with
  | nil => rfl
  | cons c others =>
      have other := stops c rfl
      exact List.dropWhile_cons_of_neg (by simp [other])

theorem mem_takeWhile {text : List Char} (listed : c ∈ text.takeWhile wanted) : wanted c = true :=
  List.all_eq_true.mp List.all_takeWhile c listed

theorem stops_dropWhile (wanted : Char -> Bool) (text : List Char) :
    Stops wanted (text.dropWhile wanted) := by
  intro c first
  have stopped := List.head?_dropWhile_not wanted text
  rw [Option.mem_def.mp first] at stopped
  exact stopped

/-- A text begins with one run of a class only. -/
theorem run_unique {other rest' : List Char} (filled : ∀ c ∈ run, wanted c = true)
    (stops : Stops wanted rest) (filled' : ∀ c ∈ other, wanted c = true)
    (stops' : Stops wanted rest') (same : run ++ rest = other ++ rest') :
    run = other ∧ rest = rest' := by
  constructor
  · rw [← takeWhile_append_of_stops filled stops, same, takeWhile_append_of_stops filled' stops']
  · rw [← dropWhile_append_of_stops filled stops, same, dropWhile_append_of_stops filled' stops']

theorem trimStart_eq_self_of_stops (head : Stops isBlank run) : trimStart run = run := by
  have nothing : ∀ c ∈ ([] : List Char), isBlank c = true := fun _ listed => nomatch listed
  exact dropWhile_append_of_stops nothing head

/-- A text without blanks at its two ends is trimmed already. -/
theorem trim_eq_self_of_stops (head : Stops isBlank run) (foot : Stops isBlank run.reverse) :
    trim run = run := by
  rw [trim, trimStart_eq_self_of_stops head, trimEnd, trimStart_eq_self_of_stops foot,
    List.reverse_reverse]

end Text
end Chronometry
