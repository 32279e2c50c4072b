import Chronometry.Proofs.Registry.Calls
import Chronometry.Proofs.Registry.KindTable
import Chronometry.Proofs.Registry.Standard

/-!
# Registries put together from families

The standard registry asks for the plain kinds, the kinds of time and the catalogue of time, each of
them once and in this order.  Here the three families are asked for in any order and as often as one
likes.  The kinds then stand in another order, and the registries are not the same.  They answer in
the same way: every kind comes with the test for its own values, so that no value could be taken for
two kinds, and the catalogue is there from the first time on.
-/

namespace Chronometry

namespace FirstWins

variable {κ α ι : Type} [DecidableEq κ]

/-- Insertions under keys that are there change nothing. -/
theorem insertAll_of_contains {table : FirstWins κ α} {entries : List (κ × α)}
    (present : ∀ entry ∈ entries, table.contains entry.1 = true) :
    table.insertAll entries = table := by
  induction entries with
  | nil => rfl
  | cons entry rest inductionHypothesis =>
      rcases List.forall_mem_cons.mp present with ⟨first, others⟩
      have unchanged : table.insert entry.1 entry.2 = table := if_pos first
      change (table.insert entry.1 entry.2).insertAll rest = table
      rw [unchanged, inductionHypothesis others]

theorem insertAll_twice (entries : List (κ × α)) :
    ((empty : FirstWins κ α).insertAll entries).insertAll entries =
      (empty : FirstWins κ α).insertAll entries := by
  apply insertAll_of_contains
  intro entry listed
  exact (contains_insertAll_empty_iff entries entry.1).mpr (List.mem_map_of_mem listed)

variable {row : ι -> List (κ × α)} {base : List (κ × α)}

/-- Where every step inserts one and the same row or nothing, nothing happens after the first
row. -/
theorem insertAll_flatMap_after (steps : List ι)
    (same : ∀ step ∈ steps, row step = base ∨ row step = []) :
    ((empty : FirstWins κ α).insertAll base).insertAll (steps.flatMap row) =
      (empty : FirstWins κ α).insertAll base := by
  induction steps with
  | nil => rfl
  | cons step rest inductionHypothesis =>
      rcases List.forall_mem_cons.mp same with ⟨first, others⟩
      rw [List.flatMap_cons, insertAll_append]
      rcases first with whole | nothing
      · rw [whole, insertAll_twice, inductionHypothesis others]
      · rw [nothing]
        exact inductionHypothesis others

/-- Such steps fill a table as the row does, if one of them inserts it at all. -/
theorem insertAll_flatMap (steps : List ι)
    (same : ∀ step ∈ steps, row step = base ∨ row step = [])
    (once : ∃ step ∈ steps, row step = base) :
    (empty : FirstWins κ α).insertAll (steps.flatMap row) =
      (empty : FirstWins κ α).insertAll base := by
  induction steps with
  | nil =>
      rcases once with ⟨_, impossible, _⟩
      contradiction
  | cons step rest inductionHypothesis =>
      rcases List.forall_mem_cons.mp same with ⟨first, others⟩
      rw [List.flatMap_cons, insertAll_append]
      by_cases whole : row step = base
      · rw [whole]
        exact insertAll_flatMap_after rest others
      · rw [first.resolve_left whole]
        rcases once with ⟨other, listed, wanted⟩
        rcases List.mem_cons.mp listed with rfl | later
        · exact absurd wanted whole
        · exact inductionHypothesis others ⟨other, later, wanted⟩

end FirstWins

namespace Registry

/-! ## Registries that answer alike -/

/-- A registry that answers every question about operations and conversions as another one does. -/
structure AnswersAs (registry other : Registry) : Prop where
  applied : ∀ (operator : Operator) (a b : Value),
    registry.apply operator a b = other.apply operator a b
  converted : ∀ (value : Value) (unit : Measure),
    registry.convert value unit = other.convert value unit
  resolved : ∀ (operator : Operator) (left right : Kind),
    registry.resolve? operator left right = other.resolve? operator left right
  paired : ∀ operator : Operator, registry.pairs operator = other.pairs operator
  convertible : registry.convertible = other.convertible

/-- The order of the kinds does not show where it does not decide which kind a value has. -/
theorem answersAs_of_tables {registry other : Registry}
    (kinds : ∀ value, registry.kinds.kindOf? value = other.kinds.kindOf? value)
    (signatures : registry.signatures = other.signatures)
    (conversions : registry.conversions = other.conversions) :
    registry.AnswersAs other := by
  have resolved (operator : Operator) (left right : Kind) :
      registry.resolve? operator left right = other.resolve? operator left right := by
    rw [resolve?, resolve?, signatures]
  refine ⟨?_, ?_, resolved, ?_, ?_⟩
  · intro operator a b
    simp only [apply, implementation?, kinds, resolved]
  · intro value unit
    simp only [convert, conversion?, kinds, conversions]
  · intro operator
    rw [pairs, pairs, signatures]
  · rw [convertible, convertible, conversions]

/-! ## Families -/

/-- What a registry is put together from. -/
inductive Family where
  | plainKinds | timeKinds | timeOperators
deriving DecidableEq

namespace Family

/-- The call for a family. -/
def call : Family -> Call
  | .plainKinds => .plainKinds
  | .timeKinds => .timeKinds
  | .timeOperators => .timeOperators

/-- The kinds of a family. -/
def kinds : Family -> List Kind
  | .plainKinds => Kind.plainKinds
  | .timeKinds => Kind.timeKinds
  | .timeOperators => []

theorem exists_mem_kinds (kind : Kind) : ∃ family : Family, kind ∈ family.kinds := by
  cases kind
  case number | boolean | quantity => exact ⟨.plainKinds, by decide⟩
  case instant | duration => exact ⟨.timeKinds, by decide⟩

/-- A family registers each of its kinds with the test for its own values. -/
theorem filterMap_kind? (family : Family) :
    family.call.registrations.filterMap Registration.kind? = family.kinds.map fun kind =>
      (kind, kind.test) := by
  cases family <;> rfl

theorem filterMap_signature? (family : Family) :
    family.call.registrations.filterMap Registration.signature? = if family = .timeOperators then
      catalogue else [] := by
  cases family <;> rfl

theorem filterMap_conversion? (family : Family) :
    family.call.registrations.filterMap Registration.conversion? =
      if family = .timeOperators then
        [(.instant, Arithmetic.convertInstant), (.duration, Arithmetic.convertDuration)]
      else [] := by
  cases family <;> rfl

end Family

/-- The registry that is put together from families in a row. -/
def assembled (families : List Family) : Registry :=
  build (families.map Family.call)

/-- The registrations of one table come from the families one after the other. -/
theorem filterMap_written {α : Type} (added? : Registration -> Option α)
    (families : List Family) :
    (written (families.map Family.call)).filterMap added? =
      families.flatMap fun family => family.call.registrations.filterMap added? := by
  rw [written, List.flatMap_map, List.filterMap_flatMap]

theorem assembled_eq (families : List Family) :
    assembled families =
      ⟨.insertAll .empty (families.flatMap fun family =>
        family.kinds.map fun kind => (kind, kind.test)),
        .insertAll .empty (families.flatMap fun family =>
          if family = .timeOperators then catalogue else []),
        .insertAll .empty (families.flatMap fun family =>
          if family = .timeOperators then
            [(.instant, Arithmetic.convertInstant), (.duration, Arithmetic.convertDuration)]
          else [])⟩ := by
  rw [assembled, build_eq_ofLog, ofLog, foldl_record]
  simp only [filterMap_written, Family.filterMap_kind?, Family.filterMap_signature?,
    Family.filterMap_conversion?]
  rfl

/-- The standard registry is put together from the three families, each of them once. -/
theorem standard_eq_assembled : standard = assembled [.plainKinds, .timeKinds, .timeOperators] :=
  standard_eq_build

variable {families : List Family}

/-- Where every family is asked for, every value is of its own kind. -/
theorem kindOf?_assembled (complete : ∀ family, family ∈ families) (value : Value) :
    (assembled families).kinds.kindOf? value = some value.kind := by
  have own : KindTable.OwnTests (families.flatMap fun family =>
      family.kinds.map fun kind => (kind, kind.test)) := by
    intro call listed
    rcases List.mem_flatMap.mp listed with ⟨family, _, among⟩
    rcases List.mem_map.mp among with ⟨kind, _, rfl⟩
    rfl
  have registered :
      value.kind ∈ (families.flatMap fun family =>
        family.kinds.map fun kind => (kind, kind.test)).map Prod.fst := by
    rcases Family.exists_mem_kinds value.kind with ⟨family, among⟩
    exact List.mem_map.mpr ⟨(value.kind, value.kind.test), List.mem_flatMap.mpr
      ⟨family, complete family, List.mem_map.mpr ⟨value.kind, among, rfl⟩⟩, rfl⟩
  rw [assembled_eq, KindTable.kindOf?_insertAll_of_ownTests own, if_pos registered]

/-- What only the catalogue adds to a table is there as soon as the catalogue has been asked for. -/
theorem insertAll_of_timeOperators {κ α : Type} [DecidableEq κ] (base : List (κ × α))
    (asked : Family.timeOperators ∈ families) :
    (FirstWins.empty : FirstWins κ α).insertAll
        (families.flatMap fun family => if family = .timeOperators then base else []) =
      (FirstWins.empty : FirstWins κ α).insertAll base := by
  apply FirstWins.insertAll_flatMap
  · intro family _
    by_cases operators : family = .timeOperators
    · exact Or.inl (if_pos operators)
    · exact Or.inr (if_neg operators)
  · exact ⟨.timeOperators, asked, if_pos rfl⟩

theorem signatures_assembled (asked : Family.timeOperators ∈ families) :
    (assembled families).signatures =
      (FirstWins.empty : FirstWins Signature Implementation).insertAll catalogue := by
  rw [assembled_eq]
  exact insertAll_of_timeOperators catalogue asked

theorem conversions_assembled (asked : Family.timeOperators ∈ families) :
    (assembled families).conversions = (FirstWins.empty : FirstWins Kind Conversion).insertAll
      [(.instant, Arithmetic.convertInstant), (.duration, Arithmetic.convertDuration)] := by
  rw [assembled_eq]
  exact insertAll_of_timeOperators _ asked

/-- Registries that are put together from the same three families answer alike, in whatever order
and however often the families were asked for: each of them answers as the standard registry
does. -/
theorem families_answer_alike_in_any_order (families : List Family)
    (complete : ∀ family, family ∈ families) :
    (assembled families).AnswersAs standard := by
  have operators := complete .timeOperators
  have standardOperators :
      Family.timeOperators ∈ [Family.plainKinds, .timeKinds, .timeOperators] := by decide
  apply answersAs_of_tables
  · intro value
    rw [kindOf?_assembled complete, kindOf?_standard]
  · rw [signatures_assembled operators, standard_eq_assembled,
      signatures_assembled standardOperators]
  · rw [conversions_assembled operators, standard_eq_assembled,
      conversions_assembled standardOperators]

/-- The catalogue before the kinds, and most of it twice: the kinds of time then stand before the
plain ones. -/
def backward : List Family :=
  [.timeOperators, .timeKinds, .timeOperators, .plainKinds, .timeKinds]

/-- Such a registry lists its kinds in another order than the standard one and answers as that one
does. -/
theorem backward_families_answer_alike :
    (∀ family, family ∈ backward) ∧
      (assembled backward).kinds.keys = [.instant, .duration, .number, .boolean, .quantity] ∧
      standard.kinds.keys = [.number, .boolean, .quantity, .instant, .duration] ∧
      (assembled backward).AnswersAs standard ∧
      (assembled backward).apply .add (.number 1) (.instant .epoch) =
        .error (.unsupported .add .number .instant) := by
  have complete : ∀ family, family ∈ backward := by
    intro family
    cases family <;> decide
  have alike := families_answer_alike_in_any_order backward complete
  refine ⟨complete, rfl, rfl, alike, ?_⟩
  rw [alike.applied]
  rfl

end Registry
end Chronometry
