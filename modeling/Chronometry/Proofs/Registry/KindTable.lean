import Mathlib.Data.List.Find
import Chronometry.Proofs.Registry.FirstEntry

/-!
# Kinds registered in a row

Kinds are registered one after the other, each with a test, and every registration answers whether
its kind was new.  The answers and the finished table are read off the row itself: a kind has its
place and its test from its first registration, whatever is registered for it later.

A table can be asked in two ways, whether a value belongs to a kind and to which kind it belongs.
The first question looks for the kind and the second for the test.  The two agree because no kind
stands in a table twice, and this is what registration preserves.  Tests may overlap, and no test
need accept anything.
-/

namespace Chronometry

namespace KindTable

/-- Kinds registered in a row, and for each registration whether its kind was new. -/
def registerAll (table : KindTable) : List (Kind × Test) -> KindTable × List Bool
  | [] => (table, [])
  | (kind, test) :: rest =>
    let (next, new) := table.register kind test
    let (last, answers) := registerAll next rest
    (last, new :: answers)

theorem registerAll_fst (table : KindTable) (calls : List (Kind × Test)) :
    (registerAll table calls).1 = table.insertAll calls := by
  induction calls generalizing table with
  | nil => rfl
  | cons call rest inductionHypothesis => exact inductionHypothesis (table.insert call.1 call.2)

theorem length_registerAll_snd (table : KindTable) (calls : List (Kind × Test)) :
    (registerAll table calls).2.length = calls.length := by
  induction calls generalizing table with
  | nil => rfl
  | cons call rest inductionHypothesis =>
      exact congrArg Nat.succ (inductionHypothesis (table.insert call.1 call.2))

/-- A registration answers for the table that the registrations before it have made. -/
theorem registerAll_snd_of_split (table : KindTable) (before : List (Kind × Test))
    (call : Kind × Test) (after : List (Kind × Test)) :
    (registerAll table (before ++ call :: after)).2[before.length]? =
      some !(table.insertAll before).contains call.1 := by
  induction before generalizing table with
  | nil => rfl
  | cons first rest inductionHypothesis => exact inductionHypothesis (table.insert first.1 first.2)

/-- The kind of a value is the first one in the table that accepts it. -/
theorem kindOf?_eq_find? {table : KindTable} (once : table.keys.Nodup) (value : Value) :
    table.kindOf? value = table.keys.find? fun kind => table.accepts kind value := by
  have asked : ∀ entry ∈ table.entries, entry.2 value = table.accepts entry.1 value := by
    intro entry listed
    rw [accepts, FirstWins.get?_of_mem_entries once listed]
  rw [kindOf?, FirstWins.keys, List.find?_map, List.find?_congr asked]
  rfl

/-- A kind that is not in the table accepts nothing. -/
theorem mem_keys_of_accepts {table : KindTable} {kind : Kind} {value : Value}
    (accepted : table.accepts kind value = true) : kind ∈ table.keys := by
  apply Decidable.byContradiction
  intro absent
  rw [accepts, (FirstWins.get?_eq_none_iff table kind).mpr absent] at accepted
  contradiction

theorem kindOf?_eq_some_iff {table : KindTable} (once : table.keys.Nodup) (value : Value)
    (kind : Kind) :
    table.kindOf? value = some kind ↔
      ∃ before after, table.keys = before ++ kind :: after ∧ table.accepts kind value = true ∧
        ∀ earlier ∈ before, table.accepts earlier value = false := by
  rw [kindOf?_eq_find? once, List.find?_eq_some_iff_append]
  constructor
  · rintro ⟨accepted, before, after, split, rejected⟩
    exact ⟨before, after, split, accepted, fun earlier listed =>
      by simpa using rejected earlier listed⟩
  · rintro ⟨before, after, split, accepted, rejected⟩
    exact ⟨accepted, before, after, split, fun earlier listed =>
      by simpa using rejected earlier listed⟩

/-- A value has no kind when no kind accepts it, be it registered or not. -/
theorem kindOf?_eq_none_iff_accepts {table : KindTable} (once : table.keys.Nodup) (value : Value) :
    table.kindOf? value = none ↔ ∀ kind, table.accepts kind value = false := by
  rw [kindOf?_eq_find? once, List.find?_eq_none]
  constructor
  · intro rejected kind
    rw [← Bool.not_eq_true]
    intro accepted
    exact rejected kind (mem_keys_of_accepts accepted) accepted
  · intro rejected kind _ accepted
    exact absurd accepted (by simp [rejected kind])

/-! ## Kinds with their own tests -/

/-- Every kind is registered with the test for its own values. -/
def OwnTests (calls : List (Kind × Test)) : Prop :=
  ∀ call ∈ calls, call.2 = call.1.test

/-- With such tests a kind accepts its own values, once it is registered, and no others. -/
theorem accepts_insertAll_of_ownTests {calls : List (Kind × Test)} (own : OwnTests calls)
    (kind : Kind) (value : Value) :
    accepts (FirstWins.insertAll .empty calls) kind value = true ↔
      kind = value.kind ∧ kind ∈ calls.map Prod.fst := by
  unfold accepts
  cases found : (FirstWins.insertAll .empty calls).get? kind with
  | none =>
      have absent := (FirstWins.get?_eq_none_iff _ kind).mp found
      rw [FirstWins.keys_insertAll_empty, List.mem_eraseDups] at absent
      simp [absent]
  | some test =>
      rcases (FirstWins.get?_insertAll_empty_iff calls kind test).mp found
        with ⟨before, after, split, _⟩
      have listed : (kind, test) ∈ calls := split ▸ List.mem_append_right _ List.mem_cons_self
      have registered : kind ∈ calls.map Prod.fst := List.mem_map_of_mem listed
      obtain rfl : test = kind.test := own _ listed
      simp only [Kind.test, beq_iff_eq, registered, and_true]
      exact eq_comm

/-- With such tests a value is of its own kind or of none, in whatever order the kinds were
registered. -/
theorem kindOf?_insertAll_of_ownTests {calls : List (Kind × Test)} (own : OwnTests calls)
    (value : Value) :
    kindOf? (FirstWins.insertAll .empty calls) value =
      if value.kind ∈ calls.map Prod.fst then some value.kind else none := by
  have once : (FirstWins.insertAll .empty calls : KindTable).keys.Nodup :=
    FirstWins.nodup_keys_insertAll calls List.nodup_nil
  cases found : kindOf? (FirstWins.insertAll .empty calls) value with
  | none =>
      have rejected := (kindOf?_eq_none_iff_accepts once value).mp found value.kind
      rw [← Bool.not_eq_true, accepts_insertAll_of_ownTests own] at rejected
      rw [if_neg fun registered => rejected ⟨rfl, registered⟩]
  | some kind =>
      rcases (kindOf?_eq_some_iff once value kind).mp found with ⟨_, _, _, accepted, _⟩
      rcases (accepts_insertAll_of_ownTests own kind value).mp accepted with ⟨rfl, registered⟩
      rw [if_pos registered]

/-! ## The row and the table -/

/-- A finished table and its answers are read off the row of registrations. -/
structure RegistersFirst (calls : List (Kind × Test)) (table : KindTable) (answers : List Bool) :
  Prop where
  answeredEach : answers.length = calls.length
  answered : ∀ (before : List (Kind × Test)) (call : Kind × Test) (after : List (Kind × Test)),
    calls = before ++ call :: after ->
      answers[before.length]? = some (decide (call.1 ∉ before.map Prod.fst))
  listed : table.keys = (calls.map Prod.fst).eraseDups
  listedOnce : table.keys.Nodup
  size : table.size = table.keys.length
  accepts : ∀ (kind : Kind) (test : Test) (value : Value),
    FirstEntry calls kind test -> table.accepts kind value = test value
  rejects : ∀ (kind : Kind) (value : Value),
    kind ∉ calls.map Prod.fst -> table.accepts kind value = false
  kind : ∀ (value : Value) (kind : Kind), table.kindOf? value = some kind ↔
    ∃ before after, table.keys = before ++ kind :: after ∧ table.accepts kind value = true ∧
      ∀ earlier ∈ before, table.accepts earlier value = false
  noKind : ∀ value : Value, table.kindOf? value = none ↔ ∀ kind, table.accepts kind value = false
  ownKind : OwnTests calls -> ∀ value : Value,
    table.kindOf? value = if value.kind ∈ calls.map Prod.fst then some value.kind else none

/-- The first registration of a kind counts, and the two questions that a table can be asked agree
about it. -/
theorem first_registration_counts (calls : List (Kind × Test)) :
    RegistersFirst calls (registerAll .empty calls).1 (registerAll .empty calls).2 := by
  have once : (FirstWins.insertAll .empty calls : KindTable).keys.Nodup :=
    FirstWins.nodup_keys_insertAll calls List.nodup_nil
  rw [registerAll_fst]
  refine ⟨length_registerAll_snd .empty calls, ?_, FirstWins.keys_insertAll_empty calls, once,
    (List.length_map _).symm, ?_, ?_, kindOf?_eq_some_iff once, kindOf?_eq_none_iff_accepts once,
    kindOf?_insertAll_of_ownTests⟩
  · rintro before call after rfl
    rw [registerAll_snd_of_split, Option.some_inj, Bool.eq_iff_iff, Bool.not_eq_true',
      decide_eq_true_iff, ← Bool.not_eq_true, FirstWins.contains_insertAll_empty_iff]
  · intro kind test value first
    rw [KindTable.accepts, (FirstWins.get?_insertAll_empty_iff calls kind test).mpr first]
  · intro kind value absent
    rw [← Bool.not_eq_true]
    intro accepted
    have registered := mem_keys_of_accepts accepted
    rw [FirstWins.keys_insertAll_empty, List.mem_eraseDups] at registered
    exact absent registered

/-- Registrations with a test that accepts everything, and with a second test for a kind that has
one. -/
def overlapping : List (Kind × Test) :=
  [(.instant, Kind.instant.test), (.instant, Kind.duration.test), (.number, fun _ => true),
    (.duration, Kind.duration.test)]

/-- The second test for instants is refused and never asked.  A duration belongs to its own kind and
to numbers, and is a number because numbers came first. -/
theorem first_registration_counts_among_overlapping :
    (registerAll .empty overlapping).2 = [true, false, true, true] ∧
      (registerAll .empty overlapping).1.keys = [.instant, .number, .duration] ∧
      (registerAll .empty overlapping).1.accepts .instant (.duration .zero) = false ∧
      (registerAll .empty overlapping).1.accepts .duration (.duration .zero) = true ∧
      (registerAll .empty overlapping).1.kindOf? (.duration .zero) = some .number ∧
      OwnTests [(.duration, Kind.duration.test), (.number, Kind.number.test)] ∧
      (registerAll .empty
        [(.duration, Kind.duration.test), (.number, Kind.number.test)]).1.kindOf? (.number 1) =
          some .number := by
  have counts := first_registration_counts overlapping
  have own : OwnTests [(.duration, Kind.duration.test), (.number, Kind.number.test)] := by
    simp [OwnTests]
  have refused : (registerAll .empty overlapping).1.accepts .instant (.duration .zero) = false := by
    rw [counts.accepts .instant Kind.instant.test _ ⟨[], overlapping.tail, rfl,
      List.not_mem_nil⟩]
    rfl
  refine ⟨rfl, counts.listed, refused, ?_, ?_, own, ?_⟩
  · rw [counts.accepts .duration Kind.duration.test _ ⟨overlapping.take 3, [], rfl, by decide⟩]
    rfl
  · refine (counts.kind (.duration .zero) .number).mpr
      ⟨[.instant], [.duration], counts.listed, ?_, ?_⟩
    · rw [counts.accepts .number (fun _ =>
        true) _ ⟨overlapping.take 2, overlapping.drop 3, rfl, by decide⟩]
    · intro earlier listed
      rw [List.mem_singleton.mp listed, refused]
  · exact (first_registration_counts _).ownKind own (.number 1)

end KindTable
end Chronometry
