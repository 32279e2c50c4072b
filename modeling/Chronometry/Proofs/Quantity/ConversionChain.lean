import Chronometry.Proofs.Quantity.Projection
import Chronometry.Proofs.Registry.Standard
import Chronometry.Proofs.Session.Standing

/-!
# Chains of conversions

An instant that is converted to a unit of time, and from there to another one, passes through two
different conversions: the first is registered for instants, all later ones belong to plain
arithmetic.  Both project an exact count, so that a chain of any length ends in the projection of
the count that it started from, as if the units between had never been visited.  The magnitudes on
the way may be rounded at every step; none of them is the input of the next step.

A chain consists of names, because an engine is asked for units by name.  Any spelling of a unit of
time may occur.
-/

namespace Chronometry

/-- A spelling of a unit of time. -/
structure TimeName where
  text : String
  unit : Measure
  spells : Measure.ofName text = .ok unit
  isTime : unit.isTime = true

/-- Symbols and aliases are distinct, so that every unit is found by its own symbol. -/
theorem Measure.ofName_name (unit : Measure) : ofName unit.name = .ok unit := by
  have every : ∀ unit ∈ all, find? unit.name = some unit := by decide +kernel
  rw [ofName, every unit unit.mem_all]

/-- The symbol of a unit of time is one of its spellings. -/
def TimeName.ofUnit (unit : Measure) (isTime : unit.isTime = true) : TimeName where
  text := unit.name
  unit := unit
  spells := unit.ofName_name
  isTime := isTime

/-- The unit in which a chain of conversions ends. -/
def lastUnit : Measure -> List TimeName -> Measure
  | unit, [] => unit
  | _, name :: rest => lastUnit name.unit rest

namespace Engine

/-- A value converted to one unit after another. -/
def convertAlong (engine : Engine) (value : Value) (names : List TimeName) : Except Error Value :=
  names.foldlM (fun value name => engine.convert value name.text) value

variable {engine : Engine} {count : Int} {unit : Measure} {q : Quantity}

theorem convert_of_spelled (standard : engine.registry = .standard) (value : Value) {name : String}
    (spells : Measure.ofName name = .ok unit) :
    engine.convert value name = Registry.standard.convert value unit := by
  rw [convert, spells, standard]
  rfl

/-- The first step of a chain. -/
theorem convert_instant_eq (standard : engine.registry = .standard) (i : Instant)
    (name : TimeName) :
    engine.convert (.instant i) name.text =
      .quantity <$> Quantity.ofNanoseconds i.nanoseconds name.unit := by
  rw [convert_of_spelled standard _ name.spells, Registry.convert_instant]

/-- Every later step of a chain. -/
theorem convert_projected_eq (standard : engine.registry = .standard)
    (projected : Quantity.ofNanoseconds count unit = .ok q) (name : TimeName) :
    engine.convert (.quantity q) name.text =
      .quantity <$> Quantity.ofNanoseconds count name.unit := by
  rw [convert_of_spelled standard _ name.spells, Registry.convert_quantity,
    Quantity.convert_of_projected projected name.isTime]

/-- A chain from a projection succeeds and ends in the projection of the same count. -/
theorem convertAlong_of_projected (standard : engine.registry = .standard)
    (projected : Quantity.ofNanoseconds count unit = .ok q) (names : List TimeName) :
    ∃ r, engine.convertAlong (.quantity q) names = .ok (.quantity r) ∧
      Quantity.ofNanoseconds count (lastUnit unit names) = .ok r := by
  -- What every step hands on is that the quantity is a projection of the count; its magnitude may
  -- have been rounded.
  induction names generalizing unit q with
  | nil => exact ⟨q, rfl, projected⟩
  | cons name rest inductionHypothesis =>
      rcases Quantity.exists_ofNanoseconds count name.isTime with ⟨next, projectedNext⟩
      rcases inductionHypothesis projectedNext with ⟨r, reached, projectedLast⟩
      refine ⟨r, ?_, projectedLast⟩
      rw [convertAlong, List.foldlM_cons, convert_projected_eq standard projected name,
        projectedNext]
      exact reached

/-- A chain from an instant is a chain from the projection of its count into the first unit. -/
theorem convertAlong_instant (standard : engine.registry = .standard) (i : Instant)
    (first : TimeName) (rest : List TimeName) :
    ∃ q, engine.convertAlong (.instant i) (first :: rest) = .ok (.quantity q) ∧
      Quantity.ofNanoseconds i.nanoseconds (lastUnit first.unit rest) = .ok q := by
  rcases Quantity.exists_ofNanoseconds i.nanoseconds first.isTime with ⟨p, projected⟩
  rcases convertAlong_of_projected standard projected rest with ⟨q, reached, projectedLast⟩
  refine ⟨q, ?_, projectedLast⟩
  rw [convertAlong, List.foldlM_cons, convert_instant_eq standard i first, projected]
  exact reached

/-! ## What a chain ends in -/

/-- A quantity stands for an exact count in a unit of time: it yields the count, it is written as a
whole number exactly when the unit divides the count, and no unit of another dimension accepts
it. -/
structure Carries (engine : Engine) (q : Quantity) (count : Int) (unit : Measure) : Prop where
  inUnit : q.unit = unit
  exact : q.exactNanoseconds = some count
  counted : q.toNanoseconds = .ok count
  whole : ∀ m : Int,
    q.exactIntegral? = some m ↔ ∃ size, unit.nanoseconds? = some size ∧ count = m * size
  written : ∀ m : Int, q.exactIntegral? = some m ->
    q.text = toString m ++ " " ++ unit.name ∧
      engine.format (.quantity q) = .ok (toString m ++ " " ++ unit.name)
  confined : ∀ (name : String) (target : Measure),
    Measure.ofName name = .ok target -> target.isTime = false ->
    engine.convert (.quantity q) name = .error (.coercion (.dimensionsDiffer unit target))

theorem Carries.of_projected (standard : engine.registry = .standard)
    (projected : Quantity.ofNanoseconds count unit = .ok q) : engine.Carries q count unit where
  inUnit := Quantity.unit_of_projected projected
  exact := Quantity.exactNanoseconds_of_projected projected
  counted := Quantity.toNanoseconds_of_projected projected
  whole := Quantity.exactIntegral?_of_projected_iff projected
  written := by
    intro m found
    have texts := Quantity.text_of_exactIntegral? found
    rw [Quantity.unit_of_projected projected] at texts
    exact ⟨texts.1, congrArg Except.ok texts.2⟩
  confined := by
    intro name target spells notTime
    rw [convert_of_spelled standard _ spells, Registry.convert_quantity,
      Quantity.convert_of_projected_of_not_time projected notTime]
    rfl

/-- A projection is read back as the instant at its count, if there is one. -/
theorem instant_of_projected (projected : Quantity.ofNanoseconds count unit = .ok q) :
    engine.instant (.value (.quantity q)) = Instant.ofNanoseconds count := by
  simp only [instant, Source.toInstant, Quantity.toNanoseconds_of_projected projected]
  rfl

theorem instant_of_projected_eq_ok (projected : Quantity.ofNanoseconds count unit = .ok q)
    {i : Instant} (stands : i.nanoseconds = count) :
    engine.instant (.value (.quantity q)) = .ok i := by
  rw [instant_of_projected projected, Instant.ofNanoseconds_eq_ok_iff]
  exact stands

theorem instant_of_projected_eq_error (projected : Quantity.ofNanoseconds count unit = .ok q)
    (outside : ¬(-377705023201000000000 ≤ count ∧ count ≤ 253402207200999999999)) :
    engine.instant (.value (.quantity q)) = .error (.outOfRange (.limits (.instant count))) := by
  rw [instant_of_projected projected, Instant.ofNanoseconds, Instant.ofNanoseconds?,
    dif_neg outside]
  rfl

/-- An exact count survives every chain of conversions between units of time.  A chain from an
instant succeeds, and the quantity in which it ends stands for the count of the instant in the last
unit and is read back as the instant.  A chain from a projected count does the same for any count;
it is read back unless the count has no instant. -/
theorem exact_count_survives_conversions (engine : Engine)
    (standard : engine.registry = .standard) :
    (∀ (i : Instant) (first : TimeName) (rest : List TimeName),
      ∃ q, engine.convertAlong (.instant i) (first :: rest) = .ok (.quantity q) ∧
        engine.Carries q i.nanoseconds (lastUnit first.unit rest) ∧
        engine.instant (.value (.quantity q)) = .ok i) ∧
    (∀ (count : Int) (first : TimeName) (rest : List TimeName),
      ∃ p q, Quantity.ofNanoseconds count first.unit = .ok p ∧
        engine.convertAlong (.quantity p) rest = .ok (.quantity q) ∧
        engine.Carries q count (lastUnit first.unit rest) ∧
        (∀ i : Instant, i.nanoseconds = count -> engine.instant (.value (.quantity q)) = .ok i) ∧
        (¬(-377705023201000000000 ≤ count ∧ count ≤ 253402207200999999999) ->
          engine.instant (.value (.quantity q)) =
            .error (.outOfRange (.limits (.instant count))))) := by
  constructor
  · intro i first rest
    rcases convertAlong_instant standard i first rest with ⟨q, reached, projected⟩
    exact ⟨q, reached, .of_projected standard projected,
      instant_of_projected_eq_ok projected rfl⟩
  · intro count first rest
    rcases Quantity.exists_ofNanoseconds count first.isTime with ⟨p, start⟩
    rcases convertAlong_of_projected standard start rest with ⟨q, reached, projected⟩
    refine ⟨p, q, start, reached, .of_projected standard projected, ?_,
      instant_of_projected_eq_error projected⟩
    intro i stands
    exact instant_of_projected_eq_ok projected stands

/-- A nanosecond after the beginning of the year 2024. -/
def afterNewYear : Instant := ⟨1704067200000000001, by decide, by decide⟩

/-- A single nanosecond comes back from microseconds and centuries.  A nanosecond beyond the last
instant is carried all the same, and only as an instant it is refused. -/
theorem nanosecond_survives_centuries :
    (∃ q, atEpoch.convertAlong (.instant afterNewYear)
        [.ofUnit .microsecond rfl, .ofUnit .century rfl, .ofUnit .nanosecond rfl] =
          .ok (.quantity q) ∧
      atEpoch.format (.quantity q) = .ok "1704067200000000001 ns" ∧
      atEpoch.convert (.quantity q) "kg" =
        .error (.coercion (.dimensionsDiffer .nanosecond .kilogram)) ∧
      atEpoch.instant (.value (.quantity q)) = .ok afterNewYear) ∧
    ∃ p q, Quantity.ofNanoseconds 253402207201000000000 .nanosecond = .ok p ∧
      atEpoch.convertAlong (.quantity p) [.ofUnit .century rfl] = .ok (.quantity q) ∧
      q.exactNanoseconds = some 253402207201000000000 ∧
      atEpoch.instant (.value (.quantity q)) =
        .error (.outOfRange (.limits (.instant 253402207201000000000))) := by
  rcases exact_count_survives_conversions atEpoch rfl with ⟨fromInstant, fromCount⟩
  constructor
  · rcases fromInstant afterNewYear (.ofUnit .microsecond rfl)
      [.ofUnit .century rfl, .ofUnit .nanosecond rfl] with
      ⟨q, reached, carries, back⟩
    have whole := (carries.whole 1704067200000000001).mpr ⟨1, rfl, by decide⟩
    refine ⟨q, reached, ?_, carries.confined _ _ (Measure.ofName_name .kilogram) rfl, back⟩
    rw [(carries.written _ whole).2]
    exact congrArg Except.ok (by decide +kernel)
  · rcases fromCount 253402207201000000000 (.ofUnit .nanosecond rfl) [.ofUnit .century rfl] with
      ⟨p, q, start, reached, carries, _, beyond⟩
    exact ⟨p, q, start, reached, carries.exact, beyond (by decide)⟩

end Engine
end Chronometry
