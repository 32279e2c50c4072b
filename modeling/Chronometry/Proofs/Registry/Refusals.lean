import Chronometry.Proofs.Registry.Calls
import Chronometry.Proofs.Registry.Support

/-!
# Refusals behind tests of any kind

A registry goes by what the registered tests say.  They may take a value for what it is not, and
then an implementation is handed operands that it is not made for.  It looks at them once more and
refuses them, and the refusal names their true kinds.

Here the registry is any one whose signatures are those of the catalogue of time, however often and
in whatever order they were asked for, and the tests are arbitrary.  Such a registry refuses two
values exactly when it does not accommodate them.  A refusal names the operator of the call and the
kinds of the operands in the order of the call, with two exceptions: what is computed with the
operands exchanged names them in the exchanged order.
-/

namespace Chronometry

namespace Signature

/-- The kinds of operands that the operation of a signature is made for.  A question of order is
answered for instants and for durations, under whichever of the two it was found. -/
def operands (key : Signature) : List (Kind × Kind) :=
  match key.operator with
  | .compare | .relation _ => [(.instant, .instant), (.duration, .duration)]
  | _ => [(key.left, key.right)]

/-- The signatures whose operation is computed with the operands exchanged. -/
def exchanged : List Signature :=
  [⟨.add, .duration, .instant⟩, ⟨.multiply, .number, .duration⟩]

/-- The error with which the operation of a signature refuses two values. -/
def refusal (key : Signature) (a b : Value) : Error :=
  if key ∈ exchanged then .unsupported key.operator b.kind a.kind
    else .unsupported key.operator a.kind b.kind

end Signature

/-- An implementation looks at its operands: it handles those that it is made for, and refuses all
others. -/
structure ChecksOperands (key : Signature) (implementation : Implementation) : Prop where
  handled : ∀ a b : Value,
    (a.kind, b.kind) ∈ key.operands -> Handled Value.Countless (implementation a b)
  refused : ∀ a b : Value,
    (a.kind, b.kind) ∉ key.operands -> implementation a b = .error (key.refusal a b)

namespace Arithmetic

theorem orderTimes_refused (operator : Operator) {a b : Value}
    (unfit : (a.kind, b.kind) ∉ [(Kind.instant, Kind.instant), (.duration, .duration)]) :
    orderTimes operator a b = .error (.unsupported operator a.kind b.kind) := by
  cases a <;> cases b <;> first | rfl | exact absurd (by simp [Value.kind]) unfit

/-- The kind under which a question of order was found does not matter. -/
theorem checksOperands_of_order {key : Signature} {implementation : Implementation}
    (ordered : key.operands = [(.instant, .instant), (.duration, .duration)])
    (straight : key ∉ Signature.exchanged)
    (handles : ∀ kind ∈ Kind.timeKinds, Handles implementation kind kind)
    (refused : ∀ a b : Value, (a.kind, b.kind) ∉ [(Kind.instant, Kind.instant), (.duration,
      .duration)] -> implementation a b = .error (.unsupported key.operator a.kind b.kind)) :
    ChecksOperands key implementation where
  handled := by
    intro a b fit
    simp only [ordered, List.mem_cons, List.not_mem_nil, or_false, Prod.mk.injEq] at fit
    rcases fit with ⟨left, right⟩ | ⟨left, right⟩
    · exact handles .instant (by decide) a b left right
    · exact handles .duration (by decide) a b left right
  refused := by
    intro a b unfit
    rw [ordered] at unfit
    rw [refused a b unfit, Signature.refusal, if_neg straight]

theorem compareTimes_checksOperands (kind : Kind) :
    ChecksOperands ⟨.compare, kind, kind⟩ compareTimes := by
  refine checksOperands_of_order rfl (by simp [Signature.exchanged]) (fun _ =>
    handles_compareTimes) ?_
  intro a b unfit
  rw [compareTimes, orderTimes_refused .compare unfit]
  rfl

theorem relateTimes_checksOperands (question : Relation) (kind : Kind) :
    ChecksOperands ⟨.relation question, kind, kind⟩ (relateTimes question) := by
  refine checksOperands_of_order rfl (by simp [Signature.exchanged]) (fun _ =>
    handles_relateTimes question) ?_
  intro a b unfit
  rw [relateTimes, orderTimes_refused (.relation question) unfit]
  rfl

end Arithmetic

namespace Registry

open Arithmetic

/-- The operations that are no questions of order refuse everything but the kinds of their own
signature. -/
theorem refused_of_mem_timeCatalogue : ∀ entry ∈ timeCatalogue, ∀ a b : Value,
    (a.kind, b.kind) ∉ entry.1.operands -> entry.2 a b = .error (entry.1.refusal a b) := by
  simp only [timeCatalogue, List.forall_mem_cons]
  refine ⟨?_, ?_, ?_, ?_, ?_, ?_, ?_, ?_, ?_, ?_, fun _ impossible =>
    absurd impossible List.not_mem_nil⟩
  all_goals
    intro a b unfit
    cases a <;> cases b <;> first | rfl | exact absurd (List.mem_singleton.mpr rfl) unfit

theorem operands_of_mem_timeCatalogue : ∀ entry ∈ timeCatalogue.map Prod.fst,
    entry.operands = [(entry.left, entry.right)] := by
  decide

theorem checksOperands_of_mem_catalogue {entry : Signature × Implementation}
    (listed : entry ∈ catalogue) :
    ChecksOperands entry.1 entry.2 := by
  rcases List.mem_append.mp listed with operation | question
  · refine ⟨?_, refused_of_mem_timeCatalogue entry operation⟩
    intro a b fit
    rw [operands_of_mem_timeCatalogue _ (List.mem_map_of_mem operation), List.mem_singleton,
      Prod.mk.injEq] at fit
    exact handles_of_mem_timeCatalogue entry operation a b fit.1 fit.2
  · rcases List.mem_flatMap.mp question with ⟨kind, _, ordered⟩
    rcases List.mem_cons.mp ordered with rfl | related
    · exact compareTimes_checksOperands kind
    · rcases List.mem_map.mp related with ⟨asked, _, rfl⟩
      exact relateTimes_checksOperands asked kind

theorem refuses_unsupported_iff {α : Type} {operator : Operator} {left right : Kind}
    {refusal : Operator × String × String} :
    Refuses (.error (.unsupported operator left right) : Except Error α) refusal ↔
      refusal = (operator, left.name, right.name) := by
  constructor
  · rintro ⟨error, same, named⟩
    cases same
    exact (Option.some.inj named).symm
  · rintro rfl
    exact ⟨_, rfl, rfl⟩

/-! ## Registries of the catalogue -/

/-- A registry with no signature that is not of the catalogue.  Nothing is said of the tests for its
kinds. -/
def Catalogued (registry : Registry) : Prop :=
  ∀ (key : Signature) (implementation : Implementation),
    registry.resolve? key.operator key.left key.right = some implementation ->
      (key, implementation) ∈ catalogue

theorem signature_mem_timeOperators_iff (key : Signature) (implementation : Implementation) :
    .signature key implementation ∈ timeOperators ↔ (key, implementation) ∈ catalogue := by
  simp [timeOperators, catalogue]

/-- Calls for signatures of the catalogue, one at a time or all at once, make a registry of the
catalogue. -/
theorem catalogued_build {calls : List Call}
    (listed : ∀ key implementation,
      .signature key implementation ∈ calls -> (key, implementation) ∈ catalogue) :
    (build calls).Catalogued := by
  intro key implementation resolved
  rw [build_eq_ofLog, resolve?_ofLog_iff] at resolved
  rcases resolved with ⟨before, after, split, _⟩
  have added : (key, implementation) ∈ (written calls).filterMap Registration.signature? := by
    rw [split]
    exact List.mem_append_right _ List.mem_cons_self
  rcases List.mem_filterMap.mp added with ⟨registration, asked, found⟩
  obtain rfl := (Registration.signature?_eq_some_iff registration key implementation).mp found
  rcases List.mem_flatMap.mp asked with ⟨call, called, amounts⟩
  cases call with
  | signature other item =>
      cases List.mem_singleton.mp amounts
      exact listed key implementation called
  | timeOperators => exact (signature_mem_timeOperators_iff key implementation).mp amounts
  | kind other test => cases List.mem_singleton.mp amounts
  | conversion other item => cases List.mem_singleton.mp amounts
  | plainKinds | timeKinds =>
      simp [Call.registrations, Registry.plainKinds, Registry.timeKinds] at amounts

/-- The signature under which a registry finds an implementation for two values: the operator with
the kinds that the tests take the values for. -/
structure FindsUnder (registry : Registry) (key : Signature) (a b : Value) : Prop where
  left : registry.kinds.kindOf? a = some key.left
  right : registry.kinds.kindOf? b = some key.right
  resolved : ∃ implementation,
    registry.resolve? key.operator key.left key.right = some implementation

/-- A registry accommodates two values when the operation that it finds for them is made for them,
and when it finds none and plain arithmetic accepts them. -/
def Accommodates (registry : Registry) (operator : Operator) (a b : Value) : Prop :=
  (∃ key, key.operator = operator ∧ registry.FindsUnder key a b ∧
    (a.kind, b.kind) ∈ key.operands) ∨
    (¬∃ key, key.operator = operator ∧ registry.FindsUnder key a b) ∧
      (a.kind, b.kind) ∈ plainPairs operator

/-- A registry exchanges two values when it finds one of the two operations for them that exchange
their operands. -/
def Exchanges (registry : Registry) (operator : Operator) (a b : Value) : Prop :=
  ∃ key ∈ Signature.exchanged, key.operator = operator ∧ registry.FindsUnder key a b

variable {registry : Registry} {key : Signature} {operator : Operator} {a b : Value}

theorem FindsUnder.unique {other : Signature} (found : registry.FindsUnder key a b)
    (again : registry.FindsUnder other a b) (same : key.operator = other.operator) :
    key = other := by
  have left := Option.some.inj (found.left.symm.trans again.left)
  have right := Option.some.inj (found.right.symm.trans again.right)
  cases key
  cases other
  simp only [Signature.mk.injEq]
  exact ⟨same, left, right⟩

theorem FindsUnder.exists_checksOperands (found : registry.FindsUnder key a b)
    (catalogued : registry.Catalogued) :
    ∃ implementation,
      registry.apply key.operator a b = implementation a b ∧
        ChecksOperands key implementation := by
  rcases found.resolved with ⟨implementation, resolved⟩
  have chosen : registry.implementation? key.operator a b = some implementation :=
    (implementation?_eq_some_iff registry key.operator a b implementation).mpr
      ⟨key.left, key.right, found.left, found.right, resolved⟩
  refine ⟨implementation, ?_,
    checksOperands_of_mem_catalogue (catalogued key implementation resolved)⟩
  simp only [apply, chosen]

/-- Where nothing is found plain arithmetic gets the call. -/
theorem apply_of_not_found
    (unfound : ¬∃ key, key.operator = operator ∧ registry.FindsUnder key a b) :
    registry.apply operator a b = applyPlain operator a b := by
  have missing : registry.implementation? operator a b = none := by
    apply Option.eq_none_iff_forall_ne_some.mpr
    intro implementation chosen
    rcases (implementation?_eq_some_iff registry operator a b implementation).mp chosen with
      ⟨left, right, leftKind, rightKind, resolved⟩
    exact unfound ⟨⟨operator, left, right⟩, rfl, leftKind, rightKind, implementation, resolved⟩
  simp only [apply, missing]

theorem handled_of_accommodates (catalogued : registry.Catalogued)
    (accommodated : registry.Accommodates operator a b) :
    Handled Value.Countless (registry.apply operator a b) := by
  rcases accommodated with ⟨key, rfl, found, fit⟩ | ⟨unfound, plain⟩
  · rcases found.exists_checksOperands catalogued with ⟨implementation, applied, checks⟩
    rw [applied]
    exact checks.handled a b fit
  · rw [apply_of_not_found unfound]
    exact (applyPlain_settled operator a b).handled plain

/-- The two operations that exchange their operands name them in reverse when they refuse them. -/
theorem apply_of_exchanges (catalogued : registry.Catalogued)
    (exchanges : registry.Exchanges operator a b) (strange : ¬registry.Accommodates operator a b) :
    registry.apply operator a b = .error (.unsupported operator b.kind a.kind) := by
  rcases exchanges with ⟨key, exchanged, rfl, found⟩
  rcases found.exists_checksOperands catalogued with ⟨implementation, applied, checks⟩
  have unfit : (a.kind, b.kind) ∉ key.operands :=
    fun fit => strange (Or.inl ⟨key, rfl, found, fit⟩)
  rw [applied, checks.refused a b unfit, Signature.refusal, if_pos exchanged]

/-- Everything else that refuses its operands names them as they were given. -/
theorem apply_of_not_exchanges (catalogued : registry.Catalogued)
    (straight : ¬registry.Exchanges operator a b)
    (strange : ¬registry.Accommodates operator a b) :
    registry.apply operator a b = .error (.unsupported operator a.kind b.kind) := by
  by_cases found : ∃ key, key.operator = operator ∧ registry.FindsUnder key a b
  · rcases found with ⟨key, rfl, found⟩
    rcases found.exists_checksOperands catalogued with ⟨implementation, applied, checks⟩
    have unfit : (a.kind, b.kind) ∉ key.operands :=
      fun fit => strange (Or.inl ⟨key, rfl, found, fit⟩)
    have ordered : key ∉ Signature.exchanged :=
      fun exchanged => straight ⟨key, exchanged, rfl, found⟩
    rw [applied, checks.refused a b unfit, Signature.refusal, if_neg ordered]
  · rw [apply_of_not_found found]
    exact (applyPlain_settled operator a b).refused fun plain => strange (Or.inr ⟨found, plain⟩)

/-- A registry that takes both values for what they are accommodates them with every operation that
it finds. -/
theorem FindsUnder.accommodates_of_recognized (found : registry.FindsUnder key a b)
    (left : registry.kinds.kindOf? a = some a.kind) (right : registry.kinds.kindOf? b = some b.kind)
    (exchanged : key ∈ Signature.exchanged) : registry.Accommodates key.operator a b := by
  have own : ∀ key ∈ Signature.exchanged, (key.left, key.right) ∈ key.operands := by decide
  have leftKind := Option.some.inj (left.symm.trans found.left)
  have rightKind := Option.some.inj (right.symm.trans found.right)
  exact Or.inl ⟨key, rfl, found, leftKind ▸ rightKind ▸ own key exchanged⟩

/-- A registry of the catalogue, whatever its tests, refuses exactly those values that it does not
accommodate.  The refusal names the operator and the kinds of both values, and these in the order of
the call unless the operation exchanges its operands.  Where both values are taken for what they
are, the order is always that of the call. -/
theorem refusals_name_operands (calls : List Call)
    (listed : ∀ key implementation,
      .signature key implementation ∈ calls -> (key, implementation) ∈ catalogue)
    (operator : Operator) (a b : Value) (refusal : Operator × String × String) :
    (Refuses ((build calls).apply operator a b) refusal ↔
      ¬(build calls).Accommodates operator a b ∧
        ((build calls).Exchanges operator a b ∧ refusal = (operator, b.kind.name, a.kind.name) ∨
          ¬(build calls).Exchanges operator a b ∧
            refusal = (operator, a.kind.name, b.kind.name))) ∧
    ((build calls).kinds.kindOf? a = some a.kind -> (build calls).kinds.kindOf? b = some b.kind ->
      Refuses ((build calls).apply operator a b) refusal ->
        refusal = (operator, a.kind.name, b.kind.name)) := by
  have catalogued := catalogued_build listed
  have strange (refused : Refuses ((build calls).apply operator a b) refusal) :
      ¬(build calls).Accommodates operator a b :=
    fun accommodated =>
      (handled_of_accommodates catalogued accommodated).not_refuses refusal refused
  refine ⟨⟨?_, ?_⟩, ?_⟩
  · intro refused
    refine ⟨strange refused, ?_⟩
    by_cases exchanges : (build calls).Exchanges operator a b
    · rw [apply_of_exchanges catalogued exchanges (strange refused), refuses_unsupported_iff]
        at refused
      exact Or.inl ⟨exchanges, refused⟩
    · rw [apply_of_not_exchanges catalogued exchanges (strange refused), refuses_unsupported_iff]
        at refused
      exact Or.inr ⟨exchanges, refused⟩
  · rintro ⟨unfit, ⟨exchanges, rfl⟩ | ⟨straight, rfl⟩⟩
    · rw [apply_of_exchanges catalogued exchanges unfit]
      exact refuses_unsupported_iff.mpr rfl
    · rw [apply_of_not_exchanges catalogued straight unfit]
      exact refuses_unsupported_iff.mpr rfl
  · intro left right refused
    have straight : ¬(build calls).Exchanges operator a b := by
      rintro ⟨key, exchanged, rfl, found⟩
      exact strange refused (found.accommodates_of_recognized left right exchanged)
    rw [apply_of_not_exchanges catalogued straight (strange refused), refuses_unsupported_iff]
      at refused
    exact refused

/-- Calls for a registry that takes numbers for durations and truth values for instants. -/
def mistaken : List Call :=
  [.kind .duration Kind.number.test, .kind .instant Kind.boolean.test, .timeOperators]

theorem mistaken_findsUnder (number : Binary64) (truth : Bool) :
    (build mistaken).FindsUnder ⟨.add, .duration, .instant⟩ (.number number) (.boolean truth) ∧
      (build mistaken).FindsUnder ⟨.add, .instant, .duration⟩ (.boolean truth) (.number number) :=
  ⟨⟨rfl, rfl, _, rfl⟩, ⟨rfl, rfl, _, rfl⟩⟩

/-- A sum of a number and a truth value is refused in reverse, the sum of the truth value and the
number as it was asked for. -/
theorem mistaken_refusals_name_operands :
    Refuses ((build mistaken).apply .add (.number 1) (.boolean true)) (.add, "Boolean", "Number") ∧
      Refuses ((build mistaken).apply .add (.boolean true) (.number 1))
        (.add, "Boolean", "Number") := by
  have listed : ∀ key implementation,
      .signature key implementation ∈ mistaken -> (key, implementation) ∈ catalogue := by
    intro key implementation called
    simp [mistaken] at called
  rcases mistaken_findsUnder 1 true with ⟨reversed, straight⟩
  have numberFirst := refusals_name_operands mistaken listed .add (.number 1) (.boolean true)
  have numberLast := refusals_name_operands mistaken listed .add (.boolean true) (.number 1)
  refine ⟨(numberFirst _).1.mpr ⟨?_, Or.inl ⟨?_, rfl⟩⟩,
    (numberLast _).1.mpr ⟨?_, Or.inr ⟨?_, rfl⟩⟩⟩
  · rintro (⟨key, same, found, fit⟩ | ⟨unfound, _⟩)
    · cases found.unique reversed same
      exact absurd fit (by decide)
    · exact unfound ⟨_, rfl, reversed⟩
  · exact ⟨_, List.mem_cons_self, rfl, reversed⟩
  · rintro (⟨key, same, found, fit⟩ | ⟨unfound, _⟩)
    · cases found.unique straight same
      exact absurd fit (by decide)
    · exact unfound ⟨_, rfl, straight⟩
  · rintro ⟨key, exchanged, same, found⟩
    cases found.unique straight same
    exact absurd exchanged (by decide)

/-- The sum of a number and a truth value is refused, and the refusal does not name them in the
order of the call. -/
theorem exchanged_operands_are_named_in_reverse :
    (∀ key implementation,
      .signature key implementation ∈ mistaken -> (key, implementation) ∈ catalogue) ∧
      Refuses ((build mistaken).apply .add (.number 1) (.boolean true))
        (.add, "Boolean", "Number") ∧
      ¬∀ refusal, Refuses ((build mistaken).apply .add (.number 1) (.boolean true)) refusal ->
        refusal = (.add, (Value.number 1).kind.name, (Value.boolean true).kind.name) := by
  have refused : Refuses ((build mistaken).apply .add (.number 1) (.boolean true))
      (.add, "Boolean", "Number") :=
    ⟨_, rfl, rfl⟩
  refine ⟨?_, refused, ?_⟩
  · intro key implementation called
    simp [mistaken] at called
  · intro ordered
    exact absurd (ordered _ refused) (by decide)

end Registry
end Chronometry
