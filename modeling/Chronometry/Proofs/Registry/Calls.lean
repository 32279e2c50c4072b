import Chronometry.Proofs.Registry.Log

/-!
# Registries as what was asked for first

Whoever builds a registry calls for kinds, signatures and conversions one at a time, or for whole
families of them, in any order and as often as they like.  Nothing that is asked for twice is
replaced.  Here a finished registry is compared with the row of registrations that the calls amount
to, and everything it does is read off that row: a value is of the earliest kind whose first test
accepts it, and two values are combined by the first implementation for their kinds.  The tests may
overlap, and they may say what is not true of the kind they stand for.

It follows that further calls add to a registry and never take back what it has been asked for
before.
-/

namespace Chronometry

/-- The order of pairs of kinds, by the left kind and then by the right one. -/
def Kind.Precedes (pair other : Kind × Kind) : Prop :=
  pair.1.place < other.1.place ∨ pair.1 = other.1 ∧ pair.2.place < other.2.place

instance (pair other : Kind × Kind) : Decidable (Kind.Precedes pair other) :=
  inferInstanceAs (Decidable (_ ∨ _))

namespace Kind

theorem place_inj {kind other : Kind} : kind.place = other.place ↔ kind = other := by
  cases kind <;> cases other <;> decide

theorem notBehind_trans (a b c : Kind) (first : a.notBehind b = true)
    (second : b.notBehind c = true) : a.notBehind c = true := by
  simp only [notBehind, decide_eq_true_eq] at *
  omega

theorem notBehind_total (a b : Kind) : (a.notBehind b || b.notBehind a) = true := by
  simp only [notBehind, Bool.or_eq_true, decide_eq_true_eq]
  omega

theorem place_lt_of_notBehind {a b : Kind} (notBehind : a.notBehind b = true)
    (different : a ≠ b) : a.place < b.place := by
  have places := mt place_inj.mp different
  have order : a.place ≤ b.place := of_decide_eq_true notBehind
  omega

theorem pairNotBehind_iff (pair other : Kind × Kind) :
    pairNotBehind pair other = true ↔ pair.1.place < other.1.place ∨
      pair.1.place = other.1.place ∧ pair.2.place ≤ other.2.place := by
  rw [pairNotBehind, decide_eq_true_eq, place_inj]

theorem pairNotBehind_trans (a b c : Kind × Kind) (first : pairNotBehind a b = true)
    (second : pairNotBehind b c = true) : pairNotBehind a c = true := by
  rw [pairNotBehind_iff] at *
  omega

theorem pairNotBehind_total (a b : Kind × Kind) :
    (pairNotBehind a b || pairNotBehind b a) = true := by
  rw [Bool.or_eq_true, pairNotBehind_iff, pairNotBehind_iff]
  omega

theorem precedes_of_pairNotBehind {a b : Kind × Kind} (notBehind : pairNotBehind a b = true)
    (different : a ≠ b) : Precedes a b := by
  rcases of_decide_eq_true notBehind with before | ⟨same, notBefore⟩
  · exact Or.inl before
  · have later : a.2 ≠ b.2 := fun equal => different (Prod.ext same equal)
    exact Or.inr ⟨same, Nat.lt_of_le_of_ne notBefore (mt place_inj.mp later)⟩

end Kind

/-- Two registrations under one key of one table. -/
def Registration.SameKey : Registration -> Registration -> Prop
  | .kind key _, .kind other _ => key = other
  | .signature key _, .signature other _ => key = other
  | .conversion key _, .conversion other _ => key = other
  | _, _ => False

theorem Registration.sameKey_self (registration : Registration) :
    registration.SameKey registration := by
  cases registration <;> exact rfl

namespace Registry

/-! ## Calls -/

/-- What can be asked for while a registry is built. -/
inductive Call where
  | kind (kind : Kind) (test : Test)
  | signature (signature : Signature) (implementation : Implementation)
  | conversion (kind : Kind) (conversion : Conversion)
  | plainKinds
  | timeKinds
  | timeOperators

/-- The registrations that a call amounts to. -/
def Call.registrations : Call -> List Registration
  | .kind key test => [.kind key test]
  | .signature key item => [.signature key item]
  | .conversion key item => [.conversion key item]
  | .plainKinds => Registry.plainKinds
  | .timeKinds => Registry.timeKinds
  | .timeOperators => Registry.timeOperators

/-- A registry after one more call. -/
def answerCall (registry : Registry) (call : Call) : Registry :=
  call.registrations.foldl record registry

/-- The registry that calls build from nothing. -/
def build (calls : List Call) : Registry :=
  calls.foldl answerCall empty

/-- The row of registrations that calls amount to. -/
def written (calls : List Call) : List Registration :=
  calls.flatMap Call.registrations

theorem written_append (calls more : List Call) :
    written (calls ++ more) = written calls ++ written more :=
  List.flatMap_append

theorem build_eq_ofLog (calls : List Call) : build calls = ofLog (written calls) := by
  rw [ofLog, written, List.foldl_flatMap]
  rfl

/-- The standard registry is built by three calls. -/
theorem standard_eq_build : standard = build [.plainKinds, .timeKinds, .timeOperators] := by
  rw [build_eq_ofLog]
  rfl

/-! ## What a row of registrations says -/

variable {log : List Registration}

/-- The implementation that a row of registrations has for two values. -/
def Chosen (log : List Registration) (operator : Operator) (a b : Value)
    (implementation : Implementation) :
    Prop :=
  ∃ left right, FirstAccepting (log.filterMap Registration.kind?) a left ∧
    FirstAccepting (log.filterMap Registration.kind?) b right ∧
    FirstEntry (log.filterMap Registration.signature?) ⟨operator, left, right⟩ implementation

/-- The conversion that a row of registrations has for a value. -/
def ChosenConversion (log : List Registration) (value : Value) (conversion : Conversion) : Prop :=
  ∃ kind, FirstAccepting (log.filterMap Registration.kind?) value kind ∧
    FirstEntry (log.filterMap Registration.conversion?) kind conversion

theorem kindOf?_ofLog_iff (log : List Registration) (value : Value) (kind : Kind) :
    (ofLog log).kinds.kindOf? value = some kind ↔
      FirstAccepting (log.filterMap Registration.kind?) value kind := by
  rw [ofLog, foldl_record]
  exact KindTable.kindOf?_insertAll_eq_some_iff _ value kind

theorem resolve?_ofLog_iff (log : List Registration) (operator : Operator) (left right : Kind)
    (implementation : Implementation) :
    (ofLog log).resolve? operator left right = some implementation ↔
      FirstEntry (log.filterMap Registration.signature?) ⟨operator, left, right⟩
        implementation := by
  rw [resolve?_ofLog, FirstWins.get?_eq_some_iff]

theorem get?_conversions_ofLog_iff (log : List Registration) (kind : Kind)
    (conversion : Conversion) :
    (ofLog log).conversions.get? kind = some conversion ↔
      FirstEntry (log.filterMap Registration.conversion?) kind conversion := by
  rw [ofLog, foldl_record]
  exact FirstWins.get?_insertAll_empty_iff _ kind conversion

theorem implementation?_eq_some_iff (registry : Registry) (operator : Operator) (a b : Value)
    (implementation : Implementation) :
    registry.implementation? operator a b = some implementation ↔
      ∃ left right, registry.kinds.kindOf? a = some left ∧ registry.kinds.kindOf? b = some right ∧
        registry.resolve? operator left right = some implementation := by
  unfold implementation?
  cases registry.kinds.kindOf? a with
  | none => simp
  | some left =>
      cases registry.kinds.kindOf? b with
      | none => simp
      | some right => simp

theorem conversion?_eq_some_iff (registry : Registry) (value : Value) (conversion : Conversion) :
    registry.conversion? value = some conversion ↔
      ∃ kind, registry.kinds.kindOf? value = some kind ∧
        registry.conversions.get? kind = some conversion := by
  unfold conversion?
  cases registry.kinds.kindOf? value with
  | none => simp
  | some kind => simp

theorem implementation?_ofLog_iff (log : List Registration) (operator : Operator) (a b : Value)
    (implementation : Implementation) :
    (ofLog log).implementation? operator a b = some implementation ↔
      Chosen log operator a b implementation := by
  simp only [implementation?_eq_some_iff, kindOf?_ofLog_iff, resolve?_ofLog_iff, Chosen]

theorem conversion?_ofLog_iff (log : List Registration) (value : Value) (conversion : Conversion) :
    (ofLog log).conversion? value = some conversion ↔ ChosenConversion log value conversion := by
  simp only [conversion?_eq_some_iff, kindOf?_ofLog_iff, get?_conversions_ofLog_iff,
    ChosenConversion]

theorem apply_ofLog_of_chosen (operator : Operator) (a b : Value) (implementation : Implementation)
    (chosen : Chosen log operator a b implementation) :
    (ofLog log).apply operator a b = implementation a b := by
  have found := (implementation?_ofLog_iff log operator a b implementation).mpr chosen
  simp only [apply, found]

theorem apply_ofLog_of_not_chosen (operator : Operator) (a b : Value)
    (unchosen : ¬∃ implementation, Chosen log operator a b implementation) :
    (ofLog log).apply operator a b = Arithmetic.applyPlain operator a b := by
  have missing : (ofLog log).implementation? operator a b = none := by
    apply Option.eq_none_iff_forall_ne_some.mpr
    intro implementation found
    exact unchosen
      ⟨implementation, (implementation?_ofLog_iff log operator a b implementation).mp found⟩
  simp only [apply, missing]

theorem convert_ofLog_of_chosen (value : Value) (unit : Measure) (conversion : Conversion)
    (chosen : ChosenConversion log value conversion) :
    (ofLog log).convert value unit = conversion value unit := by
  have found := (conversion?_ofLog_iff log value conversion).mpr chosen
  simp only [convert, found]

theorem convert_ofLog_of_not_chosen (value : Value) (unit : Measure)
    (unchosen : ¬∃ conversion, ChosenConversion log value conversion) :
    (ofLog log).convert value unit = Arithmetic.convertPlain value unit := by
  have missing : (ofLog log).conversion? value = none := by
    apply Option.eq_none_iff_forall_ne_some.mpr
    intro conversion found
    exact unchosen ⟨conversion, (conversion?_ofLog_iff log value conversion).mp found⟩
  simp only [convert, missing]

/-! ## Lists of what is registered -/

theorem exists_resolve?_ofLog_iff (log : List Registration) (operator : Operator)
    (left right : Kind) :
    (∃ implementation, (ofLog log).resolve? operator left right = some implementation) ↔
      ∃ implementation, .signature ⟨operator, left, right⟩ implementation ∈ log := by
  rw [← Option.ne_none_iff_exists', resolve?_ofLog, ne_eq, FirstWins.get?_eq_none_iff,
    Decidable.not_not]
  change _ ∈ (log.filterMap Registration.signature?).map Prod.fst ↔ _
  simp only [mem_keys_filterMap_iff, Registration.signature?_eq_some_iff, exists_eq_right]

theorem contains_conversions_ofLog_iff (log : List Registration) (kind : Kind) :
    (ofLog log).conversions.contains kind = true ↔
      ∃ conversion, .conversion kind conversion ∈ log := by
  rw [ofLog, foldl_record]
  change (FirstWins.insertAll .empty _).contains kind = true ↔ _
  simp only [FirstWins.contains_insertAll_empty_iff, mem_keys_filterMap_iff,
    Registration.conversion?_eq_some_iff, exists_eq_right]

theorem pairs_convert (registry : Registry) : registry.pairs .convert = [] :=
  rfl

/-- A row without its repetitions has none left. -/
theorem nodup_eraseDups {α : Type} [BEq α] [LawfulBEq α] (row : List α) :
    row.eraseDups.Nodup := by
  induction row using List.reverseRecOn with
  | nil => exact List.nodup_nil
  | append_singleton before last inductionHypothesis =>
      rw [List.eraseDups_append]
      by_cases present : last ∈ before
      · simpa [List.removeAll, present] using inductionHypothesis
      · have absent : last ∉ before.eraseDups := mt List.mem_eraseDups.mp present
        simpa [List.removeAll, present, List.eraseDups_cons] using
          List.Nodup.concat absent inductionHypothesis

/-- What stands in a row once is in strict order when the row is sorted. -/
theorem pairwise_mergeSort_of_nodup {α : Type} {le : α -> α -> Bool} {row : List α}
    (trans : ∀ a b c, le a b = true -> le b c = true -> le a c = true)
    (total : ∀ a b, (le a b || le b a) = true) (once : row.Nodup) :
    (row.mergeSort le).Pairwise fun a b => le a b = true ∧ a ≠ b :=
  (List.pairwise_mergeSort trans total row).and (List.nodup_mergeSort.mpr once)

/-- The pairs of an operator are listed in their order, each of them once. -/
theorem pairs_sorted (registry : Registry) (operator : Operator) :
    (registry.pairs operator).Pairwise Kind.Precedes := by
  unfold pairs
  split
  · exact List.Pairwise.nil
  · exact (pairwise_mergeSort_of_nodup Kind.pairNotBehind_trans Kind.pairNotBehind_total
      (nodup_eraseDups _)).imp fun ⟨notBehind, different⟩ =>
        Kind.precedes_of_pairNotBehind notBehind different

theorem mem_pairs_iff (registry : Registry) {operator : Operator} (converts : operator ≠ .convert)
    (left right : Kind) :
    (left, right) ∈ registry.pairs operator ↔
      ∃ implementation, registry.resolve? operator left right = some implementation := by
  rw [pairs, if_neg converts, List.mem_mergeSort, List.mem_eraseDups, ← Option.ne_none_iff_exists',
    resolve?, ne_eq, FirstWins.get?_eq_none_iff, Decidable.not_not, List.mem_map]
  constructor
  · rintro ⟨⟨_, _, _⟩, listed, same⟩
    rcases List.mem_filter.mp listed with ⟨key, asked⟩
    obtain rfl := of_decide_eq_true asked
    obtain ⟨rfl, rfl⟩ := Prod.mk.inj same
    exact key
  · intro key
    exact ⟨⟨operator, left, right⟩, List.mem_filter.mpr ⟨key, decide_eq_true rfl⟩, rfl⟩

/-- No kind has two conversions in a registry that was built from a log. -/
theorem nodup_keys_conversions_ofLog (log : List Registration) :
    (ofLog log).conversions.keys.Nodup := by
  rw [ofLog, foldl_record]
  exact FirstWins.nodup_keys_insertAll _ List.nodup_nil

theorem convertible_sorted (log : List Registration) :
    (ofLog log).convertible.Pairwise fun kind other => kind.place < other.place :=
  (pairwise_mergeSort_of_nodup Kind.notBehind_trans Kind.notBehind_total
    (nodup_keys_conversions_ofLog log)).imp fun ⟨notBehind, different⟩ =>
      Kind.place_lt_of_notBehind notBehind different

theorem mem_convertible_iff (registry : Registry) (kind : Kind) :
    kind ∈ registry.convertible ↔ registry.conversions.contains kind = true := by
  rw [convertible, List.mem_mergeSort, FirstWins.contains_iff_mem_keys]

/-! ## Further calls -/

/-- A registry with more in it than another one: what the other one found, it finds as well. -/
structure Extends (larger registry : Registry) : Prop where
  kinds : ∀ (value : Value) (kind : Kind),
    registry.kinds.kindOf? value = some kind -> larger.kinds.kindOf? value = some kind
  resolved : ∀ (operator : Operator) (left right : Kind) (implementation : Implementation),
    registry.resolve? operator left right = some implementation ->
      larger.resolve? operator left right = some implementation
  conversions : ∀ (kind : Kind) (conversion : Conversion),
    registry.conversions.get? kind = some conversion ->
      larger.conversions.get? kind = some conversion

namespace Extends

variable {larger registry : Registry}

theorem implementation? (extended : larger.Extends registry) {operator : Operator} {a b : Value}
    {implementation : Implementation}
    (found : registry.implementation? operator a b = some implementation) :
    larger.implementation? operator a b = some implementation := by
  rw [implementation?_eq_some_iff] at found ⊢
  rcases found with ⟨left, right, leftKind, rightKind, resolved⟩
  exact ⟨left, right, extended.kinds _ _ leftKind, extended.kinds _ _ rightKind,
    extended.resolved _ _ _ _ resolved⟩

theorem conversion? (extended : larger.Extends registry) {value : Value} {conversion : Conversion}
    (found : registry.conversion? value = some conversion) :
    larger.conversion? value = some conversion := by
  rw [conversion?_eq_some_iff] at found ⊢
  rcases found with ⟨kind, known, converted⟩
  exact ⟨kind, extended.kinds _ _ known, extended.conversions _ _ converted⟩

end Extends

/-- More registrations extend a registry. -/
theorem foldl_record_extends (log : List Registration) (registry : Registry) :
    (log.foldl record registry).Extends registry := by
  rw [foldl_record]
  refine ⟨?_, ?_, ?_⟩
  · intro value kind known
    exact KindTable.kindOf?_insertAll_of_some _ known
  · intro operator left right implementation resolved
    unfold resolve? at resolved ⊢
    rw [FirstWins.get?_insertAll, resolved, Option.some_or]
  · intro kind conversion converted
    rw [FirstWins.get?_insertAll, converted, Option.some_or]

/-- A registry that has the key of a registration. -/
def Has (registry : Registry) : Registration -> Prop
  | .kind key _ => registry.kinds.contains key = true
  | .signature key _ => registry.signatures.contains key = true
  | .conversion key _ => registry.conversions.contains key = true

/-- A registration under a key that is there changes nothing. -/
theorem record_of_has {registry : Registry} {registration : Registration}
    (has : registry.Has registration) :
    registry.record registration = registry := by
  cases registration with
  | kind key test =>
      have unchanged : registry.kinds.insert key test = registry.kinds := if_pos has
      simp only [record, unchanged]
  | signature key implementation =>
      have unchanged : registry.signatures.insert key implementation = registry.signatures :=
        if_pos has
      simp only [record, unchanged]
  | conversion key conversion =>
      have unchanged : registry.conversions.insert key conversion = registry.conversions :=
        if_pos has
      simp only [record, unchanged]

/-- A registry has every key that it was asked for. -/
theorem has_ofLog {earlier registration : Registration} (written : earlier ∈ log)
    (same : registration.SameKey earlier) : (ofLog log).Has registration := by
  rw [ofLog, foldl_record]
  -- Registrations for different tables never share a key.
  cases registration <;> cases earlier <;> try contradiction
  all_goals
    obtain rfl := same
    refine (FirstWins.contains_insertAll_empty_iff _ _).mpr
      ((mem_keys_filterMap_iff _ _ _).mpr ⟨_, _, written, rfl⟩)

theorem foldl_record_of_has {registry : Registry} (more : List Registration)
    (present : ∀ registration ∈ more, registry.Has registration) :
    more.foldl record registry = registry := by
  induction more with
  | nil => rfl
  | cons registration rest inductionHypothesis =>
      rcases List.forall_mem_cons.mp present with ⟨first, others⟩
      rw [List.foldl_cons, record_of_has first]
      exact inductionHypothesis others

/-! ## The calls and the registry -/

/-- Everything a registry does is what a row of registrations says first. -/
structure ReadsFirst (registry : Registry) (log : List Registration) : Prop where
  kinds : ∀ (value : Value) (kind : Kind),
    registry.kinds.kindOf? value = some kind ↔
      FirstAccepting (log.filterMap Registration.kind?) value kind
  applied : ∀ (operator : Operator) (a b : Value) (implementation : Implementation),
    Chosen log operator a b implementation -> registry.apply operator a b = implementation a b
  deferred : ∀ (operator : Operator) (a b : Value),
    (¬∃ implementation, Chosen log operator a b implementation) ->
      registry.apply operator a b = Arithmetic.applyPlain operator a b
  converted : ∀ (value : Value) (unit : Measure) (conversion : Conversion),
    ChosenConversion log value conversion -> registry.convert value unit = conversion value unit
  deferredConversion : ∀ (value : Value) (unit : Measure),
    (¬∃ conversion, ChosenConversion log value conversion) ->
      registry.convert value unit = Arithmetic.convertPlain value unit
  resolved : ∀ (operator : Operator) (left right : Kind),
    (∃ implementation, registry.resolve? operator left right = some implementation) ↔
      ∃ implementation, .signature ⟨operator, left, right⟩ implementation ∈ log
  resolvedFirst : ∀ (operator : Operator) (left right : Kind) (implementation : Implementation),
    registry.resolve? operator left right = some implementation ↔
      FirstEntry (log.filterMap Registration.signature?) ⟨operator, left, right⟩ implementation
  pairsSorted : ∀ operator : Operator, (registry.pairs operator).Pairwise Kind.Precedes
  paired : ∀ operator : Operator, operator ≠ .convert -> ∀ left right : Kind,
    (left, right) ∈ registry.pairs operator ↔
      ∃ implementation, registry.resolve? operator left right = some implementation
  unpaired : registry.pairs .convert = []
  convertibleSorted : registry.convertible.Pairwise fun kind other => kind.place < other.place
  convertible : ∀ kind : Kind,
    kind ∈ registry.convertible ↔ ∃ conversion, .conversion kind conversion ∈ log

theorem readsFirst_ofLog (log : List Registration) : (ofLog log).ReadsFirst log where
  kinds := kindOf?_ofLog_iff log
  applied := apply_ofLog_of_chosen
  deferred := apply_ofLog_of_not_chosen
  converted := convert_ofLog_of_chosen
  deferredConversion := convert_ofLog_of_not_chosen
  resolved := exists_resolve?_ofLog_iff log
  resolvedFirst := resolve?_ofLog_iff log
  pairsSorted := pairs_sorted (ofLog log)
  paired := fun _ converts => mem_pairs_iff (ofLog log) converts
  unpaired := pairs_convert (ofLog log)
  convertibleSorted := convertible_sorted log
  convertible := by
    intro kind
    rw [mem_convertible_iff, contains_conversions_ofLog_iff]

theorem build_append (calls more : List Call) :
    build (calls ++ more) = (written more).foldl record (build calls) := by
  rw [build_eq_ofLog, build_eq_ofLog, written_append, ofLog, List.foldl_append]
  rfl

/-- A registry does what its calls have asked for first.  Further calls extend it, so that whatever
it found it finds again, and calls that only repeat keys leave it as it is. -/
theorem build_reads_calls_first (calls : List Call) :
    (build calls).ReadsFirst (written calls) ∧
    (∀ more : List Call, (build (calls ++ more)).Extends (build calls) ∧
      (∀ (operator : Operator) (a b : Value), (build calls).implementation? operator a b ≠ none ->
        (build (calls ++ more)).apply operator a b = (build calls).apply operator a b) ∧
      (∀ (value : Value) (unit : Measure), (build calls).conversion? value ≠ none ->
        (build (calls ++ more)).convert value unit = (build calls).convert value unit)) ∧
    (∀ more : List Call,
      (∀ registration ∈ written more, ∃ earlier ∈ written calls, registration.SameKey earlier) ->
        build (calls ++ more) = build calls) := by
  refine ⟨?_, ?_, ?_⟩
  · rw [build_eq_ofLog]
    exact readsFirst_ofLog (written calls)
  · intro more
    have extended : (build (calls ++ more)).Extends (build calls) := by
      rw [build_append]
      exact foldl_record_extends (written more) (build calls)
    refine ⟨extended, ?_, ?_⟩
    · intro operator a b found
      rcases Option.ne_none_iff_exists'.mp found with ⟨implementation, found⟩
      simp only [apply, found, extended.implementation? found]
    · intro value unit found
      rcases Option.ne_none_iff_exists'.mp found with ⟨conversion, found⟩
      simp only [convert, found, extended.conversion? found]
  · intro more repeated
    rw [build_append]
    apply foldl_record_of_has
    intro registration written
    rcases repeated registration written with ⟨earlier, asked, same⟩
    rw [build_eq_ofLog]
    exact has_ofLog asked same

/-- Calls for durations by a test that accepts everything, before anybody asks for the other
kinds. -/
def boundless : List Call :=
  [.kind .duration fun _ => true, .signature ⟨.add, .duration,
    .duration⟩ fun _ _ => .ok (.boolean true), .timeOperators, .plainKinds, .timeKinds]

theorem firstAccepting_boundless (value : Value) :
    FirstAccepting ((written boundless).filterMap Registration.kind?) value .duration := by
  refine ⟨[], fun _ => true, _, rfl, List.not_mem_nil, rfl, ?_⟩
  rintro other rejecting ⟨before, after, impossible, _⟩
  exact absurd impossible (by simp)

theorem not_firstAccepting_timeOperators (value : Value) (kind : Kind) :
    ¬FirstAccepting ((written [.timeOperators]).filterMap Registration.kind?) value kind := by
  have noKinds : (written [.timeOperators]).filterMap Registration.kind? = [] := rfl
  rintro ⟨before, test, after, impossible, _⟩
  rw [noKinds] at impossible
  exact absurd impossible (by simp)

/-- A test that accepts everything makes every value a duration, also for the implementations that
come with the catalogue.  Asking for the catalogue and the kinds again changes nothing.  Where no
kinds were asked for, the catalogue is there and is not found. -/
theorem boundless_reads_calls_first :
    (build boundless).apply .add (.number 1) (.instant .epoch) = .ok (.boolean true) ∧
      (build boundless).convert (.number 1) .second = .error (.unconvertible .number) ∧
      build (boundless ++ [.timeOperators, .kind .duration fun _ => false]) = build boundless ∧
      (build (boundless ++ [.signature ⟨.add, .duration, .duration⟩ Arithmetic.addDurations])).apply
        .add (.number 1) (.instant .epoch) = .ok (.boolean true) ∧
      (build [.timeOperators]).apply .add (.instant .epoch) (.duration .zero) =
        .error (.unsupported .add .instant .duration) ∧
      (build [.timeOperators]).convert (.instant .epoch) .second =
        .error (.unconvertible .instant) := by
  rcases build_reads_calls_first boundless with ⟨reads, extended, repeated⟩
  rcases build_reads_calls_first [.timeOperators] with ⟨readsKindless, _, _⟩
  have chosen : Chosen (written boundless) .add (.number 1) (.instant .epoch) fun _ _ =>
      .ok (.boolean true) :=
    ⟨.duration, .duration, firstAccepting_boundless _, firstAccepting_boundless _, [], _, rfl,
      List.not_mem_nil⟩
  have chosenConversion :
      ChosenConversion (written boundless) (.number 1) Arithmetic.convertDuration :=
    ⟨.duration, firstAccepting_boundless _, [(.instant, Arithmetic.convertInstant)], [], rfl,
      by decide⟩
  have applied := reads.applied _ _ _ _ chosen
  refine ⟨applied, ?_, ?_, ?_, ?_, ?_⟩
  · rw [reads.converted _ _ _ chosenConversion]
    rfl
  · apply repeated
    intro registration listed
    rcases List.mem_append.mp listed with again | again
    · have asked : Call.timeOperators ∈ boundless :=
        List.mem_cons_of_mem _ (List.mem_cons_of_mem _ List.mem_cons_self)
      exact ⟨registration, List.mem_flatMap.mpr ⟨_, asked, again⟩,
        registration.sameKey_self⟩
    · obtain rfl := List.mem_singleton.mp again
      exact ⟨_, List.mem_cons_self, rfl⟩
  · have found : (build boundless).implementation? .add (.number 1) (.instant .epoch) ≠ none := by
      rw [build_eq_ofLog, (implementation?_ofLog_iff _ _ _ _ _).mpr chosen]
      exact Option.some_ne_none _
    rw [(extended _).2.1 _ _ _ found, applied]
  · rw [readsKindless.deferred]
    · rfl
    · rintro ⟨_, left, _, accepted, _⟩
      exact not_firstAccepting_timeOperators _ left accepted
  · rw [readsKindless.deferredConversion]
    · rfl
    · rintro ⟨_, kind, accepted, _⟩
      exact not_firstAccepting_timeOperators _ kind accepted

end Registry
end Chronometry
