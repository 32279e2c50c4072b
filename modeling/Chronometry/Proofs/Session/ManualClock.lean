import Chronometry.Session
import Chronometry.Proofs.Instant.Translation
import Chronometry.Proofs.Session.Standing

/-!
# The clock of a session

The clock of a session shows nothing but what it was told: the instant to which it was last set, or
at which it started, moved by the exact lengths of the advances that have succeeded since.  An
advance that fails leaves no trace, since it fails before the clock is replaced, and no question to
the engine touches the clock.

What a session adds up to is read off its history here, and not off the engine.  The clock is
compared with that sum after every request, by an invariant that one request preserves.
-/

namespace Chronometry

/-! ## One advance -/

namespace Clock

variable {clock moved : Clock} {d : Duration}

theorem advance_eq_ok_iff :
    clock.advance d = .ok moved ↔
      ¬d.HasDayFields ∧ moved.now.nanoseconds = clock.now.nanoseconds + d.length := by
  rw [advance, Error.withinLimits_eq_ok_iff, Option.map_eq_some_iff, ← Instant.add?_eq_some_iff]
  constructor
  · rintro ⟨i, reached, rfl⟩
    exact reached
  · intro reached
    exact ⟨moved.now, reached, rfl⟩

theorem exists_advance_eq_ok_iff :
    (∃ moved, clock.advance d = .ok moved) ↔ ¬d.HasDayFields ∧
      -377705023201000000000 ≤ clock.now.nanoseconds + d.length ∧
      clock.now.nanoseconds + d.length ≤ 253402207200999999999 := by
  simp only [advance_eq_ok_iff]
  constructor
  · rintro ⟨moved, short, count⟩
    exact ⟨short, count ▸ moved.now.lower_le, count ▸ moved.now.le_upper⟩
  · rintro ⟨short, lower, upper⟩
    exact ⟨⟨⟨_, lower, upper⟩⟩, short, rfl⟩

end Clock

/-! ## One request -/

/-- The requests that are meant for the clock. -/
def Request.IsForClock : Request -> Prop
  | .set _ | .advance _ => True
  | _ => False

namespace Engine

variable {engine : Engine} {request : Request}

theorem step_set (engine : Engine) (i : Instant) :
    engine.step (.set i) = (.ok .done, { engine with clock := ⟨i⟩ }) :=
  rfl

/-- The clock is replaced after the advance has succeeded, and a failure finds the engine as it
was. -/
theorem step_advance (engine : Engine) (d : Duration) :
    engine.step (.advance d) =
      match engine.clock.advance d with
      | .ok moved => (.ok (.value (.instant moved.now)), { engine with clock := moved })
      | .error error => (.error error, engine) := by
  -- With the clock of the engine put in place, the outcome of the advance decides everything.
  change (do
    let i ← (do
      let moved ← MonadExcept.ofExcept (engine.clock.advance d)
      OnEngine.replaceClock moved
      return moved.now : OnEngine Instant)
    return .value (.instant i) : OnEngine Answer).run.run engine = _
  cases engine.clock.advance d <;> rfl

/-- A question is answered by the engine that it leaves. -/
theorem run_ask (question : Engine -> Except Error Answer) (engine : Engine) :
    (OnEngine.ask question).run.run engine = (question engine, engine) := by
  change (MonadExcept.ofExcept (question engine) : OnEngine Answer).run.run engine = _
  cases question engine <;> rfl

theorem step_of_not_isForClock (other : ¬request.IsForClock) :
    (engine.step request).2 = engine := by
  cases request with
  | set | advance => exact absurd trivial other
  | now | instant | duration | apply | applyNamed | convert | format =>
      exact congrArg Prod.snd (run_ask _ engine)

end Engine

/-- What requests do to an engine and its clock.  Setting always succeeds; an advance succeeds
exactly when it has no field of a day or coarser and stays within the limits, and then it is
answered with what the clock shows; an advance that fails leaves the whole engine as it was, and so
does every other request. -/
structure MovesOnRequest (engine : Engine) : Prop where
  sets : ∀ i, engine.step (.set i) = (.ok .done, { engine with clock := ⟨i⟩ })
  advances : ∀ d, (∃ answer, (engine.step (.advance d)).1 = .ok answer) ↔ ¬d.HasDayFields ∧
    -377705023201000000000 ≤ engine.now.nanoseconds + d.length ∧
    engine.now.nanoseconds + d.length ≤ 253402207200999999999
  answers : ∀ d answer, (engine.step (.advance d)).1 = .ok answer ->
    ∃ i : Instant,
      answer = .value (.instant i) ∧ i.nanoseconds = engine.now.nanoseconds + d.length ∧
      (engine.step (.advance d)).2 = { engine with clock := ⟨i⟩ }
  fails : ∀ d error, (engine.step (.advance d)).1 = .error error ->
    error = .outOfRange (.limits (.later engine.now d)) ∧
      (engine.step (.advance d)).2 = engine
  shows : (engine.step .now).1 = .ok (.value (.instant engine.now))
  keeps : ∀ request : Request, ¬request.IsForClock -> (engine.step request).2 = engine

theorem movesOnRequest (engine : Engine) : MovesOnRequest engine where
  sets := engine.step_set
  advances := by
    intro d
    change _ ↔
      ¬d.HasDayFields ∧ -377705023201000000000 ≤ engine.clock.now.nanoseconds + d.length ∧
      engine.clock.now.nanoseconds + d.length ≤ 253402207200999999999
    rw [engine.step_advance d, ← Clock.exists_advance_eq_ok_iff]
    cases engine.clock.advance d with
    | ok moved => exact iff_of_true ⟨_, rfl⟩ ⟨moved, rfl⟩
    | error error => simp
  answers := by
    intro d answer answered
    rw [engine.step_advance d] at answered ⊢
    cases moving : engine.clock.advance d with
    | ok moved =>
        rw [moving] at answered
        exact ⟨moved.now, (Except.ok.inj answered).symm,
          (Clock.advance_eq_ok_iff.mp moving).2, rfl⟩
    | error error =>
        rw [moving] at answered
        contradiction
  fails := by
    intro d error failed
    rw [engine.step_advance d] at failed ⊢
    cases moving : engine.clock.advance d with
    | ok moved =>
        rw [moving] at failed
        contradiction
    | error fault =>
        rw [moving] at failed
        obtain rfl := Except.error.inj failed
        exact ⟨Error.eq_of_withinLimits_eq_error moving, rfl⟩
  shows := congrArg Prod.fst (Engine.run_ask _ engine)
  keeps _ other := Engine.step_of_not_isForClock other

/-! ## The sum of a history -/

/-- The length of an advance that has succeeded, and no length for every other request. -/
def Entry.advanced : Entry -> Int
  | ⟨.advance d, .ok _⟩ => d.length
  | _ => 0

theorem Entry.advanced_of_not_isForClock {request : Request} (other : ¬request.IsForClock)
    {outcome : Except Error Answer} : Entry.advanced ⟨request, outcome⟩ = 0 := by
  cases request with
  | advance => exact absurd trivial other
  | set | now | instant | duration | apply | applyNamed | convert | format => rfl

/-- The length of all advances of a history that have succeeded. -/
def advanced : List Entry -> Int
  | [] => 0
  | entry :: later => entry.advanced + advanced later

/-- A history in which the clock is never set. -/
def NeverSet (history : List Entry) : Prop :=
  ∀ i, .set i ∉ history.map Entry.request

theorem advanced_concat (history : List Entry) (entry : Entry) :
    advanced (history ++ [entry]) = advanced history + entry.advanced := by
  induction history with
  | nil => exact Int.add_comm _ _
  | cons first later sum => rw [List.cons_append, advanced, sum, advanced, Int.add_assoc]

theorem neverSet_concat_iff {history : List Entry} {entry : Entry} :
    NeverSet (history ++ [entry]) ↔ NeverSet history ∧ ∀ i, .set i ≠ entry.request := by
  simp only [NeverSet, List.map_append, List.map_cons, List.map_nil, List.mem_append,
    List.mem_singleton, not_or, forall_and]

/-- Where a history with one more entry is split: at the new entry, or within the history before
it. -/
theorem split_of_concat {history before after : List Entry} {entry chosen : Entry}
    (split : history ++ [entry] = before ++ chosen :: after) :
    entry = chosen ∧ after = [] ∨
      ∃ rest, after = rest ++ [entry] ∧ history = before ++ chosen :: rest := by
  rcases List.eq_nil_or_concat after with rfl | ⟨rest, last, rfl⟩
  · exact Or.inl ⟨List.singleton_inj.mp (List.append_inj' split rfl).2, rfl⟩
  · rw [List.concat_eq_append] at split ⊢
    rw [← List.cons_append, ← List.append_assoc] at split
    rcases List.append_inj' split rfl with ⟨earlier, same⟩
    exact Or.inr ⟨rest, by rw [same], earlier⟩

/-- The clock of a session shows the sum of the history since it was last set, and since the start
if it never was. -/
structure ShowsSum (start : Instant) (session : Session) : Prop where
  sinceStart : NeverSet session.history ->
    session.engine.now.nanoseconds = start.nanoseconds + advanced session.history
  sinceSetting : ∀ before i outcome after,
    session.history = before ++ ⟨.set i, outcome⟩ :: after -> NeverSet after ->
    session.engine.now.nanoseconds = i.nanoseconds + advanced after

/-- A request either sets the clock or moves it by what the entry of the request adds. -/
theorem Engine.now_step (engine : Engine) (request : Request) :
    (∃ i, request = .set i ∧ (engine.step request).2.now = i) ∨
      (∀ i, request ≠ .set i) ∧ (engine.step request).2.now.nanoseconds =
        engine.now.nanoseconds + Entry.advanced ⟨request, (engine.step request).1⟩ := by
  have moves := movesOnRequest engine
  by_cases forClock : request.IsForClock
  · cases request with
    | set i => exact Or.inl ⟨i, rfl, congrArg (fun next => next.2.now) (moves.sets i)⟩
    | advance d =>
        refine Or.inr ⟨by simp, ?_⟩
        cases outcome : (engine.step (.advance d)).1 with
        | ok answer =>
            rcases moves.answers d answer outcome with ⟨i, _, count, next⟩
            rw [next]
            exact count
        | error error =>
            rw [(moves.fails d error outcome).2]
            exact (Int.add_zero _).symm
    | now | instant | duration | apply | applyNamed | convert | format => exact forClock.elim
  · refine Or.inr ⟨?_, ?_⟩
    · rintro i rfl
      exact forClock trivial
    · rw [moves.keeps request forClock, Entry.advanced_of_not_isForClock forClock, Int.add_zero]

namespace Session

variable {start : Instant} {session : Session}

theorem answer_eq (session : Session) (request : Request) :
    session.answer request = ⟨(session.engine.step request).2,
      session.history ++ [⟨request, (session.engine.step request).1⟩]⟩ :=
  rfl

/-- One request keeps the clock at the sum of the history. -/
theorem showsSum_answer (shown : ShowsSum start session) (request : Request) :
    ShowsSum start (session.answer request) := by
  rw [answer_eq]
  rcases session.engine.now_step request with ⟨i, rfl, put⟩ | ⟨unset, moved⟩
  -- The history ends with a setting, so that it never adds up from an earlier one.
  · constructor
    · intro never
      exact absurd rfl ((neverSet_concat_iff.mp never).2 i)
    · intro before j outcome after split never
      rcases split_of_concat split with ⟨same, rfl⟩ | ⟨rest, rfl, _⟩
      · obtain rfl := Request.set.inj (congrArg Entry.request same)
        exact (congrArg Instant.nanoseconds put).trans (Int.add_zero _).symm
      · exact absurd rfl ((neverSet_concat_iff.mp never).2 i)
  -- The history is longer by one entry, and so is the part of it that adds up.
  · constructor
    · intro never
      rw [moved, shown.sinceStart (neverSet_concat_iff.mp never).1, advanced_concat, Int.add_assoc]
    · intro before j outcome after split never
      rcases split_of_concat split with ⟨same, rfl⟩ | ⟨rest, rfl, earlier⟩
      · exact absurd (congrArg Entry.request same) (unset j)
      · rw [moved, shown.sinceSetting before j outcome rest earlier (neverSet_concat_iff.mp
          never).1, advanced_concat, Int.add_assoc]

theorem run_concat (engine : Engine) (requests : List Request) (request : Request) :
    run engine (requests ++ [request]) = (run engine requests).answer request := by
  rw [run, List.foldl_append]
  rfl

theorem showsSum_run (engine : Engine) (requests : List Request) :
    ShowsSum engine.now (run engine requests) := by
  induction requests using List.reverseRecOn with
  | nil =>
      constructor
      · intro _
        exact (Int.add_zero _).symm
      · intro before i outcome after split
        simp [run] at split
  | append_singleton requests request shown =>
      rw [run_concat]
      exact showsSum_answer shown request

theorem requests_of_run (engine : Engine) (requests : List Request) :
    (run engine requests).history.map Entry.request = requests := by
  induction requests using List.reverseRecOn with
  | nil => rfl
  | append_singleton requests request same =>
      rw [run_concat, answer_eq, List.map_append, same]
      rfl

/-- The clock is the exact sum of what has succeeded.  After every row of requests it shows the
instant to which it was last set, or at which it started, moved by the lengths of all advances that
have succeeded since, and whatever is requested next is answered from there. -/
theorem clock_shows_sum_of_advances (engine : Engine) (requests : List Request) :
    (run engine requests).history.map Entry.request = requests ∧
      ShowsSum engine.now (run engine requests) ∧
      MovesOnRequest (run engine requests).engine ∧
      ∀ request, run engine (requests ++ [request]) =
        ⟨((run engine requests).engine.step request).2,
          (run engine requests).history ++
            [⟨request, ((run engine requests).engine.step request).1⟩]⟩ := by
  refine ⟨requests_of_run engine requests, showsSum_run engine requests, movesOnRequest _, ?_⟩
  intro request
  rw [run_concat, answer_eq]

/-- A day, which moves no instant. -/
def wholeDay : Duration := ⟨⟨0, 0, 0, 1, 0, 0, 0, 0, 0, 0⟩, by decide, by decide⟩

/-- An hour, thirty minutes and a nanosecond, backward. -/
def overNinetyMinutesBack : Duration :=
  ⟨⟨0, 0, 0, 0, -1, -30, 0, 0, 0, -1⟩, by decide, by decide⟩

/-- A clock that is set to the last instant, from which it cannot go on, and then goes back, through
a day that it refuses and a question. -/
def wandering : List Request :=
  [.advance overNinetyMinutes, .set .last, .advance overNinetyMinutes,
    .advance overNinetyMinutesBack, .advance wholeDay, .convert (.number 1) "hour", .now]

theorem clock_shows_sum_of_wandering :
    (run Engine.atEpoch wandering).history.map Entry.outcome =
        [.ok (.value (.instant ⟨5400000000001, by decide, by decide⟩)), .ok .done,
          .error (.outOfRange (.limits (.later .last overNinetyMinutes))),
          .ok (.value (.instant ninetyMinutesBeforeLast)),
          .error (.outOfRange (.limits (.later ninetyMinutesBeforeLast wholeDay))),
          .error (.unconvertible .number), .ok (.value (.instant ninetyMinutesBeforeLast))] ∧
      (run Engine.atEpoch wandering).engine.now.nanoseconds =
        253402207200999999999 - 5400000000001 ∧
      (¬∃ answer,
        ((run Engine.atEpoch wandering).engine.step (.advance wholeDay)).1 = .ok answer) := by
  rcases clock_shows_sum_of_advances Engine.atEpoch wandering with ⟨_, shown, moves, _⟩
  have since : NeverSet (List.drop 2 (run Engine.atEpoch wandering).history) := by
    intro i
    change .set i ∉ wandering.drop 2
    simp [wandering]
  refine ⟨rfl, ?_, ?_⟩
  · exact shown.sinceSetting [_] .last (.ok .done) _ rfl since
  · rw [moves.advances]
    exact fun advanced => advanced.1 (by decide)

end Session
end Chronometry
