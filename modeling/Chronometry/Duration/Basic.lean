/-!
# Durations

A duration is a length of time kept in ten fields, one for each grain from years down to
nanoseconds.  The fields have one sign, and each is bounded by the limit of its grain.  Two
durations may have the same length and different fields.

A grain of a day or finer has a fixed length, a day being 24 hours; weeks, months and years count as
calendar grains, whose length is not asked for without a date.
-/

namespace Chronometry

/-- The grains in which a duration is counted, the coarsest first. -/
inductive Grain where
  | year | month | week | day | hour | minute | second | millisecond | microsecond | nanosecond
deriving DecidableEq, Repr

namespace Grain

def all : List Grain :=
  [.year, .month, .week, .day, .hour, .minute, .second, .millisecond, .microsecond, .nanosecond]

theorem mem_all (grain : Grain) : grain ∈ all := by
  cases grain <;> decide

/-- The place of a grain in the list, counted from the finest. -/
def rank : Grain -> Nat
  | .year => 9
  | .month => 8
  | .week => 7
  | .day => 6
  | .hour => 5
  | .minute => 4
  | .second => 3
  | .millisecond => 2
  | .microsecond => 1
  | .nanosecond => 0

/-- The coarser of two grains. -/
def coarser (g h : Grain) : Grain :=
  if g.rank < h.rank then h else g

/-- Calendar grains have no fixed length. -/
def isCalendar (grain : Grain) : Bool :=
  Grain.day.rank < grain.rank

/-- The largest absolute value of a field. -/
def limit : Grain -> Nat
  | .year => 19998
  | .month => 239976
  | .week => 1043497
  | .day => 7304484
  | .hour => 175307616
  | .minute => 10518456960
  | .second => 631107417600
  | .millisecond => 631107417600000
  | .microsecond => 631107417600000000
  | .nanosecond => 9223372036854775807

end Grain

instance (p : Grain -> Prop) [DecidablePred p] : Decidable (∀ grain, p grain) :=
  decidable_of_iff (∀ grain ∈ Grain.all, p grain)
    ⟨fun every grain => every grain grain.mem_all, fun every grain _ => every grain⟩

/-- Ten counts, one for each grain. -/
structure Fields where
  years : Int
  months : Int
  weeks : Int
  days : Int
  hours : Int
  minutes : Int
  seconds : Int
  milliseconds : Int
  microseconds : Int
  nanoseconds : Int
deriving DecidableEq, Repr

namespace Fields

/-- The count of a grain. -/
def get (fields : Fields) : Grain -> Int
  | .year => fields.years
  | .month => fields.months
  | .week => fields.weeks
  | .day => fields.days
  | .hour => fields.hours
  | .minute => fields.minutes
  | .second => fields.seconds
  | .millisecond => fields.milliseconds
  | .microsecond => fields.microseconds
  | .nanosecond => fields.nanoseconds

/-- The fields that hold a given count for each grain. -/
def ofCounts (count : Grain -> Int) : Fields :=
  ⟨count .year, count .month, count .week, count .day, count .hour, count .minute, count .second,
    count .millisecond, count .microsecond, count .nanosecond⟩

@[simp] theorem get_ofCounts (count : Grain -> Int) (grain : Grain) :
    (ofCounts count).get grain = count grain := by
  cases grain <;> rfl

@[ext] theorem ext_get {f g : Fields} (same : ∀ grain, f.get grain = g.get grain) : f = g := by
  cases f
  cases g
  simp only [mk.injEq]
  exact ⟨same .year, same .month, same .week, same .day, same .hour, same .minute, same .second,
    same .millisecond, same .microsecond, same .nanosecond⟩

def zero : Fields := ofCounts fun _ => 0

/-- No two fields have opposite signs. -/
def OneSigned (fields : Fields) : Prop :=
  (∀ grain, 0 ≤ fields.get grain) ∨ ∀ grain, fields.get grain ≤ 0

/-- Every field is within the limit of its grain. -/
def Bounded (fields : Fields) : Prop :=
  ∀ grain, (fields.get grain).natAbs ≤ grain.limit

instance (fields : Fields) : Decidable fields.OneSigned :=
  inferInstanceAs (Decidable (_ ∨ _))

instance (fields : Fields) : Decidable fields.Bounded :=
  inferInstanceAs (Decidable (∀ _, _))

/-- The exact length of the fields of fixed length, in nanoseconds. -/
def length (fields : Fields) : Int :=
  fields.days * 86400000000000 + fields.hours * 3600000000000 + fields.minutes * 60000000000
    + fields.seconds * 1000000000 + fields.milliseconds * 1000000 + fields.microseconds * 1000 +
      fields.nanoseconds

/-- One step of putting a length into fields: how many whole units of a size there are, and what
remains.  Both are rounded toward zero and so have the sign of the length.  A unit that is not used
leaves the length as it is. -/
def peel (used : Bool) (size : Nat) (length : Int) : Int × Int :=
  if used then (length.tdiv size, length.tmod size) else (0, length)

/-- A length of nanoseconds put into fields from the given grain downward.  Days are the coarsest
fields used. -/
def balanced (top : Grain) (length : Int) : Fields :=
  let (days, length) := peel (Grain.day.rank ≤ top.rank) 86400000000000 length
  let (hours, length) := peel (Grain.hour.rank ≤ top.rank) 3600000000000 length
  let (minutes, length) := peel (Grain.minute.rank ≤ top.rank) 60000000000 length
  let (seconds, length) := peel (Grain.second.rank ≤ top.rank) 1000000000 length
  let (milliseconds, length) := peel (Grain.millisecond.rank ≤ top.rank) 1000000 length
  let (microseconds, nanoseconds) := peel (Grain.microsecond.rank ≤ top.rank) 1000 length
  { years := 0, months := 0, weeks := 0, days, hours, minutes, seconds, milliseconds, microseconds,
    nanoseconds }

/-- What is taken off and what remains make up the length. -/
theorem eq_of_peel {used : Bool} {size : Nat} {length units rest : Int}
    (peeled : peel used size length = (units, rest)) :
    length = units * size + rest := by
  cases used <;> simp only [peel, Bool.false_eq_true, if_false, if_true, Prod.mk.injEq] at peeled
  · simp [← peeled.1, peeled.2]
  · rw [← peeled.1, ← peeled.2, Int.tdiv_mul_add_tmod]

/-- Putting a length into fields loses none of it. -/
theorem length_balanced (top : Grain) (length : Int) : (balanced top length).length = length := by
  unfold balanced
  split
  next days afterDays peeledDays =>
  split
  next hours afterHours peeledHours =>
  split
  next minutes afterMinutes peeledMinutes =>
  split
  next seconds afterSeconds peeledSeconds =>
  split
  next milliseconds afterMilliseconds peeledMilliseconds =>
  split
  next microseconds nanoseconds peeledMicroseconds =>
  have := eq_of_peel peeledDays
  have := eq_of_peel peeledHours
  have := eq_of_peel peeledMinutes
  have := eq_of_peel peeledSeconds
  have := eq_of_peel peeledMilliseconds
  have := eq_of_peel peeledMicroseconds
  simp only [Fields.length]
  omega

end Fields

/-- A length of time in ten fields of one sign, each within its limit. -/
structure Duration where
  fields : Fields
  oneSigned : fields.OneSigned
  bounded : fields.Bounded
deriving DecidableEq

namespace Duration

/-- The duration with these fields, if they have one sign and are within the limits. -/
def ofFields? (fields : Fields) : Option Duration :=
  if valid : fields.OneSigned ∧ fields.Bounded then some ⟨fields, valid.1, valid.2⟩ else none

theorem ofFields?_eq_some_iff {fields : Fields} {d : Duration} :
    ofFields? fields = some d ↔ d.fields = fields := by
  unfold ofFields?
  constructor
  · intro found
    split at found
    · simp only [Option.some.injEq] at found
      exact found ▸ rfl
    · contradiction
  · rintro rfl
    rw [dif_pos ⟨d.oneSigned, d.bounded⟩]

def zero : Duration where
  fields := .zero
  oneSigned := Or.inl fun grain => by simp [Fields.zero]
  bounded := fun grain => by simp [Fields.zero]

/-- The count of a grain. -/
def get (d : Duration) (grain : Grain) : Int :=
  d.fields.get grain

/-- The exact length of the fields of fixed length, in nanoseconds. -/
def length (d : Duration) : Int :=
  d.fields.length

/-- The common sign of the fields: minus one, zero or one. -/
def sign (d : Duration) : Int :=
  if ∀ grain, d.get grain = 0 then 0 else if ∀ grain, 0 ≤ d.get grain then 1 else -1

/-- The question whether every field is zero. -/
def isZero (d : Duration) : Bool :=
  decide (∀ grain, d.get grain = 0)

/-- The coarsest grain with a field that is not zero; the finest one for a duration of zero. -/
def coarsest (d : Duration) : Grain :=
  (Grain.all.find? fun grain => d.get grain ≠ 0).getD .nanosecond

/-- The question whether a duration has weeks, months or years. -/
def isCalendar (d : Duration) : Bool :=
  d.coarsest.isCalendar

/-- The question whether a duration has fields of a day or coarser. -/
def hasDays (d : Duration) : Bool :=
  Grain.day.rank ≤ d.coarsest.rank

/-- A length of nanoseconds as a duration with fields from the given grain downward, if its limits
admit it. -/
def balanced? (top : Grain) (length : Int) : Option Duration :=
  ofFields? (.balanced top length)

/-- The duration of a combined length, in fields from the coarser grain of the two durations
downward.  Durations with calendar grains have no length to combine. -/
def combine? (x y : Duration) (length : Int) : Option Duration :=
  if x.isCalendar || y.isCalendar then none else balanced? (x.coarsest.coarser y.coarsest) length

/-- The sum of two durations. -/
def add? (x y : Duration) : Option Duration :=
  combine? x y (x.length + y.length)

/-- The difference of two durations. -/
def sub? (x y : Duration) : Option Duration :=
  combine? x y (x.length - y.length)

/-- The order of two durations by length, whatever their fields. -/
def order? (x y : Duration) : Option Ordering :=
  if x.isCalendar || y.isCalendar then none else some (compare x.length y.length)

/-- Durations are equal when they have an order and it is equality. -/
def sameLength (x y : Duration) : Bool :=
  x.order? y == some .eq

end Duration
end Chronometry
