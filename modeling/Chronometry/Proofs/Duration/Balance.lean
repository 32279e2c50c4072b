import Chronometry.Duration.Basic

/-!
# Balanced fields

Putting a length into fields takes whole units off it, the coarsest first.  Because every unit is a
multiple of the finer ones, the field of a grain can be read off the length directly: it counts
whole units in what the next coarser grain leaves over.  Signs, bounds and the behaviour under
negation follow from this one description of the fields.

A balanced length is within the limits as soon as its coarsest field is.  The other fields are
smaller than one unit of the next grain, and no limit is that small.
-/

namespace Chronometry

namespace Grain

/-- The nanoseconds in a grain of fixed length. -/
def size : Grain -> Nat
  | .day => 86400000000000
  | .hour => 3600000000000
  | .minute => 60000000000
  | .second => 1000000000
  | .millisecond => 1000000
  | .microsecond => 1000
  | .nanosecond => 1
  | .year | .month | .week => 0

/-- How many of a grain make up the next coarser one, where both have a fixed length. -/
def perNext : Grain -> Nat
  | .hour => 24
  | .minute | .second => 60
  | .millisecond | .microsecond | .nanosecond => 1000
  | .year | .month | .week | .day => 0

theorem rank_injective : ∀ g h : Grain, g.rank = h.rank -> g = h := by
  decide

theorem size_pos : ∀ grain : Grain, grain.isCalendar = false -> 0 < grain.size := by
  decide

theorem perNext_pos : ∀ grain : Grain, grain.rank < day.rank -> 0 < grain.perNext := by
  decide

theorem perNext_le_limit : ∀ grain : Grain, grain.perNext ≤ grain.limit := by
  decide

end Grain

namespace Fields

/-- What the coarser grains from `top` downward leave of a length for a grain. -/
def left (top grain : Grain) (length : Int) : Int :=
  if grain.rank < top.rank ∧
    grain.rank < Grain.day.rank then length.tmod (grain.perNext * grain.size : Nat) else length

theorem left_nonneg (top grain : Grain) {length : Int} (nonneg : 0 ≤ length) :
    0 ≤ left top grain length := by
  unfold left
  split
  · exact Int.tmod_nonneg _ nonneg
  · exact nonneg

theorem left_neg (top grain : Grain) (length : Int) :
    left top grain (-length) = -left top grain length := by
  unfold left
  split
  · exact Int.neg_tmod _ _
  · rfl

/-- Each field of a balanced length, read off the length.  The rest of a rest is a rest of the
length itself, since the finer unit divides the coarser one. -/
theorem get_balanced (top grain : Grain) (length : Int) :
    (balanced top length).get grain =
      if grain.isCalendar = true ∨ top.rank < grain.rank then 0
        else (left top grain length).tdiv grain.size := by
  cases top <;> cases grain <;>
    simp [balanced, peel, get, left, Grain.rank, Grain.isCalendar, Grain.size, Grain.perNext,
      Int.tmod_tmod_of_dvd]

theorem get_balanced_eq_zero {top grain : Grain}
    (unused : grain.isCalendar = true ∨ top.rank < grain.rank) (length : Int) :
    (balanced top length).get grain = 0 := by
  rw [get_balanced, if_pos unused]

/-- The coarsest field counts whole units of the length itself. -/
theorem get_balanced_top {top : Grain} (fixed : top.isCalendar = false) (length : Int) :
    (balanced top length).get top = length.tdiv top.size := by
  simp [get_balanced, left, fixed]

theorem get_balanced_nonneg (top : Grain) {length : Int} (nonneg : 0 ≤ length) (grain : Grain) :
    0 ≤ (balanced top length).get grain := by
  rw [get_balanced]
  split
  · exact Int.le_refl 0
  · exact Int.tdiv_nonneg (left_nonneg top grain nonneg) (Int.natCast_nonneg _)

/-- The opposite length has the opposite fields. -/
theorem get_balanced_neg (top : Grain) (length : Int) (grain : Grain) :
    (balanced top (-length)).get grain = -(balanced top length).get grain := by
  rw [get_balanced, get_balanced]
  split
  · rfl
  · rw [left_neg, Int.neg_tdiv]

theorem get_balanced_nonpos (top : Grain) {length : Int} (nonpos : length ≤ 0) (grain : Grain) :
    (balanced top length).get grain ≤ 0 := by
  have opposite := get_balanced_nonneg top (Int.neg_nonneg.mpr nonpos) grain
  rw [get_balanced_neg] at opposite
  exact Int.neg_nonneg.mp opposite

theorem oneSigned_balanced (top : Grain) (length : Int) : (balanced top length).OneSigned := by
  rcases Int.le_total 0 length with nonneg | nonpos
  · exact Or.inl (get_balanced_nonneg top nonneg)
  · exact Or.inr (get_balanced_nonpos top nonpos)

/-- Below the coarsest field, a field is smaller than one unit of the next grain. -/
theorem natAbs_get_balanced_lt {top grain : Grain} (below : grain.rank < top.rank)
    (divided : grain.rank < Grain.day.rank) (length : Int) :
    ((balanced top length).get grain).natAbs < grain.perNext := by
  have fixed : grain.isCalendar = false := decide_eq_false (Nat.lt_asymm divided)
  have used : ¬(grain.isCalendar = true ∨ top.rank < grain.rank) := by
    simp [fixed, Nat.le_of_lt below]
  rw [get_balanced, if_neg used, left, if_pos ⟨below, divided⟩, Int.natAbs_tdiv,
    Int.natAbs_tmod]
  simp only [Int.natAbs_natCast]
  have rest : length.natAbs % (grain.perNext * grain.size) < grain.perNext * grain.size :=
    Nat.mod_lt _ (Nat.mul_pos (grain.perNext_pos divided) (grain.size_pos fixed))
  exact Nat.div_lt_of_lt_mul (Nat.mul_comm _ _ ▸ rest)

/-- A balanced length is within the limits exactly when its coarsest field is. -/
theorem bounded_balanced_iff {top : Grain} (fixed : top.isCalendar = false) (length : Int) :
    (balanced top length).Bounded ↔ (length.tdiv top.size).natAbs ≤ top.limit := by
  have topRank : top.rank ≤ Grain.day.rank := Nat.le_of_not_lt (of_decide_eq_false fixed)
  constructor
  · intro bounded
    exact get_balanced_top fixed length ▸ bounded top
  · intro within grain
    rcases Nat.lt_trichotomy grain.rank top.rank with below | same | above
    · have small := natAbs_get_balanced_lt below (Nat.lt_of_lt_of_le below topRank) length
      exact Nat.le_trans (Nat.le_of_lt small) grain.perNext_le_limit
    · rw [Grain.rank_injective grain top same, get_balanced_top fixed]
      exact within
    · rw [get_balanced_eq_zero (Or.inr above)]
      exact Nat.zero_le _

end Fields

namespace Duration

theorem balanced?_eq_some_iff {top : Grain} {length : Int} {d : Duration} :
    balanced? top length = some d ↔ d.fields = .balanced top length :=
  ofFields?_eq_some_iff

/-- A length can be put into fields exactly when the limit of the coarsest grain admits it. -/
theorem exists_balanced?_iff {top : Grain} (fixed : top.isCalendar = false) (length : Int) :
    (∃ d, balanced? top length = some d) ↔ (length.tdiv top.size).natAbs ≤ top.limit := by
  rw [← Fields.bounded_balanced_iff fixed]
  constructor
  · rintro ⟨d, found⟩
    exact balanced?_eq_some_iff.mp found ▸ d.bounded
  · intro bounded
    exact ⟨⟨_, Fields.oneSigned_balanced top length, bounded⟩,
      balanced?_eq_some_iff.mpr rfl⟩

theorem length_of_balanced? {top : Grain} {length : Int} {d : Duration}
    (found : balanced? top length = some d) :
    d.length = length := by
  rw [Duration.length, balanced?_eq_some_iff.mp found, Fields.length_balanced]

theorem get_of_balanced? {top : Grain} {length : Int} {d : Duration}
    (found : balanced? top length = some d) (grain : Grain) :
    d.get grain = (Fields.balanced top length).get grain := by
  rw [Duration.get, balanced?_eq_some_iff.mp found]

end Duration
end Chronometry
