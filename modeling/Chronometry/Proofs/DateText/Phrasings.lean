import Chronometry.Coercion
import Chronometry.Proofs.DateText.Frame

/-!
# One distance in three phrasings

The frames around a text differ only in direction, and none of them looks at the zone of the
reference: a distance is counted on the line of absolute time, so that no change of local time lies
between the instant and the answer.  This holds of every text, whether it denotes a distance or not.
-/

namespace Chronometry

open DateText

namespace DateReader

variable {zones : Zone.Database} (now : Instant) (zone : Zone) (text : String)

theorem everyday_in :
    everyday zones ("in " ++ text) ⟨now, zone⟩ =
      (distant? now false (text.toList.map foldCase)).map (⟨·, zone⟩) := by
  rw [everyday, String.toList_append, moment?_in]

theorem everyday_fromNow :
    everyday zones (text ++ " from now") ⟨now, zone⟩ =
      (distant? now false (text.toList.map foldCase)).map (⟨·, zone⟩) := by
  rw [everyday, String.toList_append, ending_fromNow.moment?_append]

theorem everyday_ago :
    everyday zones (text ++ " ago") ⟨now, zone⟩ =
      (distant? now true (text.toList.map foldCase)).map (⟨·, zone⟩) := by
  rw [everyday, String.toList_append, ending_ago.moment?_append]

/-- The words for the present are the reference itself. -/
theorem everyday_present (reference : Moment) :
    everyday zones "now" reference = some reference ∧
      everyday zones "today" reference = some reference :=
  ⟨rfl, rfl⟩

end DateReader

/-- The instants at the two ends of a distance lie on either side of the present. -/
theorem DateText.distant?_opposite {now later earlier : Instant} {text : List Char}
    (forward : distant? now false text = some later)
    (backward : distant? now true text = some earlier) :
    later.nanoseconds - now.nanoseconds = now.nanoseconds - earlier.nanoseconds := by
  rcases distant?_eq_some_iff.mp forward with ⟨length, d, read, made, ahead⟩
  rcases distant?_eq_some_iff.mp backward with ⟨_, e, readAgain, madeAgain, behind⟩
  rw [read] at readAgain
  cases readAgain
  rw [made] at madeAgain
  cases madeAgain
  simp only [Bool.false_eq_true, if_false, if_true] at ahead behind
  omega

/-- The phrasings of one text agree at every instant and in every zone, whatever zones are known by
name.  `in` and `from now` are the same, `ago` is as far on the other side, and the instants of
these and of the words for the present do not depend on the zone. -/
theorem phrasings_agree_in_every_zone (zones : Zone.Database) (now : Instant) (zone other : Zone)
    (text : String) :
    DateReader.everyday zones ("in " ++ text) ⟨now, zone⟩ =
      DateReader.everyday zones (text ++ " from now") ⟨now, zone⟩ ∧
    (∀ later earlier, DateReader.everyday zones ("in " ++ text) ⟨now, zone⟩ = some later ->
      DateReader.everyday zones (text ++ " ago") ⟨now, zone⟩ = some earlier ->
      later.instant.nanoseconds - now.nanoseconds =
        now.nanoseconds - earlier.instant.nanoseconds) ∧
    (∀ phrase ∈ ["now", "today", "in " ++ text, text ++ " from now", text ++ " ago"],
      (DateReader.everyday zones phrase ⟨now, zone⟩).map Moment.instant =
        (DateReader.everyday zones phrase ⟨now, other⟩).map Moment.instant) ∧
    (∀ word ∈ ["now", "today"],
      (DateReader.everyday zones word ⟨now, zone⟩).map Moment.instant = some now) := by
  have present (zone : Zone) : DateReader.everyday zones "now" ⟨now, zone⟩ = some ⟨now, zone⟩ ∧
      DateReader.everyday zones "today" ⟨now, zone⟩ = some ⟨now, zone⟩ :=
    DateReader.everyday_present ⟨now, zone⟩
  have instants (distant : Option Instant) (zone : Zone) :
      (distant.map (⟨·, zone⟩ : Instant -> Moment)).map Moment.instant = distant := by
    rw [Option.map_map]
    exact Option.map_id'
  refine ⟨?_, ?_, ?_, ?_⟩
  · rw [DateReader.everyday_in, DateReader.everyday_fromNow]
  · intro later earlier forward backward
    rw [DateReader.everyday_in] at forward
    rw [DateReader.everyday_ago] at backward
    rcases Option.map_eq_some_iff.mp forward with ⟨ahead, found, rfl⟩
    rcases Option.map_eq_some_iff.mp backward with ⟨behind, foundToo, rfl⟩
    exact distant?_opposite found foundToo
  · intro phrase listed
    simp only [List.mem_cons, List.not_mem_nil, or_false] at listed
    rcases listed with rfl | rfl | rfl | rfl | rfl
    · rw [(present zone).1, (present other).1]
      rfl
    · rw [(present zone).2, (present other).2]
      rfl
    · rw [DateReader.everyday_in, DateReader.everyday_in, instants, instants]
    · rw [DateReader.everyday_fromNow, DateReader.everyday_fromNow, instants, instants]
    · rw [DateReader.everyday_ago, DateReader.everyday_ago, instants, instants]
  · intro word listed
    simp only [List.mem_cons, List.not_mem_nil, or_false] at listed
    rcases listed with rfl | rfl
    · rw [(present zone).1]
      rfl
    · rw [(present zone).2]
      rfl

/-- The zone of New York. -/
def newYork : Zone :=
  .ruled none
    ⟨⟨"EST", -18000⟩, some ⟨⟨"EDT", -14400⟩, ⟨.weekday 3 2 0, 7200⟩, ⟨.weekday 11 1 0, 7200⟩⟩⟩

/-- Two hours before the clocks of New York went forward. -/
def beforeChange : Instant := ⟨1710046800000000000, by decide, by decide⟩

/-- Over the change of clocks four hours are four hours, ahead and back, here and there: the clocks
of New York show five hours more then, and four hours less. -/
theorem four_hours_over_change_of_clocks :
    ∃ later earlier : Moment,
      DateReader.everyday (fun _ => none) "in 4 hours" ⟨beforeChange, newYork⟩ = some later ∧
      DateReader.everyday (fun _ => none) "4 hours ago" ⟨beforeChange, newYork⟩ = some earlier ∧
      later.instant.nanoseconds - beforeChange.nanoseconds = 14400000000000 ∧
      beforeChange.nanoseconds - earlier.instant.nanoseconds = 14400000000000 ∧
      (newYork.civilOf beforeChange).time.hour = 0 ∧ later.civil.time.hour = 5 ∧
      earlier.civil.time.hour = 20 ∧
      (DateReader.everyday (fun _ => none) "4 hours from now" ⟨beforeChange, .utc⟩).map
        Moment.instant = some later.instant := by
  have ahead :
      DateReader.everyday (fun _ => none) ("in " ++ "4 hours") ⟨beforeChange, newYork⟩ =
      some ⟨⟨1710061200000000000, by decide, by decide⟩, newYork⟩ := by
    have distant : distant? beforeChange false ("4 hours".toList.map foldCase) =
        some ⟨1710061200000000000, by decide, by decide⟩ := by decide +kernel
    rw [DateReader.everyday_in, distant, Option.map_some]
  have back :
      DateReader.everyday (fun _ => none) ("4 hours" ++ " ago") ⟨beforeChange, newYork⟩ =
      some ⟨⟨1710032400000000000, by decide, by decide⟩, newYork⟩ := by
    have distant : distant? beforeChange true ("4 hours".toList.map foldCase) =
        some ⟨1710032400000000000, by decide, by decide⟩ := by decide +kernel
    rw [DateReader.everyday_ago, distant, Option.map_some]
  rcases phrasings_agree_in_every_zone (fun _ => none) beforeChange newYork .utc "4 hours" with
    ⟨same, mirrored, zoneless, _⟩
  have distance := mirrored _ _ ahead back
  have elsewhere := zoneless ("4 hours" ++ " from now") (by decide)
  rw [← same, ahead] at elsewhere
  exact ⟨_, _, ahead, back, rfl, distance ▸ rfl, by decide +kernel, by decide +kernel,
    by decide +kernel, elsewhere.symm⟩

end Chronometry
