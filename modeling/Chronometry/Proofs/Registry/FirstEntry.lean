import Mathlib.Data.List.Induction
import Mathlib.Data.List.Nodup
import Chronometry.Registry.Types

/-!
# First entries

A table is filled by insertions in a row, and an insertion under a key that is present does nothing.
What a table answers can therefore be read off the insertions themselves, without building the
table.  Under a key it has the first entry of the key, and a value belongs to the earliest kind
whose first test accepts the value.  Later tests of a kind are never asked, whatever they would say.

The statements about single keys hold for every table.  The one about kinds is proved by adding the
insertions one at a time at the end, where it is decided by the insertions before it whether a new
one counts.
-/

namespace Chronometry

/-- The first entry of a key in a row of entries. -/
def FirstEntry {κ α : Type} (entries : List (κ × α)) (key : κ) (item : α) : Prop :=
  ∃ before after, entries = before ++ (key, item) :: after ∧ key ∉ before.map Prod.fst

/-- A row with a last entry is split in front of that entry or further ahead. -/
theorem concat_eq_append_cons_iff {α : Type} (entries before after : List α) (last entry : α) :
    entries ++ [last] = before ++ entry :: after ↔
      before = entries ∧ entry = last ∧ after = [] ∨
        ∃ between, entries = before ++ entry :: between ∧ after = between ++ [last] := by
  constructor
  · intro split
    rcases List.eq_nil_or_concat after with rfl | ⟨between, final, rfl⟩
    · rcases List.append_inj' split rfl with ⟨rfl, same⟩
      exact Or.inl ⟨rfl, (List.cons.inj same).1.symm, rfl⟩
    · rw [List.concat_eq_append, ← List.cons_append, ← List.append_assoc] at split
      rcases List.append_inj' split rfl with ⟨ahead, same⟩
      obtain rfl := (List.cons.inj same).1
      exact Or.inr ⟨between, ahead, List.concat_eq_append⟩
  · rintro (⟨rfl, rfl, rfl⟩ | ⟨between, rfl, rfl⟩)
    · rfl
    · rw [List.append_assoc, List.cons_append]

/-- A last entry is the first one of its key if the key is new, and is none otherwise. -/
theorem firstEntry_concat_iff {κ α : Type} (entries : List (κ × α)) (last : κ × α) (key : κ)
    (item : α) :
    FirstEntry (entries ++ [last]) key item ↔
      FirstEntry entries key item ∨ last = (key, item) ∧ key ∉ entries.map Prod.fst := by
  constructor
  · rintro ⟨before, after, split, absent⟩
    rcases (concat_eq_append_cons_iff ..).mp split with ⟨rfl, rfl, _⟩ | ⟨between, rfl, _⟩
    · exact Or.inr ⟨rfl, absent⟩
    · exact Or.inl ⟨before, between, rfl, absent⟩
  · rintro (⟨before, after, rfl, absent⟩ | ⟨rfl, absent⟩)
    · exact ⟨before, after ++ [last], by rw [List.append_assoc, List.cons_append], absent⟩
    · exact ⟨entries, [], rfl, absent⟩

namespace FirstWins

variable {κ α : Type} [DecidableEq κ]

/-- Insertions in a row. -/
def insertAll (table : FirstWins κ α) (entries : List (κ × α)) : FirstWins κ α :=
  entries.foldl (fun table entry => table.insert entry.1 entry.2) table

theorem insertAll_append (table : FirstWins κ α) (entries more : List (κ × α)) :
    table.insertAll (entries ++ more) = (table.insertAll entries).insertAll more :=
  List.foldl_append

theorem contains_iff_mem_keys (table : FirstWins κ α) (key : κ) :
    table.contains key = true ↔ key ∈ table.keys := by
  simp [contains, keys]

/-- An insertion adds its key at the end, unless the key is there. -/
theorem keys_insert (table : FirstWins κ α) (key : κ) (item : α) :
    (table.insert key item).keys = if key ∈ table.keys then table.keys
      else table.keys ++ [key] := by
  unfold insert
  by_cases present : key ∈ table.keys
  · rw [if_pos ((contains_iff_mem_keys table key).mpr present), if_pos present]
  · rw [if_neg (mt (contains_iff_mem_keys table key).mp present), if_neg present]
    exact List.map_append

theorem nodup_keys_insert {table : FirstWins κ α} (once : table.keys.Nodup) (key : κ)
    (item : α) :
    (table.insert key item).keys.Nodup := by
  rw [keys_insert]
  split
  next => exact once
  next absent => exact List.concat_eq_append ▸ List.Nodup.concat absent once

/-- No row of insertions makes a table list a key twice. -/
theorem nodup_keys_insertAll (entries : List (κ × α)) {table : FirstWins κ α}
    (once : table.keys.Nodup) :
    (table.insertAll entries).keys.Nodup := by
  induction entries generalizing table with
  | nil => exact once
  | cons entry rest inductionHypothesis =>
      exact inductionHypothesis (nodup_keys_insert once entry.1 entry.2)

/-- The keys of a table are the inserted ones, each at the place of its first insertion. -/
theorem keys_insertAll_empty (entries : List (κ × α)) :
    ((empty : FirstWins κ α).insertAll entries).keys = (entries.map Prod.fst).eraseDups := by
  induction entries using List.reverseRecOn with
  | nil => rfl
  | append_singleton before last inductionHypothesis =>
      rw [insertAll_append]
      change ((empty.insertAll before).insert last.1 last.2).keys = _
      rw [keys_insert, inductionHypothesis, List.map_append, List.eraseDups_append]
      by_cases present : last.1 ∈ before.map Prod.fst
      · simp [List.removeAll, present]
      · simp [List.removeAll, present, List.eraseDups_cons]

/-- What is present stays, and a key that is absent gets its first entry. -/
theorem get?_insertAll (entries : List (κ × α)) (table : FirstWins κ α) (key : κ) :
    (table.insertAll entries).get? key =
      (table.get? key).or ((⟨entries⟩ : FirstWins κ α).get? key) := by
  induction entries generalizing table with
  | nil => simp [insertAll, get?]
  | cons entry rest inductionHypothesis =>
      have unfolded : table.insertAll (entry :: rest) =
          (table.insert entry.1 entry.2).insertAll rest := rfl
      rw [unfolded, inductionHypothesis, get?_insert, Option.or_assoc]
      by_cases same : entry.1 = key
      · simp [get?, same]
      · simp [get?, same]

/-- What a table answers with is one of its entries. -/
theorem mem_entries_of_get? {table : FirstWins κ α} {key : κ} {item : α}
    (found : table.get? key = some item) :
    (key, item) ∈ table.entries := by
  rcases Option.map_eq_some_iff.mp found with ⟨entry, first, rfl⟩
  have same := List.find?_some first
  rw [decide_eq_true_iff] at same
  exact same ▸ List.mem_of_find?_eq_some first

/-- Looking up a key in a row of entries is looking for its first entry. -/
theorem get?_eq_some_iff (entries : List (κ × α)) (key : κ) (item : α) :
    (⟨entries⟩ : FirstWins κ α).get? key = some item ↔ FirstEntry entries key item := by
  constructor
  · intro found
    rcases Option.map_eq_some_iff.mp found with ⟨⟨other, _⟩, first, rfl⟩
    rcases List.find?_eq_some_iff_append.mp first with ⟨same, before, after, split, others⟩
    rw [decide_eq_true_iff] at same
    subst same
    refine ⟨before, after, split, ?_⟩
    intro earlier
    rcases List.mem_map.mp earlier with ⟨entry, listed, same⟩
    simpa [same] using others entry listed
  · rintro ⟨before, after, rfl, absent⟩
    have others : ∀ entry ∈ before, ¬entry.1 = key := by
      intro entry listed same
      exact absent (List.mem_map.mpr ⟨entry, listed, same⟩)
    have skipped : before.find? (fun entry => decide (entry.1 = key)) = none := by
      simpa [List.find?_eq_none] using others
    simp [get?, List.find?_append, skipped]

/-- What a table lists under a key is what it answers for the key. -/
theorem get?_of_mem_entries {table : FirstWins κ α} (once : table.keys.Nodup) {entry : κ × α}
    (listed : entry ∈ table.entries) : table.get? entry.1 = some entry.2 := by
  rcases List.mem_iff_append.mp listed with ⟨before, after, split⟩
  have keys : table.keys = before.map Prod.fst ++ entry.1 :: after.map Prod.fst := by
    rw [FirstWins.keys, split, List.map_append, List.map_cons]
  have absent : entry.1 ∉ before.map Prod.fst := by
    rw [keys] at once
    intro earlier
    exact (List.nodup_append.mp once).2.2 _ earlier _ List.mem_cons_self rfl
  exact (get?_eq_some_iff table.entries entry.1 entry.2).mpr ⟨before, after, split, absent⟩

/-- A table that was filled from nothing has the first entry of every key. -/
theorem get?_insertAll_empty_iff (entries : List (κ × α)) (key : κ) (item : α) :
    ((empty : FirstWins κ α).insertAll entries).get? key = some item ↔
      FirstEntry entries key item := by
  rw [get?_insertAll, ← get?_eq_some_iff]
  rfl

/-- A key is present once it has been inserted. -/
theorem contains_insertAll_iff (table : FirstWins κ α) (entries : List (κ × α)) (key : κ) :
    (table.insertAll entries).contains key = true ↔
      table.contains key = true ∨ key ∈ entries.map Prod.fst := by
  rw [contains_eq_isSome, get?_insertAll, Option.isSome_or, Bool.or_eq_true, ← contains_eq_isSome,
    ← contains_eq_isSome]
  simp [contains]

theorem contains_insertAll_empty_iff (entries : List (κ × α)) (key : κ) :
    ((empty : FirstWins κ α).insertAll entries).contains key = true ↔
      key ∈ entries.map Prod.fst := by
  rw [contains_insertAll_iff]
  simp [contains, empty]

/-- The entries of a table that was filled from nothing are the first ones. -/
theorem mem_entries_insertAll_iff (entries : List (κ × α)) (key : κ) (item : α) :
    (key, item) ∈ ((empty : FirstWins κ α).insertAll entries).entries ↔
      FirstEntry entries key item := by
  constructor
  · intro listed
    induction entries using List.reverseRecOn with
    | nil => contradiction
    | append_singleton before last inductionHypothesis =>
        rw [firstEntry_concat_iff]
        rw [insertAll_append] at listed
        change (key, item) ∈ ((empty.insertAll before).insert last.1 last.2).entries at listed
        unfold insert at listed
        split at listed
        next => exact Or.inl (inductionHypothesis listed)
        next new =>
          rcases List.mem_append.mp listed with earlier | final
          · exact Or.inl (inductionHypothesis earlier)
          · have same := List.mem_singleton.mp final
            rw [contains_insertAll_empty_iff] at new
            obtain ⟨rfl, rfl⟩ := Prod.mk.inj same
            exact Or.inr ⟨rfl, new⟩
  · intro first
    exact mem_entries_of_get? ((get?_insertAll_empty_iff entries key item).mpr first)

end FirstWins

/-! ## Kinds -/

/-- A kind is the earliest in a row of entries whose first test accepts a value. -/
def FirstAccepting (entries : List (Kind × Test)) (value : Value) (kind : Kind) : Prop :=
  ∃ before test after,
    entries = before ++ (kind, test) :: after ∧ kind ∉ before.map Prod.fst ∧
      test value = true ∧
    ∀ other rejecting, FirstEntry before other rejecting -> rejecting value = false

/-- A last entry accepts a value first if its kind is new and nothing before it accepts the
value. -/
theorem firstAccepting_concat_iff (entries : List (Kind × Test)) (last : Kind × Test)
    (value : Value) (kind : Kind) :
    FirstAccepting (entries ++ [last]) value kind ↔
      FirstAccepting entries value kind ∨
        last.1 = kind ∧ kind ∉ entries.map Prod.fst ∧ last.2 value = true ∧
          ∀ other rejecting, FirstEntry entries other rejecting -> rejecting value = false := by
  constructor
  · rintro ⟨before, test, after, split, new, accepts, others⟩
    rcases (concat_eq_append_cons_iff ..).mp split with ⟨rfl, rfl, _⟩ | ⟨between, rfl, _⟩
    · exact Or.inr ⟨rfl, new, accepts, others⟩
    · exact Or.inl ⟨before, test, between, rfl, new, accepts, others⟩
  · rintro (⟨before, test, after, rfl, accepted⟩ | ⟨rfl, accepted⟩)
    · exact ⟨before, test, after ++ [last],
        by rw [List.append_assoc, List.cons_append], accepted⟩
    · exact ⟨entries, last.2, [], rfl, accepted⟩

namespace KindTable

/-- An insertion gives a kind to the values that had none, and only if the kind is new. -/
theorem kindOf?_insert (table : KindTable) (kind : Kind) (test : Test) (value : Value) :
    kindOf? (table.insert kind test) value =
      (table.kindOf? value).or
        (if ¬table.contains kind = true ∧ test value = true then some kind else none) := by
  unfold FirstWins.insert
  by_cases present : table.contains kind = true
  · simp [present]
  · rw [if_neg present]
    simp only [kindOf?, List.find?_append, Option.map_or]
    by_cases accepts : test value = true
    · rw [if_pos ⟨present, accepts⟩]
      simp only [accepts, if_true, List.find?_singleton, Option.map_some]
    · simp only [accepts, and_false, if_false, List.find?_singleton, Option.map_none,
        Bool.false_eq_true]

/-- A value keeps its kind, whatever is inserted later. -/
theorem kindOf?_insertAll_of_some (entries : List (Kind × Test)) {table : KindTable} {value : Value}
    {kind : Kind} (known : table.kindOf? value = some kind) :
    kindOf? (table.insertAll entries) value = some kind := by
  induction entries generalizing table with
  | nil => exact known
  | cons entry rest inductionHypothesis =>
      change kindOf? ((table.insert entry.1 entry.2).insertAll rest) value = some kind
      apply inductionHypothesis
      rw [kindOf?_insert, known, Option.some_or]

theorem kindOf?_eq_none_iff (table : KindTable) (value : Value) :
    table.kindOf? value = none ↔ ∀ entry ∈ table.entries, entry.2 value = false := by
  simp [kindOf?]

/-- A value has no kind when every first test rejects it. -/
theorem kindOf?_insertAll_eq_none_iff (entries : List (Kind × Test)) (value : Value) :
    kindOf? (FirstWins.insertAll .empty entries) value = none ↔
      ∀ kind test, FirstEntry entries kind test -> test value = false := by
  rw [kindOf?_eq_none_iff]
  constructor
  · intro rejected kind test first
    exact rejected (kind, test) ((FirstWins.mem_entries_insertAll_iff entries kind test).mpr first)
  · intro rejected entry listed
    exact rejected entry.1 entry.2
      ((FirstWins.mem_entries_insertAll_iff entries entry.1 entry.2).mp listed)

/-- The kind of a value is the earliest one whose first test accepts it. -/
theorem kindOf?_insertAll_eq_some_iff (entries : List (Kind × Test)) (value : Value)
    (kind : Kind) :
    kindOf? (FirstWins.insertAll .empty entries) value = some kind ↔
      FirstAccepting entries value kind := by
  induction entries using List.reverseRecOn generalizing kind with
  | nil =>
      constructor
      · intro impossible
        contradiction
      · rintro ⟨before, test, after, impossible, _⟩
        exact absurd impossible (by simp)
  | append_singleton before last inductionHypothesis =>
      rw [firstAccepting_concat_iff, ← inductionHypothesis, FirstWins.insertAll_append]
      change kindOf? ((FirstWins.insertAll .empty before).insert last.1 last.2) value =
        some kind ↔ _
      -- The last insertion counts only if its key is new and no earlier one has given the value a
      -- kind.
      rw [kindOf?_insert, ← kindOf?_insertAll_eq_none_iff]
      simp only [FirstWins.contains_insertAll_empty_iff]
      cases kindOf? (FirstWins.insertAll .empty before) value with
      | some earlier => simp
      | none =>
          simp only [Option.none_or, reduceCtorEq, false_or, and_true,
            Option.ite_none_right_eq_some, Option.some.injEq]
          constructor
          · rintro ⟨⟨absent, accepts⟩, rfl⟩
            exact ⟨rfl, absent, accepts⟩
          · rintro ⟨rfl, absent, accepts⟩
            exact ⟨⟨absent, accepts⟩, rfl⟩

end KindTable
end Chronometry
