/-!
# Tables in which the first entry wins

A table keeps its entries in the order in which they were added.  A key that is present is never
replaced.
-/

namespace Chronometry

/-- Entries in the order in which they were added. -/
structure FirstWins (κ α : Type) where
  entries : List (κ × α)

namespace FirstWins

variable {κ α : Type} [DecidableEq κ]

def empty : FirstWins κ α := ⟨[]⟩

/-- The entry of a key. -/
def get? (table : FirstWins κ α) (key : κ) : Option α :=
  (table.entries.find? fun entry => entry.1 = key).map Prod.snd

/-- The question whether a key has an entry. -/
def contains (table : FirstWins κ α) (key : κ) : Bool :=
  table.entries.any fun entry => entry.1 = key

/-- A table with an entry more, unless the key is present. -/
def insert (table : FirstWins κ α) (key : κ) (item : α) : FirstWins κ α :=
  if table.contains key then table else ⟨table.entries ++ [(key, item)]⟩

/-- The keys in the order in which they were added. -/
def keys (table : FirstWins κ α) : List κ :=
  table.entries.map Prod.fst

/-- The number of entries. -/
def size (table : FirstWins κ α) : Nat :=
  table.entries.length

theorem contains_eq_isSome (table : FirstWins κ α) (key : κ) :
    table.contains key = (table.get? key).isSome := by
  rw [Bool.eq_iff_iff]
  simp [contains, get?, List.find?_isSome]

theorem get?_eq_none_iff (table : FirstWins κ α) (key : κ) :
    table.get? key = none ↔ key ∉ table.keys := by
  rw [← Option.not_isSome_iff_eq_none, ← contains_eq_isSome]
  simp [contains, keys]

/-- An insertion is seen by its own key alone, and only if the key was absent. -/
theorem get?_insert (table : FirstWins κ α) (key other : κ) (item : α) :
    (table.insert key item).get? other =
      (table.get? other).or (if key = other then some item else none) := by
  unfold insert
  by_cases present : table.contains key = true
  · rw [if_pos present]
    by_cases same : key = other
    · subst same
      rw [contains_eq_isSome] at present
      obtain ⟨found, eq⟩ := Option.isSome_iff_exists.mp present
      simp [eq]
    · simp [same]
  · rw [if_neg present]
    by_cases same : key = other
    · subst same
      rw [contains_eq_isSome, Bool.not_eq_true, Option.isSome_eq_false_iff,
        Option.isNone_iff_eq_none] at present
      rw [present]
      simp only [get?, Option.map_eq_none_iff] at present
      simp [get?, List.find?_append, present]
    · simp [get?, same, List.find?_append]

end FirstWins
end Chronometry
