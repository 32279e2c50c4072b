import Chronometry.Proofs.Registry.FirstEntry
import Chronometry.Registry.Basic

/-!
# Registries as logs

A registry is the outcome of a log of registrations.  Each of its three tables depends on its own
registrations alone, in their order: what stands between them does not matter.  Looking up a key in
the outcome is looking for its first entry in the log.
-/

namespace Chronometry

namespace Registration

/-- The kind that a registration adds, with its test. -/
def kind? : Registration -> Option (Kind × Test)
  | .kind key test => some (key, test)
  | _ => none

/-- The signature that a registration adds, with its implementation. -/
def signature? : Registration -> Option (Signature × Implementation)
  | .signature key item => some (key, item)
  | _ => none

/-- The kind for which a registration adds a conversion, with the conversion. -/
def conversion? : Registration -> Option (Kind × Conversion)
  | .conversion key item => some (key, item)
  | _ => none

theorem signature?_eq_some_iff (registration : Registration) (key : Signature)
    (item : Implementation) :
    registration.signature? = some (key, item) ↔ registration = .signature key item := by
  cases registration <;> simp [signature?]

theorem conversion?_eq_some_iff (registration : Registration) (key : Kind) (item : Conversion) :
    registration.conversion? = some (key, item) ↔ registration = .conversion key item := by
  cases registration <;> simp [conversion?]

end Registration

/-- The keys of a table are the keys of the registrations that add to it. -/
theorem mem_keys_filterMap_iff {κ α : Type} (added? : Registration -> Option (κ × α))
    (log : List Registration) (key : κ) :
    key ∈ (log.filterMap added?).map Prod.fst ↔
      ∃ item, ∃ registration ∈ log, added? registration = some (key, item) := by
  constructor
  · intro listed
    rcases List.mem_map.mp listed with ⟨⟨_, item⟩, entry, rfl⟩
    exact ⟨item, List.mem_filterMap.mp entry⟩
  · rintro ⟨item, written⟩
    exact List.mem_map.mpr ⟨(key, item), List.mem_filterMap.mpr written, rfl⟩

namespace Registry

/-- Registrations in a row are three rows of insertions, one for each table. -/
theorem foldl_record (log : List Registration) (registry : Registry) :
    log.foldl record registry =
      ⟨registry.kinds.insertAll (log.filterMap Registration.kind?),
        registry.signatures.insertAll (log.filterMap Registration.signature?),
        registry.conversions.insertAll (log.filterMap Registration.conversion?)⟩ := by
  induction log generalizing registry with
  | nil => rfl
  | cons registration rest inductionHypothesis =>
      rw [List.foldl_cons, inductionHypothesis]
      cases registration <;> rfl

/-- A registry resolves operands to the first implementation that its log has for them. -/
theorem resolve?_ofLog (log : List Registration) (operator : Operator) (left right : Kind) :
    (ofLog log).resolve? operator left right =
      (⟨log.filterMap Registration.signature?⟩ : FirstWins Signature Implementation).get?
        ⟨operator, left, right⟩ := by
  rw [resolve?, ofLog, foldl_record, FirstWins.get?_insertAll]
  rfl

end Registry
end Chronometry
