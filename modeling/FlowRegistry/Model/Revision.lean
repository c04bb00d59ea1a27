import FlowRegistry.Error

/-!
# Revisions

A revision is the token that guards changes to one entity: the entity's id, a version that moves
forward by one with every change, and the client that made the change. Versions are unsigned
64-bit words; asking for the revision after the largest one fails with `overflow`.
-/

namespace FlowRegistry

/-- The largest revision version. -/
def maxRevisionVersion : Nat := Nat.pow 2 64 - 1

/-- The token guarding changes to one entity. -/
structure Revision where
  entityId : String
  version : Nat
  clientId : String
  deriving DecidableEq, Repr, Inhabited

namespace Revision

/-- The revision a new entity starts at. -/
def initial (entityId clientId : String) : Revision := ⟨entityId, 0, clientId⟩

/-- The revision after this one, when `clientId` makes a change. -/
def next (r : Revision) (clientId : String) : Outcome Revision :=
  if r.version < maxRevisionVersion then .ok ⟨r.entityId, r.version + 1, clientId⟩
  else .error .overflow

/-- How a revision is shown: `entity@version (client)`. -/
def display (r : Revision) : String := s!"{r.entityId}@{r.version} ({r.clientId})"

theorem next_version {r r' : Revision} {c : String} (h : r.next c = .ok r') :
    r'.version = r.version + 1 ∧ r'.entityId = r.entityId ∧ r'.clientId = c := by
  unfold next at h
  split at h
  · cases h; exact ⟨rfl, rfl, rfl⟩
  · cases h

end Revision

/-- Who last changed an entity, and the revision that change produced. -/
structure Modification where
  revision : Revision
  lastModifier : String
  deriving DecidableEq, Repr

/-- An entity read together with its current revision. -/
structure Revisioned (α : Type) where
  entity : α
  revision : Revision

/-- The outcome of a successful create or update. -/
structure Modified (α : Type) where
  entity : α
  modification : Modification

end FlowRegistry
