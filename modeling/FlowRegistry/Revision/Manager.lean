import FlowRegistry.World.State

/-!
# Revision control of entities

Every change to an entity presents the revision its caller last read. The manager compares it
with the stored revision and, only when they match, runs the change and moves the stored version
forward by exactly one. A change that fails leaves the revision as it was.

The operations here run a change to its end without interruption; `Revision.Race` runs the same
phases as tasks that take turns, and the phases are shared:

* before the entity's lock is taken: `checkEntity` (the claim names the entity) and, for a
  creation, `checkInitial` (the claim is at version 0);
* with the lock held, before the change: `checkAbsent` for a creation, `verifyLocked` otherwise;
* after the change: `register`, `advance`, or dropping the revision.
-/

namespace FlowRegistry

namespace Manager

/-- Fails unless the claim is a revision of the entity. -/
def checkEntity (entityId : String) (claimed : Revision) : Outcome Unit :=
  if claimed.entityId = entityId then .ok ()
  else .error (.invalidRevision s!"revision for {claimed.entityId} presented for {entityId}")

/-- Fails unless the claim of a creation is at the initial version. -/
def checkInitial (entityId : String) (claimed : Revision) : Outcome Unit :=
  if claimed.version = 0 then .ok ()
  else .error (.invalidRevision
    s!"a revision version of 0 must be specified when creating {entityId}, got {claimed.version}")

/-- The current revision of an entity. -/
def getRevision (entityId : String) : Registry Revision := do
  match ← World.getRevision entityId with
  | some r => pure r
  | none => throw (.notFound s!"revision for entity {entityId}")

/-- Whether the entity is under revision control. -/
def isRevisioned (entityId : String) : Registry Bool := do
  return (← World.getRevision entityId).isSome

/-- Fails when the entity already has a revision. -/
def checkAbsent (entityId : String) : Registry Unit := do
  if (← World.getRevision entityId).isSome then throw (.alreadyExists s!"entity {entityId}")

/-- The current revision, when the claim is at its version; a stale claim fails. -/
def verifyLocked (entityId : String) (claimed : Revision) : Registry Revision := do
  let current ← getRevision entityId
  if current.version = claimed.version then pure current
  else throw (.staleRevision entityId claimed.version current.version)

/-- Registers a created entity at the initial revision of the claiming client. -/
def register (entityId : String) (claimed : Revision) : Registry Revision := do
  let initial := Revision.initial entityId claimed.clientId
  World.createRevision initial
  pure initial

/-- Moves the revision of a changed entity forward by one, to the claiming client. -/
def advance (current claimed : Revision) : Registry Revision := do
  let next ← World.lift (current.next claimed.clientId)
  World.putRevision current.version next
  pure next

/-- Runs `creation` and registers the entity at the initial revision. -/
def create {α : Type} (entityId : String) (claimed : Revision) (creation : Registry α) :
    Registry (α × Revision) := do
  World.lift (checkEntity entityId claimed)
  World.lift (checkInitial entityId claimed)
  checkAbsent entityId
  let value ← creation
  let r ← register entityId claimed
  pure (value, r)

/-- Checks the claim, runs `mutation` and moves the revision forward by one. -/
def update {α : Type} (entityId : String) (claimed : Revision) (mutation : Registry α) :
    Registry (α × Revision) := do
  World.lift (checkEntity entityId claimed)
  let current ← verifyLocked entityId claimed
  let value ← mutation
  let next ← advance current claimed
  pure (value, next)

/-- Checks the claim, runs `deletion` and drops the revision. -/
def deleteWith {α : Type} (entityId : String) (claimed : Revision) (deletion : Registry α) :
    Registry α := do
  World.lift (checkEntity entityId claimed)
  let _ ← verifyLocked entityId claimed
  let value ← deletion
  let _ ← World.deleteRevision entityId
  pure value

/-- Drops the revision of a deleted entity, if it has one. -/
def delete (entityId : String) : Registry Unit := do
  let _ ← World.deleteRevision entityId

end Manager

end FlowRegistry
