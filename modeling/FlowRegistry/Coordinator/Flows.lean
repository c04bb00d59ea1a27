import FlowRegistry.Coordinator.Buckets

/-!
# Flows

A flow lives in a bucket, and flow names are unique within a bucket without regard to case.
A flow is created under its initial revision, and changed or deleted under the revision its
caller presents. Deleting a flow deletes its snapshots.
-/

namespace FlowRegistry

namespace Coordinator

/-- A flow that must exist. -/
def requireFlow (id : Uuid) : Registry Flow := do
  match ← World.fetchFlow id with
  | some f => pure f
  | none => throw (.notFound s!"flow {id.text}")

/-- Creates a flow, with a trimmed name no other flow of its bucket has, in a bucket that
exists. -/
def createFlow (r : FlowRequest) (claimed : Revision) (user : String) :
    Registry (Modified Flow) := do
  World.lift (validateName "flow" r.name)
  World.lift (validateDescription r.description)
  let entityId := r.identifier.text
  let claimed ← World.lift (bindClaim entityId claimed)
  let now ← World.now
  let flow : Flow := ⟨r.identifier, Text.trim r.name, r.description, r.bucketIdentifier, now, now, 0⟩
  let ((), revision) ← Manager.create entityId claimed do
    let bucketId := flow.bucketIdentifier
    if (← World.fetchBucket bucketId).isNone then throw (.notFound s!"bucket {bucketId.text}")
    if (← World.fetchFlowByName bucketId flow.name).isSome then
      throw (.alreadyExists s!"a flow named '{flow.name}' already exists in bucket {bucketId.text}")
    World.insertFlow flow
  pure (modified flow revision user)

/-- A flow with its revision. -/
def getFlow (id : Uuid) : Registry (Revisioned Flow) := do
  let f ← requireFlow id
  pure ⟨f, ← Manager.getRevision id.text⟩

/-- The flows of a bucket that exists, each with its revision, in the order of their names. -/
def listFlows (bucketId : Uuid) : Registry (List (Revisioned Flow)) := do
  let _ ← requireBucket bucketId
  (← World.listFlows bucketId).mapM fun f => do pure ⟨f, ← Manager.getRevision f.identifier.text⟩

/-- Changes a flow: a new name is trimmed and must not be another flow's in its bucket. -/
def updateFlow (id : Uuid) (claimed : Revision) (c : FlowChange) (user : String) :
    Registry (Modified Flow) := do
  if let some n := c.name then World.lift (validateName "flow" n)
  World.lift (validateDescription c.description)
  let (flow, revision) ← Manager.update id.text claimed do
    let f ← requireFlow id
    let f ← match c.name with
      | none => pure f
      | some n =>
        let n := Text.trim n
        if let some other := ← World.fetchFlowByName f.bucketIdentifier n then
          if other.identifier ≠ id then
            throw (.alreadyExists
              s!"a flow named '{n}' already exists in bucket {f.bucketIdentifier.text}")
        pure { f with name := n }
    let f := { f with
      description := c.description.orElse fun _ => f.description
      modifiedTimestamp := ← World.now }
    World.updateFlow f
    pure f
  pure (modified flow revision user)

/-- Deletes a flow and its snapshots; answers the flow as it was, if it existed. -/
def deleteFlow (id : Uuid) (claimed : Revision) : Registry (Option Flow) :=
  Manager.deleteWith id.text claimed do
    let f ← World.fetchFlow id
    purgeFlowContent id
    let _ ← World.deleteFlow id
    pure f

end Coordinator

end FlowRegistry
