import FlowRegistry.Coordinator.Flows
import FlowRegistry.Format.Current

/-!
# Snapshots of flows

The snapshots of a flow are numbered from 1 without gaps: a new snapshot must carry the number
after the latest one. Its content is stored under the flow's id and its number in decimal, in the
current data model version, and then its record is written and the flow's count of versions moved
to it. When a step after the content fails, what was written before it is removed again, so a
failed snapshot leaves neither content nor record behind.
-/

namespace FlowRegistry

namespace Coordinator

open Format

/-- The number a snapshot must have after the latest one, or the first. -/
def expectedSnapshot : Option SnapshotMeta → Outcome Nat
  | some latest => nextSnapshotVersion latest.version
  | none => .ok firstSnapshotVersion

/-- Removes what a failed snapshot wrote: its record, when it was written, and its content.
Failures here are ignored; the error of the snapshot is what its caller sees. -/
def discardSnapshot (flowId : Uuid) (version : Nat) (recorded : Bool) : Registry Unit := do
  if recorded then
    tryCatch (do let _ ← World.deleteSnapshotVersion flowId version) fun _ => pure ()
  tryCatch (World.deleteContent flowId.text (toString version)) fun _ => pure ()

/-- Adds the next snapshot of a flow. -/
def createSnapshot (flowId : Uuid) (claimed : Revision) (r : SnapshotRequest) (user : String) :
    Registry (Modified SnapshotMeta) := do
  if let some c := r.comments then World.lift (validateDescription (some c))
  let (info, revision) ← Manager.update flowId.text claimed do
    let flow ← requireFlow flowId
    let expected ← World.lift (expectedSnapshot (← World.latestSnapshot flowId))
    if r.version ≠ expected then
      throw (.invalidInput
        s!"snapshot version {r.version} of flow {flowId.text} must be {expected}")
    let info : SnapshotMeta :=
      ⟨flow.bucketIdentifier, flowId, expected, ← World.now, user, r.comments⟩
    let bytes ← World.lift (snapshotTable.serialize ⟨info, r.flowContents, r.parameterContexts⟩)
    World.saveContent flowId.text (toString expected) bytes
    tryCatch (World.insertSnapshot info) fun e => do
      discardSnapshot flowId expected false
      throw e
    tryCatch (World.updateFlow { flow with versionCount := expected, modifiedTimestamp := info.timestamp })
      fun e => do
        discardSnapshot flowId expected true
        throw e
    pure info
  pure (modified info revision user)

/-- Reads the snapshot stored under a flow and number. -/
def loadSnapshot (flowId : Uuid) (version : Nat) : Registry Snapshot := do
  let bytes ← World.getContent flowId.text (toString version)
  let _ ← World.lift (snapshotTable.readVersion bytes)
  World.lift (snapshotTable.deserialize bytes)

/-- A snapshot of a flow that exists, by number. -/
def getSnapshot (flowId : Uuid) (version : Nat) : Registry Snapshot := do
  let _ ← requireFlow flowId
  if (← World.fetchSnapshot flowId version).isNone then
    throw (.notFound s!"snapshot {version} of flow {flowId.text}")
  loadSnapshot flowId version

/-- The latest snapshot of a flow that exists. -/
def getLatestSnapshot (flowId : Uuid) : Registry Snapshot := do
  let _ ← requireFlow flowId
  match ← World.latestSnapshot flowId with
  | some latest => loadSnapshot flowId latest.version
  | none => throw (.notFound s!"snapshots of flow {flowId.text}")

/-- The snapshot records of a flow that exists, by number. -/
def listSnapshots (flowId : Uuid) : Registry (List SnapshotMeta) := do
  let _ ← requireFlow flowId
  World.listSnapshots flowId

end Coordinator

end FlowRegistry
