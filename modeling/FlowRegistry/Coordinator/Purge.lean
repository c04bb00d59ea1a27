import FlowRegistry.Coordinator.Rules

/-!
# Purging what an entity holds

Deleting a flow removes its content and its snapshot records; deleting a bundle removes its
content and its version records. Deleting a bucket deletes every flow and bundle in it first,
each under its own revision, and then the bucket record. The metadata store refuses to delete a
bucket that still holds children, which happens when a child is created while the delete runs:
the delete then lists the bucket again, up to `bucketDeletePasses` times in all.

A child is deleted under its current revision. When that delete fails with a stale revision,
whichever call gave it, the revision is read again and the delete tried again; when the child has
no revision its content is purged and it is deleted directly. Each child is deleted under its own
entity lock while the bucket's delete holds the bucket's, and the locks are not reentrant: a child
whose id is the bucket's waits for ever (`lockChild`).
-/

namespace FlowRegistry

namespace Coordinator

/-- Removes a flow's content and snapshot records. -/
def purgeFlowContent (id : Uuid) : Registry Unit := do
  World.deleteAllContent id.text
  let _ ← World.deleteSnapshots id

/-- Removes a bundle's content and version records. -/
def purgeBundleContent (id : Uuid) : Registry Unit := do
  World.deleteAllContent id.text
  let _ ← World.deleteBundleVersions id

/-- The current revision of an entity, or none when it has none. -/
def currentRevision? (entityId : String) : Registry (Option Revision) :=
  tryCatch (some <$> Manager.getRevision entityId) fun e =>
    match e with
    | .notFound _ => pure none
    | e => throw e

/-- Takes the entity lock of a child while the delete of its bucket holds the lock of `held`,
the bucket's id: for the bucket's own id the wait never ends. -/
def lockChild (held entityId : String) : Registry Unit :=
  if entityId = held then throw (.deadlock entityId) else pure ()

/-- Deletes a child under its current revision, trying again while the revision moves under
the delete, at most `fuel` times. The revision read under the child's id names that id, so the
delete's first step that can stop it is the child's lock. -/
def deleteChildWithin (held entityId : String) (purge : Registry Unit) : Nat → Registry Unit
  | 0 => throw (.internal s!"the revision of {entityId} kept moving while it was deleted")
  | fuel + 1 => do
    match ← currentRevision? entityId with
    | none =>
      purge
      lockChild held entityId
      Manager.delete entityId
    | some current =>
      lockChild held entityId
      tryCatch (Manager.deleteWith entityId current purge) fun e =>
        match e with
        | .staleRevision .. => deleteChildWithin held entityId purge fuel
        | e => throw e

/-- Deletes a child under its current revision, trying again while the delete fails with a stale
revision. Calls made one at a time meet a stale revision only as a planned failure. A try that
uses up no planned failure that ends and takes no queued flow leaves the next try to make the same
calls with the same answers, and so on for ever; so one more try than there are pending failures
and queued flows reaches every answer the loop gives. -/
def deleteChild (held entityId : String) (purge : Registry Unit) : Registry Unit := do
  deleteChildWithin held entityId purge ((← World.pendingFailures) + (← World.queuedFlows) + 1)

/-- Deletes every flow and every bundle of a bucket. -/
def purgeChildren (id : Uuid) : Registry Unit := do
  (← World.listFlows id).forM fun f => do
    deleteChild id.text f.identifier.text (purgeFlowContent f.identifier)
    let _ ← World.deleteFlow f.identifier
  (← World.listBundles id).forM fun b => do
    deleteChild id.text b.identifier.text (purgeBundleContent b.identifier)
    let _ ← World.deleteBundle b.identifier

/-- Deletes the children of a bucket and then the bucket, listing the children again while
the bucket gains new ones, `passes` times at most. -/
def purgeBucketWithin (id : Uuid) : Nat → Registry Unit
  | 0 => pure ()
  | left + 1 => do
    purgeChildren id
    tryCatch (do let _ ← World.deleteBucket id) fun e =>
      match e with
      | .invalidInput _ => if 0 < left then purgeBucketWithin id left else throw e
      | e => throw e

/-- Deletes the children of a bucket and then the bucket. -/
def purgeBucket (id : Uuid) : Registry Unit := purgeBucketWithin id bucketDeletePasses

end Coordinator

end FlowRegistry
