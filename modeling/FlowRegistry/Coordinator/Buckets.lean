import FlowRegistry.Coordinator.Purge

/-!
# Buckets

A bucket groups flows and extension bundles. Bucket names are unique without regard to case;
a bucket is created under its initial revision, and changed or deleted under the revision its
caller presents. Deleting a bucket deletes everything in it.
-/

namespace FlowRegistry

namespace Coordinator

/-- A bucket that must exist. -/
def requireBucket (id : Uuid) : Registry Bucket := do
  match ← World.fetchBucket id with
  | some b => pure b
  | none => throw (.notFound s!"bucket {id.text}")

/-- Creates a bucket with a trimmed name no other bucket has. -/
def createBucket (r : BucketRequest) (claimed : Revision) (user : String) :
    Registry (Modified Bucket) := do
  World.lift (validateName "bucket" r.name)
  World.lift (validateDescription r.description)
  let entityId := r.identifier.text
  let claimed ← World.lift (bindClaim entityId claimed)
  let bucket : Bucket :=
    ⟨r.identifier, Text.trim r.name, r.description, ← World.now, r.allowBundleRedeploy,
     r.allowPublicRead⟩
  let ((), revision) ← Manager.create entityId claimed do
    if (← World.fetchBucketByName bucket.name).isSome then
      throw (.alreadyExists s!"a bucket named '{bucket.name}' already exists")
    World.insertBucket bucket
  pure (modified bucket revision user)

/-- A bucket with its revision. -/
def getBucket (id : Uuid) : Registry (Revisioned Bucket) := do
  let b ← requireBucket id
  pure ⟨b, ← Manager.getRevision id.text⟩

/-- Every bucket with its revision, in the order of their names. -/
def listBuckets : Registry (List (Revisioned Bucket)) := do
  (← World.listBuckets).mapM fun b => do pure ⟨b, ← Manager.getRevision b.identifier.text⟩

/-- Changes a bucket: a new name is trimmed and must not be another bucket's. -/
def updateBucket (id : Uuid) (claimed : Revision) (c : BucketChange) (user : String) :
    Registry (Modified Bucket) := do
  if let some n := c.name then World.lift (validateName "bucket" n)
  World.lift (validateDescription c.description)
  let (bucket, revision) ← Manager.update id.text claimed do
    let b ← requireBucket id
    let b ← match c.name with
      | none => pure b
      | some n =>
        let n := Text.trim n
        if let some other := ← World.fetchBucketByName n then
          if other.identifier ≠ id then
            throw (.alreadyExists s!"a bucket named '{n}' already exists")
        pure { b with name := n }
    let b := { b with
      description := c.description.orElse fun _ => b.description
      allowBundleRedeploy := c.allowBundleRedeploy.getD b.allowBundleRedeploy
      allowPublicRead := c.allowPublicRead.getD b.allowPublicRead }
    World.updateBucket b
    pure b
  pure (modified bucket revision user)

/-- Deletes a bucket and everything in it; answers the bucket as it was, if it existed. -/
def deleteBucket (id : Uuid) (claimed : Revision) : Registry (Option Bucket) :=
  Manager.deleteWith id.text claimed do
    let b ← World.fetchBucket id
    purgeBucket id
    pure b

end Coordinator

end FlowRegistry
