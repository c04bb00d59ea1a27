import FlowRegistry.Coordinator.Buckets
import FlowRegistry.Digest.Sha256

/-!
# Extension bundles

A bundle lives in a bucket and is named by its group and artifact ids, which are unique within
the bucket. Its versions are uploaded content, stored under the bundle's id and the trimmed
version, with a record of the content's SHA-256 digest and size. A version is uploaded again
only when the bucket allows redeploys; when a step after the content fails, the record and the
content a redeploy replaced are put back, so a failed upload changes nothing. The count of a
bundle's versions is an unsigned 32-bit word: a new version for a bundle at the largest count stops
the upload after its content and record are written, and nothing is put back.
-/

namespace FlowRegistry

namespace Coordinator

/-- A bundle that must exist. -/
def requireBundle (id : Uuid) : Registry Bundle := do
  match ← World.fetchBundle id with
  | some b => pure b
  | none => throw (.notFound s!"bundle {id.text}")

/-- Creates a bundle with trimmed coordinates no other bundle of its bucket has, in a bucket that
exists. -/
def createBundle (r : BundleRequest) (claimed : Revision) (user : String) :
    Registry (Modified Bundle) := do
  World.lift (validateName "bundle group id" r.groupId)
  World.lift (validateName "bundle artifact id" r.artifactId)
  World.lift (validateDescription r.description)
  let entityId := r.identifier.text
  let claimed ← World.lift (bindClaim entityId claimed)
  let now ← World.now
  let bundle : Bundle := ⟨r.identifier, r.bucketIdentifier, r.bundleType, Text.trim r.groupId,
    Text.trim r.artifactId, r.description, now, now, 0⟩
  let ((), revision) ← Manager.create entityId claimed do
    let bucketId := bundle.bucketIdentifier
    if (← World.fetchBucket bucketId).isNone then throw (.notFound s!"bucket {bucketId.text}")
    if (← World.fetchBundleByCoordinate bucketId bundle.groupId bundle.artifactId).isSome then
      throw (.alreadyExists
        s!"bundle {bundle.groupId}:{bundle.artifactId} already exists in bucket {bucketId.text}")
    World.insertBundle bundle
  pure (modified bundle revision user)

/-- A bundle with its revision. -/
def getBundle (id : Uuid) : Registry (Revisioned Bundle) := do
  let b ← requireBundle id
  pure ⟨b, ← Manager.getRevision id.text⟩

/-- The bundles of a bucket that exists, each with its revision, in the order of their
coordinates. -/
def listBundles (bucketId : Uuid) : Registry (List (Revisioned Bundle)) := do
  let _ ← requireBucket bucketId
  (← World.listBundles bucketId).mapM fun b => do pure ⟨b, ← Manager.getRevision b.identifier.text⟩

/-- Changes the description of a bundle. -/
def updateBundle (id : Uuid) (claimed : Revision) (description : Option String) (user : String) :
    Registry (Modified Bundle) := do
  World.lift (validateDescription description)
  let (bundle, revision) ← Manager.update id.text claimed do
    let b ← requireBundle id
    let b := { b with
      description := description.orElse fun _ => b.description
      modifiedTimestamp := ← World.now }
    World.updateBundle b
    pure b
  pure (modified bundle revision user)

/-- Deletes a bundle and its versions; answers the bundle as it was, if it existed. -/
def deleteBundle (id : Uuid) (claimed : Revision) : Registry (Option Bundle) :=
  Manager.deleteWith id.text claimed do
    let b ← World.fetchBundle id
    purgeBundleContent id
    let _ ← World.deleteBundle id
    pure b

/-- Puts back the record and content of a version as they were before a failed upload.
Failures here are ignored; the error of the upload is what its caller sees. -/
def restoreBundleVersion (bundleId : Uuid) (version : String) (previous : Option BundleVersion)
    (previousBytes : Option Bytes) : Registry Unit := do
  let record : Registry Unit := match previous with
    | some prior => World.putBundleVersion prior
    | none => do let _ ← World.deleteBundleVersion bundleId version
  tryCatch record fun _ => pure ()
  let content : Registry Unit := match previousBytes with
    | some prior => World.saveContent bundleId.text version prior
    | none => World.deleteContent bundleId.text version
  tryCatch content fun _ => pure ()

/-- The content stored for a version before it is uploaded again, if any. -/
def previousContent (key version : String) : Registry (Option Bytes) :=
  tryCatch (some <$> World.getContent key version) fun e =>
    match e with
    | .notFound _ => pure none
    | e => throw e

/-- Writes the record of an uploaded version, then the bundle with the time of the upload and its
count of versions, one more when the version is new. A failed write puts back the record and the
content the upload replaced and passes the failure on; a count at its largest has no next, and the
upload stops there with nothing put back. -/
def recordBundleVersion (bundle : Bundle) (record : BundleVersion)
    (existing : Option BundleVersion) (previousBytes : Option Bytes) : Registry Unit := do
  let undo (e : RegistryError) : Registry Unit := do
    restoreBundleVersion record.bundleIdentifier record.version existing previousBytes
    throw e
  tryCatch (World.putBundleVersion record) undo
  let count ← World.lift
    (if existing.isNone then nextWord32 bundle.versionCount else pure bundle.versionCount)
  tryCatch (World.updateBundle
    { bundle with versionCount := count, modifiedTimestamp := record.timestamp }) undo

/-- Uploads a version of a bundle. -/
def addBundleVersion (bundleId : Uuid) (claimed : Revision) (version : String) (data : Bytes)
    (user : String) : Registry (Modified BundleVersion) := do
  let version := Text.trim version
  if version = "" then throw (.invalidInput "bundle version cannot be empty")
  let (record, revision) ← Manager.update bundleId.text claimed do
    let bundle ← requireBundle bundleId
    let bucketId := bundle.bucketIdentifier
    let bucket ← match ← World.fetchBucket bucketId with
      | some b => pure b
      | none => throw (.notFound s!"bucket {bucketId.text}")
    let existing ← World.fetchBundleVersion bundleId version
    if existing.isSome ∧ !bucket.allowBundleRedeploy then
      throw (.alreadyExists (s!"version {version} of bundle {bundle.groupId}:{bundle.artifactId} " ++
        s!"already exists and bucket '{bucket.name}' does not allow redeploy"))
    let record : BundleVersion :=
      ⟨bundleId, version, Digest.sha256Hex data, data.length, user, ← World.now⟩
    let key := bundleId.text
    let previousBytes ← if existing.isSome then previousContent key version else pure none
    World.saveContent key version data
    recordBundleVersion bundle record existing previousBytes
    pure record
  pure (modified record revision user)

/-- The version records of a bundle that exists, in upload order. -/
def listBundleVersions (bundleId : Uuid) : Registry (List BundleVersion) := do
  let _ ← requireBundle bundleId
  World.listBundleVersions bundleId

/-- The record and content of a version, after checking the content against the record's
digest. -/
def getBundleVersionContent (bundleId : Uuid) (version : String) :
    Registry (BundleVersion × Bytes) := do
  let some record ← World.fetchBundleVersion bundleId version
    | throw (.notFound s!"version {version} of bundle {bundleId.text}")
  let data ← World.getContent bundleId.text version
  if Digest.sha256Hex data ≠ record.sha256 then
    throw (.persistence s!"checksum mismatch for version {version} of bundle {bundleId.text}")
  pure (record, data)

end Coordinator

end FlowRegistry
