import FlowRegistry.Model.Flow
import FlowRegistry.Text.Case

/-!
# The catalog of buckets, flows, snapshots and bundles

The catalog keeps the metadata of the registry. Every record has its own identifier; a flow or a
bundle needs its bucket, a snapshot record its flow and a bundle version its bundle, when it is
inserted. Deletes do not cascade, but a bucket that still holds flows or bundles refuses to go.

Names compare by their Unicode lowercase form. Buckets and flows are listed by that form, bundles
by group and artifact id; records with equal keys come in identifier order. Snapshot records of
a flow are kept by version; bundle versions of a bundle in upload order, a repeated version
replacing the earlier record in place.
-/

namespace FlowRegistry

/-- The order of UUIDs by value, which is also the order of their text. -/
def Uuid.lt (a b : Uuid) : Bool := a.value < b.value

/-- Inserts into a list sorted by a UUID key, replacing an element with the same key. -/
def insertById {α : Type} (key : α → Uuid) (x : α) : List α → List α
  | [] => [x]
  | y :: ys =>
    if key x = key y then x :: ys
    else if Uuid.lt (key x) (key y) then x :: y :: ys
    else y :: insertById key x ys

/-- Two names are the same when their lowercase forms are. -/
def sameName (a b : String) : Bool := Text.toLower a == Text.toLower b

/-- The metadata of the registry. -/
structure Catalog where
  /-- Sorted by identifier. -/
  buckets : List Bucket
  /-- Sorted by identifier. -/
  flows : List Flow
  /-- Sorted by flow identifier, then version. -/
  snapshots : List SnapshotMeta
  /-- Sorted by identifier. -/
  bundles : List Bundle
  /-- In upload order. -/
  bundleVersions : List BundleVersion
  deriving Inhabited

namespace Catalog

/-- The empty catalog. -/
def empty : Catalog := ⟨[], [], [], [], []⟩

/-! ### Buckets -/

def fetchBucket (c : Catalog) (id : Uuid) : Option Bucket := c.buckets.find? (·.identifier == id)

def fetchBucketByName (c : Catalog) (name : String) : Option Bucket :=
  c.buckets.find? (sameName ·.name name)

/-- Buckets by lowercase name. -/
def listBuckets (c : Catalog) : List Bucket :=
  c.buckets.mergeSort fun a b => Text.toLower a.name ≤ Text.toLower b.name

def insertBucket (c : Catalog) (b : Bucket) : Outcome Catalog :=
  if (c.fetchBucket b.identifier).isSome then .error (.alreadyExists s!"bucket {b.identifier.text}")
  else .ok { c with buckets := insertById (·.identifier) b c.buckets }

def updateBucket (c : Catalog) (b : Bucket) : Outcome Catalog :=
  if (c.fetchBucket b.identifier).isNone then .error (.notFound s!"bucket {b.identifier.text}")
  else .ok { c with buckets := insertById (·.identifier) b c.buckets }

/-- Removes a bucket that holds no flows or bundles; says whether it was there. -/
def deleteBucket (c : Catalog) (id : Uuid) : Outcome (Bool × Catalog) :=
  let flows := (c.flows.filter (·.bucketIdentifier == id)).length
  let bundles := (c.bundles.filter (·.bucketIdentifier == id)).length
  if flows + bundles > 0 then
    .error (.invalidInput s!"bucket {id.text} still holds {flows} flows and {bundles} bundles")
  else .ok ((c.fetchBucket id).isSome, { c with buckets := c.buckets.filter (·.identifier != id) })

/-! ### Flows -/

def fetchFlow (c : Catalog) (id : Uuid) : Option Flow := c.flows.find? (·.identifier == id)

def fetchFlowByName (c : Catalog) (bucket : Uuid) (name : String) : Option Flow :=
  c.flows.find? fun f => f.bucketIdentifier == bucket && sameName f.name name

/-- The flows of a bucket by lowercase name. -/
def listFlows (c : Catalog) (bucket : Uuid) : List Flow :=
  (c.flows.filter (·.bucketIdentifier == bucket)).mergeSort fun a b =>
    Text.toLower a.name ≤ Text.toLower b.name

def insertFlow (c : Catalog) (f : Flow) : Outcome Catalog :=
  if (c.fetchBucket f.bucketIdentifier).isNone then
    .error (.notFound s!"bucket {f.bucketIdentifier.text}")
  else if (c.fetchFlow f.identifier).isSome then .error (.alreadyExists s!"flow {f.identifier.text}")
  else .ok { c with flows := insertById (·.identifier) f c.flows }

def updateFlow (c : Catalog) (f : Flow) : Outcome Catalog :=
  if (c.fetchFlow f.identifier).isNone then .error (.notFound s!"flow {f.identifier.text}")
  else .ok { c with flows := insertById (·.identifier) f c.flows }

def deleteFlow (c : Catalog) (id : Uuid) : Bool × Catalog :=
  ((c.fetchFlow id).isSome, { c with flows := c.flows.filter (·.identifier != id) })

/-! ### Snapshot records -/

/-- The snapshot records of a flow, by version. -/
def listSnapshots (c : Catalog) (flow : Uuid) : List SnapshotMeta :=
  c.snapshots.filter (·.flowIdentifier == flow)

def fetchSnapshot (c : Catalog) (flow : Uuid) (version : Nat) : Option SnapshotMeta :=
  (c.listSnapshots flow).find? (·.version == version)

def latestSnapshot (c : Catalog) (flow : Uuid) : Option SnapshotMeta := (c.listSnapshots flow).getLast?

/-- Inserts into records sorted by flow identifier and version. -/
def insertSnapshotSorted (m : SnapshotMeta) : List SnapshotMeta → List SnapshotMeta
  | [] => [m]
  | s :: rest =>
    if Uuid.lt m.flowIdentifier s.flowIdentifier ||
        (m.flowIdentifier == s.flowIdentifier && m.version < s.version) then m :: s :: rest
    else s :: insertSnapshotSorted m rest

def insertSnapshot (c : Catalog) (m : SnapshotMeta) : Outcome Catalog :=
  if (c.fetchFlow m.flowIdentifier).isNone then .error (.notFound s!"flow {m.flowIdentifier.text}")
  else if (c.fetchSnapshot m.flowIdentifier m.version).isSome then
    .error (.alreadyExists s!"snapshot {m.version} of flow {m.flowIdentifier.text}")
  else .ok { c with snapshots := insertSnapshotSorted m c.snapshots }

def deleteSnapshotVersion (c : Catalog) (flow : Uuid) (version : Nat) : Bool × Catalog :=
  ((c.fetchSnapshot flow version).isSome,
    { c with snapshots := c.snapshots.filter fun s => !(s.flowIdentifier == flow && s.version == version) })

/-- Removes all snapshot records of a flow; says how many there were. -/
def deleteSnapshots (c : Catalog) (flow : Uuid) : Nat × Catalog :=
  ((c.listSnapshots flow).length, { c with snapshots := c.snapshots.filter (·.flowIdentifier != flow) })

/-! ### Bundles -/

def fetchBundle (c : Catalog) (id : Uuid) : Option Bundle := c.bundles.find? (·.identifier == id)

def fetchBundleByCoordinate (c : Catalog) (bucket : Uuid) (group artifact : String) : Option Bundle :=
  c.bundles.find? fun b => b.bucketIdentifier == bucket && b.groupId == group && b.artifactId == artifact

/-- The bundles of a bucket by group id, then artifact id. -/
def listBundles (c : Catalog) (bucket : Uuid) : List Bundle :=
  (c.bundles.filter (·.bucketIdentifier == bucket)).mergeSort fun a b =>
    a.groupId < b.groupId || (a.groupId == b.groupId && a.artifactId ≤ b.artifactId)

def insertBundle (c : Catalog) (b : Bundle) : Outcome Catalog :=
  if (c.fetchBucket b.bucketIdentifier).isNone then
    .error (.notFound s!"bucket {b.bucketIdentifier.text}")
  else if (c.fetchBundle b.identifier).isSome then .error (.alreadyExists s!"bundle {b.identifier.text}")
  else .ok { c with bundles := insertById (·.identifier) b c.bundles }

def updateBundle (c : Catalog) (b : Bundle) : Outcome Catalog :=
  if (c.fetchBundle b.identifier).isNone then .error (.notFound s!"bundle {b.identifier.text}")
  else .ok { c with bundles := insertById (·.identifier) b c.bundles }

def deleteBundle (c : Catalog) (id : Uuid) : Bool × Catalog :=
  ((c.fetchBundle id).isSome, { c with bundles := c.bundles.filter (·.identifier != id) })

/-! ### Bundle versions -/

/-- The versions of a bundle, in upload order. -/
def listBundleVersions (c : Catalog) (bundle : Uuid) : List BundleVersion :=
  c.bundleVersions.filter (·.bundleIdentifier == bundle)

def fetchBundleVersion (c : Catalog) (bundle : Uuid) (version : String) : Option BundleVersion :=
  (c.listBundleVersions bundle).find? (·.version == version)

/-- Replaces the record with the same bundle and version in place, or appends. -/
def replaceOrAppend (v : BundleVersion) : List BundleVersion → List BundleVersion
  | [] => [v]
  | w :: rest =>
    if w.bundleIdentifier == v.bundleIdentifier && w.version == v.version then v :: rest
    else w :: replaceOrAppend v rest

def putBundleVersion (c : Catalog) (v : BundleVersion) : Outcome Catalog :=
  if (c.fetchBundle v.bundleIdentifier).isNone then
    .error (.notFound s!"bundle {v.bundleIdentifier.text}")
  else .ok { c with bundleVersions := replaceOrAppend v c.bundleVersions }

def deleteBundleVersion (c : Catalog) (bundle : Uuid) (version : String) : Bool × Catalog :=
  ((c.fetchBundleVersion bundle version).isSome,
    { c with bundleVersions := c.bundleVersions.filter fun v =>
      !(v.bundleIdentifier == bundle && v.version == version) })

/-- Removes all versions of a bundle; says how many there were. -/
def deleteBundleVersions (c : Catalog) (bundle : Uuid) : Nat × Catalog :=
  ((c.listBundleVersions bundle).length,
    { c with bundleVersions := c.bundleVersions.filter (·.bundleIdentifier != bundle) })

end Catalog

end FlowRegistry
