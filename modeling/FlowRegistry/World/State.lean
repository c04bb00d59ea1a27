import FlowRegistry.World.Faults
import FlowRegistry.Store.Revisions
import FlowRegistry.Store.Catalog
import FlowRegistry.Store.Content

/-!
# The state of a registry

A registry's state is its three stores, the fault plan its store calls go through, and the
instant its clock reads. `Registry` computations change the state and may fail; a failure keeps
the changes made before it, as a store keeps what was written before an error.

The calls of this module go through the fault plan: a metadata call first inserts a queued flow,
then every call is counted and may meet a planned failure, and only then reaches its store.
-/

namespace FlowRegistry

/-- The state of a registry. -/
structure World where
  revisions : RevisionTable
  catalog : Catalog
  content : ContentStore
  faults : FaultPlan
  clock : Time.Instant

/-- Computations on the state of a registry, which may fail. -/
abbrev Registry := ExceptT RegistryError (StateM World)

namespace World

/-- A registry with empty stores. -/
def fresh (content : ContentStore) (clock : Time.Instant) : World :=
  ⟨RevisionTable.empty, Catalog.empty, content, FaultPlan.empty, clock⟩

/-- Fails with an error of an outcome. -/
def lift {α : Type} (o : Outcome α) : Registry α :=
  match o with
  | .ok a => pure a
  | .error e => throw e

/-- The instant the clock reads. -/
def now : Registry Time.Instant := do return (← get).clock

/-- Counts a call and applies its planned failure. -/
def guard (c : Call) : Registry Unit := do
  let w ← get
  let (failure, plan) := (w.faults.tally c).next c
  set { w with faults := plan }
  match failure with
  | some e => throw e
  | none => pure ()

/-! ### The fault plan and the stores seen directly -/

/-- Plans a failure of a call, replacing an earlier plan for it. -/
def planFailure (c : Call) (f : Failure) : Registry Unit :=
  modify fun w => { w with faults := w.faults.plan c f }

/-- Drops all planned failures and queued flows. -/
def clearFaults : Registry Unit := modify fun w => { w with faults := w.faults.clear }

/-- Queues a flow to appear on the next call of a metadata method. -/
def injectFlow (method : String) (f : Flow) : Registry Unit :=
  modify fun w => { w with faults := w.faults.enqueue method f }

/-- How many times a call was made through the plan. -/
def callCount (c : Call) : Registry Nat := do return (← get).faults.count c

/-- How many calls the planned failures that end will still fail. -/
def pendingFailures : Registry Nat := do return (← get).faults.pending

/-- How many flows are queued to appear. -/
def queuedFlows : Registry Nat := do return (← get).faults.queuedFlows

/-- The stored revisions, read without going through the plan. -/
def storedRevisions : Registry (List Revision) := do return (← get).revisions.list

/-- The number of stored revisions, read without going through the plan. -/
def revisionCount : Registry Nat := do return (← get).revisions.size

/-- Runs a computation and answers with its outcome; the state it leaves stays, whether it
failed or not. -/
def attempt {α : Type} (r : Registry α) : Registry (Outcome α) :=
  tryCatch (Except.ok <$> r) fun e => pure (Except.error e)

/-- Runs a computation on the stores directly: no planned failure, queued flow or count applies
to its calls, and the plan is left as it was. -/
def unplanned {α : Type} (r : Registry α) : Registry α := do
  let plan := (← get).faults
  modify fun w => { w with faults := FaultPlan.empty }
  let result ← attempt r
  modify fun w => { w with faults := plan }
  lift result

/-- Runs computations one after another as the tasks of a race, each answering for itself with
the state the ones before it left; a panic stops the race there, and the race fails with it. -/
def inTurn {α : Type} : List (Registry α) → Registry (List (Outcome α))
  | [] => pure []
  | r :: rs => do
    let o ← attempt r
    match o with
    | .error e => if e.isPanic then throw e else return o :: (← inTurn rs)
    | .ok _ => return o :: (← inTurn rs)

/-! ### Revision store calls -/

def revisionCall (m : String) : Call := ⟨.revisions, m⟩

def getRevision (e : String) : Registry (Option Revision) := do
  guard (revisionCall "get_revision")
  return (← get).revisions.get? e

def createRevision (r : Revision) : Registry Unit := do
  guard (revisionCall "create_revision")
  let t ← lift ((← get).revisions.create r)
  modify fun w => { w with revisions := t }

def putRevision (expected : Nat) (r : Revision) : Registry Unit := do
  guard (revisionCall "put_revision")
  let t ← lift ((← get).revisions.put expected r)
  modify fun w => { w with revisions := t }

def deleteRevision (e : String) : Registry Bool := do
  guard (revisionCall "delete_revision")
  let (t, existed) := (← get).revisions.delete e
  modify fun w => { w with revisions := t }
  return existed

def listRevisions : Registry (List Revision) := do
  guard (revisionCall "list_revisions")
  return (← get).revisions.list

/-! ### Metadata store calls -/

/-- Enters a metadata call: inserts a queued flow, counts the call and applies its failure. -/
def enterMetadata (m : String) : Registry Unit := do
  let w ← get
  let (flow, plan) := w.faults.dequeue m
  set { w with faults := plan }
  if let some f := flow then
    let c ← lift ((← get).catalog.insertFlow f)
    modify fun w => { w with catalog := c }
  guard ⟨.metadata, m⟩

/-- A metadata call that reads. -/
def readCatalog {α : Type} (m : String) (f : Catalog → α) : Registry α := do
  enterMetadata m
  return f (← get).catalog

/-- A metadata call that writes and may fail. -/
def writeCatalog (m : String) (f : Catalog → Outcome Catalog) : Registry Unit := do
  enterMetadata m
  let c ← lift (f (← get).catalog)
  modify fun w => { w with catalog := c }

/-- A metadata call that writes and answers. -/
def changeCatalog {α : Type} (m : String) (f : Catalog → α × Catalog) : Registry α := do
  enterMetadata m
  let (a, c) := f (← get).catalog
  modify fun w => { w with catalog := c }
  return a

def insertBucket (b : Bucket) : Registry Unit := writeCatalog "insert_bucket" (·.insertBucket b)
def fetchBucket (id : Uuid) : Registry (Option Bucket) := readCatalog "fetch_bucket" (·.fetchBucket id)
def fetchBucketByName (n : String) : Registry (Option Bucket) :=
  readCatalog "fetch_bucket_by_name" (·.fetchBucketByName n)
def listBuckets : Registry (List Bucket) := readCatalog "list_buckets" (·.listBuckets)
def updateBucket (b : Bucket) : Registry Unit := writeCatalog "update_bucket" (·.updateBucket b)
def deleteBucket (id : Uuid) : Registry Bool := do
  enterMetadata "delete_bucket"
  let (existed, c) ← lift ((← get).catalog.deleteBucket id)
  modify fun w => { w with catalog := c }
  return existed

def insertFlow (f : Flow) : Registry Unit := writeCatalog "insert_flow" (·.insertFlow f)
def fetchFlow (id : Uuid) : Registry (Option Flow) := readCatalog "fetch_flow" (·.fetchFlow id)
def fetchFlowByName (b : Uuid) (n : String) : Registry (Option Flow) :=
  readCatalog "fetch_flow_by_name" (·.fetchFlowByName b n)
def listFlows (b : Uuid) : Registry (List Flow) := readCatalog "list_flows" (·.listFlows b)
def updateFlow (f : Flow) : Registry Unit := writeCatalog "update_flow" (·.updateFlow f)
def deleteFlow (id : Uuid) : Registry Bool := changeCatalog "delete_flow" (·.deleteFlow id)

def insertSnapshot (m : SnapshotMeta) : Registry Unit :=
  writeCatalog "insert_snapshot_metadata" (·.insertSnapshot m)
def fetchSnapshot (f : Uuid) (v : Nat) : Registry (Option SnapshotMeta) :=
  readCatalog "fetch_snapshot_metadata" (·.fetchSnapshot f v)
def latestSnapshot (f : Uuid) : Registry (Option SnapshotMeta) :=
  readCatalog "latest_snapshot_metadata" (·.latestSnapshot f)
def listSnapshots (f : Uuid) : Registry (List SnapshotMeta) :=
  readCatalog "list_snapshot_metadata" (·.listSnapshots f)
def deleteSnapshotVersion (f : Uuid) (v : Nat) : Registry Bool :=
  changeCatalog "delete_snapshot_version" (·.deleteSnapshotVersion f v)
def deleteSnapshots (f : Uuid) : Registry Nat :=
  changeCatalog "delete_snapshot_metadata" (·.deleteSnapshots f)

def insertBundle (b : Bundle) : Registry Unit := writeCatalog "insert_bundle" (·.insertBundle b)
def fetchBundle (id : Uuid) : Registry (Option Bundle) := readCatalog "fetch_bundle" (·.fetchBundle id)
def fetchBundleByCoordinate (b : Uuid) (g a : String) : Registry (Option Bundle) :=
  readCatalog "fetch_bundle_by_coordinate" (·.fetchBundleByCoordinate b g a)
def listBundles (b : Uuid) : Registry (List Bundle) := readCatalog "list_bundles" (·.listBundles b)
def updateBundle (b : Bundle) : Registry Unit := writeCatalog "update_bundle" (·.updateBundle b)
def deleteBundle (id : Uuid) : Registry Bool := changeCatalog "delete_bundle" (·.deleteBundle id)

def putBundleVersion (v : BundleVersion) : Registry Unit :=
  writeCatalog "put_bundle_version" (·.putBundleVersion v)
def fetchBundleVersion (b : Uuid) (v : String) : Registry (Option BundleVersion) :=
  readCatalog "fetch_bundle_version" (·.fetchBundleVersion b v)
def listBundleVersions (b : Uuid) : Registry (List BundleVersion) :=
  readCatalog "list_bundle_versions" (·.listBundleVersions b)
def deleteBundleVersion (b : Uuid) (v : String) : Registry Bool :=
  changeCatalog "delete_bundle_version" (·.deleteBundleVersion b v)
def deleteBundleVersions (b : Uuid) : Registry Nat :=
  changeCatalog "delete_bundle_versions" (·.deleteBundleVersions b)

/-! ### Content store calls -/

def contentCall (m : String) : Call := ⟨.content, m⟩

def saveContent (e v : String) (data : Bytes) : Registry Unit := do
  guard (contentCall "save_content")
  let (r, s) := (← get).content.save e v data
  modify fun w => { w with content := s }
  lift r

def getContent (e v : String) : Registry Bytes := do
  guard (contentCall "get_content")
  lift ((← get).content.get e v)

def deleteContent (e v : String) : Registry Unit := do
  guard (contentCall "delete_content")
  let s ← lift ((← get).content.delete e v)
  modify fun w => { w with content := s }

def deleteAllContent (e : String) : Registry Unit := do
  guard (contentCall "delete_all_content")
  let s ← lift ((← get).content.deleteAll e)
  modify fun w => { w with content := s }

def listContent (e : String) : Registry (List String) := do
  guard (contentCall "list_content_versions")
  lift ((← get).content.list e)

/-- The name of the kind of content store. -/
def contentName : Registry String := do return (← get).content.name

/-- Checks that a content store on a filesystem can write, read back and delete; answers whether
the store is on a filesystem, the only kind that checks. -/
def validateContent : Registry Bool := do
  match (← get).content with
  | .disk d =>
    modify fun w => { w with content := .disk d.validate }
    return true
  | .memory _ => return false

end World

end FlowRegistry
