import FlowRegistry.Model.Catalog

/-!
# Planned faults

Calls to the three stores can be made to fail. A call is named by its store and method. A planned
failure of a call answers the next `n` calls with an error (or every call, until the plan is
cleared) instead of reaching the store; a planned failure with `n = 0` is dropped by the next call,
which then proceeds. Flows can be queued on a metadata method: each later call of that method
first inserts the next queued flow into the catalog, as if another client had just created it.

Every call made through the plan is counted, failed ones included.
-/

namespace FlowRegistry

/-- The stores of the registry. -/
inductive StoreKind where
  | revisions
  | metadata
  | content
  deriving DecidableEq, Repr

/-- A method of a store. -/
structure Call where
  store : StoreKind
  method : String
  deriving DecidableEq, Repr

namespace Call

/-- The methods of the revision store. -/
def revisionMethods : List String :=
  ["get_revision", "create_revision", "put_revision", "delete_revision", "list_revisions"]

/-- The methods of the metadata store. -/
def metadataMethods : List String :=
  ["insert_bucket", "fetch_bucket", "fetch_bucket_by_name", "list_buckets", "update_bucket",
   "delete_bucket", "insert_flow", "fetch_flow", "fetch_flow_by_name", "list_flows", "update_flow",
   "delete_flow", "insert_snapshot_metadata", "fetch_snapshot_metadata", "latest_snapshot_metadata",
   "list_snapshot_metadata", "delete_snapshot_version", "delete_snapshot_metadata", "insert_bundle",
   "fetch_bundle", "fetch_bundle_by_coordinate", "list_bundles", "update_bundle", "delete_bundle",
   "put_bundle_version", "fetch_bundle_version", "list_bundle_versions", "delete_bundle_version",
   "delete_bundle_versions"]

/-- The methods of the content store. -/
def contentMethods : List String :=
  ["save_content", "get_content", "delete_content", "delete_all_content", "list_content_versions"]

/-- The call a target such as `metadata.update_flow` names. -/
def ofTarget? (target : String) : Option Call :=
  match target.splitOn "." with
  | ["revisions", m] => if m ∈ revisionMethods then some ⟨.revisions, m⟩ else none
  | ["metadata", m] => if m ∈ metadataMethods then some ⟨.metadata, m⟩ else none
  | ["content", m] => if m ∈ contentMethods then some ⟨.content, m⟩ else none
  | _ => none

end Call

/-- A planned failure: how many more calls fail (`none`: all of them), and with what. -/
structure Failure where
  left : Option Nat
  error : RegistryError
  deriving DecidableEq, Repr

/-- Planned failures, queued flows and call counts. -/
structure FaultPlan where
  failures : List (Call × Failure)
  queued : List (String × List Flow)
  counts : List (Call × Nat)
  deriving Inhabited

namespace FaultPlan

/-- No faults, no calls. -/
def empty : FaultPlan := ⟨[], [], []⟩

/-- Plans a failure of a call, replacing an earlier plan for it. -/
def plan (p : FaultPlan) (c : Call) (f : Failure) : FaultPlan :=
  { p with failures := (c, f) :: p.failures.filter (·.1 != c) }

/-- Queues a flow on a metadata method. -/
def enqueue (p : FaultPlan) (method : String) (f : Flow) : FaultPlan :=
  let old := ((p.queued.find? (·.1 == method)).map (·.2)).getD []
  { p with queued := (method, old ++ [f]) :: p.queued.filter (·.1 != method) }

/-- Drops all planned failures and queued flows. -/
def clear (p : FaultPlan) : FaultPlan := { p with failures := [], queued := [] }

/-- How many times a call was made. -/
def count (p : FaultPlan) (c : Call) : Nat := ((p.counts.find? (·.1 == c)).map (·.2)).getD 0

/-- Counts one call. -/
def tally (p : FaultPlan) (c : Call) : FaultPlan :=
  { p with counts := (c, p.count c + 1) :: p.counts.filter (·.1 != c) }

/-- The error planned for the next call, with the plan after that call. -/
def next (p : FaultPlan) (c : Call) : Option RegistryError × FaultPlan :=
  match p.failures.find? (·.1 == c) with
  | none => (none, p)
  | some (_, f) =>
    let others := p.failures.filter (·.1 != c)
    match f.left with
    | none => (some f.error, p)
    | some 0 => (none, { p with failures := others })
    | some (n + 1) => (some f.error, { p with failures := (c, { f with left := some n }) :: others })

/-- How many calls the planned failures that end will still fail. -/
def pending (p : FaultPlan) : Nat :=
  (p.failures.map fun (_, f) => f.left.getD 0).foldr (· + ·) 0

/-- How many flows are queued, on all metadata methods together. -/
def queuedFlows (p : FaultPlan) : Nat := (p.queued.map fun q => q.2.length).foldr (· + ·) 0

/-- The next flow queued on a metadata method, with the plan after taking it. -/
def dequeue (p : FaultPlan) (method : String) : Option Flow × FaultPlan :=
  match p.queued.find? (·.1 == method) with
  | some (_, f :: rest) =>
    (some f, { p with queued := (method, rest) :: p.queued.filter (·.1 != method) })
  | _ => (none, p)

end FaultPlan

end FlowRegistry
