import FlowRegistry.Model.Revision
import FlowRegistry.Ident.Uuid
import FlowRegistry.Time.Instant

/-!
# Buckets, flows and bundles

A bucket is a namespace that holds flows and extension bundles. A flow is a named, versioned
dataflow whose contents are kept as numbered, immutable snapshots; a bundle is an extension
(group and artifact) whose uploaded versions are kept by version string.

Snapshot numbers, starting at 1, and a bundle's count of versions are unsigned 32-bit words; the
one after the largest is an `overflow`.
-/

namespace FlowRegistry

open Time

/-- A namespace grouping flows and extension bundles. -/
structure Bucket where
  identifier : Uuid
  name : String
  description : Option String
  createdTimestamp : Instant
  allowBundleRedeploy : Bool
  allowPublicRead : Bool
  deriving DecidableEq, Repr

/-- A named, versioned dataflow living in a bucket. -/
structure Flow where
  identifier : Uuid
  name : String
  description : Option String
  bucketIdentifier : Uuid
  createdTimestamp : Instant
  modifiedTimestamp : Instant
  versionCount : Nat
  deriving DecidableEq, Repr

/-- The largest unsigned 32-bit word. -/
def maxWord32 : Nat := Nat.pow 2 32 - 1

/-- The unsigned 32-bit word after `n`. -/
def nextWord32 (n : Nat) : Outcome Nat :=
  if n < maxWord32 then .ok (n + 1) else .error .overflow

theorem nextWord32_of_lt {n : Nat} (h : n < maxWord32) : nextWord32 n = .ok (n + 1) := if_pos h

theorem nextWord32_of_le {n : Nat} (h : maxWord32 ≤ n) : nextWord32 n = .error .overflow :=
  if_neg (Nat.not_lt.2 h)

/-- The number of the first snapshot of a flow. -/
def firstSnapshotVersion : Nat := 1

/-- The snapshot number after `v`. -/
def nextSnapshotVersion (v : Nat) : Outcome Nat := nextWord32 v

/-- What is recorded about one stored snapshot of a flow. -/
structure SnapshotMeta where
  bucketIdentifier : Uuid
  flowIdentifier : Uuid
  version : Nat
  timestamp : Instant
  author : String
  comments : Option String
  deriving DecidableEq, Repr

/-- The packaging format of an extension bundle. -/
inductive BundleKind where
  | nifiNar
  | minifiCpp
  deriving DecidableEq, Repr

/-- The names of the bundle kinds, in declaration order. -/
def BundleKind.names : List String := ["nifi-nar", "minifi-cpp"]

/-- The name of a bundle kind. -/
def BundleKind.name : BundleKind → String
  | .nifiNar => "nifi-nar"
  | .minifiCpp => "minifi-cpp"

/-- An extension bundle (group and artifact) living in a bucket. -/
structure Bundle where
  identifier : Uuid
  bucketIdentifier : Uuid
  bundleType : BundleKind
  groupId : String
  artifactId : String
  description : Option String
  createdTimestamp : Instant
  modifiedTimestamp : Instant
  versionCount : Nat
  deriving DecidableEq, Repr

/-- What is recorded about one uploaded version of an extension bundle. -/
structure BundleVersion where
  bundleIdentifier : Uuid
  version : String
  sha256 : String
  contentSize : Nat
  author : String
  timestamp : Instant
  deriving DecidableEq, Repr

end FlowRegistry
