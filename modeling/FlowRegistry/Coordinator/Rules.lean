import FlowRegistry.Revision.Manager
import FlowRegistry.Text.Blank

/-!
# Rules the coordinator checks before it changes anything

Names are trimmed of blanks and must then be non-empty and at most 1000 characters long;
descriptions and comments are at most 4096 characters long. The claim presented when an entity
is created may leave its entity id empty, and is then bound to the new entity.

The requests of this module say what a caller asks for; the coordinator stamps the times.
-/

namespace FlowRegistry

namespace Coordinator

/-- The longest name, in characters. -/
def maxNameLength : Nat := 1000

/-- The longest description, in characters. -/
def maxDescriptionLength : Nat := 4096

/-- How many times a bucket delete lists the bucket's children before it gives up. -/
def bucketDeletePasses : Nat := 3

/-- Refuses a blank name or one that is too long once trimmed. -/
def validateName (kind name : String) : Outcome Unit :=
  let trimmed := Text.trim name
  if trimmed = "" then .error (.invalidInput s!"{kind} name cannot be blank")
  else if maxNameLength < trimmed.length then
    .error (.invalidInput s!"{kind} name exceeds {maxNameLength} characters")
  else .ok ()

/-- Refuses a description that is too long. -/
def validateDescription : Option String → Outcome Unit
  | some d =>
    if maxDescriptionLength < d.length then
      .error (.invalidInput s!"description exceeds {maxDescriptionLength} characters")
    else .ok ()
  | none => .ok ()

/-- The claim of a creation, bound to the new entity: its entity id must be empty or the new
entity's. -/
def bindClaim (entityId : String) (claimed : Revision) : Outcome Revision :=
  if claimed.entityId ≠ "" ∧ claimed.entityId ≠ entityId then
    .error (.invalidRevision s!"revision for {claimed.entityId} presented when creating {entityId}")
  else .ok ⟨entityId, claimed.version, claimed.clientId⟩

/-- The outcome of a change made by `user`. -/
def modified {α : Type} (entity : α) (revision : Revision) (user : String) : Modified α :=
  ⟨entity, ⟨revision, user⟩⟩

/-- A request for a new bucket. -/
structure BucketRequest where
  identifier : Uuid
  name : String
  description : Option String
  allowBundleRedeploy : Bool
  allowPublicRead : Bool
  deriving DecidableEq, Repr

/-- A change to a bucket; absent fields are left as they are. -/
structure BucketChange where
  name : Option String
  description : Option String
  allowBundleRedeploy : Option Bool
  allowPublicRead : Option Bool
  deriving DecidableEq, Repr

/-- A request for a new flow. -/
structure FlowRequest where
  identifier : Uuid
  bucketIdentifier : Uuid
  name : String
  description : Option String
  deriving DecidableEq, Repr

/-- A change to a flow; absent fields are left as they are. -/
structure FlowChange where
  name : Option String
  description : Option String
  deriving DecidableEq, Repr

/-- A request for the next snapshot of a flow. -/
structure SnapshotRequest where
  version : Nat
  comments : Option String
  flowContents : ProcessGroup
  parameterContexts : List (String × ParameterContext)

/-- A request for a new extension bundle. -/
structure BundleRequest where
  identifier : Uuid
  bucketIdentifier : Uuid
  bundleType : BundleKind
  groupId : String
  artifactId : String
  description : Option String
  deriving DecidableEq, Repr

theorem bindClaim_empty (entityId : String) (version : Nat) (clientId : String) :
    bindClaim entityId ⟨"", version, clientId⟩ = .ok ⟨entityId, version, clientId⟩ := by
  simp [bindClaim]

end Coordinator

end FlowRegistry
