/-!
# Registry errors

Every operation of the registry fails with one of these causes. `RegistryError.message` gives
the wording, `status` the HTTP status an upstream handler answers with, and `retryable` says
whether re-reading the current revision and trying again can succeed: only for a stale claim.

`overflow` is not a cause a caller can act on: a counter that has reached its largest value was
asked for the next one, and the operation stops there. `deadlock` is no answer at all: the call
asked for an entity lock it already holds and waits for ever; the model stops it there.
-/

namespace FlowRegistry

/-- Why an operation of the registry failed. -/
inductive RegistryError where
  /-- The entity is unknown to the registry. -/
  | notFound (what : String)
  /-- The claimed revision no longer matches the stored one. -/
  | staleRevision (entityId : String) (claimed current : Nat)
  /-- A create met a live id or name. -/
  | alreadyExists (what : String)
  /-- A payload is stamped with a data model version no codec is registered for. -/
  | unsupportedVersion (version : Nat) (supported : List Nat)
  /-- Malformed bytes or a value that cannot be encoded. -/
  | serialization (text : String)
  /-- A storage collaborator failed. -/
  | persistence (text : String)
  /-- The revision given is not acceptable for the operation. -/
  | invalidRevision (text : String)
  | invalidInput (text : String)
  | config (text : String)
  | internal (text : String)
  /-- A counter was asked to pass its largest value. -/
  | overflow
  /-- The call waits for ever for the entity lock of an id whose lock it holds. -/
  | deadlock (entityId : String)
  deriving DecidableEq, Repr

namespace RegistryError

/-- A list of numbers in brackets, separated by a comma and a space. -/
def numberList (xs : List Nat) : String :=
  "[" ++ ", ".intercalate (xs.map toString) ++ "]"

/-- The wording of an error. -/
def message : RegistryError → String
  | .notFound w => "Not found: " ++ w
  | .staleRevision e c k => s!"Stale revision for {e}: claimed version {c} but current version is {k}"
  | .alreadyExists w => "Already exists: " ++ w
  | .unsupportedVersion v vs => s!"Unsupported data model version {v} (supported: {numberList vs})"
  | .serialization t => "Serialization error: " ++ t
  | .persistence t => "Persistence error: " ++ t
  | .invalidRevision t => "Invalid revision: " ++ t
  | .invalidInput t => "Invalid input: " ++ t
  | .config t => "Configuration error: " ++ t
  | .internal t => "Internal error: " ++ t
  | .overflow => "attempt to add with overflow"
  | .deadlock e => s!"waiting for the entity lock of {e}, which the call already holds"

/-- The name of the kind of an error. -/
def kind : RegistryError → String
  | .notFound _ => "NotFound"
  | .staleRevision .. => "StaleRevision"
  | .alreadyExists _ => "AlreadyExists"
  | .unsupportedVersion .. => "UnsupportedDataModelVersion"
  | .serialization _ => "Serialization"
  | .persistence _ => "Persistence"
  | .invalidRevision _ => "InvalidRevision"
  | .invalidInput _ => "InvalidInput"
  | .config _ => "Config"
  | .internal _ => "Internal"
  | .overflow => "Panic"
  | .deadlock _ => "Deadlock"

/-- The HTTP status an upstream handler answers with. -/
def status : RegistryError → Nat
  | .notFound _ => 404
  | .staleRevision .. | .alreadyExists _ => 409
  | .serialization _ | .invalidRevision _ | .invalidInput _ => 400
  | _ => 500

/-- Whether an error is a panic: the task that meets it is torn down, and with it every task
racing beside it. -/
def isPanic : RegistryError → Bool
  | .overflow => true
  | _ => false

/-- Whether re-reading the current revision and retrying can succeed. -/
def retryable : RegistryError → Bool
  | .staleRevision .. => true
  | _ => false

theorem retryable_iff (e : RegistryError) :
    e.retryable = true ↔ ∃ id c k, e = .staleRevision id c k := by
  cases e <;> simp [retryable]

end RegistryError

/-- Results of registry operations. -/
abbrev Outcome (α : Type) := Except RegistryError α

end FlowRegistry
