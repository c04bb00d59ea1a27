import FlowRegistry.Model.Wire
import FlowRegistry.Text.Blank
import FlowRegistry.Text.Case

/-!
# Settings of a registry

A registry is configured by environment variables, read through a lookup that answers the value
of a variable if it is set:

* `FLOWREG_PERSISTENCE_PROVIDER`: where content is kept, `filesystem` (the default) or `memory`;
* `FLOWREG_STORAGE_DIR`: the root directory of the filesystem store, `./flow_storage` by default;
* `FLOWREG_VALIDATE_STORAGE`: whether the filesystem store is checked at start, `true` by default.

A variable that is not set takes its default; one that is set but malformed is refused, not
ignored. Logging is configured by `LOG_FORMAT`, `LOG_FILE` and `LOG_ANSI`, which are never
refused.
-/

namespace FlowRegistry

/-- Where content is kept. -/
inductive Backend where
  | filesystem
  | memory
  deriving DecidableEq, Repr

namespace Backend

/-- The names of the backends, in order. -/
def names : List String := ["filesystem", "memory"]

/-- How a backend is named. -/
def name : Backend → String
  | .filesystem => "filesystem"
  | .memory => "memory"

/-- Reads a backend from text: blanks around it and case do not matter, and `file` names the
filesystem. -/
def parse (s : String) : Outcome Backend :=
  match Text.toLower (Text.trim s) with
  | "filesystem" | "file" => .ok .filesystem
  | "memory" => .ok .memory
  | _ => .error (.config s!"unknown persistence provider '{s}', expected 'filesystem' or 'memory'")

end Backend

instance : Wire Backend where
  shape := .choice Backend.names
  toDatum
    | .filesystem => .choice 0
    | .memory => .choice 1
  ofDatum?
    | .choice 0 => some .filesystem
    | .choice 1 => some .memory
    | _ => none

/-- The variable naming the backend. -/
def envPersistence : String := "FLOWREG_PERSISTENCE_PROVIDER"

/-- The variable naming the storage directory. -/
def envStorageDir : String := "FLOWREG_STORAGE_DIR"

/-- The variable saying whether to check the store at start. -/
def envValidateStorage : String := "FLOWREG_VALIDATE_STORAGE"

/-- The settings needed to assemble a registry. -/
structure RegistryConfig where
  persistence : Backend
  storageDir : String
  validateStorage : Bool
  deriving DecidableEq, Repr

/-- Reads a flag: blanks around it and case do not matter. -/
def parseFlag (key value : String) : Outcome Bool :=
  match Text.toLower (Text.trim value) with
  | "true" | "1" | "yes" | "on" => .ok true
  | "false" | "0" | "no" | "off" => .ok false
  | _ => .error (.config s!"{key} must be a boolean, got '{value}'")

namespace RegistryConfig

/-- The settings when no variable is set. -/
def default : RegistryConfig := ⟨.filesystem, "./flow_storage", true⟩

/-- Refuses a filesystem store without a directory. -/
def validate (c : RegistryConfig) : Outcome Unit :=
  if c.persistence = .filesystem ∧ c.storageDir = "" then
    .error (.config s!"{envStorageDir} cannot be empty when the filesystem provider is selected")
  else .ok ()

/-- Reads the settings through a lookup of variables, then validates them. -/
def ofLookup (lookup : String → Option String) : Outcome RegistryConfig := do
  let persistence ← match lookup envPersistence with
    | some v => Backend.parse v
    | none => pure default.persistence
  let storageDir := (lookup envStorageDir).getD default.storageDir
  let validateStorage ← match lookup envValidateStorage with
    | some v => parseFlag envValidateStorage v
    | none => pure default.validateStorage
  let c : RegistryConfig := ⟨persistence, storageDir, validateStorage⟩
  c.validate
  pure c

/-- With no variable set, the settings are the defaults. -/
theorem ofLookup_none : ofLookup (fun _ => none) = .ok default := rfl

end RegistryConfig

/-- How the registry logs. -/
structure LogSettings where
  /-- Whether records are written as JSON. -/
  json : Bool
  /-- The file records go to, if any. -/
  file : Option String
  /-- Whether colours are forced on or off. -/
  ansi : Option Bool
  deriving DecidableEq, Repr

/-- Whether two strings are equal when ASCII letters are compared without case. -/
def sameAsciiCase (a b : String) : Bool :=
  a.length == b.length && (a.toList.zip b.toList).all fun (x, y) => x.toLower == y.toLower

namespace LogSettings

/-- Reads the log settings through a lookup of variables. -/
def ofLookup (lookup : String → Option String) : LogSettings :=
  ⟨((lookup "LOG_FORMAT").map (sameAsciiCase · "json")).getD false,
   (lookup "LOG_FILE").filter (· != ""),
   (lookup "LOG_ANSI").map fun v => v == "true" || v == "1"⟩

/-- The name of the record format. -/
def formatName (s : LogSettings) : String := if s.json then "json" else "text"

end LogSettings

end FlowRegistry
