import FlowRegistry.Format.Header

/-!
# Codec tables

A codec writes and reads the body of a payload for one data model version. A codec table holds
codecs by version for one magic, and a current version that new payloads are written with.
Writing stamps the current version; reading goes by the version stamped in the payload, so
payloads written before an upgrade stay readable.

Versions start at 1, a version's codec is never replaced, and the current version never moves
back. `CodecTable.supported` lists the registered versions in ascending order.
-/

namespace FlowRegistry.Format

/-- Writes and reads the body of a payload for one data model version. -/
structure Codec (α : Type) where
  version : Nat
  encode : α → Outcome Bytes
  decode : Bytes → Outcome α

/-- Codecs by version for one magic, with the version new payloads are written with. -/
structure CodecTable (α : Type) where
  magic : Bytes
  current : Option Nat
  /-- Sorted by ascending version, one codec per version. -/
  codecs : List (Codec α)

namespace CodecTable

variable {α : Type}

/-- An empty table for payloads with a magic. -/
def empty (magic : Bytes) : CodecTable α := ⟨magic, none, []⟩

/-- The registered versions, ascending. -/
def supported (t : CodecTable α) : List Nat := t.codecs.map (·.version)

/-- The codec of a version. -/
def codecFor (t : CodecTable α) (version : Nat) : Outcome (Codec α) :=
  match t.codecs.find? (·.version == version) with
  | some c => .ok c
  | none => .error (.unsupportedVersion version t.supported)

/-- Inserts a codec into a list sorted by version. -/
def insertCodec (c : Codec α) : List (Codec α) → List (Codec α)
  | [] => [c]
  | d :: ds => if c.version < d.version then c :: d :: ds else d :: insertCodec c ds

/-- Registers a codec under its version. -/
def register (t : CodecTable α) (c : Codec α) : Outcome (CodecTable α) :=
  if c.version = 0 then .error (.invalidInput "data model versions start at 1")
  else if c.version ∈ t.supported then
    .error (.alreadyExists s!"serializer for data model version {c.version}")
  else .ok { t with codecs := insertCodec c t.codecs }

/-- Declares the version new payloads are written with. -/
def setCurrent (t : CodecTable α) (version : Nat) : Outcome (CodecTable α) :=
  if version ∉ t.supported then .error (.unsupportedVersion version t.supported)
  else
    match t.current with
    | some c =>
      if version < c then
        .error (.invalidInput
          s!"current data model version cannot move back from {c} to {version}")
      else .ok { t with current := some version }
    | none => .ok { t with current := some version }

/-- Encodes a value with the current codec and stamps its version. -/
def serialize (t : CodecTable α) (x : α) : Outcome Bytes := do
  let some version := t.current
    | throw (.internal "no current data model version declared")
  let c ← t.codecFor version
  let body ← c.encode x
  pure (writeHeader t.magic version body)

/-- Decodes a payload with the codec of its stamped version. -/
def deserialize (t : CodecTable α) (payload : Bytes) : Outcome α := do
  let (version, body) ← readHeader t.magic payload
  let c ← t.codecFor version
  c.decode body

/-- The stamped version of a payload. -/
def readVersion (t : CodecTable α) (payload : Bytes) : Outcome Nat :=
  (readHeader t.magic payload).map (·.1)

/-- A description of a table: its magic, current version and registered versions. -/
def describe (t : CodecTable α) : String :=
  let current := match t.current with
    | some v => s!"Some({v})"
    | none => "None"
  "SerializerRegistry \x7b magic: " ++ Text.quote (Text.decodeLossy t.magic) ++
    ", current_version: " ++ current ++ ", supported_versions: " ++
    RegistryError.numberList t.supported ++ " \x7d"

end CodecTable

end FlowRegistry.Format
