import FlowRegistry.Format.Legacy

/-!
# The current snapshot format (data model version 2)

Version 2 writes a snapshot as the JSON of its wire form (camelCase fields, parameter contexts
and group variables included), after checking its graph. The table of snapshot codecs holds
both formats for the magic `Flows` and writes version 2.
-/

namespace FlowRegistry.Format

/-- Writes the body of a snapshot in the current format. -/
def encodeCurrent (s : Snapshot) : Outcome Bytes := do
  s.flowContents.checkGraph
  pure (Wire.bytes s)

/-- Reads the body of a snapshot in the current format. -/
def decodeCurrent (body : Bytes) : Outcome Snapshot :=
  match Wire.ofText body with
  | .ok s => .ok s
  | .error e => .error (.serialization (e.message body))

/-- The codec of the current format. -/
def currentCodec : Codec Snapshot := ⟨2, encodeCurrent, decodeCurrent⟩

/-- The magic of snapshot payloads. -/
def snapshotMagic : Bytes := Text.encode "Flows"

/-- The data model version new snapshots are written with. -/
def currentSnapshotVersion : Nat := 2

/-- The snapshot codecs of a given version. -/
def snapshotCodec? : Nat → Option (Codec Snapshot)
  | 1 => some legacyCodec
  | 2 => some currentCodec
  | _ => none

/-- The table of snapshot codecs: both formats, writing the current one. -/
def snapshotTable : CodecTable Snapshot :=
  ⟨snapshotMagic, some currentSnapshotVersion, [legacyCodec, currentCodec]⟩

end FlowRegistry.Format
