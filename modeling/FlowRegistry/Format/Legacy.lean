import FlowRegistry.Format.Codec
import FlowRegistry.Format.Graph
import FlowRegistry.Model.Wire

/-!
# The legacy snapshot format (data model version 1)

Version 1 wrote snapshots as JSON with snake_case fields: the metadata under `metadata`
(`bucket_id`, `flow_id`, ...), the process group tree under `flow_contents` with `id`,
`child_groups`, processors' types under `class`, and connection endpoints as `source` and
`destination`. Absent optional fields are written as `null`. It has no parameter contexts and no
group variables: writing a snapshot that has either fails, and reading gives a snapshot with none.
-/

namespace FlowRegistry.Format

open Json

/-- The legacy shape of a processor. -/
def legacyProcessorShape : Shape := .record "ProcessorV1"
  [.needed "id" .text, .needed "name" .text, .needed "class" .text,
   .defaulted "properties" (.dict .text), .defaulted "scheduling_period" (.optional .text)]

/-- The legacy shape of a connection. -/
def legacyConnectionShape : Shape := .record "ConnectionV1"
  [.needed "id" .text, .needed "source" .text, .needed "destination" .text,
   .defaulted "relationships" (.list .text)]

/-- The legacy shape of a process group. -/
def legacyGroupShape : Shape := .record "GroupV1"
  [.needed "id" .text, .needed "name" .text, .defaulted "comments" (.optional .text),
   .defaulted "processors" (.list legacyProcessorShape), .defaulted "child_groups" (.list .recur),
   .defaulted "connections" (.list legacyConnectionShape)]

/-- The legacy shape of snapshot metadata. -/
def legacyMetaShape : Shape := .record "MetadataV1"
  [.needed "bucket_id" .uuid, .needed "flow_id" .uuid, .needed "version" .word32,
   .needed "timestamp" .instant, .needed "author" .text, .defaulted "comments" (.optional .text)]

/-- The legacy shape of a snapshot. -/
def legacySnapshotShape : Shape := .record "SnapshotV1"
  [.needed "metadata" legacyMetaShape, .needed "flow_contents" legacyGroupShape]

/-- A processor in the legacy form. -/
def legacyProcessor (p : Processor) : Datum :=
  .record [.text p.identifier, .text p.name, .text p.processorType, Datum.ofTexts p.properties,
    Datum.optText p.schedulingPeriod]

/-- A connection in the legacy form. -/
def legacyConnection (c : Connection) : Datum :=
  .record [.text c.identifier, .text c.sourceId, .text c.destinationId,
    .list (c.selectedRelationships.map .text)]

mutual

/-- A process group in the legacy form; fails at the first group, in pre-order, that has
variables. -/
def legacyGroup : ProcessGroup → Outcome Datum
  | ⟨i, n, c, ps, gs, cs, vs⟩ =>
    if !vs.isEmpty then
      .error (.serialization
        s!"process group {i} declares variables, which data model version 1 cannot represent")
    else do
      let children ← legacyGroups gs
      pure (.record [.text i, .text n, Datum.optText c, .list (ps.map legacyProcessor),
        .list children, .list (cs.map legacyConnection)])

/-- Process groups in the legacy form. -/
def legacyGroups : List ProcessGroup → Outcome (List Datum)
  | [] => .ok []
  | g :: gs => do
    let d ← legacyGroup g
    let ds ← legacyGroups gs
    pure (d :: ds)

end

/-- The processor of a legacy datum. -/
def processorOfLegacy? : Datum → Option Processor
  | .record [i, n, t, p, s] => do
    pure ⟨← i.text?, ← n.text?, ← t.text?, ← p.texts?, ← s.option? Datum.text?⟩
  | _ => none

/-- The connection of a legacy datum. -/
def connectionOfLegacy? : Datum → Option Connection
  | .record [i, s, d, r] => do pure ⟨← i.text?, ← s.text?, ← d.text?, ← r.list? Datum.text?⟩
  | _ => none

mutual

/-- The process group of a legacy datum, with no variables. -/
def groupOfLegacy? : Datum → Option ProcessGroup
  | .record [i, n, c, ps, .list gs, cs] => do
    pure ⟨← i.text?, ← n.text?, ← c.option? Datum.text?, ← ps.list? processorOfLegacy?,
      ← groupsOfLegacy? gs, ← cs.list? connectionOfLegacy?, []⟩
  | _ => none

/-- The process groups of legacy data. -/
def groupsOfLegacy? : List Datum → Option (List ProcessGroup)
  | [] => some []
  | d :: ds => do pure ((← groupOfLegacy? d) :: (← groupsOfLegacy? ds))

end

/-- Snapshot metadata in the legacy form. -/
def legacyMeta (m : SnapshotMeta) : Datum :=
  .record [.uuid m.bucketIdentifier, .uuid m.flowIdentifier, .word m.version,
    .instant m.timestamp, .text m.author, Datum.optText m.comments]

/-- The snapshot metadata of a legacy datum. -/
def metaOfLegacy? : Datum → Option SnapshotMeta
  | .record [b, f, v, t, a, c] => do
    pure ⟨← b.uuid?, ← f.uuid?, ← v.word?, ← t.instant?, ← a.text?, ← c.option? Datum.text?⟩
  | _ => none

/-- Writes the body of a snapshot in the legacy format. -/
def encodeLegacy (s : Snapshot) : Outcome Bytes := do
  s.flowContents.checkGraph
  if !s.parameterContexts.isEmpty then
    throw (.serialization "parameter contexts cannot be represented in data model version 1")
  let group ← legacyGroup s.flowContents
  let d : Datum := .record [legacyMeta s.snapshotMetadata, group]
  pure (Json.bytes (d.write legacySnapshotShape))

/-- Reads the body of a snapshot in the legacy format. -/
def decodeLegacy (body : Bytes) : Outcome Snapshot :=
  match Datum.ofText legacySnapshotShape body with
  | .error e => .error (.serialization (e.message body))
  | .ok (.record [m, g]) =>
    match metaOfLegacy? m, groupOfLegacy? g with
    | some info, some group => .ok ⟨info, group, []⟩
    | _, _ => .error (.serialization Wire.unfit.message)
  | .ok _ => .error (.serialization Wire.unfit.message)

/-- The codec of the legacy format. -/
def legacyCodec : Codec Snapshot := ⟨1, encodeLegacy, decodeLegacy⟩

end FlowRegistry.Format
