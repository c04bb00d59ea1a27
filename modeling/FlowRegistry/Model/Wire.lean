import FlowRegistry.Model.Flow
import FlowRegistry.Json.Shape.Value

/-!
# The wire form of the model

Each model type has a `Wire` instance: its JSON shape (camelCase field names, the processor type
under `"type"`, bundle kinds in kebab case, instants in RFC 3339, UUIDs hyphenated) and the two
conversions between its values and data of that shape. Optional fields are left out when absent
and take their default when missing; flags, lists and maps take theirs when missing.

`Wire.toJson`, `Wire.ofText` and `Wire.ofJson` write and read any model value through its shape.
-/

namespace FlowRegistry

open Json

/-- A type with a JSON wire form. -/
class Wire (α : Type) where
  shape : Shape
  toDatum : α → Datum
  ofDatum? : Datum → Option α

/-! ### Reading the parts of a datum -/

namespace Json.Datum

/-- The string of a text datum. -/
def text? : Datum → Option String
  | .text s => Option.some s
  | _ => Option.none

/-- The UUID of a UUID datum. -/
def uuid? : Datum → Option Uuid
  | .uuid u => Option.some u
  | _ => Option.none

/-- The instant of an instant datum. -/
def instant? : Datum → Option Time.Instant
  | .instant t => Option.some t
  | _ => Option.none

/-- The number of a word datum. -/
def word? : Datum → Option Nat
  | .word n => Option.some n
  | _ => Option.none

/-- The boolean of a flag datum. -/
def flag? : Datum → Option Bool
  | .flag b => Option.some b
  | _ => Option.none

/-- An optional value read with `f`: `none` when absent, nothing when `f` fails. -/
def option? {α : Type} (f : Datum → Option α) : Datum → Option (Option α)
  | .none => Option.some Option.none
  | .some d => (f d).map Option.some
  | _ => Option.none

/-- The items of a list datum, each read with `f`. -/
def list? {α : Type} (f : Datum → Option α) : Datum → Option (List α)
  | .list ds => ds.mapM f
  | _ => Option.none

/-- The entries of a map of strings. -/
def texts? : Datum → Option (List (String × String))
  | .dict kvs => kvs.mapM fun (k, d) => (d.text?).map (k, ·)
  | _ => Option.none

/-- The optional string of a datum. -/
def optText (o : Option String) : Datum :=
  match o with
  | Option.none => .none
  | Option.some s => .some (.text s)

/-- A map of strings as a datum. -/
def ofTexts (kvs : List (String × String)) : Datum := .dict (kvs.map fun (k, v) => (k, .text v))

end Json.Datum

/-! ### Revisions -/

instance : Wire Revision where
  shape := .record "Revision"
    [.needed "entityId" .text, .needed "version" .word64, .needed "clientId" .text]
  toDatum r := .record [.text r.entityId, .word r.version, .text r.clientId]
  ofDatum?
    | .record [e, v, c] => do pure ⟨← e.text?, ← v.word?, ← c.text?⟩
    | _ => none

instance : Wire Modification where
  shape := .record "EntityModification"
    [.needed "revision" (Wire.shape Revision), .needed "lastModifier" .text]
  toDatum m := .record [Wire.toDatum m.revision, .text m.lastModifier]
  ofDatum?
    | .record [r, l] => do pure ⟨← Wire.ofDatum? r, ← l.text?⟩
    | _ => none

/-! ### Buckets, flows and bundles -/

instance : Wire Bucket where
  shape := .record "Bucket"
    [.needed "identifier" .uuid, .needed "name" .text, .omitted "description" .text,
     .needed "createdTimestamp" .instant, .defaulted "allowBundleRedeploy" .flag,
     .defaulted "allowPublicRead" .flag]
  toDatum b := .record [.uuid b.identifier, .text b.name, Datum.optText b.description,
    .instant b.createdTimestamp, .flag b.allowBundleRedeploy, .flag b.allowPublicRead]
  ofDatum?
    | .record [i, n, d, c, r, p] => do
      pure ⟨← i.uuid?, ← n.text?, ← d.option? Datum.text?, ← c.instant?, ← r.flag?, ← p.flag?⟩
    | _ => none

instance : Wire Flow where
  shape := .record "VersionedFlow"
    [.needed "identifier" .uuid, .needed "name" .text, .omitted "description" .text,
     .needed "bucketIdentifier" .uuid, .needed "createdTimestamp" .instant,
     .needed "modifiedTimestamp" .instant, .needed "versionCount" .word32]
  toDatum f := .record [.uuid f.identifier, .text f.name, Datum.optText f.description,
    .uuid f.bucketIdentifier, .instant f.createdTimestamp, .instant f.modifiedTimestamp,
    .word f.versionCount]
  ofDatum?
    | .record [i, n, d, b, c, m, v] => do
      pure ⟨← i.uuid?, ← n.text?, ← d.option? Datum.text?, ← b.uuid?, ← c.instant?, ← m.instant?,
        ← v.word?⟩
    | _ => none

instance : Wire SnapshotMeta where
  shape := .record "FlowSnapshotMetadata"
    [.needed "bucketIdentifier" .uuid, .needed "flowIdentifier" .uuid, .needed "version" .word32,
     .needed "timestamp" .instant, .needed "author" .text, .omitted "comments" .text]
  toDatum m := .record [.uuid m.bucketIdentifier, .uuid m.flowIdentifier, .word m.version,
    .instant m.timestamp, .text m.author, Datum.optText m.comments]
  ofDatum?
    | .record [b, f, v, t, a, c] => do
      pure ⟨← b.uuid?, ← f.uuid?, ← v.word?, ← t.instant?, ← a.text?, ← c.option? Datum.text?⟩
    | _ => none

/-- A snapshot number on its own, written as a bare number. -/
structure SnapshotNumber where
  value : Nat

instance : Wire SnapshotNumber where
  shape := .word32
  toDatum n := .word n.value
  ofDatum?
    | .word n => some ⟨n⟩
    | _ => none

/-- The kind of a bundle by its position among `BundleKind.names`. -/
def BundleKind.ofIndex? : Nat → Option BundleKind
  | 0 => some .nifiNar
  | 1 => some .minifiCpp
  | _ => none

/-- The position of a bundle kind among `BundleKind.names`. -/
def BundleKind.index : BundleKind → Nat
  | .nifiNar => 0
  | .minifiCpp => 1

instance : Wire BundleKind where
  shape := .choice BundleKind.names
  toDatum k := .choice k.index
  ofDatum?
    | .choice i => BundleKind.ofIndex? i
    | _ => none

instance : Wire Bundle where
  shape := .record "ExtensionBundle"
    [.needed "identifier" .uuid, .needed "bucketIdentifier" .uuid,
     .needed "bundleType" (Wire.shape BundleKind), .needed "groupId" .text,
     .needed "artifactId" .text, .omitted "description" .text,
     .needed "createdTimestamp" .instant, .needed "modifiedTimestamp" .instant,
     .needed "versionCount" .word32]
  toDatum b := .record [.uuid b.identifier, .uuid b.bucketIdentifier, Wire.toDatum b.bundleType,
    .text b.groupId, .text b.artifactId, Datum.optText b.description,
    .instant b.createdTimestamp, .instant b.modifiedTimestamp, .word b.versionCount]
  ofDatum?
    | .record [i, bk, k, g, a, d, c, m, v] => do
      pure ⟨← i.uuid?, ← bk.uuid?, ← Wire.ofDatum? k, ← g.text?, ← a.text?,
        ← d.option? Datum.text?, ← c.instant?, ← m.instant?, ← v.word?⟩
    | _ => none

instance : Wire BundleVersion where
  shape := .record "BundleVersionMetadata"
    [.needed "bundleIdentifier" .uuid, .needed "version" .text, .needed "sha256" .text,
     .needed "contentSize" .word64, .needed "author" .text, .needed "timestamp" .instant]
  toDatum v := .record [.uuid v.bundleIdentifier, .text v.version, .text v.sha256,
    .word v.contentSize, .text v.author, .instant v.timestamp]
  ofDatum?
    | .record [b, v, s, c, a, t] => do
      pure ⟨← b.uuid?, ← v.text?, ← s.text?, ← c.word?, ← a.text?, ← t.instant?⟩
    | _ => none

/-! ### Flow contents -/

instance : Wire Processor where
  shape := .record "VersionedProcessor"
    [.needed "identifier" .text, .needed "name" .text, .needed "type" .text,
     .defaulted "properties" (.dict .text), .omitted "schedulingPeriod" .text]
  toDatum p := .record [.text p.identifier, .text p.name, .text p.processorType,
    Datum.ofTexts p.properties, Datum.optText p.schedulingPeriod]
  ofDatum?
    | .record [i, n, t, p, s] => do
      pure ⟨← i.text?, ← n.text?, ← t.text?, ← p.texts?, ← s.option? Datum.text?⟩
    | _ => none

instance : Wire Connection where
  shape := .record "VersionedConnection"
    [.needed "identifier" .text, .needed "sourceId" .text, .needed "destinationId" .text,
     .defaulted "selectedRelationships" (.list .text)]
  toDatum c := .record [.text c.identifier, .text c.sourceId, .text c.destinationId,
    .list (c.selectedRelationships.map .text)]
  ofDatum?
    | .record [i, s, d, r] => do
      pure ⟨← i.text?, ← s.text?, ← d.text?, ← r.list? Datum.text?⟩
    | _ => none

/-- The shape of a process group. -/
def ProcessGroup.shape : Shape := .record "VersionedProcessGroup"
  [.needed "identifier" .text, .needed "name" .text, .omitted "comments" .text,
   .defaulted "processors" (.list (Wire.shape Processor)), .defaulted "processGroups" (.list .recur),
   .defaulted "connections" (.list (Wire.shape Connection)), .defaulted "variables" (.dict .text)]

mutual

/-- A process group as a datum. -/
def ProcessGroup.toDatum : ProcessGroup → Datum
  | ⟨i, n, c, ps, gs, cs, vs⟩ =>
    .record [.text i, .text n, Datum.optText c, .list (ps.map Wire.toDatum),
      .list (ProcessGroup.listToDatum gs), .list (cs.map Wire.toDatum), Datum.ofTexts vs]

/-- Process groups as data. -/
def ProcessGroup.listToDatum : List ProcessGroup → List Datum
  | [] => []
  | g :: gs => ProcessGroup.toDatum g :: ProcessGroup.listToDatum gs

end

mutual

/-- The process group of a datum. -/
def ProcessGroup.ofDatum? : Datum → Option ProcessGroup
  | .record [i, n, c, .list ps, .list gs, cs, vs] => do
    pure ⟨← i.text?, ← n.text?, ← c.option? Datum.text?, ← ps.mapM Wire.ofDatum?,
      ← ProcessGroup.listOfDatum? gs, ← cs.list? Wire.ofDatum?, ← vs.texts?⟩
  | _ => none

/-- The process groups of a list of data. -/
def ProcessGroup.listOfDatum? : List Datum → Option (List ProcessGroup)
  | [] => some []
  | d :: ds => do pure ((← ProcessGroup.ofDatum? d) :: (← ProcessGroup.listOfDatum? ds))

end

instance : Wire ProcessGroup where
  shape := ProcessGroup.shape
  toDatum := ProcessGroup.toDatum
  ofDatum? := ProcessGroup.ofDatum?

instance : Wire Parameter where
  shape := .record "VersionedParameter"
    [.needed "name" .text, .omitted "value" .text, .defaulted "sensitive" .flag]
  toDatum p := .record [.text p.name, Datum.optText p.value, .flag p.sensitive]
  ofDatum?
    | .record [n, v, s] => do pure ⟨← n.text?, ← v.option? Datum.text?, ← s.flag?⟩
    | _ => none

instance : Wire ParameterContext where
  shape := .record "VersionedParameterContext"
    [.needed "name" .text, .omitted "description" .text,
     .defaulted "parameters" (.list (Wire.shape Parameter))]
  toDatum c := .record [.text c.name, Datum.optText c.description,
    .list (c.parameters.map Wire.toDatum)]
  ofDatum?
    | .record [n, d, ps] => do
      pure ⟨← n.text?, ← d.option? Datum.text?, ← ps.list? Wire.ofDatum?⟩
    | _ => none

instance : Wire Snapshot where
  shape := .record "FlowSnapshot"
    [.needed "snapshotMetadata" (Wire.shape SnapshotMeta),
     .needed "flowContents" (Wire.shape ProcessGroup),
     .defaulted "parameterContexts" (.dict (Wire.shape ParameterContext))]
  toDatum s := .record [Wire.toDatum s.snapshotMetadata, Wire.toDatum s.flowContents,
    .dict (s.parameterContexts.map fun (k, c) => (k, Wire.toDatum c))]
  ofDatum?
    | .record [m, g, .dict cs] => do
      pure ⟨← Wire.ofDatum? m, ← Wire.ofDatum? g,
        ← cs.mapM fun (k, d) => (Wire.ofDatum? d).map (k, ·)⟩
    | _ => none

/-! ### Reading and writing -/

namespace Wire

variable {α : Type} [Wire α]

/-- The JSON value of a model value. -/
def toJson (x : α) : Json := (toDatum x).write (shape α)

/-- The compact JSON text of a model value. -/
def bytes (x : α) : Bytes := Json.bytes (toJson x)

/-- The fault for a datum that does not fit the model type; the readers never produce one. -/
def unfit : Mismatch := .custom "value does not fit its type"

/-- Reads a model value from JSON text. -/
def ofText (input : Bytes) : Except ReadError α := do
  let d ← Datum.ofText (shape α) input
  match ofDatum? d with
  | some x => pure x
  | none => throw (mismatch unfit)

/-- Reads a model value from a JSON value. -/
def ofJson (j : Json) : Except Mismatch α := do
  let d ← Datum.read (shape α) j
  match ofDatum? d with
  | some x => pure x
  | none => throw unfit

end Wire

end FlowRegistry
