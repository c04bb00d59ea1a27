import FlowRegistry.Model.Catalog

/-!
# Flow contents

The contents of a flow snapshot: a tree of process groups, each holding processors, child
groups, connections between components, and variables; beside the tree, named parameter
contexts. Maps (processor properties, group variables, parameter contexts) are lists sorted by
key with one entry per key.

`ProcessGroup.beq` and `Snapshot.beq` compare contents field by field.
-/

namespace FlowRegistry

/-- A processor of a flow. -/
structure Processor where
  identifier : String
  name : String
  processorType : String
  properties : List (String × String)
  schedulingPeriod : Option String
  deriving DecidableEq, Repr

/-- A connection from one component to another. -/
structure Connection where
  identifier : String
  sourceId : String
  destinationId : String
  selectedRelationships : List String
  deriving DecidableEq, Repr

/-- A process group and everything nested inside it. -/
structure ProcessGroup where
  identifier : String
  name : String
  comments : Option String
  processors : List Processor
  processGroups : List ProcessGroup
  connections : List Connection
  /-- The group's variables, by name. -/
  vars : List (String × String)

/-- A parameter of a parameter context. -/
structure Parameter where
  name : String
  value : Option String
  sensitive : Bool
  deriving DecidableEq, Repr

/-- A named set of parameters. -/
structure ParameterContext where
  name : String
  description : Option String
  parameters : List Parameter
  deriving DecidableEq, Repr

/-- One immutable version of a flow's contents. -/
structure Snapshot where
  snapshotMetadata : SnapshotMeta
  flowContents : ProcessGroup
  parameterContexts : List (String × ParameterContext)

mutual

/-- Whether two process groups are equal, field by field. -/
def ProcessGroup.beq : ProcessGroup → ProcessGroup → Bool
  | ⟨i, n, c, ps, gs, cs, vs⟩, ⟨i', n', c', ps', gs', cs', vs'⟩ =>
    i == i' && n == n' && c == c' && ps == ps' && ProcessGroup.beqList gs gs' && cs == cs' &&
      vs == vs'

/-- Whether two lists of process groups are equal, group by group. -/
def ProcessGroup.beqList : List ProcessGroup → List ProcessGroup → Bool
  | [], [] => true
  | g :: gs, g' :: gs' => ProcessGroup.beq g g' && ProcessGroup.beqList gs gs'
  | _, _ => false

end

instance : BEq ProcessGroup := ⟨ProcessGroup.beq⟩

/-- Whether two snapshots are equal, field by field. -/
def Snapshot.beq (a b : Snapshot) : Bool :=
  a.snapshotMetadata == b.snapshotMetadata && a.flowContents == b.flowContents &&
    a.parameterContexts == b.parameterContexts

instance : BEq Snapshot := ⟨Snapshot.beq⟩

end FlowRegistry
