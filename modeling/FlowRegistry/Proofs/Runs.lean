import FlowRegistry.Proofs.Entities
import FlowRegistry.Proofs.Atomicity

/-!
# Runs of the coordinator

The operations a caller makes of the coordinator (`Operation`) are the changes of
`Coordinator.Mutation`, the three deletes, and the reads (`Query`). A run starts from empty stores
and makes one operation after another, each under a fault plan and at an instant of its own;
`Reaches allowed w` says that some run ends at `w` in which `allowed` admits every step, given the
registry it starts from, its plan and its operation.

The reads keep the stores (`Query.within_run`). A delete is aimed (`Operation.Aimed`) when it names
no entity of another kind than its own.
-/

namespace FlowRegistry

/-- The reads of the coordinator. -/
inductive Query where
  | getBucket (id : Uuid)
  | listBuckets
  | getFlow (id : Uuid)
  | listFlows (bucketId : Uuid)
  | getBundle (id : Uuid)
  | listBundles (bucketId : Uuid)
  | getSnapshot (flowId : Uuid) (version : Nat)
  | getLatestSnapshot (flowId : Uuid)
  | listSnapshots (flowId : Uuid)
  | listBundleVersions (bundleId : Uuid)
  | getBundleVersionContent (bundleId : Uuid) (version : String)

namespace Query

/-- A read run for its effect on the registry. -/
def run : Query → Registry Unit
  | .getBucket id => (fun _ => ()) <$> Coordinator.getBucket id
  | .listBuckets => (fun _ => ()) <$> Coordinator.listBuckets
  | .getFlow id => (fun _ => ()) <$> Coordinator.getFlow id
  | .listFlows bucketId => (fun _ => ()) <$> Coordinator.listFlows bucketId
  | .getBundle id => (fun _ => ()) <$> Coordinator.getBundle id
  | .listBundles bucketId => (fun _ => ()) <$> Coordinator.listBundles bucketId
  | .getSnapshot flowId version => (fun _ => ()) <$> Coordinator.getSnapshot flowId version
  | .getLatestSnapshot flowId => (fun _ => ()) <$> Coordinator.getLatestSnapshot flowId
  | .listSnapshots flowId => (fun _ => ()) <$> Coordinator.listSnapshots flowId
  | .listBundleVersions bundleId => (fun _ => ()) <$> Coordinator.listBundleVersions bundleId
  | .getBundleVersionContent bundleId version =>
    (fun _ => ()) <$> Coordinator.getBundleVersionContent bundleId version

theorem within_run (q : Query) : Within [] World.stores q.run := by
  cases q with
  | getBucket id => exact (Coordinator.within_getBucket id).map _
  | listBuckets => exact Coordinator.within_listBuckets.map _
  | getFlow id => exact (Coordinator.within_getFlow id).map _
  | listFlows bucketId => exact (Coordinator.within_listFlows bucketId).map _
  | getBundle id => exact (Coordinator.within_getBundle id).map _
  | listBundles bucketId => exact (Coordinator.within_listBundles bucketId).map _
  | getSnapshot flowId version => exact (Coordinator.within_getSnapshot flowId version).map _
  | getLatestSnapshot flowId => exact (Coordinator.within_getLatestSnapshot flowId).map _
  | listSnapshots flowId => exact (Coordinator.within_listSnapshots flowId).map _
  | listBundleVersions bundleId => exact (Coordinator.within_listBundleVersions bundleId).map _
  | getBundleVersionContent bundleId version =>
    exact (Coordinator.within_getBundleVersionContent bundleId version).map _

end Query

/-- The operations of the coordinator. -/
inductive Operation where
  | change (m : Coordinator.Mutation)
  | deleteBucket (id : Uuid) (claimed : Revision)
  | deleteFlow (id : Uuid) (claimed : Revision)
  | deleteBundle (id : Uuid) (claimed : Revision)
  | read (q : Query)

namespace Operation

/-- An operation run for its effect on the registry. -/
def run : Operation → Registry Unit
  | .change m => m.run
  | .deleteBucket id claimed => (fun _ => ()) <$> Coordinator.deleteBucket id claimed
  | .deleteFlow id claimed => (fun _ => ()) <$> Coordinator.deleteFlow id claimed
  | .deleteBundle id claimed => (fun _ => ()) <$> Coordinator.deleteBundle id claimed
  | .read q => q.run

/-- A delete names no entity of another kind than its own; every other operation is aimed. -/
def Aimed : Operation → Catalog → Prop
  | .deleteBucket id _, c => c.Only .bucket id
  | .deleteFlow id _, c => c.Only .flow id
  | .deleteBundle id _, c => c.Only .bundle id
  | _, _ => True

instance (op : Operation) (c : Catalog) : Decidable (op.Aimed c) := by
  cases op <;> unfold Aimed <;> infer_instance

end Operation

/-- The registries that runs of operations reach from empty stores, when `allowed` admits each
step: the registry it starts from, the plan it runs under and its operation. -/
inductive Reaches (allowed : World → FaultPlan → Operation → Prop) : World → Prop
  | fresh (content : ContentStore) (clock : Time.Instant) : Reaches allowed (World.fresh content clock)
  | step {w : World} {p : FaultPlan} (hw : Reaches allowed w) (t : Time.Instant) (op : Operation)
      (hop : allowed w p op) : Reaches allowed (runWith op.run { w with faults := p, clock := t }).2

/-- The registry operations leave, run one after another from `w`, each under the plan `p` at the
instant `t`. -/
def World.runOps (p : FaultPlan) (t : Time.Instant) (ops : List Operation) (w : World) : World :=
  ops.foldl (fun v op => (runWith op.run { v with faults := p, clock := t }).2) w

/-- Operations that `allowed` admits under one plan, whatever the registry, carry a run on. -/
theorem Reaches.runOps {allowed : World → FaultPlan → Operation → Prop} {w : World}
    (hw : Reaches allowed w) (p : FaultPlan) (t : Time.Instant) (ops : List Operation)
    (h : ∀ v, ∀ op ∈ ops, allowed v p op) : Reaches allowed (w.runOps p t ops) := by
  induction ops generalizing w with
  | nil => exact hw
  | cons op ops ih =>
    exact ih (.step hw t op (h w op List.mem_cons_self))
      fun v op' hop' => h v op' (List.mem_cons_of_mem _ hop')

end FlowRegistry
