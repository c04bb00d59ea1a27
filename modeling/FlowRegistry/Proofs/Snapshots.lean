import FlowRegistry.Proofs.FlowSteps
import FlowRegistry.Proofs.Versions
import FlowRegistry.Proofs.Upgrades

/-!
# Snapshots of flows over a run

Over every run from stores that hold nothing, whose plans let a failed snapshot be removed again,
`RunsFrom.snapshotsHeld` carries `World.SnapshotsKept` for every live flow: its records numbered
from 1 to its count, a blob under exactly their numbers, each what the snapshot table writes of a
snapshot with that record. Under a plan that fails nothing each record's snapshot reads back by
its number, and the last as the latest, when its payload reads back
(`World.SnapshotsKept.settles_getSnapshot`); a snapshot that does not carry the number after its
flow's count writes nothing (`Coordinator.createSnapshot_keeps_of_version`).

A bundle created while the revision store fails keeps its record without a revision, so a flow can
be created under its id, and an upload of the bundle then writes over the flow's snapshot
(`unregistered_bundle_upload_overwrites_snapshot`); that is why `Operation.Discarding` asks that
registrations go through.
-/

namespace FlowRegistry

open Format Json

/-! ### Reading a snapshot back -/

/-- In an ordered catalog a flow is found under its own id. -/
theorem Catalog.fetchFlow_of_mem {c : Catalog} (ho : c.Ordered) {f : Flow} (hf : f ∈ c.flows) :
    c.fetchFlow f.identifier = some f :=
  ho.flows.find?_of_mem hf

/-- What the snapshot table writes of a snapshot is its payload behind the current header. -/
theorem snapshotTable_serialize_eq_ok {s : Snapshot} {bytes : Bytes}
    (h : snapshotTable.serialize s = .ok bytes) : bytes = writeHeader snapshotMagic 2 (Wire.bytes s) := by
  rw [snapshotTable_serialize] at h
  cases hg : s.flowContents.checkGraph with
  | error e => rw [hg] at h; cases h
  | ok _ => rw [hg] at h; cases h; rfl

namespace World

variable {v : World} {p : FaultPlan}

/-- Under a plan that fails nothing, the content stored under a flow and number reads back as the
snapshot it was written from, when that snapshot's payload reads back. -/
theorem settles_loadSnapshot (hp : p.Steady) {x : Uuid} {n : Nat} {s : Snapshot} {bytes : Bytes}
    (htakes : v.content.Takes x.text (toString n))
    (hblob : v.content.blob? x.text (toString n) = some bytes)
    (hs : snapshotTable.serialize s = .ok bytes) (hrep : s.Representable)
    (hlt : nesting (Wire.toJson s) < 128) :
    Settles (Coordinator.loadSnapshot x n) { v with faults := p } (.ok s) v := by
  have hbytes := snapshotTable_serialize_eq_ok hs
  unfold Coordinator.loadSnapshot
  have hread := settles_getContent (v := v) hp x.text (toString n)
  rw [ContentStore.get_of_takes htakes hblob] at hread
  refine hread.bind fun q hq => ?_
  refine Settles.lift_bind_ok (a := 2) ?_ ?_
  · rw [hbytes]
    exact CodecTable.readVersion_writeHeader snapshotMagic_length (by decide) _
  · rw [hbytes, readBack_current hrep hlt]
    exact Settles.pure' hq s

/-- Under a plan that fails nothing, a recorded snapshot of a flow kept so reads back by its number
as the snapshot stored under it, when that snapshot's payload reads back. -/
theorem SnapshotsKept.settles_getSnapshot {w : World} (ho : w.catalog.Ordered) {f : Flow}
    (hf : f ∈ w.catalog.flows) (hk : w.SnapshotsKept f) {m : SnapshotMeta}
    (hm : m ∈ w.catalog.listSnapshots f.identifier) {s : Snapshot} {bytes : Bytes}
    (hs : snapshotTable.serialize s = .ok bytes)
    (hblob : w.content.blob? f.identifier.text (toString m.version) = some bytes)
    (hrep : s.Representable) (hlt : nesting (Wire.toJson s) < 128) (hp : p.Steady)
    (t : Time.Instant) :
    Settles (Coordinator.getSnapshot f.identifier m.version) { w with faults := p, clock := t }
      (.ok s) { w with clock := t } := by
  have hnd : ((w.catalog.listSnapshots f.identifier).map (·.version)).Nodup := by
    rw [hk.numbered]
    exact List.nodup_range'
  have hfetch : w.catalog.fetchSnapshot f.identifier m.version = some m := find?_key_of_nodup hnd hm
  unfold Coordinator.getSnapshot
  refine (Coordinator.settles_requireFlow (v := { w with clock := t }) hp
    (Catalog.fetchFlow_of_mem ho hf)).bind fun q hq => ?_
  refine (settles_readCatalog hq _ _).bind fun q' hq' => ?_
  simp only [hfetch, Option.isNone_some, Bool.false_eq_true, if_false]
  exact settles_loadSnapshot (v := { w with clock := t }) hq' (hk.taken m hm) hblob hs hrep hlt

/-- The latest record of a flow kept so, with a record at all, is numbered its count. -/
theorem SnapshotsKept.latest {w : World} {f : Flow} (hk : w.SnapshotsKept f)
    (hpos : 0 < f.versionCount) :
    ∃ m, w.catalog.latestSnapshot f.identifier = some m ∧ m.version = f.versionCount := by
  have hlast : (w.catalog.latestSnapshot f.identifier).map (·.version) = some f.versionCount := by
    obtain ⟨k, hcount⟩ : ∃ k, f.versionCount = k + 1 := ⟨f.versionCount - 1, by omega⟩
    unfold Catalog.latestSnapshot
    rw [← List.getLast?_map, hk.numbered, hcount, List.range'_concat, List.getLast?_append]
    simp [Nat.add_comm]
  cases h : w.catalog.latestSnapshot f.identifier with
  | none => rw [h] at hlast; cases hlast
  | some m => rw [h] at hlast; exact ⟨m, rfl, Option.some.inj hlast⟩

/-- Under a plan that fails nothing, the latest snapshot of a flow kept so reads back as the one
numbered its count. -/
theorem SnapshotsKept.settles_getLatestSnapshot {w : World} (ho : w.catalog.Ordered) {f : Flow}
    (hf : f ∈ w.catalog.flows) (hk : w.SnapshotsKept f) {m : SnapshotMeta}
    (hm : m ∈ w.catalog.listSnapshots f.identifier) (hcount : m.version = f.versionCount)
    {s : Snapshot} {bytes : Bytes} (hs : snapshotTable.serialize s = .ok bytes)
    (hblob : w.content.blob? f.identifier.text (toString m.version) = some bytes)
    (hrep : s.Representable) (hlt : nesting (Wire.toJson s) < 128) (hp : p.Steady)
    (t : Time.Instant) :
    Settles (Coordinator.getLatestSnapshot f.identifier) { w with faults := p, clock := t }
      (.ok s) { w with clock := t } := by
  obtain ⟨m', hlatest, hver⟩ := hk.latest (by have := (hk.version_le hm).1; omega)
  unfold Coordinator.getLatestSnapshot
  refine (Coordinator.settles_requireFlow (v := { w with clock := t }) hp
    (Catalog.fetchFlow_of_mem ho hf)).bind fun q hq => ?_
  refine (settles_readCatalog hq _ _).bind fun q' hq' => ?_
  simp only [hlatest]
  rw [hver, ← hcount]
  exact settles_loadSnapshot (v := { w with clock := t }) hq' (hk.taken m hm) hblob hs hrep hlt

end World

/-- A snapshot whose number is not the one after its flow's count writes nothing: the catalog and
every blob stay as they were, whatever else the plan fails, when it lets the removal of a failed
snapshot through. -/
theorem Coordinator.createSnapshot_keeps_of_version {v : World} (h : v.SnapshotsHeld)
    (hcalm : v.Calm) (hdsv : v.Lets ⟨.metadata, "delete_snapshot_version"⟩)
    (hdc : v.Lets (World.contentCall "delete_content")) {flowId : Uuid} {r : SnapshotRequest}
    (hversion : ∀ f, v.catalog.fetchFlow flowId = some f → r.version ≠ f.versionCount + 1)
    (claimed : Revision) (user : String) :
    (runWith (createSnapshot flowId claimed r user) v).2.catalog = v.catalog ∧
      (runWith (createSnapshot flowId claimed r user) v).2.content.blob? = v.content.blob? := by
  have hnext : ∀ f, v.catalog.fetchFlow flowId = some f →
      expectedSnapshot (v.catalog.latestSnapshot flowId) ≠ .ok r.version := fun f hf hexpected => by
    obtain ⟨hmem, rfl⟩ := Catalog.fetchFlow_eq_some hf
    exact hversion f hf (Catalog.expectedSnapshot_eq (h.kept f hmem).numbered hexpected)
  have hsnap := createSnapshot_snapshotted flowId claimed r user hcalm hdsv hdc
  generalize (runWith (createSnapshot flowId claimed r user) v).2 = u at hsnap ⊢
  cases hsnap with
  | kept hcat hblob => exact ⟨hcat, hblob⟩
  | cleared f hf hexpected _ _ => exact absurd hexpected (hnext f hf)
  | recorded f _ _ _ hf hexpected => exact absurd hexpected (hnext f hf)

/-! ### Runs from empty stores -/

/-- The registries a run reaches from `w₀`, each step allowed by `allowed` from the registry it
starts from. -/
inductive RunsFrom (allowed : World → FaultPlan → Operation → Prop) (w₀ : World) : World → Prop
  | start : RunsFrom allowed w₀ w₀
  | step {w : World} {p : FaultPlan} (hw : RunsFrom allowed w₀ w) (t : Time.Instant)
      (op : Operation) (hop : allowed w p op) :
      RunsFrom allowed w₀ (runWith op.run { w with faults := p, clock := t }).2

/-- A step under a plan that fails nothing, whose delete is aimed, lets a failed snapshot be
removed. -/
theorem Operation.discarding_of_steady {w : World} {p : FaultPlan} {op : Operation}
    (hp : p.Steady) (haimed : op.Aimed w.catalog) : op.Discarding w p where
  calm := hp.calm
  registers := World.lets_of_steady (w := { w with faults := p }) hp _
  aimed := haimed
  steady _ := hp
  discardRecord := World.lets_of_steady (w := { w with faults := p }) hp _
  discardContent := World.lets_of_steady (w := { w with faults := p }) hp _

namespace World

/-- Stores that hold nothing hold their flows' snapshots. -/
theorem snapshotsHeld_fresh {content : ContentStore} (hempty : ∀ e v, content.blob? e v = none)
    (clock : Time.Instant) : (fresh content clock).SnapshotsHeld :=
  ⟨corresponds_fresh content clock, Catalog.linked_empty, Catalog.ordered_empty,
    Catalog.named_empty, List.Pairwise.nil, homed_fresh hempty clock, fun _ h => nomatch h⟩

/-- A step that lets a failed snapshot be removed keeps what the registry holds: the snapshots of
each flow after it are kept because `FlowStep` says how they came from those before. -/
theorem SnapshotsHeld.step {w : World} {p : FaultPlan} (h : w.SnapshotsHeld) (t : Time.Instant)
    (op : Operation) (hop : op.Discarding w p) :
    (runWith op.run { w with faults := p, clock := t }).2.SnapshotsHeld := by
  have hafter := Operation.flowsAfter h t op hop
  have hnamed := (Operation.triple_named op).holds_after (w := { w with faults := p, clock := t })
    ⟨hop.calm, h.ordered, h.named, trivial⟩
  exact ⟨h.corresponds.registered_step t op hop.toRegistered,
    (Operation.triple_linked op).holds_after h.linked, hnamed.2.1, hnamed.2.2.1,
    hafter.sorted h.sorted, hafter.homed, fun f' hf' => (hafter.flows f' hf').snapshotsKept
      hafter.kind h.kept⟩

end World

theorem RunsFrom.snapshotsHeld {w₀ w : World} (h₀ : w₀.SnapshotsHeld)
    (hw : RunsFrom Operation.Discarding w₀ w) : w.SnapshotsHeld := by
  induction hw with
  | start => exact h₀
  | step _ t op hop ih => exact ih.step t op hop

/-- In every run from stores that hold nothing, whose plans let registrations through and let a
failed snapshot's record and content be removed, with every delete aimed and run with nothing
planned: the snapshot records of every live flow are numbered from 1 to its count of versions, in
order, the content store holds a blob under the flow for exactly their numbers in decimal, and each
is what the snapshot table writes of a snapshot with that record. Each further step leaves every
flow as it was, new without a record or a blob, or snapshotted under the number after its count,
with the content of that request stored under it. Under a plan that fails nothing each record's
snapshot reads back by its number, and the one numbered the count as the latest, when its payload
reads back; and a snapshot carrying any other number than the one after its flow's count writes
neither a record nor a blob. -/
theorem flow_snapshots_follow_their_count {content : ContentStore} {clock : Time.Instant}
    {w : World} (hempty : ∀ e v, content.blob? e v = none)
    (hw : RunsFrom Operation.Discarding (World.fresh content clock) w) :
    (∀ f ∈ w.catalog.flows, w.SnapshotsKept f) ∧
    (∀ (p : FaultPlan) (t : Time.Instant) (op : Operation), op.Discarding w p →
      ∀ f' ∈ (runWith op.run { w with faults := p, clock := t }).2.catalog.flows,
        FlowStep w (runWith op.run { w with faults := p, clock := t }).2 op f') ∧
    (∀ f ∈ w.catalog.flows, ∀ m ∈ w.catalog.listSnapshots f.identifier,
      ∃ (s : Snapshot) (bytes : Bytes), s.snapshotMetadata = m ∧
        snapshotTable.serialize s = .ok bytes ∧
        w.content.blob? f.identifier.text (toString m.version) = some bytes ∧
        (s.Representable → nesting (Wire.toJson s) < 128 →
          ∀ (p : FaultPlan) (t : Time.Instant), p.Steady →
            Settles (Coordinator.getSnapshot f.identifier m.version)
              { w with faults := p, clock := t } (.ok s) { w with clock := t } ∧
            (m.version = f.versionCount →
              Settles (Coordinator.getLatestSnapshot f.identifier)
                { w with faults := p, clock := t } (.ok s) { w with clock := t }))) ∧
    (∀ (p : FaultPlan) (t : Time.Instant) (flowId : Uuid) (claimed : Revision)
      (r : Coordinator.SnapshotRequest) (user : String),
      (Operation.change (.createSnapshot flowId claimed r user)).Discarding w p →
      (∀ f, w.catalog.fetchFlow flowId = some f → r.version ≠ f.versionCount + 1) →
      (runWith (Coordinator.createSnapshot flowId claimed r user)
          { w with faults := p, clock := t }).2.catalog = w.catalog ∧
        (runWith (Coordinator.createSnapshot flowId claimed r user)
          { w with faults := p, clock := t }).2.content.blob? = w.content.blob?) := by
  have held := hw.snapshotsHeld (World.snapshotsHeld_fresh hempty clock)
  refine ⟨held.kept, fun p t op hop => (Operation.flowsAfter held t op hop).flows, ?_, ?_⟩
  · intro f hf m hm
    have hk := held.kept f hf
    obtain ⟨s, bytes, hmeta, hs, hblob⟩ := hk.stored m hm
    exact ⟨s, bytes, hmeta, hs, hblob, fun hrep hlt p t hp =>
      ⟨hk.settles_getSnapshot held.ordered hf hm hs hblob hrep hlt hp t, fun hcount =>
        hk.settles_getLatestSnapshot held.ordered hf hm hcount hs hblob hrep hlt hp t⟩⟩
  · intro p t flowId claimed r user hop hversion
    exact Coordinator.createSnapshot_keeps_of_version (held.replan p t) hop.calm hop.discardRecord
      hop.discardContent hversion claimed user

theorem flow_snapshots_follow_their_count_of_one_snapshot :
    let t : Time.Instant := ⟨0, 0, 0⟩
    let b : Uuid := ⟨⟨0xb1, by decide⟩⟩
    let a : Uuid := ⟨⟨0xa1, by decide⟩⟩
    let op₁ : Operation := .change (.createBucket ⟨b, "Team", none, false, false⟩ ⟨"", 0, "c"⟩ "user")
    let op₂ : Operation := .change (.createFlow ⟨a, b, "Flow", none⟩ ⟨"", 0, "c"⟩ "user")
    let op₃ : Operation := .change (.createSnapshot a ⟨a.text, 0, "c"⟩
      ⟨1, none, ⟨"root", "root", none, [], [], [], []⟩, []⟩ "user")
    let w₁ := (runWith op₁.run { World.fresh default t with faults := FaultPlan.empty, clock := t }).2
    let w₂ := (runWith op₂.run { w₁ with faults := FaultPlan.empty, clock := t }).2
    let w₃ := (runWith op₃.run { w₂ with faults := FaultPlan.empty, clock := t }).2
    (∀ e v, (default : ContentStore).blob? e v = none) ∧
      RunsFrom Operation.Discarding (World.fresh default t) w₃ ∧
      (w₃.catalog.listSnapshots a).map (·.version) = [1] ∧
      ∀ f ∈ w₃.catalog.flows, w₃.SnapshotsKept f := by
  intro t b a op₁ op₂ op₃ w₁ w₂ w₃
  have hempty : ∀ e v, (default : ContentStore).blob? e v = none := fun _ _ => rfl
  have hop : ∀ (u : World) (op : Operation), op.Aimed u.catalog →
      op.Discarding u FaultPlan.empty := fun _ _ haimed =>
    Operation.discarding_of_steady FaultPlan.steady_empty haimed
  -- each step names the registry it starts from, which the unifier should not compute
  have h₁ : RunsFrom Operation.Discarding (World.fresh default t) w₁ :=
    RunsFrom.step (w := World.fresh default t) (p := FaultPlan.empty) .start t op₁
      (hop _ op₁ trivial)
  have h₂ : RunsFrom Operation.Discarding (World.fresh default t) w₂ :=
    RunsFrom.step (w := w₁) (p := FaultPlan.empty) h₁ t op₂ (hop _ op₂ trivial)
  have hw : RunsFrom Operation.Discarding (World.fresh default t) w₃ :=
    RunsFrom.step (w := w₂) (p := FaultPlan.empty) h₂ t op₃ (hop _ op₃ trivial)
  refine ⟨hempty, hw, ?_, (flow_snapshots_follow_their_count hempty hw).1⟩
  simp only [w₃, op₃, Operation.run, Coordinator.Mutation.run, Coordinator.createSnapshot,
    snapshotTable_serialize, World.saveContent, ContentStore.save, MemoryBlobs.save,
    checkSegment_toString, checkSegment_text]
  decide +kernel

/-- A bundle created while the revision store fails the registration keeps its record with no
revision, so a flow is then created under the same id. After a snapshot of the flow, an upload of
version `1` of the bundle writes under the flow's key and number, over the snapshot's content,
though the plan fails no call of a delete or of a failed snapshot's removal: the flow keeps its
record of snapshot 1, and reading that snapshot back fails. -/
theorem unregistered_bundle_upload_overwrites_snapshot :
    let t : Time.Instant := ⟨0, 0, 0⟩
    let b : Uuid := ⟨⟨0xb1, by decide⟩⟩
    let a : Uuid := ⟨⟨0xa1, by decide⟩⟩
    let w₁ := (runWith (Coordinator.createBucket ⟨b, "Team", none, false, false⟩ ⟨"", 0, "c"⟩ "user")
      (World.fresh default t)).2
    let plan := FaultPlan.empty.plan (World.revisionCall "create_revision")
      ⟨some 1, .persistence "store down"⟩
    let w₂ := (runWith (Coordinator.createBundle ⟨a, b, .nifiNar, "org", "art", none⟩ ⟨"", 0, "c"⟩
      "user") { w₁ with faults := plan }).2
    let w₃ := (runWith (Coordinator.createFlow ⟨a, b, "Flow", none⟩ ⟨"", 0, "c"⟩ "user") w₂).2
    let w₄ := (runWith (Coordinator.createSnapshot a ⟨a.text, 0, "c1"⟩
      ⟨1, none, ⟨"root", "root", none, [], [], [], []⟩, []⟩ "user") w₃).2
    let w₅ := (runWith (Coordinator.addBundleVersion a ⟨a.text, 1, "c1"⟩ "1" [0x6a, 0x75, 0x6e, 0x6b]
      "user") w₄).2
    ¬World.Lets { w₁ with faults := plan } (World.revisionCall "create_revision") ∧
      World.Lets { w₁ with faults := plan } ⟨.metadata, "delete_snapshot_version"⟩ ∧
      World.Lets { w₁ with faults := plan } (World.contentCall "delete_content") ∧
      w₅.catalog.flows.map (·.identifier) = [a] ∧
      (w₅.catalog.listSnapshots a).map (·.version) = [1] ∧
      w₅.content.blob? a.text "1" = some [0x6a, 0x75, 0x6e, 0x6b] ∧
      (runWith (Coordinator.getSnapshot a 1) w₅).1.isOk = false := by
  intro t b a w₁ plan w₂ w₃ w₄ w₅
  have htrim : Text.trim "1" = "1" := by decide +kernel
  have hone : checkSegment "version" "1" = .ok () := checkSegment_toString "version" 1
  refine ⟨by decide +kernel, by decide +kernel, by decide +kernel, ?_, ?_, ?_, ?_⟩ <;>
    simp only [w₅, w₄, Coordinator.createSnapshot, Coordinator.addBundleVersion, htrim,
      snapshotTable_serialize, World.saveContent, ContentStore.save, MemoryBlobs.save,
      checkSegment_toString, checkSegment_text, hone] <;>
    decide +kernel

end FlowRegistry
