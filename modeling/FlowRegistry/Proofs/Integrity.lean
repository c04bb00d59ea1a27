import FlowRegistry.Proofs.Triples

/-!
# Every record names a live parent

A flow and a bundle live in a bucket, a snapshot record belongs to a flow and a bundle version to
a bundle. `Catalog.Linked` says that every record of the catalog names a parent that is live.

The catalog checks the parent of every record it inserts and refuses to delete a bucket that still
holds flows or bundles, but it deletes a flow or a bundle whatever is recorded under it, and it
writes back a changed flow or bundle without looking at its bucket. So the catalog alone keeps
the property only on some writes (`Catalog.Linked.insertFlow` and its kin); a delete of a flow or a
bundle keeps it only once nothing is recorded under it, and a changed flow or bundle only when
its bucket is live.

The coordinator makes sure of both. It purges the snapshot records or versions of a flow or a
bundle before it deletes it, and stops at the first failure (`Coordinator.triple_deleteFlow`,
`triple_purgeBucket`); it writes back a flow or a bundle as it read it, in the same bucket. Every
operation therefore keeps the catalog linked from every linked registry, whatever the plan fails
and whatever flows appear while it runs (`Operation.triple_linked`), and so does every run from
empty stores (`records_keep_live_parents`).
-/

namespace FlowRegistry

/-- An element of a list after an insert by key is the inserted one or was there before. -/
theorem mem_of_mem_insertById {α : Type} {key : α → Uuid} {x y : α} {xs : List α}
    (h : y ∈ insertById key x xs) : y = x ∨ y ∈ xs := by
  induction xs with
  | nil => simpa [insertById] using h
  | cons z zs ih =>
    unfold insertById at h
    split at h
    · rcases List.mem_cons.1 h with rfl | h
      · exact .inl rfl
      · exact .inr (List.mem_cons_of_mem z h)
    · split at h
      · exact (List.mem_cons.1 h).imp_right id
      · rcases List.mem_cons.1 h with rfl | h
        · exact .inr List.mem_cons_self
        · exact (ih h).imp_right (List.mem_cons_of_mem z)

namespace Catalog

variable {c c' : Catalog}

theorem mem_of_mem_insertSnapshotSorted {m s : SnapshotMeta} {l : List SnapshotMeta}
    (h : s ∈ insertSnapshotSorted m l) : s = m ∨ s ∈ l := by
  induction l with
  | nil => simpa [insertSnapshotSorted] using h
  | cons x xs ih =>
    unfold insertSnapshotSorted at h
    split at h
    · exact (List.mem_cons.1 h).imp_right id
    · rcases List.mem_cons.1 h with rfl | h
      · exact .inr List.mem_cons_self
      · exact (ih h).imp_right (List.mem_cons_of_mem x)

theorem mem_of_mem_replaceOrAppend {v x : BundleVersion} {l : List BundleVersion}
    (h : x ∈ replaceOrAppend v l) : x = v ∨ x ∈ l := by
  induction l with
  | nil => simpa [replaceOrAppend] using h
  | cons y ys ih =>
    unfold replaceOrAppend at h
    split at h
    · rcases List.mem_cons.1 h with rfl | h
      · exact .inl rfl
      · exact .inr (List.mem_cons_of_mem y h)
    · rcases List.mem_cons.1 h with rfl | h
      · exact .inr List.mem_cons_self
      · exact (ih h).imp_right (List.mem_cons_of_mem y)

/-- Every record names a live parent: a flow or a bundle its bucket, a snapshot record its flow,
a bundle version its bundle. -/
structure Linked (c : Catalog) : Prop where
  flows : ∀ f ∈ c.flows, c.Live .bucket f.bucketIdentifier
  bundles : ∀ b ∈ c.bundles, c.Live .bucket b.bucketIdentifier
  snapshots : ∀ m ∈ c.snapshots, c.Live .flow m.flowIdentifier
  versions : ∀ v ∈ c.bundleVersions, c.Live .bundle v.bundleIdentifier

theorem linked_empty : Catalog.empty.Linked :=
  ⟨nofun, nofun, nofun, nofun⟩

namespace Linked

/-- The same records, with at least the same live parents. -/
theorem of_live (h : c.Linked) (hflows : c'.flows = c.flows) (hbundles : c'.bundles = c.bundles)
    (hsnapshots : c'.snapshots = c.snapshots) (hversions : c'.bundleVersions = c.bundleVersions)
    (hlive : ∀ k x, c.Live k x → c'.Live k x) : c'.Linked where
  flows f hf := hlive _ _ (h.flows f (hflows ▸ hf))
  bundles b hb := hlive _ _ (h.bundles b (hbundles ▸ hb))
  snapshots m hm := hlive _ _ (h.snapshots m (hsnapshots ▸ hm))
  versions v hv := hlive _ _ (h.versions v (hversions ▸ hv))

/-! The writes that the catalog checks keep it linked. -/

theorem insertBucket (h : c.Linked) {b : Bucket} (hc : c.insertBucket b = .ok c') : c'.Linked := by
  have hlive : ∀ k x, c.Live k x → c'.Live k x := fun k x hx => (live_insertBucket hc k x).2 (.inl hx)
  unfold Catalog.insertBucket at hc
  split at hc
  · cases hc
  · cases hc
    exact h.of_live rfl rfl rfl rfl hlive

theorem updateBucket (h : c.Linked) {b : Bucket} (hc : c.updateBucket b = .ok c') : c'.Linked := by
  have hlive := live_updateBucket hc
  unfold Catalog.updateBucket at hc
  split at hc
  · cases hc
  · cases hc
    exact h.of_live rfl rfl rfl rfl fun k x hx => hlive ▸ hx

theorem deleteBucket (h : c.Linked) {id : Uuid} {existed : Bool}
    (hc : c.deleteBucket id = .ok (existed, c')) : c'.Linked := by
  unfold Catalog.deleteBucket at hc
  dsimp only at hc
  split at hc
  · cases hc
  · next hempty =>
    cases hc
    have hflows : ∀ f ∈ c.flows, f.bucketIdentifier ≠ id := fun f hf hid => by
      have : 0 < (c.flows.filter (·.bucketIdentifier == id)).length :=
        List.length_pos_of_mem (List.mem_filter.2 ⟨hf, by simp [hid]⟩)
      omega
    have hbundles : ∀ b ∈ c.bundles, b.bucketIdentifier ≠ id := fun b hb hid => by
      have : 0 < (c.bundles.filter (·.bucketIdentifier == id)).length :=
        List.length_pos_of_mem (List.mem_filter.2 ⟨hb, by simp [hid]⟩)
      omega
    exact ⟨fun f hf => (mem_map_filter_ne _ _ _ _).2 ⟨h.flows f hf, hflows f hf⟩,
      fun b hb => (mem_map_filter_ne _ _ _ _).2 ⟨h.bundles b hb, hbundles b hb⟩,
      h.snapshots, h.versions⟩

theorem insertFlow (h : c.Linked) {f : Flow} (hc : c.insertFlow f = .ok c') : c'.Linked := by
  have hlive : ∀ k x, c.Live k x → c'.Live k x := fun k x hx => (live_insertFlow hc k x).2 (.inl hx)
  unfold Catalog.insertFlow at hc
  split at hc
  · cases hc
  · next hbucket =>
    split at hc
    · cases hc
    · cases hc
      refine ⟨fun g hg => ?_, fun b hb => hlive _ _ (h.bundles b hb),
        fun m hm => hlive _ _ (h.snapshots m hm), fun v hv => hlive _ _ (h.versions v hv)⟩
      rcases mem_of_mem_insertById hg with rfl | hg
      · exact hlive _ _ (mem_ids_of_fetchBucket hbucket)
      · exact hlive _ _ (h.flows g hg)

theorem insertSnapshot (h : c.Linked) {m : SnapshotMeta} (hc : c.insertSnapshot m = .ok c') :
    c'.Linked := by
  have hlive := live_insertSnapshot hc
  unfold Catalog.insertSnapshot at hc
  split at hc
  · cases hc
  · next hflow =>
    split at hc
    · cases hc
    · cases hc
      refine ⟨h.flows, h.bundles, fun s hs => ?_, h.versions⟩
      rcases mem_of_mem_insertSnapshotSorted hs with rfl | hs
      · exact mem_ids_of_fetchFlow hflow
      · exact h.snapshots s hs

theorem insertBundle (h : c.Linked) {b : Bundle} (hc : c.insertBundle b = .ok c') : c'.Linked := by
  have hlive : ∀ k x, c.Live k x → c'.Live k x :=
    fun k x hx => (live_insertBundle hc k x).2 (.inl hx)
  unfold Catalog.insertBundle at hc
  split at hc
  · cases hc
  · next hbucket =>
    split at hc
    · cases hc
    · cases hc
      refine ⟨fun f hf => hlive _ _ (h.flows f hf), fun x hx => ?_,
        fun m hm => hlive _ _ (h.snapshots m hm), fun v hv => hlive _ _ (h.versions v hv)⟩
      rcases mem_of_mem_insertById hx with rfl | hx
      · exact hlive _ _ (mem_ids_of_fetchBucket hbucket)
      · exact hlive _ _ (h.bundles x hx)

theorem putBundleVersion (h : c.Linked) {v : BundleVersion} (hc : c.putBundleVersion v = .ok c') :
    c'.Linked := by
  unfold Catalog.putBundleVersion at hc
  split at hc
  · cases hc
  · next hbundle =>
    cases hc
    refine ⟨h.flows, h.bundles, h.snapshots, fun x hx => ?_⟩
    rcases mem_of_mem_replaceOrAppend hx with rfl | hx
    · exact mem_ids_of_fetchBundle hbundle
    · exact h.versions x hx

/-! Removing snapshot records or versions keeps the catalog linked. -/

theorem deleteSnapshotVersion (h : c.Linked) (flow : Uuid) (version : Nat) :
    (c.deleteSnapshotVersion flow version).2.Linked :=
  ⟨h.flows, h.bundles, fun m hm => h.snapshots m (List.mem_filter.1 hm).1, h.versions⟩

theorem deleteSnapshots (h : c.Linked) (flow : Uuid) : (c.deleteSnapshots flow).2.Linked :=
  ⟨h.flows, h.bundles, fun m hm => h.snapshots m (List.mem_filter.1 hm).1, h.versions⟩

theorem deleteBundleVersion (h : c.Linked) (bundle : Uuid) (version : String) :
    (c.deleteBundleVersion bundle version).2.Linked :=
  ⟨h.flows, h.bundles, h.snapshots, fun v hv => h.versions v (List.mem_filter.1 hv).1⟩

theorem deleteBundleVersions (h : c.Linked) (bundle : Uuid) :
    (c.deleteBundleVersions bundle).2.Linked :=
  ⟨h.flows, h.bundles, h.snapshots, fun v hv => h.versions v (List.mem_filter.1 hv).1⟩

/-! The writes that the catalog does not check keep it linked under a condition. -/

/-- A flow written back in a live bucket. -/
theorem updateFlow (h : c.Linked) {f : Flow} (hbucket : c.Live .bucket f.bucketIdentifier)
    (hc : c.updateFlow f = .ok c') : c'.Linked := by
  have hlive := live_updateFlow hc
  unfold Catalog.updateFlow at hc
  split at hc
  · cases hc
  · cases hc
    refine ⟨fun g hg => ?_, fun b hb => hlive ▸ h.bundles b hb, fun m hm => hlive ▸ h.snapshots m hm,
      fun v hv => hlive ▸ h.versions v hv⟩
    rw [hlive]
    rcases mem_of_mem_insertById hg with rfl | hg
    · exact hbucket
    · exact h.flows g hg

/-- A bundle written back in a live bucket. -/
theorem updateBundle (h : c.Linked) {b : Bundle} (hbucket : c.Live .bucket b.bucketIdentifier)
    (hc : c.updateBundle b = .ok c') : c'.Linked := by
  have hlive := live_updateBundle hc
  unfold Catalog.updateBundle at hc
  split at hc
  · cases hc
  · cases hc
    refine ⟨fun f hf => hlive ▸ h.flows f hf, fun x hx => ?_, fun m hm => hlive ▸ h.snapshots m hm,
      fun v hv => hlive ▸ h.versions v hv⟩
    rw [hlive]
    rcases mem_of_mem_insertById hx with rfl | hx
    · exact hbucket
    · exact h.bundles x hx

/-- A flow deleted once nothing is recorded under it. -/
theorem deleteFlow (h : c.Linked) {id : Uuid} (hempty : c.listSnapshots id = []) :
    (c.deleteFlow id).2.Linked := by
  have hne : ∀ m ∈ c.snapshots, m.flowIdentifier ≠ id := fun m hm hid => by
    have : m ∈ c.listSnapshots id := List.mem_filter.2 ⟨hm, by simp [hid]⟩
    simp [hempty] at this
  exact ⟨fun f hf => h.flows f (List.mem_filter.1 hf).1, h.bundles,
    fun m hm => (mem_map_filter_ne _ _ _ _).2 ⟨h.snapshots m hm, hne m hm⟩, h.versions⟩

/-- A bundle deleted once nothing is recorded under it. -/
theorem deleteBundle (h : c.Linked) {id : Uuid} (hempty : c.listBundleVersions id = []) :
    (c.deleteBundle id).2.Linked := by
  have hne : ∀ v ∈ c.bundleVersions, v.bundleIdentifier ≠ id := fun v hv hid => by
    have : v ∈ c.listBundleVersions id := List.mem_filter.2 ⟨hv, by simp [hid]⟩
    simp [hempty] at this
  exact ⟨h.flows, fun b hb => h.bundles b (List.mem_filter.1 hb).1, h.snapshots,
    fun v hv => (mem_map_filter_ne _ _ _ _).2 ⟨h.versions v hv, hne v hv⟩⟩

/-- A flow found in a linked catalog is in a live bucket. -/
theorem live_of_fetchFlow (h : c.Linked) {id : Uuid} {f : Flow} (hf : c.fetchFlow id = some f) :
    c.Live .bucket f.bucketIdentifier :=
  h.flows f (List.mem_of_find?_eq_some hf)

/-- A bundle found in a linked catalog is in a live bucket. -/
theorem live_of_fetchBundle (h : c.Linked) {id : Uuid} {b : Bundle} (hb : c.fetchBundle id = some b) :
    c.Live .bucket b.bucketIdentifier :=
  h.bundles b (List.mem_of_find?_eq_some hb)

end Linked

/-- An inserted flow leaves the snapshot records and the bundle versions alone. -/
theorem records_of_insertFlow {f : Flow} (hc : c.insertFlow f = .ok c') :
    c'.snapshots = c.snapshots ∧ c'.bundleVersions = c.bundleVersions := by
  unfold Catalog.insertFlow at hc
  split at hc
  · cases hc
  · split at hc
    · cases hc
    · cases hc
      exact ⟨rfl, rfl⟩

end Catalog

/-! ### The registry keeps its catalog linked -/

/-- Every record of the registry's catalog names a live parent. -/
def World.Linked (w : World) : Prop := w.catalog.Linked

theorem admits_linked : Admits World.Linked :=
  Admits.catalog Catalog.Linked fun _ _ _ h hc => h.insertFlow hc

/-- Linked, with a live bucket to write a flow or a bundle back into. -/
def World.LinkedAt (b : Uuid) (w : World) : Prop := w.catalog.Linked ∧ w.catalog.Live .bucket b

/-- Linked, with no snapshot record of a flow left to orphan. -/
def World.FlowPurged (id : Uuid) (w : World) : Prop :=
  w.catalog.Linked ∧ w.catalog.listSnapshots id = []

/-- Linked, with no version of a bundle left to orphan. -/
def World.BundlePurged (id : Uuid) (w : World) : Prop :=
  w.catalog.Linked ∧ w.catalog.listBundleVersions id = []

theorem admits_linkedAt (b : Uuid) : Admits (World.LinkedAt b) :=
  Admits.catalog (fun c => c.Linked ∧ c.Live .bucket b) fun _ _ _ h hc =>
    ⟨h.1.insertFlow hc, (Catalog.live_insertFlow hc _ _).2 (.inl h.2)⟩

theorem admits_flowPurged (id : Uuid) : Admits (World.FlowPurged id) :=
  Admits.catalog (fun c => c.Linked ∧ c.listSnapshots id = []) fun _ _ _ h hc => by
    refine ⟨h.1.insertFlow hc, ?_⟩
    unfold Catalog.listSnapshots
    rw [(Catalog.records_of_insertFlow hc).1]
    exact h.2

theorem admits_bundlePurged (id : Uuid) : Admits (World.BundlePurged id) :=
  Admits.catalog (fun c => c.Linked ∧ c.listBundleVersions id = []) fun _ _ _ h hc => by
    refine ⟨h.1.insertFlow hc, ?_⟩
    unfold Catalog.listBundleVersions
    rw [(Catalog.records_of_insertFlow hc).2]
    exact h.2

namespace Triple

variable {α : Type} {m : String}

theorem keep_linked {m : Registry α} (hm : Keeps World.records m) :
    Triple World.Linked m (fun _ => World.Linked) World.Linked :=
  of_records hm admits_linked.records (fun _ _ hw => hw) fun _ hw => hw

theorem read_linked {f : Catalog → α} :
    Triple World.Linked (World.readCatalog m f) (fun _ => World.Linked) World.Linked :=
  read admits_linked fun _ hw => hw

theorem write_linked {f : Catalog → Outcome Catalog}
    (hf : ∀ c c', c.Linked → f c = .ok c' → c'.Linked) :
    Triple World.Linked (World.writeCatalog m f) (fun _ => World.Linked) World.Linked :=
  writeCatalog admits_linked (fun _ _ hw hc => hf _ _ hw hc) fun _ hw => hw

theorem change_linked {f : Catalog → α × Catalog} (hf : ∀ c, c.Linked → (f c).2.Linked) :
    Triple World.Linked (World.changeCatalog m f) (fun _ => World.Linked) World.Linked :=
  changeCatalog admits_linked (fun _ hw => hf _ hw) fun _ hw => hw

theorem keep_linkedAt {m : Registry α} {b : Uuid} (hm : Keeps World.records m) :
    Triple (World.LinkedAt b) m (fun _ => World.LinkedAt b) World.Linked :=
  of_records hm (admits_linkedAt b).records (fun _ _ hw => hw) fun _ hw => hw.1

theorem read_linkedAt {f : Catalog → α} {b : Uuid} :
    Triple (World.LinkedAt b) (World.readCatalog m f) (fun _ => World.LinkedAt b) World.Linked :=
  read (admits_linkedAt b) fun _ hw => hw.1

/-- A snapshot record leaves every bucket live. -/
theorem insertSnapshot_linkedAt {s : SnapshotMeta} {b : Uuid} :
    Triple (World.LinkedAt b) (World.insertSnapshot s) (fun _ => World.LinkedAt b) World.Linked :=
  writeCatalog (admits_linkedAt b)
    (fun _ _ hw hc => ⟨hw.1.insertSnapshot hc, Catalog.live_insertSnapshot hc ▸ hw.2⟩)
    fun _ hw => hw.1

/-- A bundle version leaves every bucket live. -/
theorem putBundleVersion_linkedAt {v : BundleVersion} {b : Uuid} :
    Triple (World.LinkedAt b) (World.putBundleVersion v) (fun _ => World.LinkedAt b) World.Linked :=
  writeCatalog (admits_linkedAt b)
    (fun _ _ hw hc => ⟨hw.1.putBundleVersion hc, Catalog.live_putBundleVersion hc ▸ hw.2⟩)
    fun _ hw => hw.1

/-- Purging a flow leaves nothing recorded under it. -/
theorem deleteSnapshots_purged (id : Uuid) :
    Triple World.Linked (World.deleteSnapshots id) (fun _ => World.FlowPurged id) World.Linked :=
  changeCatalog admits_linked (fun w hw => ⟨hw.deleteSnapshots id, by
    rw [Catalog.listSnapshots_deleteSnapshots, if_pos rfl]⟩) fun _ hw => hw

/-- Purging a bundle leaves nothing recorded under it. -/
theorem deleteBundleVersions_purged (id : Uuid) :
    Triple World.Linked (World.deleteBundleVersions id) (fun _ => World.BundlePurged id)
      World.Linked :=
  changeCatalog admits_linked (fun w hw => ⟨hw.deleteBundleVersions id, by
    rw [Catalog.listBundleVersions_deleteBundleVersions, if_pos rfl]⟩) fun _ hw => hw

/-- A flow with nothing recorded under it is deleted. -/
theorem deleteFlow_linked (id : Uuid) :
    Triple (World.FlowPurged id) (World.deleteFlow id) (fun _ => World.Linked) World.Linked :=
  changeCatalog (admits_flowPurged id) (fun _ hw => hw.1.deleteFlow hw.2) fun _ hw => hw.1

/-- A bundle with nothing recorded under it is deleted. -/
theorem deleteBundle_linked (id : Uuid) :
    Triple (World.BundlePurged id) (World.deleteBundle id) (fun _ => World.Linked) World.Linked :=
  changeCatalog (admits_bundlePurged id) (fun _ hw => hw.1.deleteBundle hw.2) fun _ hw => hw.1

/-- A flow written back into a live bucket. -/
theorem updateFlow_linked {f : Flow} {b : Uuid} (hb : f.bucketIdentifier = b) :
    Triple (World.LinkedAt b) (World.updateFlow f) (fun _ => World.Linked) World.Linked :=
  writeCatalog (admits_linkedAt b) (fun _ _ hw hc => hw.1.updateFlow (hb ▸ hw.2) hc) fun _ hw => hw.1

/-- A bundle written back into a live bucket. -/
theorem updateBundle_linked {x : Bundle} {b : Uuid} (hb : x.bucketIdentifier = b) :
    Triple (World.LinkedAt b) (World.updateBundle x) (fun _ => World.Linked) World.Linked :=
  writeCatalog (admits_linkedAt b) (fun _ _ hw hc => hw.1.updateBundle (hb ▸ hw.2) hc)
    fun _ hw => hw.1

end Triple

namespace Coordinator

open Triple

theorem triple_createBucket (r : BucketRequest) (claimed : Revision) (user : String) :
    Triple World.Linked (createBucket r claimed user) (fun _ => World.Linked) World.Linked := by
  unfold createBucket
  dsimp only
  refine lift_bind (fun _ hw => hw) fun _ _ => lift_bind (fun _ hw => hw) fun _ _ =>
    lift_bind (fun _ hw => hw) fun claimed _ => (keep_linked World.keeps_records_now).bind fun t => ?_
  refine (Manager.triple_create admits_linked.records admits_linked.records (fun _ hw => hw)
    (fun _ hw => hw) ?_).bind fun ⟨⟨⟩, _⟩ => pure' _ fun _ hw => hw
  refine read_linked.bind fun found => ?_
  split
  · exact throw_bind _ fun _ hw => hw
  · exact write_linked fun _ _ h hc => h.insertBucket hc

theorem triple_createFlow (r : FlowRequest) (claimed : Revision) (user : String) :
    Triple World.Linked (createFlow r claimed user) (fun _ => World.Linked) World.Linked := by
  unfold createFlow
  dsimp only
  refine lift_bind (fun _ hw => hw) fun _ _ => lift_bind (fun _ hw => hw) fun _ _ =>
    lift_bind (fun _ hw => hw) fun claimed _ => (keep_linked World.keeps_records_now).bind fun t => ?_
  refine (Manager.triple_create admits_linked.records admits_linked.records (fun _ hw => hw)
    (fun _ hw => hw) ?_).bind fun ⟨⟨⟩, _⟩ => pure' _ fun _ hw => hw
  refine read_linked.bind fun bucket => ?_
  split
  · exact throw_bind _ fun _ hw => hw
  · refine read_linked.bind fun namesake => ?_
    split
    · exact throw_bind _ fun _ hw => hw
    · exact write_linked fun _ _ h hc => h.insertFlow hc

theorem triple_createBundle (r : BundleRequest) (claimed : Revision) (user : String) :
    Triple World.Linked (createBundle r claimed user) (fun _ => World.Linked) World.Linked := by
  unfold createBundle
  dsimp only
  refine lift_bind (fun _ hw => hw) fun _ _ => lift_bind (fun _ hw => hw) fun _ _ =>
    lift_bind (fun _ hw => hw) fun _ _ => lift_bind (fun _ hw => hw) fun claimed _ =>
    (keep_linked World.keeps_records_now).bind fun t => ?_
  refine (Manager.triple_create admits_linked.records admits_linked.records (fun _ hw => hw)
    (fun _ hw => hw) ?_).bind fun ⟨⟨⟩, _⟩ => pure' _ fun _ hw => hw
  refine read_linked.bind fun bucket => ?_
  split
  · exact throw_bind _ fun _ hw => hw
  · refine read_linked.bind fun namesake => ?_
    split
    · exact throw_bind _ fun _ hw => hw
    · exact write_linked fun _ _ h hc => h.insertBundle hc

theorem triple_requireBucket_linked (id : Uuid) :
    Triple World.Linked (requireBucket id) (fun _ => World.Linked) World.Linked :=
  (triple_requireBucket admits_linked id).mono (fun _ hw => hw) (fun _ _ hw => hw.1) fun _ hw => hw

theorem triple_requireFlow_linked (id : Uuid) :
    Triple World.Linked (requireFlow id) (fun f => World.LinkedAt f.bucketIdentifier) World.Linked :=
  (triple_requireFlow admits_linked id).mono (fun _ hw => hw)
    (fun _ _ hw => ⟨hw.1, hw.1.live_of_fetchFlow hw.2⟩) fun _ hw => hw

theorem triple_requireBundle_linked (id : Uuid) :
    Triple World.Linked (requireBundle id) (fun b => World.LinkedAt b.bucketIdentifier)
      World.Linked :=
  (triple_requireBundle admits_linked id).mono (fun _ hw => hw)
    (fun _ _ hw => ⟨hw.1, hw.1.live_of_fetchBundle hw.2⟩) fun _ hw => hw

theorem triple_updateBucket (id : Uuid) (claimed : Revision) (c : BucketChange) (user : String) :
    Triple World.Linked (updateBucket id claimed c user) (fun _ => World.Linked) World.Linked := by
  have write : ∀ b b' : Bucket, Triple World.Linked (World.updateBucket b >>= fun _ => pure b')
      (fun _ => World.Linked) World.Linked := fun _ _ =>
    (write_linked fun _ _ h hc => h.updateBucket hc).bind fun _ => pure' _ fun _ hw => hw
  unfold updateBucket
  rcases c with ⟨_ | n, description, redeploy, publicRead⟩
  all_goals dsimp only
  case none =>
    refine lift_bind (fun _ hw => hw) fun _ _ => ?_
    refine (Manager.triple_update admits_linked.records admits_linked.records (fun _ hw => hw)
      (fun _ hw => hw) ?_).bind fun _ => pure' _ fun _ hw => hw
    exact (triple_requireBucket_linked id).bind fun b =>
      (pure' _ fun _ hw => hw).bind fun _ => write _ _
  case some =>
    refine lift_bind (fun _ hw => hw) fun _ _ => lift_bind (fun _ hw => hw) fun _ _ => ?_
    refine (Manager.triple_update admits_linked.records admits_linked.records (fun _ hw => hw)
      (fun _ hw => hw) ?_).bind fun _ => pure' _ fun _ hw => hw
    refine (triple_requireBucket_linked id).bind fun b => read_linked.bind fun namesake => ?_
    split
    · split
      · exact throw_bind _ fun _ hw => hw
      · exact (pure' _ fun _ hw => hw).bind fun _ => write _ _
    · exact (pure' _ fun _ hw => hw).bind fun _ => write _ _

theorem triple_updateFlow (id : Uuid) (claimed : Revision) (c : FlowChange) (user : String) :
    Triple World.Linked (updateFlow id claimed c user) (fun _ => World.Linked) World.Linked := by
  unfold updateFlow
  rcases c with ⟨name, description⟩
  have write : ∀ {b : Uuid} (f : Flow), f.bucketIdentifier = b →
      Triple (World.LinkedAt b)
        (World.now >>= fun t =>
          let g := { f with
            description := description.orElse fun _ => f.description
            modifiedTimestamp := t }
          World.updateFlow g >>= fun _ => pure g)
        (fun _ => World.Linked) World.Linked := by
    intro b f hf
    refine (of_records World.keeps_records_now (admits_linkedAt b).records (fun _ _ hw => hw)
      fun _ hw => hw.1).bind fun t => ?_
    dsimp only
    refine (updateFlow_linked (by exact hf)).bind fun _ => ?_
    exact pure' _ fun _ hw => hw
  rcases name with _ | n
  all_goals simp only [pure_bind]
  case none =>
    refine lift_bind (fun _ hw => hw) fun _ _ => ?_
    refine (Manager.triple_update admits_linked.records admits_linked.records (fun _ hw => hw)
      (fun _ hw => hw) ?_).bind fun _ => pure' _ fun _ hw => hw
    exact (triple_requireFlow_linked id).bind fun f => write f rfl
  case some =>
    refine lift_bind (fun _ hw => hw) fun _ _ => lift_bind (fun _ hw => hw) fun _ _ => ?_
    refine (Manager.triple_update admits_linked.records admits_linked.records (fun _ hw => hw)
      (fun _ hw => hw) ?_).bind fun _ => pure' _ fun _ hw => hw
    refine (triple_requireFlow_linked id).bind fun f =>
      (read (admits_linkedAt _) fun _ hw => hw.1).bind fun namesake => ?_
    split
    · split
      · exact throw_bind _ fun _ hw => hw.1
      · exact write { f with name := Text.trim n } rfl
    · exact write { f with name := Text.trim n } rfl

theorem triple_updateBundle (id : Uuid) (claimed : Revision) (description : Option String)
    (user : String) :
    Triple World.Linked (updateBundle id claimed description user) (fun _ => World.Linked)
      World.Linked := by
  unfold updateBundle
  dsimp only
  refine lift_bind (fun _ hw => hw) fun _ _ => ?_
  refine (Manager.triple_update admits_linked.records admits_linked.records (fun _ hw => hw)
    (fun _ hw => hw) ?_).bind fun _ => pure' _ fun _ hw => hw
  exact (triple_requireBundle_linked id).bind fun b =>
    (of_records World.keeps_records_now (admits_linkedAt _).records (fun _ _ hw => hw)
      fun _ hw => hw.1).bind fun t =>
    (updateBundle_linked (by rfl)).bind fun _ => pure' _ fun _ hw => hw

theorem triple_discardSnapshot (flowId : Uuid) (version : Nat) (recorded : Bool) :
    Triple World.Linked (discardSnapshot flowId version recorded) (fun _ => World.Linked)
      World.Linked := by
  unfold discardSnapshot
  split
  · refine (ignoring ?_).bind fun _ => ignoring (keep_linked (World.keeps_records_deleteContent _ _))
    exact (change_linked fun _ h => h.deleteSnapshotVersion flowId version).bind fun _ =>
      pure' () fun _ hw => hw
  · exact (pure' () fun _ hw => hw).bind fun _ =>
      ignoring (keep_linked (World.keeps_records_deleteContent _ _))

theorem triple_createSnapshot (flowId : Uuid) (claimed : Revision) (r : SnapshotRequest)
    (user : String) :
    Triple World.Linked (createSnapshot flowId claimed r user) (fun _ => World.Linked)
      World.Linked := by
  unfold createSnapshot
  rcases r with ⟨version, _ | comments, contents, contexts⟩
  all_goals dsimp only
  rotate_left
  refine lift_bind (fun _ hw => hw) fun _ _ => ?_
  all_goals
    refine (Manager.triple_update admits_linked.records admits_linked.records (fun _ hw => hw)
      (fun _ hw => hw) ?_).bind fun _ => pure' _ fun _ hw => hw
    refine (triple_requireFlow_linked flowId).bind fun flow => read_linkedAt.bind fun latest => ?_
    refine lift_bind (fun _ hw => hw.1) fun expected _ => ?_
    split
    · exact throw_bind _ fun _ hw => hw.1
    refine (keep_linkedAt World.keeps_records_now).bind fun t => ?_
    refine lift_bind (fun _ hw => hw.1) fun bytes _ => ?_
    refine (keep_linkedAt (World.keeps_records_saveContent _ _ _)).bind fun _ => ?_
    refine (Triple.tryCatch insertSnapshot_linkedAt fun e =>
      (triple_discardSnapshot _ _ _).bind fun _ => throw' e fun _ hw => hw).bind fun _ => ?_
    refine (Triple.tryCatch (updateFlow_linked (by rfl)) fun e =>
      (triple_discardSnapshot _ _ _).bind fun _ => throw' e fun _ hw => hw).bind fun _ => ?_
    exact pure' _ fun _ hw => hw

theorem triple_restoreBundleVersion (bundleId : Uuid) (version : String)
    (previous : Option BundleVersion) (previousBytes : Option Bytes) :
    Triple World.Linked (restoreBundleVersion bundleId version previous previousBytes)
      (fun _ => World.Linked) World.Linked := by
  unfold restoreBundleVersion
  dsimp only
  refine (ignoring ?_).bind fun _ => ignoring ?_
  · split
    · exact write_linked fun _ _ h hc => h.putBundleVersion hc
    · exact (change_linked fun _ h => h.deleteBundleVersion bundleId version).bind fun _ =>
        pure' () fun _ hw => hw
  · split
    · exact keep_linked (World.keeps_records_saveContent _ _ _)
    · exact keep_linked (World.keeps_records_deleteContent _ _)

/-- The record of an upload lands under the bundle just read, and the bundle goes back into its
bucket; a failed write is put back. -/
theorem triple_recordBundleVersion (bundle : Bundle) (record : BundleVersion)
    (existing : Option BundleVersion) (previousBytes : Option Bytes) :
    Triple (World.LinkedAt bundle.bucketIdentifier)
      (recordBundleVersion bundle record existing previousBytes) (fun _ => World.Linked)
      World.Linked := by
  have undo : ∀ {Q : Unit → World → Prop} e, Triple World.Linked (do
      restoreBundleVersion record.bundleIdentifier record.version existing previousBytes
      throw e : Registry Unit) Q World.Linked := fun e =>
    (triple_restoreBundleVersion _ _ _ _).bind fun _ => throw' e fun _ hw => hw
  exact (Triple.tryCatch putBundleVersion_linkedAt fun e => undo e).bind fun _ =>
    lift_bind (fun _ hw => hw.1) fun _ _ => Triple.tryCatch (updateBundle_linked rfl) fun e => undo e

/-- The read of the content a version held keeps every property of the records. -/
theorem triple_previousContent {P E : World → Prop} (hP : Records P) (hE : ∀ w, P w → E w)
    (key version : String) : Triple P (previousContent key version) (fun _ => P) E := by
  unfold previousContent
  refine Triple.tryCatch (map (of_records (World.keeps_records_getContent key version) hP
    (fun _ _ hw => hw) fun _ hw => hw)) fun e => ?_
  split
  · exact pure' _ fun _ hw => hw
  · exact throw' _ hE

theorem triple_addBundleVersion (bundleId : Uuid) (claimed : Revision) (version : String)
    (data : Bytes) (user : String) :
    Triple World.Linked (addBundleVersion bundleId claimed version data user)
      (fun _ => World.Linked) World.Linked := by
  unfold addBundleVersion
  simp only [pure_bind]
  split
  · exact throw_bind _ fun _ hw => hw
  refine (Manager.triple_update admits_linked.records admits_linked.records (fun _ hw => hw)
    (fun _ hw => hw) ?_).bind fun _ => pure' _ fun _ hw => hw
  refine (triple_requireBundle_linked bundleId).bind fun bundle => read_linkedAt.bind fun found => ?_
  split
  · refine read_linkedAt.bind fun existing => ?_
    split
    · exact throw_bind _ fun _ hw => hw.1
    refine (keep_linkedAt World.keeps_records_now).bind fun t => ?_
    split
    refine (triple_previousContent (admits_linkedAt _).records (fun _ hw => hw.1) _ _).bind
      fun previousBytes => ?_
    all_goals
      refine (keep_linkedAt (World.keeps_records_saveContent _ _ _)).bind fun _ => ?_
      exact (triple_recordBundleVersion _ _ _ _).bind fun _ => pure' _ fun _ hw => hw
  · exact throw_bind _ fun _ hw => hw.1

/-! The deletes purge what a flow or a bundle holds before they delete it, and stop at the first
failure. -/

theorem triple_purgeFlowContent (id : Uuid) :
    Triple World.Linked (purgeFlowContent id) (fun _ => World.FlowPurged id) World.Linked :=
  (keep_linked (World.keeps_records_deleteAllContent _)).bind fun _ =>
    (deleteSnapshots_purged id).bind fun _ => pure' () fun _ hw => hw

theorem triple_purgeBundleContent (id : Uuid) :
    Triple World.Linked (purgeBundleContent id) (fun _ => World.BundlePurged id) World.Linked :=
  (keep_linked (World.keeps_records_deleteAllContent _)).bind fun _ =>
    (deleteBundleVersions_purged id).bind fun _ => pure' () fun _ hw => hw

theorem triple_deleteFlow (id : Uuid) (claimed : Revision) :
    Triple World.Linked (deleteFlow id claimed) (fun _ => World.Linked) World.Linked :=
  Manager.triple_deleteWith admits_linked.records (fun _ => admits_linked.records) (fun _ hw => hw)
    (fun _ _ hw => hw) <| read_linked.bind fun f => (triple_purgeFlowContent id).bind fun _ =>
      (deleteFlow_linked id).bind fun _ => pure' f fun _ hw => hw

theorem triple_deleteBundle (id : Uuid) (claimed : Revision) :
    Triple World.Linked (deleteBundle id claimed) (fun _ => World.Linked) World.Linked :=
  Manager.triple_deleteWith admits_linked.records (fun _ => admits_linked.records) (fun _ hw => hw)
    (fun _ _ hw => hw) <| read_linked.bind fun b => (triple_purgeBundleContent id).bind fun _ =>
      (deleteBundle_linked id).bind fun _ => pure' b fun _ hw => hw

theorem triple_purgeChildren (id : Uuid) :
    Triple World.Linked (purgeChildren id) (fun _ => World.Linked) World.Linked := by
  unfold purgeChildren
  refine read_linked.bind fun flows => (Triple.forM flows fun f _ => ?_).bind fun _ =>
    read_linked.bind fun bundles => Triple.forM bundles fun b _ => ?_
  · exact (triple_deleteChild admits_linked.records (admits_flowPurged _).records (fun _ hw => hw.1)
      (triple_purgeFlowContent _) _ _).bind fun _ =>
      (deleteFlow_linked _).bind fun _ => pure' () fun _ hw => hw
  · exact (triple_deleteChild admits_linked.records (admits_bundlePurged _).records (fun _ hw => hw.1)
      (triple_purgeBundleContent _) _ _).bind fun _ =>
      (deleteBundle_linked _).bind fun _ => pure' () fun _ hw => hw

/-- The bucket itself goes only once the catalog finds it empty, which keeps it linked. -/
theorem triple_purgeBucketWithin (id : Uuid) :
    ∀ passes, Triple World.Linked (purgeBucketWithin id passes) (fun _ => World.Linked) World.Linked
  | 0 => pure' () fun _ hw => hw
  | left + 1 => by
    rw [purgeBucketWithin]
    refine (triple_purgeChildren id).bind fun _ => Triple.tryCatch
      ((Triple.deleteBucket admits_linked (fun _ _ _ hw hc => hw.deleteBucket hc) fun _ hw => hw).bind
        fun _ => pure' () fun _ hw => hw) fun err => ?_
    split
    · split
      · exact triple_purgeBucketWithin id left
      · exact throw' _ fun _ hw => hw
    · exact throw' _ fun _ hw => hw

theorem triple_deleteBucket (id : Uuid) (claimed : Revision) :
    Triple World.Linked (deleteBucket id claimed) (fun _ => World.Linked) World.Linked :=
  Manager.triple_deleteWith admits_linked.records (fun _ => admits_linked.records) (fun _ hw => hw)
    (fun _ _ hw => hw) <| read_linked.bind fun b =>
      (triple_purgeBucketWithin id bucketDeletePasses).bind fun _ => pure' b fun _ hw => hw

end Coordinator

theorem Coordinator.Mutation.triple_run (m : Coordinator.Mutation) :
    Triple World.Linked m.run (fun _ => World.Linked) World.Linked := by
  cases m with
  | createBucket r claimed user => exact Triple.map (Coordinator.triple_createBucket r claimed user)
  | updateBucket id claimed change user =>
    exact Triple.map (Coordinator.triple_updateBucket id claimed change user)
  | createFlow r claimed user => exact Triple.map (Coordinator.triple_createFlow r claimed user)
  | updateFlow id claimed change user =>
    exact Triple.map (Coordinator.triple_updateFlow id claimed change user)
  | createSnapshot flowId claimed r user =>
    exact Triple.map (Coordinator.triple_createSnapshot flowId claimed r user)
  | createBundle r claimed user => exact Triple.map (Coordinator.triple_createBundle r claimed user)
  | updateBundle id claimed description user =>
    exact Triple.map (Coordinator.triple_updateBundle id claimed description user)
  | addBundleVersion bundleId claimed version data user =>
    exact Triple.map (Coordinator.triple_addBundleVersion bundleId claimed version data user)

/-- Every operation keeps the catalog linked, from every linked registry, whatever the plan fails
and whatever flows it queues. -/
theorem Operation.triple_linked (op : Operation) :
    Triple World.Linked op.run (fun _ => World.Linked) World.Linked := by
  cases op with
  | change m => exact m.triple_run
  | deleteBucket id claimed => exact Triple.map (Coordinator.triple_deleteBucket id claimed)
  | deleteFlow id claimed => exact Triple.map (Coordinator.triple_deleteFlow id claimed)
  | deleteBundle id claimed => exact Triple.map (Coordinator.triple_deleteBundle id claimed)
  | read q => exact Query.triple_run admits_linked q

/-- In every registry that runs of operations reach from empty stores, under any plans and with
any flows queued, every record names a live parent, and every further operation keeps it so. -/
theorem records_keep_live_parents {allowed : World → FaultPlan → Operation → Prop} {w : World}
    (hw : Reaches allowed w) :
    w.catalog.Linked ∧ ∀ (p : FaultPlan) (t : Time.Instant) (op : Operation),
      (runWith op.run { w with faults := p, clock := t }).2.catalog.Linked := by
  have linked : w.catalog.Linked := by
    induction hw with
    | fresh content clock => exact Catalog.linked_empty
    | step _ t op _ ih => exact (Operation.triple_linked op).holds_after ih
  exact ⟨linked, fun _ _ op => (Operation.triple_linked op).holds_after linked⟩

/-- A bucket given two flows and a bundle, a flow and a bundle asked for in a bucket that does not
exist and refused, and then one of the flows deleted. -/
theorem records_keep_live_parents_of_refused_orphans :
    let t : Time.Instant := ⟨0, 0, 0⟩
    let b : Uuid := ⟨⟨0xb1, by decide⟩⟩
    let gone : Uuid := ⟨⟨0xb9, by decide⟩⟩
    let f : Uuid := ⟨⟨0xf2, by decide⟩⟩
    let w := (World.fresh default t).runOps FaultPlan.empty t
      [.change (.createBucket ⟨b, "Team", none, false, false⟩ ⟨"", 0, "c"⟩ "user"),
        .change (.createFlow ⟨⟨⟨0xf1, by decide⟩⟩, b, "ingest", none⟩ ⟨"", 0, "c"⟩ "user"),
        .change (.createFlow ⟨f, b, "export", none⟩ ⟨"", 0, "c"⟩ "user"),
        .change (.createBundle ⟨⟨⟨0xa1, by decide⟩⟩, b, .nifiNar, "org.x", "nar", none⟩
          ⟨"", 0, "c"⟩ "user"),
        .change (.createFlow ⟨⟨⟨0xf3, by decide⟩⟩, gone, "orphan", none⟩ ⟨"", 0, "c"⟩ "user"),
        .change (.createBundle ⟨⟨⟨0xa2, by decide⟩⟩, gone, .nifiNar, "org.x", "lost", none⟩
          ⟨"", 0, "c"⟩ "user"),
        .deleteFlow f ⟨f.text, 0, "c"⟩]
    Reaches (fun _ _ _ => True) w ∧ w.catalog.flows.map (·.name) = ["ingest"] ∧
      w.catalog.bundles.map (·.artifactId) = ["nar"] ∧ w.catalog.Linked := by
  intro t b gone f w
  have hw : Reaches (fun _ _ _ => True) w :=
    (Reaches.fresh default t).runOps _ t _ fun _ _ _ => trivial
  exact ⟨hw, by decide +kernel, by decide +kernel, (records_keep_live_parents hw).1⟩

end FlowRegistry
