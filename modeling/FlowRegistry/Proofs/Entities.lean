import FlowRegistry.Proofs.Steady
import FlowRegistry.Proofs.Rollback

/-!
# Which ids are live, and which hold a revision

Buckets, flows and bundles share one namespace of revisions but live in three tables of the
catalog. `World.entities` is what a registry holds of them: which entity ids have a revision, and
which ids are live of each `Kind`. The changes of a live entity (`updateBucket`, `updateFlow`,
`updateBundle`, `createSnapshot`, `addBundleVersion`) keep it, whatever the plan does to their
calls, and so do all the reads of the coordinator, which keep the stores.
-/

namespace FlowRegistry

/-- The kinds of entity that hold a revision. -/
inductive Kind where
  | bucket
  | flow
  | bundle
  deriving DecidableEq, Repr

/-- Inserting by key adds the key of the new element to the keys of the list. -/
theorem mem_map_insertById {α : Type} (key : α → Uuid) (x : α) (xs : List α) (u : Uuid) :
    u ∈ (insertById key x xs).map key ↔ u = key x ∨ u ∈ xs.map key := by
  induction xs with
  | nil => simp [insertById]
  | cons y ys ih =>
    unfold insertById
    split
    · next h => simp [h]
    · split
      · simp
      · simp [ih, or_left_comm]

theorem mem_map_insertById_of_mem {α : Type} {key : α → Uuid} {x : α} {xs : List α}
    (hx : key x ∈ xs.map key) (u : Uuid) : u ∈ (insertById key x xs).map key ↔ u ∈ xs.map key := by
  rw [mem_map_insertById]
  constructor
  · rintro (rfl | hu)
    · exact hx
    · exact hu
  · exact .inr

namespace Catalog

/-- The ids of the live entities of a kind. -/
def ids (c : Catalog) : Kind → List Uuid
  | .bucket => c.buckets.map (·.identifier)
  | .flow => c.flows.map (·.identifier)
  | .bundle => c.bundles.map (·.identifier)

/-- Whether an id is that of a live entity of a kind. -/
def Live (c : Catalog) (k : Kind) (u : Uuid) : Prop := u ∈ c.ids k

variable {c c' : Catalog} {k : Kind} {u x : Uuid}

instance (c : Catalog) (k : Kind) (u : Uuid) : Decidable (c.Live k u) :=
  inferInstanceAs (Decidable (u ∈ c.ids k))

theorem not_live_empty : ¬Catalog.empty.Live k u := by
  cases k <;> simp [Live, ids, Catalog.empty]

/-- An id is live in no other kind than `k`. -/
def Only (c : Catalog) (k : Kind) (u : Uuid) : Prop := ∀ k', c.Live k' u → k' = k

instance (c : Catalog) (k : Kind) (u : Uuid) : Decidable (c.Only k u) :=
  decidable_of_iff ((c.Live .bucket u → Kind.bucket = k) ∧ (c.Live .flow u → Kind.flow = k) ∧
      (c.Live .bundle u → Kind.bundle = k))
    ⟨fun ⟨hb, hf, hx⟩ k' => by cases k' <;> assumption, fun h => ⟨h _, h _, h _⟩⟩

/-- Fewer live ids keep an id to its kind. -/
theorem Only.mono (h : c.Only k u) (hsub : ∀ k x, c'.Live k x → c.Live k x) : c'.Only k u :=
  fun k' hk' => h k' (hsub k' u hk')

/-- Dropping an id from its own kind drops it from every kind. -/
theorem Only.live_iff {k₀ : Kind} (h : c.Only k₀ u) :
    (c.Live k x ∧ (k = k₀ → x ≠ u)) ↔ (c.Live k x ∧ x ≠ u) := by
  constructor
  · rintro ⟨hx, hne⟩
    refine ⟨hx, fun hxu => ?_⟩
    subst hxu
    exact hne (h k hx) rfl
  · rintro ⟨hx, hne⟩
    exact ⟨hx, fun _ => hne⟩

/-- An id live as a bucket only is the id of no flow or bundle, in its bucket or elsewhere. -/
theorem Only.unnested (h : c.Only .bucket u) : c.Unnested u where
  flows f hf hid _ := absurd (h .flow (List.mem_map.2 ⟨f, hf, hid⟩)) (by decide)
  bundles b hb hid _ := absurd (h .bundle (List.mem_map.2 ⟨b, hb, hid⟩)) (by decide)

theorem mem_ids_of_fetchBucket {id : Uuid} (h : ¬(c.fetchBucket id).isNone) : id ∈ c.ids .bucket := by
  cases hfound : c.fetchBucket id with
  | none => exact absurd (by rw [hfound]; rfl) h
  | some b =>
    have hid : b.identifier = id := by simpa using List.find?_some hfound
    exact List.mem_map.2 ⟨b, List.mem_of_find?_eq_some hfound, hid⟩

theorem mem_ids_of_fetchFlow {id : Uuid} (h : ¬(c.fetchFlow id).isNone) : id ∈ c.ids .flow := by
  cases hfound : c.fetchFlow id with
  | none => exact absurd (by rw [hfound]; rfl) h
  | some f =>
    have hid : f.identifier = id := by simpa using List.find?_some hfound
    exact List.mem_map.2 ⟨f, List.mem_of_find?_eq_some hfound, hid⟩

theorem mem_ids_of_fetchBundle {id : Uuid} (h : ¬(c.fetchBundle id).isNone) : id ∈ c.ids .bundle := by
  cases hfound : c.fetchBundle id with
  | none => exact absurd (by rw [hfound]; rfl) h
  | some b =>
    have hid : b.identifier = id := by simpa using List.find?_some hfound
    exact List.mem_map.2 ⟨b, List.mem_of_find?_eq_some hfound, hid⟩

/-! An update finds its record live and writes it back under the same id; the writes of
snapshot records and bundle versions do not touch the three tables of entities. -/

theorem live_updateBucket {b : Bucket} (h : c.updateBucket b = .ok c') : c'.Live = c.Live := by
  unfold updateBucket at h
  split at h
  · cases h
  · next hfound =>
    cases h
    funext k u
    cases k
    · exact propext (mem_map_insertById_of_mem (mem_ids_of_fetchBucket hfound) u)
    · rfl
    · rfl

theorem live_updateFlow {f : Flow} (h : c.updateFlow f = .ok c') : c'.Live = c.Live := by
  unfold updateFlow at h
  split at h
  · cases h
  · next hfound =>
    cases h
    funext k u
    cases k
    · rfl
    · exact propext (mem_map_insertById_of_mem (mem_ids_of_fetchFlow hfound) u)
    · rfl

theorem live_updateBundle {b : Bundle} (h : c.updateBundle b = .ok c') : c'.Live = c.Live := by
  unfold updateBundle at h
  split at h
  · cases h
  · next hfound =>
    cases h
    funext k u
    cases k
    · rfl
    · rfl
    · exact propext (mem_map_insertById_of_mem (mem_ids_of_fetchBundle hfound) u)

theorem live_insertSnapshot {m : SnapshotMeta} (h : c.insertSnapshot m = .ok c') : c'.Live = c.Live := by
  unfold insertSnapshot at h
  split at h
  · cases h
  · split at h
    · cases h
    · cases h
      rfl

theorem live_putBundleVersion {v : BundleVersion} (h : c.putBundleVersion v = .ok c') :
    c'.Live = c.Live := by
  unfold putBundleVersion at h
  split at h
  · cases h
  · cases h
    rfl

end Catalog

theorem RevisionTable.isSome_put {t t' : RevisionTable} {v : Nat} {r : Revision}
    (h : t.put v r = .ok t') (e : String) : (t'.get? e).isSome = (t.get? e).isSome := by
  have held : (t.get? r.entityId).isSome := by
    unfold RevisionTable.put at h
    split at h
    · cases h
    · next s hs => rw [hs]; rfl
  rw [RevisionTable.get?_put h]
  split
  · next he =>
    subst he
    exact held.symm
  · rfl

namespace World

/-- What a registry holds of its entities: which ids have a revision, and which ids are live of
each kind. -/
def entities (w : World) : (String → Bool) × (Kind → Uuid → Prop) :=
  (fun e => (w.revisions.get? e).isSome, w.catalog.Live)

theorem entities_eq {w w' : World}
    (hrev : ∀ e, (w'.revisions.get? e).isSome = (w.revisions.get? e).isSome)
    (hcat : w'.catalog.Live = w.catalog.Live) : w'.entities = w.entities := by
  simp only [entities, hcat, Prod.mk.injEq, and_true]
  exact funext hrev

end World

/-! ### Frames of the entities -/

section Frames

variable {α : Type} {cs : List Call} {w w' : World}

theorem Frame.entities (h : Frame cs World.stores w w') : Frame cs World.entities w w' := by
  have hrev : w'.revisions = w.revisions := congrArg Prod.fst h.view
  have hcat : w'.catalog = w.catalog := congrArg (fun s => s.2.1) h.view
  exact ⟨World.entities_eq (by simp [hrev]) (by rw [hcat]), h.queued, h.failures⟩

theorem Within.entities {m : Registry α} (hm : Within cs World.stores m) :
    Within cs World.entities m :=
  fun w hcalm => (hm w hcalm).entities

/-- A write of the catalog whose operation keeps the live ids keeps the entities. -/
theorem within_writeCatalog_entities {m : String} {f : Catalog → Outcome Catalog}
    (hf : ∀ c c', f c = .ok c' → c'.Live = c.Live) :
    Within [] World.entities (World.writeCatalog m f) := fun w hcalm => by
  have pass := (frame_pass (c := ⟨.metadata, m⟩) List.not_mem_nil w).entities
  rcases World.writeCatalog_cases hcalm m f with ⟨err, hrun⟩ | ⟨c, hc, hrun⟩
  · rw [hrun]
    exact pass
  · rw [hrun]
    exact ⟨World.entities_eq (fun _ => rfl) (hf _ _ hc), pass.queued, pass.failures⟩

theorem within_changeCatalog_entities {m : String} {f : Catalog → α × Catalog}
    (hf : ∀ c, (f c).2.Live = c.Live) : Within [] World.entities (World.changeCatalog m f) :=
  fun w hcalm => by
    have pass := (frame_pass (c := ⟨.metadata, m⟩) List.not_mem_nil w).entities
    rw [World.runWith_changeCatalog hcalm]
    split
    · exact pass
    · exact ⟨World.entities_eq (fun _ => rfl) (hf _), pass.queued, pass.failures⟩

theorem within_saveContent_entities (e v : String) (data : Bytes) :
    Within [] World.entities (World.saveContent e v data) := fun w _ => by
  have pass := (frame_pass (c := World.contentCall "save_content") List.not_mem_nil w).entities
  rw [World.runWith_saveContent]
  split
  · exact pass
  · exact ⟨rfl, pass.queued, pass.failures⟩

theorem within_deleteContent_entities (e v : String) :
    Within [] World.entities (World.deleteContent e v) := fun w _ => by
  have pass := (frame_pass (c := World.contentCall "delete_content") List.not_mem_nil w).entities
  rw [World.runWith_deleteContent]
  split
  · exact pass
  · split
    · exact ⟨rfl, pass.queued, pass.failures⟩
    · exact pass

theorem within_putRevision_entities (v : Nat) (r : Revision) :
    Within [] World.entities (World.putRevision v r) := fun w _ => by
  have pass := (frame_pass (c := World.revisionCall "put_revision") List.not_mem_nil w).entities
  rw [World.runWith_putRevision]
  split
  · exact pass
  · split
    · next t ht =>
      exact ⟨World.entities_eq (RevisionTable.isSome_put ht) rfl, pass.queued, pass.failures⟩
    · exact pass

end Frames

/-! The writes of a change of a live entity, one by one. -/

namespace World

theorem within_updateBucket (b : Bucket) : Within [] World.entities (updateBucket b) :=
  within_writeCatalog_entities (m := "update_bucket") (f := (·.updateBucket b))
    fun _ _ => Catalog.live_updateBucket

theorem within_updateFlow (f : Flow) : Within [] World.entities (updateFlow f) :=
  within_writeCatalog_entities (m := "update_flow") (f := (·.updateFlow f))
    fun _ _ => Catalog.live_updateFlow

theorem within_updateBundle (b : Bundle) : Within [] World.entities (updateBundle b) :=
  within_writeCatalog_entities (m := "update_bundle") (f := (·.updateBundle b))
    fun _ _ => Catalog.live_updateBundle

theorem within_insertSnapshot (m : SnapshotMeta) : Within [] World.entities (insertSnapshot m) :=
  within_writeCatalog_entities (m := "insert_snapshot_metadata") (f := (·.insertSnapshot m))
    fun _ _ => Catalog.live_insertSnapshot

theorem within_putBundleVersion (v : BundleVersion) :
    Within [] World.entities (putBundleVersion v) :=
  within_writeCatalog_entities (m := "put_bundle_version") (f := (·.putBundleVersion v))
    fun _ _ => Catalog.live_putBundleVersion

theorem within_deleteSnapshotVersion (f : Uuid) (v : Nat) :
    Within [] World.entities (deleteSnapshotVersion f v) :=
  within_changeCatalog_entities (m := "delete_snapshot_version")
    (f := (·.deleteSnapshotVersion f v)) fun _ => rfl

theorem within_deleteBundleVersion (b : Uuid) (v : String) :
    Within [] World.entities (deleteBundleVersion b v) :=
  within_changeCatalog_entities (m := "delete_bundle_version")
    (f := (·.deleteBundleVersion b v)) fun _ => rfl

end World

theorem Within.listMapM {γ δ ε : Type} {cs : List Call} {v : World → ε} {f : γ → Registry δ}
    (h : ∀ x, Within cs v (f x)) : ∀ xs : List γ, Within cs v (xs.mapM f)
  | [] => by
    rw [List.mapM_nil]
    exact Within.pure' []
  | x :: xs => by
    rw [List.mapM_cons]
    exact (h x).bind fun _ => (listMapM h xs).bind fun _ => Within.pure' _

namespace Manager

variable {α : Type}

theorem within_getRevision (e : String) : Within [] World.stores (getRevision e) :=
  (FlowRegistry.within_getRevision List.not_mem_nil e).bind fun found => by
    cases found
    · exact Within.throw' _
    · exact Within.pure' _

theorem within_advance_entities (current claimed : Revision) :
    Within [] World.entities (advance current claimed) :=
  (Within.lift _).bind fun next => (within_putRevision_entities _ _).bind fun _ => Within.pure' next

/-- An update keeps the entities when its change does: it moves a revision that is there. -/
theorem within_update_entities {mutation : Registry α} (hm : Within [] World.entities mutation)
    (e : String) (claimed : Revision) : Within [] World.entities (update e claimed mutation) :=
  (Within.lift _).bind fun _ => (within_verifyLocked List.not_mem_nil e claimed).entities.bind
    fun current => hm.bind fun _ => (within_advance_entities current claimed).bind fun _ =>
      Within.pure' _

end Manager

namespace Coordinator

theorem within_updateBucket_entities (id : Uuid) (claimed : Revision) (c : BucketChange)
    (user : String) : Within [] World.entities (updateBucket id claimed c user) := by
  unfold updateBucket
  dsimp only
  split
  refine (Within.lift _).bind fun _ => ?_
  all_goals
    refine (Within.lift _).bind fun _ => ?_
    refine (Manager.within_update_entities ?_ _ _).bind fun _ => Within.pure' _
    refine (within_requireBucket List.not_mem_nil id).entities.bind fun b => ?_
    have write : ∀ b' : Bucket, Within [] World.entities (World.updateBucket b' >>= fun _ => pure b') :=
      fun b' => (World.within_updateBucket b').bind fun _ => Within.pure' b'
    split
    · exact (Within.pure' _).bind fun _ => write _
    · refine (within_readCatalog List.not_mem_nil _).entities.bind fun found => ?_
      split
      · split
        · exact Within.throw_bind _ _
        · exact (Within.pure' _).bind fun _ => write _
      · exact (Within.pure' _).bind fun _ => write _

theorem within_updateFlow_entities (id : Uuid) (claimed : Revision) (c : FlowChange)
    (user : String) : Within [] World.entities (updateFlow id claimed c user) := by
  unfold updateFlow
  dsimp only
  split
  refine (Within.lift _).bind fun _ => ?_
  all_goals
    refine (Within.lift _).bind fun _ => ?_
    refine (Manager.within_update_entities ?_ _ _).bind fun _ => Within.pure' _
    refine (within_requireFlow List.not_mem_nil id).entities.bind fun f => ?_
    have write : ∀ f' : Flow, Within [] World.entities (World.updateFlow f' >>= fun _ => pure f') :=
      fun f' => (World.within_updateFlow f').bind fun _ => Within.pure' f'
    split
    · exact (Within.pure' _).bind fun _ => within_now.entities.bind fun _ => write _
    · refine (within_readCatalog List.not_mem_nil _).entities.bind fun found => ?_
      split
      · split
        · exact Within.throw_bind _ _
        · exact (Within.pure' _).bind fun _ => within_now.entities.bind fun _ => write _
      · exact (Within.pure' _).bind fun _ => within_now.entities.bind fun _ => write _

theorem within_updateBundle_entities (id : Uuid) (claimed : Revision) (description : Option String)
    (user : String) : Within [] World.entities (updateBundle id claimed description user) := by
  unfold updateBundle
  refine (Within.lift _).bind fun _ => ?_
  refine (Manager.within_update_entities ?_ _ _).bind fun _ => Within.pure' _
  exact (within_requireBundle List.not_mem_nil id).entities.bind fun _ =>
    within_now.entities.bind fun _ => (World.within_updateBundle _).bind fun _ => Within.pure' _

theorem within_discardSnapshot_entities (flowId : Uuid) (version : Nat) (recorded : Bool) :
    Within [] World.entities (discardSnapshot flowId version recorded) := by
  have content : Within [] World.entities
      (tryCatch (World.deleteContent flowId.text (toString version)) fun _ => pure ()) :=
    (within_deleteContent_entities _ _).tryCatch fun _ => Within.pure' ()
  unfold discardSnapshot
  cases recorded
  · exact content
  · exact (((World.within_deleteSnapshotVersion _ _).bind fun _ => Within.pure' ()).tryCatch
      fun _ => Within.pure' ()).bind fun _ => content

theorem within_createSnapshot_entities (flowId : Uuid) (claimed : Revision) (r : SnapshotRequest)
    (user : String) : Within [] World.entities (createSnapshot flowId claimed r user) := by
  unfold createSnapshot
  dsimp only
  split
  refine (Within.lift _).bind fun _ => ?_
  all_goals
    refine (Manager.within_update_entities ?_ _ _).bind fun _ => Within.pure' _
    refine (within_requireFlow List.not_mem_nil _).entities.bind fun flow => ?_
    refine (within_readCatalog List.not_mem_nil _).entities.bind fun latest => ?_
    refine (Within.lift _).bind fun expected => ?_
    split
    · exact Within.throw_bind _ _
    · exact within_now.entities.bind fun _ => (Within.lift _).bind fun _ =>
        (within_saveContent_entities _ _ _).bind fun _ =>
        ((World.within_insertSnapshot _).tryCatch fun e =>
          (within_discardSnapshot_entities _ _ _).bind fun _ => Within.throw' e).bind
        fun _ => ((World.within_updateFlow _).tryCatch fun e =>
          (within_discardSnapshot_entities _ _ _).bind fun _ => Within.throw' e).bind
        fun _ => Within.pure' _

theorem within_restoreBundleVersion_entities (bundleId : Uuid) (version : String)
    (previous : Option BundleVersion) (previousBytes : Option Bytes) :
    Within [] World.entities (restoreBundleVersion bundleId version previous previousBytes) := by
  unfold restoreBundleVersion
  refine (Within.tryCatch ?_ fun _ => Within.pure' ()).bind fun _ =>
    Within.tryCatch ?_ fun _ => Within.pure' ()
  · cases previous
    · exact (World.within_deleteBundleVersion _ _).bind fun _ => Within.pure' ()
    · exact World.within_putBundleVersion _
  · cases previousBytes
    · exact within_deleteContent_entities _ _
    · exact within_saveContent_entities _ _ _

theorem within_recordBundleVersion_entities (bundle : Bundle) (record : BundleVersion)
    (existing : Option BundleVersion) (previousBytes : Option Bytes) :
    Within [] World.entities (recordBundleVersion bundle record existing previousBytes) := by
  have undo : ∀ e, Within [] World.entities (do
      restoreBundleVersion record.bundleIdentifier record.version existing previousBytes
      throw e : Registry Unit) := fun e =>
    (within_restoreBundleVersion_entities _ _ _ _).bind fun _ => Within.throw' e
  exact ((World.within_putBundleVersion _).tryCatch undo).bind fun _ =>
    (Within.lift _).bind fun _ => (World.within_updateBundle _).tryCatch undo

theorem within_addBundleVersion_entities (bundleId : Uuid) (claimed : Revision) (version : String)
    (data : Bytes) (user : String) :
    Within [] World.entities (addBundleVersion bundleId claimed version data user) := by
  unfold addBundleVersion
  dsimp only
  split
  · exact Within.throw_bind _ _
  refine (Manager.within_update_entities ?_ _ _).bind fun _ => Within.pure' _
  refine (within_requireBundle List.not_mem_nil _).entities.bind fun bundle => ?_
  refine (within_readCatalog List.not_mem_nil _).entities.bind fun found => ?_
  have writes : ∀ (existing : Option BundleVersion) (previousBytes : Option Bytes)
      (record : BundleVersion) (bundle : Bundle), Within [] World.entities (do
        World.saveContent bundleId.text (Text.trim version) data
        recordBundleVersion bundle record existing previousBytes
        pure record) := fun existing previousBytes record bundle =>
    (within_saveContent_entities _ _ _).bind fun _ =>
      (within_recordBundleVersion_entities _ _ _ _).bind fun _ => Within.pure' _
  split
  · refine (Within.pure' _).bind fun bucket => ?_
    refine (within_readCatalog List.not_mem_nil _).entities.bind fun existing => ?_
    split
    · exact Within.throw_bind _ _
    refine within_now.entities.bind fun _ => ?_
    split
    · exact (within_previousContent List.not_mem_nil _ _).entities.bind fun _ => writes _ _ _ _
    · exact (Within.pure' _).bind fun _ => writes _ _ _ _
  · exact Within.throw_bind _ _

/-! ### The reads keep the stores -/

theorem within_getBucket (id : Uuid) : Within [] World.stores (getBucket id) :=
  (within_requireBucket List.not_mem_nil id).bind fun _ =>
    (Manager.within_getRevision _).bind fun _ => Within.pure' _

theorem within_listBuckets : Within [] World.stores listBuckets :=
  (within_readCatalog List.not_mem_nil _).bind
    (Within.listMapM fun _ => (Manager.within_getRevision _).bind fun _ => Within.pure' _)

theorem within_getFlow (id : Uuid) : Within [] World.stores (getFlow id) :=
  (within_requireFlow List.not_mem_nil id).bind fun _ =>
    (Manager.within_getRevision _).bind fun _ => Within.pure' _

theorem within_listFlows (bucketId : Uuid) : Within [] World.stores (listFlows bucketId) :=
  (within_requireBucket List.not_mem_nil bucketId).bind fun _ =>
    (within_readCatalog List.not_mem_nil _).bind
      (Within.listMapM fun _ => (Manager.within_getRevision _).bind fun _ => Within.pure' _)

theorem within_getBundle (id : Uuid) : Within [] World.stores (getBundle id) :=
  (within_requireBundle List.not_mem_nil id).bind fun _ =>
    (Manager.within_getRevision _).bind fun _ => Within.pure' _

theorem within_listBundles (bucketId : Uuid) : Within [] World.stores (listBundles bucketId) :=
  (within_requireBucket List.not_mem_nil bucketId).bind fun _ =>
    (within_readCatalog List.not_mem_nil _).bind
      (Within.listMapM fun _ => (Manager.within_getRevision _).bind fun _ => Within.pure' _)

theorem within_loadSnapshot (flowId : Uuid) (version : Nat) :
    Within [] World.stores (loadSnapshot flowId version) :=
  (within_getContent List.not_mem_nil _ _).bind fun _ => (Within.lift _).bind fun _ => Within.lift _

theorem within_getSnapshot (flowId : Uuid) (version : Nat) :
    Within [] World.stores (getSnapshot flowId version) := by
  unfold getSnapshot
  refine (within_requireFlow List.not_mem_nil _).bind fun _ =>
    (within_readCatalog List.not_mem_nil _).bind fun found => ?_
  split
  · exact Within.throw_bind _ _
  · exact (Within.pure' ()).bind fun _ => within_loadSnapshot _ _

theorem within_getLatestSnapshot (flowId : Uuid) :
    Within [] World.stores (getLatestSnapshot flowId) := by
  unfold getLatestSnapshot
  refine (within_requireFlow List.not_mem_nil _).bind fun _ =>
    (within_readCatalog List.not_mem_nil _).bind fun latest => ?_
  split
  · exact within_loadSnapshot _ _
  · exact Within.throw' _

theorem within_listSnapshots (flowId : Uuid) : Within [] World.stores (listSnapshots flowId) :=
  (within_requireFlow List.not_mem_nil _).bind fun _ => within_readCatalog List.not_mem_nil _

theorem within_listBundleVersions (bundleId : Uuid) :
    Within [] World.stores (listBundleVersions bundleId) :=
  (within_requireBundle List.not_mem_nil _).bind fun _ => within_readCatalog List.not_mem_nil _

theorem within_getBundleVersionContent (bundleId : Uuid) (version : String) :
    Within [] World.stores (getBundleVersionContent bundleId version) := by
  unfold getBundleVersionContent
  refine (within_readCatalog List.not_mem_nil _).bind fun found => ?_
  split
  · refine (within_getContent List.not_mem_nil _ _).bind fun data => ?_
    split
    · exact Within.throw_bind _ _
    · exact (Within.pure' ()).bind fun _ => Within.pure' _
  · exact Within.throw' _

end Coordinator

end FlowRegistry
