import FlowRegistry.Proofs.Faulted
import FlowRegistry.Proofs.Integrity

/-!
# Runs under plans that fail calls

A plan may fail any call of a step, and queue flows to appear between calls. Two things survive
every such plan. No call changes the kind of store a registry keeps its content in
(`World.contentKind`): a save or a delete writes the store it finds, in memory or on a filesystem,
so every read and every change keeps it (`Query.keeps_contentKind`,
`Coordinator.Mutation.keeps_contentKind`). And a step whose plan queues no flow and lets every
registration through, with its delete aimed and run with nothing planned
(`Operation.Registered`), keeps the revisions in step with the live entities
(`World.Corresponds.registered_step`), whatever else the plan fails.
-/

namespace FlowRegistry

namespace ContentStore

variable {s s' : ContentStore} {e v : String}

/-- A save keeps the kind of store, whether it succeeds or not. -/
@[simp] theorem name_save (s : ContentStore) (e v : String) (data : Bytes) :
    (s.save e v data).2.name = s.name := by
  cases s with
  | memory m =>
    simp only [save]
    split <;> rfl
  | disk d => rfl

theorem name_of_delete (h : s.delete e v = .ok s') : s'.name = s.name := by
  cases s with
  | memory m =>
    cases h
    rfl
  | disk d =>
    simp only [delete] at h
    rcases hd : d.delete e v with err | d' <;> simp [hd, Functor.map, Except.map] at h
    subst h
    rfl

end ContentStore

section Views

variable {α β γ : Type} {v : World → γ}

namespace Keeps

theorem tryCatch {m : Registry α} {h : RegistryError → Registry α} (hm : Keeps v m)
    (hh : ∀ e, Keeps v (h e)) : Keeps v (tryCatch m h) := by
  intro w
  have first := hm w
  rw [runWith_tryCatch]
  generalize runWith m w = p at first ⊢
  rcases p with ⟨e | a, w₁⟩
  · exact (hh e w₁).trans first
  · exact first

/-- A failure, and nothing that would follow it. -/
theorem throw_bind (err : RegistryError) (f : α → Registry β) : Keeps v (throw err >>= f) :=
  fun _ => rfl

theorem mapM {f : β → Registry α} (hf : ∀ x, Keeps v (f x)) : ∀ xs : List β, Keeps v (xs.mapM f)
  | [] => pure' _
  | x :: xs => by
    rw [List.mapM_cons]
    exact (hf x).bind fun _ => (mapM hf xs).bind fun _ => pure' _

end Keeps

end Views

namespace World

/-- The kind of store a registry keeps its content in. -/
def contentKind (w : World) : String := w.content.name

variable {α : Type}

theorem keeps_contentKind_of_content {m : Registry α}
    (h : ∀ w, (runWith m w).2.content = w.content) : Keeps contentKind m :=
  fun w => congrArg ContentStore.name (h w)

theorem keeps_contentKind_guard (c : Call) : Keeps contentKind (guard c) :=
  keeps_contentKind_of_content fun w => by
    rw [runWith_guard]
    rfl

theorem keeps_contentKind_enterMetadata (m : String) : Keeps contentKind (enterMetadata m) :=
  fun w => by
    rw [runWith_enterMetadata_eq]
    split
    · exact keeps_contentKind_guard _ _
    · split
      · exact keeps_contentKind_guard _ _
      · rfl

theorem keeps_contentKind_readCatalog (m : String) (f : Catalog → α) :
    Keeps contentKind (readCatalog m f) :=
  (keeps_contentKind_enterMetadata m).bind fun _ _ => rfl

theorem keeps_contentKind_writeCatalog (m : String) (f : Catalog → Outcome Catalog) :
    Keeps contentKind (writeCatalog m f) :=
  (keeps_contentKind_enterMetadata m).bind fun _ w => by
    simp only [runWith_bind, runWith_get, runWith_lift]
    rcases f w.catalog with err | c <;> rfl

theorem keeps_contentKind_changeCatalog (m : String) (f : Catalog → α × Catalog) :
    Keeps contentKind (changeCatalog m f) :=
  (keeps_contentKind_enterMetadata m).bind fun _ _ => rfl

theorem keeps_contentKind_getRevision (e : String) : Keeps contentKind (getRevision e) :=
  keeps_contentKind_of_content fun w => by
    rw [runWith_getRevision]
    split <;> rfl

theorem keeps_contentKind_createRevision (r : Revision) : Keeps contentKind (createRevision r) :=
  keeps_contentKind_of_content fun w => by
    rw [runWith_createRevision]
    split
    · rfl
    · split <;> rfl

theorem keeps_contentKind_putRevision (n : Nat) (r : Revision) :
    Keeps contentKind (putRevision n r) :=
  keeps_contentKind_of_content fun w => by
    rw [runWith_putRevision]
    split
    · rfl
    · split <;> rfl

theorem keeps_contentKind_saveContent (e v : String) (data : Bytes) :
    Keeps contentKind (saveContent e v data) := fun w => by
  rw [runWith_saveContent]
  split
  · rfl
  · exact ContentStore.name_save _ _ _ _

theorem keeps_contentKind_getContent (e v : String) : Keeps contentKind (getContent e v) :=
  keeps_contentKind_of_content fun w => by
    rw [runWith_getContent]
    split <;> rfl

theorem keeps_contentKind_deleteContent (e v : String) : Keeps contentKind (deleteContent e v) :=
  fun w => by
    rw [runWith_deleteContent]
    split
    · rfl
    · split
      · next s hs => exact ContentStore.name_of_delete hs
      · rfl

end World

namespace Manager

open World

variable {α : Type}

theorem keeps_contentKind_getRevision (e : String) : Keeps contentKind (getRevision e) :=
  (World.keeps_contentKind_getRevision e).bind fun o => by
    cases o
    · exact .throw' _
    · exact .pure' _

theorem keeps_contentKind_verifyLocked (e : String) (claimed : Revision) :
    Keeps contentKind (verifyLocked e claimed) :=
  (keeps_contentKind_getRevision e).bind fun current => by
    by_cases h : current.version = claimed.version
    · simpa [h] using Keeps.pure' (v := contentKind) current
    · simpa [h] using Keeps.throw' (v := contentKind) (α := Revision) _

theorem keeps_contentKind_create {creation : Registry α} (hc : Keeps contentKind creation)
    (e : String) (claimed : Revision) : Keeps contentKind (create e claimed creation) :=
  (Keeps.lift _).bind fun _ => (Keeps.lift _).bind fun _ =>
    ((World.keeps_contentKind_getRevision e).bind fun o => by
      by_cases h : o.isSome
      · simpa [h] using Keeps.throw' (v := contentKind) (α := Unit) _
      · simpa [h] using Keeps.pure' (v := contentKind) ()).bind fun _ =>
    hc.bind fun _ => ((keeps_contentKind_createRevision _).bind fun _ => .pure' _).bind fun _ =>
    .pure' _

theorem keeps_contentKind_update {mutation : Registry α} (hm : Keeps contentKind mutation)
    (e : String) (claimed : Revision) : Keeps contentKind (update e claimed mutation) :=
  (Keeps.lift _).bind fun _ => (keeps_contentKind_verifyLocked e claimed).bind fun _ =>
    hm.bind fun _ => ((Keeps.lift _).bind fun _ => (keeps_contentKind_putRevision _ _).bind
      fun _ => .pure' _).bind fun _ => .pure' _

end Manager

namespace Coordinator

open World

theorem keeps_contentKind_requireBucket (id : Uuid) : Keeps contentKind (requireBucket id) :=
  (keeps_contentKind_readCatalog _ _).bind fun found => by
    cases found
    · exact .throw' _
    · exact .pure' _

theorem keeps_contentKind_requireFlow (id : Uuid) : Keeps contentKind (requireFlow id) :=
  (keeps_contentKind_readCatalog _ _).bind fun found => by
    cases found
    · exact .throw' _
    · exact .pure' _

theorem keeps_contentKind_requireBundle (id : Uuid) : Keeps contentKind (requireBundle id) :=
  (keeps_contentKind_readCatalog _ _).bind fun found => by
    cases found
    · exact .throw' _
    · exact .pure' _

theorem keeps_contentKind_now : Keeps contentKind now := fun _ => rfl

theorem keeps_contentKind_createBucket (r : BucketRequest) (claimed : Revision) (user : String) :
    Keeps contentKind (createBucket r claimed user) := by
  unfold createBucket
  refine (Keeps.lift _).bind fun _ => ?_
  refine (Keeps.lift _).bind fun _ => ?_
  refine (Keeps.lift _).bind fun _ => ?_
  refine keeps_contentKind_now.bind fun _ => ?_
  refine (Manager.keeps_contentKind_create ?_ _ _).bind fun x => ?_
  · refine (keeps_contentKind_readCatalog _ _).bind fun found => ?_
    split
    · exact Keeps.throw_bind _ _
    · exact keeps_contentKind_writeCatalog _ _
  · rcases x with ⟨⟨⟩, revision⟩
    exact .pure' _

theorem keeps_contentKind_updateBucket (id : Uuid) (claimed : Revision) (c : BucketChange)
    (user : String) : Keeps contentKind (updateBucket id claimed c user) := by
  unfold updateBucket
  dsimp only
  split
  refine (Keeps.lift _).bind fun _ => ?_
  all_goals
    refine (Keeps.lift _).bind fun _ => ?_
    refine (Manager.keeps_contentKind_update ?_ _ _).bind fun x => ?_
    · refine (keeps_contentKind_requireBucket id).bind fun b => ?_
      have write : ∀ b' : Bucket, Keeps contentKind (World.updateBucket b' >>= fun _ => pure b') :=
        fun b' => (keeps_contentKind_writeCatalog _ _).bind fun _ => .pure' b'
      split
      · exact (Keeps.pure' _).bind fun _ => write _
      · refine (keeps_contentKind_readCatalog _ _).bind fun found => ?_
        split
        · split
          · exact Keeps.throw_bind _ _
          · exact (Keeps.pure' _).bind fun _ => write _
        · exact (Keeps.pure' _).bind fun _ => write _
    · rcases x with ⟨bucket, revision⟩
      exact .pure' _

theorem keeps_contentKind_createFlow (r : FlowRequest) (claimed : Revision) (user : String) :
    Keeps contentKind (createFlow r claimed user) := by
  unfold createFlow
  refine (Keeps.lift _).bind fun _ => ?_
  refine (Keeps.lift _).bind fun _ => ?_
  refine (Keeps.lift _).bind fun _ => ?_
  refine keeps_contentKind_now.bind fun _ => ?_
  refine (Manager.keeps_contentKind_create ?_ _ _).bind fun x => ?_
  · refine (keeps_contentKind_readCatalog _ _).bind fun bucket => ?_
    split
    · exact Keeps.throw_bind _ _
    · refine (keeps_contentKind_readCatalog _ _).bind fun found => ?_
      split
      · exact Keeps.throw_bind _ _
      · exact keeps_contentKind_writeCatalog _ _
  · rcases x with ⟨⟨⟩, revision⟩
    exact .pure' _

theorem keeps_contentKind_updateFlow (id : Uuid) (claimed : Revision) (c : FlowChange)
    (user : String) : Keeps contentKind (updateFlow id claimed c user) := by
  unfold updateFlow
  dsimp only
  split
  refine (Keeps.lift _).bind fun _ => ?_
  all_goals
    refine (Keeps.lift _).bind fun _ => ?_
    refine (Manager.keeps_contentKind_update ?_ _ _).bind fun x => ?_
    · refine (keeps_contentKind_requireFlow id).bind fun f => ?_
      have write : ∀ f' : Flow, Keeps contentKind (World.updateFlow f' >>= fun _ => pure f') :=
        fun f' => (keeps_contentKind_writeCatalog _ _).bind fun _ => .pure' f'
      split
      · exact (Keeps.pure' _).bind fun _ => keeps_contentKind_now.bind fun _ => write _
      · refine (keeps_contentKind_readCatalog _ _).bind fun found => ?_
        split
        · split
          · exact Keeps.throw_bind _ _
          · exact (Keeps.pure' _).bind fun _ => keeps_contentKind_now.bind fun _ => write _
        · exact (Keeps.pure' _).bind fun _ => keeps_contentKind_now.bind fun _ => write _
    · rcases x with ⟨flow, revision⟩
      exact .pure' _

theorem keeps_contentKind_discardSnapshot (flowId : Uuid) (version : Nat) (recorded : Bool) :
    Keeps contentKind (discardSnapshot flowId version recorded) := by
  have content : Keeps contentKind
      (tryCatch (World.deleteContent flowId.text (toString version)) fun _ => pure ()) :=
    (keeps_contentKind_deleteContent _ _).tryCatch fun _ => .pure' ()
  unfold discardSnapshot
  cases recorded
  · exact content
  · exact (((keeps_contentKind_changeCatalog _ _).bind fun _ => .pure' ()).tryCatch
      fun _ => .pure' ()).bind fun _ => content

theorem keeps_contentKind_createSnapshot (flowId : Uuid) (claimed : Revision) (r : SnapshotRequest)
    (user : String) : Keeps contentKind (createSnapshot flowId claimed r user) := by
  unfold createSnapshot
  dsimp only
  split
  refine (Keeps.lift _).bind fun _ => ?_
  all_goals
    refine (Manager.keeps_contentKind_update ?_ _ _).bind fun x => ?_
    · refine (keeps_contentKind_requireFlow _).bind fun flow => ?_
      refine (keeps_contentKind_readCatalog _ _).bind fun latest => ?_
      refine (Keeps.lift _).bind fun expected => ?_
      split
      · exact Keeps.throw_bind _ _
      · exact keeps_contentKind_now.bind fun _ => (Keeps.lift _).bind fun _ =>
          (keeps_contentKind_saveContent _ _ _).bind fun _ =>
          ((keeps_contentKind_writeCatalog _ _).tryCatch fun e =>
            (keeps_contentKind_discardSnapshot _ _ _).bind fun _ => Keeps.throw' e).bind
          fun _ => ((keeps_contentKind_writeCatalog _ _).tryCatch fun e =>
            (keeps_contentKind_discardSnapshot _ _ _).bind fun _ => Keeps.throw' e).bind
          fun _ => .pure' _
    · rcases x with ⟨info, revision⟩
      exact .pure' _

theorem keeps_contentKind_createBundle (r : BundleRequest) (claimed : Revision) (user : String) :
    Keeps contentKind (createBundle r claimed user) := by
  unfold createBundle
  refine (Keeps.lift _).bind fun _ => ?_
  refine (Keeps.lift _).bind fun _ => ?_
  refine (Keeps.lift _).bind fun _ => ?_
  refine (Keeps.lift _).bind fun _ => ?_
  refine keeps_contentKind_now.bind fun _ => ?_
  refine (Manager.keeps_contentKind_create ?_ _ _).bind fun x => ?_
  · refine (keeps_contentKind_readCatalog _ _).bind fun bucket => ?_
    split
    · exact Keeps.throw_bind _ _
    · refine (keeps_contentKind_readCatalog _ _).bind fun found => ?_
      split
      · exact Keeps.throw_bind _ _
      · exact keeps_contentKind_writeCatalog _ _
  · rcases x with ⟨⟨⟩, revision⟩
    exact .pure' _

theorem keeps_contentKind_updateBundle (id : Uuid) (claimed : Revision)
    (description : Option String) (user : String) :
    Keeps contentKind (updateBundle id claimed description user) := by
  unfold updateBundle
  refine (Keeps.lift _).bind fun _ => ?_
  refine (Manager.keeps_contentKind_update ?_ _ _).bind fun x => ?_
  · exact (keeps_contentKind_requireBundle id).bind fun _ => keeps_contentKind_now.bind fun _ =>
      (keeps_contentKind_writeCatalog _ _).bind fun _ => .pure' _
  · rcases x with ⟨bundle, revision⟩
    exact .pure' _

theorem keeps_contentKind_restoreBundleVersion (bundleId : Uuid) (version : String)
    (previous : Option BundleVersion) (previousBytes : Option Bytes) :
    Keeps contentKind (restoreBundleVersion bundleId version previous previousBytes) := by
  unfold restoreBundleVersion
  refine (Keeps.tryCatch ?_ fun _ => .pure' ()).bind fun _ => Keeps.tryCatch ?_ fun _ => .pure' ()
  · cases previous
    · exact (keeps_contentKind_changeCatalog _ _).bind fun _ => .pure' ()
    · exact keeps_contentKind_writeCatalog _ _
  · cases previousBytes
    · exact keeps_contentKind_deleteContent _ _
    · exact keeps_contentKind_saveContent _ _ _

theorem keeps_contentKind_previousContent (key version : String) :
    Keeps contentKind (previousContent key version) :=
  ((keeps_contentKind_getContent _ _).map some).tryCatch fun e => by
    cases e <;> first | exact .pure' _ | exact .throw' _

theorem keeps_contentKind_recordBundleVersion (bundle : Bundle) (record : BundleVersion)
    (existing : Option BundleVersion) (previousBytes : Option Bytes) :
    Keeps contentKind (recordBundleVersion bundle record existing previousBytes) := by
  have undo : ∀ e, Keeps contentKind (do
      restoreBundleVersion record.bundleIdentifier record.version existing previousBytes
      throw e : Registry Unit) := fun e =>
    (keeps_contentKind_restoreBundleVersion _ _ _ _).bind fun _ => Keeps.throw' e
  exact ((keeps_contentKind_writeCatalog _ _).tryCatch undo).bind fun _ =>
    (Keeps.lift _).bind fun _ => (keeps_contentKind_writeCatalog _ _).tryCatch undo

theorem keeps_contentKind_addBundleVersion (bundleId : Uuid) (claimed : Revision)
    (version : String) (data : Bytes) (user : String) :
    Keeps contentKind (addBundleVersion bundleId claimed version data user) := by
  unfold addBundleVersion
  dsimp only
  split
  · exact Keeps.throw_bind _ _
  refine (Manager.keeps_contentKind_update ?_ _ _).bind fun x => ?_
  · refine (keeps_contentKind_requireBundle _).bind fun bundle => ?_
    refine (keeps_contentKind_readCatalog _ _).bind fun found => ?_
    have writes : ∀ (existing : Option BundleVersion) (previousBytes : Option Bytes)
        (record : BundleVersion) (bundle : Bundle), Keeps contentKind (do
          World.saveContent bundleId.text (Text.trim version) data
          recordBundleVersion bundle record existing previousBytes
          pure record) := fun existing previousBytes record bundle =>
      (keeps_contentKind_saveContent _ _ _).bind fun _ =>
        (keeps_contentKind_recordBundleVersion _ _ _ _).bind fun _ => .pure' _
    split
    · refine (Keeps.pure' _).bind fun bucket => ?_
      refine (keeps_contentKind_readCatalog _ _).bind fun existing => ?_
      split
      · exact Keeps.throw_bind _ _
      refine keeps_contentKind_now.bind fun _ => ?_
      split
      · exact (keeps_contentKind_previousContent _ _).bind fun _ => writes _ _ _ _
      · exact (Keeps.pure' _).bind fun _ => writes _ _ _ _
    · exact Keeps.throw_bind _ _
  · rcases x with ⟨record, revision⟩
    exact .pure' _

/-! ### The reads -/

theorem keeps_contentKind_revisioned {β : Type} (x : β) (e : String) :
    Keeps contentKind (do pure (⟨x, ← Manager.getRevision e⟩ : Revisioned β)) :=
  (Manager.keeps_contentKind_getRevision e).bind fun _ => .pure' _

theorem keeps_contentKind_loadSnapshot (flowId : Uuid) (version : Nat) :
    Keeps contentKind (loadSnapshot flowId version) :=
  (keeps_contentKind_getContent _ _).bind fun _ => (Keeps.lift _).bind fun _ => Keeps.lift _

end Coordinator

/-- Every read of the coordinator keeps the kind of content store. -/
theorem Query.keeps_contentKind (q : Query) : Keeps World.contentKind q.run := by
  open World Coordinator in
  cases q <;> refine Keeps.map ?_ _
  case getBucket id =>
    exact (keeps_contentKind_requireBucket id).bind fun b => keeps_contentKind_revisioned b _
  case listBuckets =>
    exact (keeps_contentKind_readCatalog _ _).bind
      (Keeps.mapM fun b => keeps_contentKind_revisioned b _)
  case getFlow id =>
    exact (keeps_contentKind_requireFlow id).bind fun f => keeps_contentKind_revisioned f _
  case listFlows bucketId =>
    exact (keeps_contentKind_requireBucket bucketId).bind fun _ =>
      (keeps_contentKind_readCatalog _ _).bind (Keeps.mapM fun f => keeps_contentKind_revisioned f _)
  case getBundle id =>
    exact (keeps_contentKind_requireBundle id).bind fun b => keeps_contentKind_revisioned b _
  case listBundles bucketId =>
    exact (keeps_contentKind_requireBucket bucketId).bind fun _ =>
      (keeps_contentKind_readCatalog _ _).bind (Keeps.mapM fun b => keeps_contentKind_revisioned b _)
  case getSnapshot flowId version =>
    unfold Coordinator.getSnapshot
    refine (keeps_contentKind_requireFlow _).bind fun _ =>
      (keeps_contentKind_readCatalog _ _).bind fun found => ?_
    split
    · exact Keeps.throw_bind _ _
    · exact (Keeps.pure' ()).bind fun _ => keeps_contentKind_loadSnapshot _ _
  case getLatestSnapshot flowId =>
    unfold Coordinator.getLatestSnapshot
    refine (keeps_contentKind_requireFlow _).bind fun _ =>
      (keeps_contentKind_readCatalog _ _).bind fun latest => ?_
    split
    · exact keeps_contentKind_loadSnapshot _ _
    · exact Keeps.throw' _
  case listSnapshots flowId =>
    exact (keeps_contentKind_requireFlow _).bind fun _ => keeps_contentKind_readCatalog _ _
  case listBundleVersions bundleId =>
    exact (keeps_contentKind_requireBundle _).bind fun _ => keeps_contentKind_readCatalog _ _
  case getBundleVersionContent bundleId version =>
    unfold Coordinator.getBundleVersionContent
    refine (keeps_contentKind_readCatalog _ _).bind fun found => ?_
    split
    · refine (keeps_contentKind_getContent _ _).bind fun data => ?_
      split
      · exact Keeps.throw_bind _ _
      · exact (Keeps.pure' ()).bind fun _ => .pure' _
    · exact Keeps.throw' _

/-- Every change of the coordinator keeps the kind of content store, whatever the plan fails. -/
theorem Coordinator.Mutation.keeps_contentKind (m : Coordinator.Mutation) :
    Keeps World.contentKind m.run := by
  cases m with
  | createBucket r claimed user => exact (Coordinator.keeps_contentKind_createBucket r claimed user).map _
  | updateBucket id claimed change user =>
    exact (Coordinator.keeps_contentKind_updateBucket id claimed change user).map _
  | createFlow r claimed user => exact (Coordinator.keeps_contentKind_createFlow r claimed user).map _
  | updateFlow id claimed change user =>
    exact (Coordinator.keeps_contentKind_updateFlow id claimed change user).map _
  | createSnapshot flowId claimed r user =>
    exact (Coordinator.keeps_contentKind_createSnapshot flowId claimed r user).map _
  | createBundle r claimed user => exact (Coordinator.keeps_contentKind_createBundle r claimed user).map _
  | updateBundle id claimed description user =>
    exact (Coordinator.keeps_contentKind_updateBundle id claimed description user).map _
  | addBundleVersion bundleId claimed version data user =>
    exact (Coordinator.keeps_contentKind_addBundleVersion bundleId claimed version data user).map _

/-! ### Steps whose registrations go through -/

/-- The deletes among the operations. -/
def Operation.Deletes : Operation → Prop
  | .deleteBucket .. | .deleteFlow .. | .deleteBundle .. => True
  | _ => False

/-- A step under a plan that queues no flow and lets every registration through, whatever else it
fails; a delete is aimed and runs with nothing planned. -/
structure Operation.Registered (w : World) (p : FaultPlan) (op : Operation) : Prop where
  calm : ∀ q ∈ p.queued, q.2 = []
  registers : World.Lets { w with faults := p } (World.revisionCall "create_revision")
  aimed : op.Aimed w.catalog
  steady : op.Deletes → p.Steady

theorem World.entities_of_stores {w w' : World} (h : w'.stores = w.stores) :
    w'.entities = w.entities := by
  have hrev : w'.revisions = w.revisions := congrArg (fun s => s.1) h
  have hcat : w'.catalog = w.catalog := congrArg (fun s => s.2.1) h
  exact World.entities_eq (fun e => by rw [hrev]) (by rw [hcat])

theorem runWith_map_snd {α β : Type} (f : α → β) (m : Registry α) (w : World) :
    (runWith (f <$> m) w).2 = (runWith m w).2 := by
  rw [runWith_map]

namespace World.Corresponds

variable {v w : World} {p : FaultPlan}

/-- What a calm step keeps of the entities keeps the correspondence. -/
theorem within_calm {α : Type} {m : Registry α} (h : v.Corresponds) (hcalm : v.Calm)
    (hm : Within [] World.entities m) : (runWith m v).2.Corresponds :=
  h.of_entities (hm v hcalm).view

/-- A change keeps the correspondence when the plan queues no flow and lets a creation register
the id it inserts, whatever else it fails. -/
theorem registered_change (h : v.Corresponds) (hcalm : v.Calm)
    (hlets : v.Lets (World.revisionCall "create_revision")) (m : Coordinator.Mutation) :
    (runWith m.run v).2.Corresponds := by
  cases m with
  | createBucket r claimed user =>
    rw [Coordinator.Mutation.run, runWith_map_snd]
    rcases Coordinator.createBucket_cases r claimed user hcalm hlets with
      hsame | ⟨habsent, c, ⟨b, hb, hc⟩, hstores⟩
    · exact h.of_entities (entities_of_stores hsame)
    · exact (h.created habsent (hb ▸ Catalog.live_insertBucket hc) _).of_entities
        (entities_of_stores hstores)
  | updateBucket id claimed change user =>
    exact h.within_calm hcalm ((Coordinator.within_updateBucket_entities id claimed change user).map _)
  | createFlow r claimed user =>
    rw [Coordinator.Mutation.run, runWith_map_snd]
    rcases Coordinator.createFlow_cases r claimed user hcalm hlets with
      hsame | ⟨habsent, c, ⟨f, hf, -, hc⟩, hstores⟩
    · exact h.of_entities (entities_of_stores hsame)
    · exact (h.created habsent (hf ▸ Catalog.live_insertFlow hc) _).of_entities
        (entities_of_stores hstores)
  | updateFlow id claimed change user =>
    exact h.within_calm hcalm ((Coordinator.within_updateFlow_entities id claimed change user).map _)
  | createSnapshot flowId claimed r user =>
    exact h.within_calm hcalm ((Coordinator.within_createSnapshot_entities flowId claimed r user).map _)
  | createBundle r claimed user =>
    rw [Coordinator.Mutation.run, runWith_map_snd]
    rcases Coordinator.createBundle_cases r claimed user hcalm hlets with
      hsame | ⟨habsent, c, ⟨b, hb, -, hc⟩, hstores⟩
    · exact h.of_entities (entities_of_stores hsame)
    · exact (h.created habsent (hb ▸ Catalog.live_insertBundle hc) _).of_entities
        (entities_of_stores hstores)
  | updateBundle id claimed description user =>
    exact h.within_calm hcalm
      ((Coordinator.within_updateBundle_entities id claimed description user).map _)
  | addBundleVersion bundleId claimed version data user =>
    exact h.within_calm hcalm
      ((Coordinator.within_addBundleVersion_entities bundleId claimed version data user).map _)

/-- A step whose registrations go through keeps the correspondence. -/
theorem registered_step (h : w.Corresponds) (t : Time.Instant) (op : Operation)
    (hop : op.Registered w p) : (runWith op.run { w with faults := p, clock := t }).2.Corresponds := by
  have hw : ({ w with faults := p, clock := t } : World).Corresponds := h.of_entities rfl
  have hcalm : ({ w with faults := p, clock := t } : World).Calm := hop.calm
  cases op with
  | change m => exact hw.registered_change hcalm hop.registers m
  | read q => exact hw.within_calm hcalm q.within_run.entities
  | deleteBucket id claimed => exact h.step (hop.steady trivial) t _ hop.aimed
  | deleteFlow id claimed => exact h.step (hop.steady trivial) t _ hop.aimed
  | deleteBundle id claimed => exact h.step (hop.steady trivial) t _ hop.aimed

end World.Corresponds

end FlowRegistry
