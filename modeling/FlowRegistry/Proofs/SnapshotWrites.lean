import FlowRegistry.Proofs.Faulted

/-!
# What a snapshot writes, and what an upload leaves of the flows

A snapshot of a flow stores its content under the flow and its number, then writes its record and
the flow's count of versions; a failure after the content removes what was written. This module
says, for any plan that lets that removal through, every way a snapshot can leave the catalog and
the blobs (`Snapshotted`, `Coordinator.createSnapshot_snapshotted`).

An upload of a bundle version writes under the bundle's key only, and only for a bundle that
exists, whatever the plan fails (`Coordinator.addBundleVersion_apart`). A change of a flow keeps
its count of versions (`Coordinator.updateFlow_counted`).
-/

namespace FlowRegistry

open Format

/-- What a snapshot of the flow `id`, asked for by `r` and made by `user`, can leave of the catalog
and the blobs it found in `w`. -/
inductive Snapshotted (w : World) (id : Uuid) (r : Coordinator.SnapshotRequest) (user : String) :
    World → Prop
  /-- It failed before it wrote. -/
  | kept {u : World} (hcat : u.catalog = w.catalog) (hblob : u.content.blob? = w.content.blob?) :
      Snapshotted w id r user u
  /-- It failed after storing the content under the number after the latest snapshot, and the
  content and the record were removed again. -/
  | cleared {u : World} (flow : Flow) (hflow : w.catalog.fetchFlow id = some flow)
      (hexpected : Coordinator.expectedSnapshot (w.catalog.latestSnapshot id) = .ok r.version)
      (hcat : u.catalog = w.catalog)
      (hset : w.content.Sets u.content id.text (toString r.version) none) :
      Snapshotted w id r user u
  /-- The request carried the number after the latest snapshot; the snapshot was stored under it,
  then its record and the flow's count of versions were written. The store takes the key. -/
  | recorded {u : World} (flow : Flow) (t : Time.Instant) (bytes : Bytes) (c : Catalog)
      (hflow : w.catalog.fetchFlow id = some flow)
      (hexpected : Coordinator.expectedSnapshot (w.catalog.latestSnapshot id) = .ok r.version)
      (hbytes : snapshotTable.serialize ⟨⟨flow.bucketIdentifier, id, r.version, t, user, r.comments⟩,
        r.flowContents, r.parameterContexts⟩ = .ok bytes)
      (hinsert : w.catalog.insertSnapshot ⟨flow.bucketIdentifier, id, r.version, t, user, r.comments⟩ =
        .ok c)
      (hcount : c.updateFlow { flow with versionCount := r.version, modifiedTimestamp := t } =
        .ok u.catalog)
      (hset : w.content.Sets u.content id.text (toString r.version) (some bytes))
      (htakes : u.content.Takes id.text (toString r.version)) : Snapshotted w id r user u

namespace Snapshotted

variable {w u u' v : World} {id : Uuid} {r : Coordinator.SnapshotRequest} {user : String}

/-- What a snapshot leaves is a matter of the catalog and the content store. -/
theorem congr (h : Snapshotted w id r user u) (hcat : u'.catalog = u.catalog)
    (hcontent : u'.content = u.content) : Snapshotted w id r user u' := by
  have hsets : ∀ {o : Option Bytes}, w.content.Sets u.content id.text (toString r.version) o →
      w.content.Sets u'.content id.text (toString r.version) o :=
    fun hs e' v' => by rw [hcontent]; exact hs e' v'
  cases h with
  | kept hcat₀ hblob₀ => exact .kept (hcat.trans hcat₀) (by rw [hcontent, hblob₀])
  | cleared flow hflow hexpected hcat₀ hset =>
    exact .cleared flow hflow hexpected (hcat.trans hcat₀) (hsets hset)
  | recorded flow t bytes c hflow hexpected hbytes hinsert hcount hset htakes =>
    exact .recorded flow t bytes c hflow hexpected hbytes hinsert (hcat ▸ hcount) (hsets hset)
      (hcontent ▸ htakes)

/-- A snapshot from a registry with the same stores leaves the same. -/
theorem of_stores (h : Snapshotted v id r user u) (hs : v.stores = w.stores) :
    Snapshotted w id r user u := by
  have hcat : v.catalog = w.catalog := congrArg (fun s => s.2.1) hs
  have hblob : v.content.blob? = w.content.blob? := congrArg (fun s => s.2.2) hs
  have hsets : ∀ {o : Option Bytes}, v.content.Sets u.content id.text (toString r.version) o →
      w.content.Sets u.content id.text (toString r.version) o :=
    fun hs e' v' => by rw [← hblob]; exact hs e' v'
  cases h with
  | kept hcat₀ hblob₀ => exact .kept (hcat₀.trans hcat) (hblob₀.trans hblob)
  | cleared flow hflow hexpected hcat₀ hset =>
    exact .cleared flow (hcat ▸ hflow) (hcat ▸ hexpected) (hcat₀.trans hcat) (hsets hset)
  | recorded flow t bytes c hflow hexpected hbytes hinsert hcount hset htakes =>
    exact .recorded flow t bytes c (hcat ▸ hflow) (hcat ▸ hexpected) hbytes (hcat ▸ hinsert) hcount
      (hsets hset) htakes

/-- A registry with the stores of `w` is what a snapshot that failed before writing leaves. -/
theorem of_frame {cs : List Call} (h : Frame cs World.stores w u) : Snapshotted w id r user u :=
  .kept (congrArg (fun s => s.2.1) h.view) (congrArg (fun s => s.2.2) h.view)

end Snapshotted

namespace Coordinator

variable {w : World}

/-- Whatever runs before it, a step that ends by throwing fails. -/
theorem then_throw_error {α : Type} (m : Registry α) (err : RegistryError) (w : World) :
    ∃ e, (runWith (m >>= fun _ => (throw err : Registry Unit)) w).1 = .error e := by
  rw [runWith_bind]
  rcases runWith m w with ⟨e | _, w₁⟩
  · exact ⟨e, rfl⟩
  · exact ⟨err, rfl⟩

/-- The writes of a snapshot, from the registry its reads left: the content, then the record and
the flow's count, with what was written removed again when a write after the content fails, when
the plan lets the removal through. -/
theorem snapshotWrites_snapshotted {flowId : Uuid} {r : SnapshotRequest} {user : String}
    {flow : Flow} {t : Time.Instant} {bytes : Bytes} (hcalm : w.Calm)
    (hflow : w.catalog.fetchFlow flowId = some flow)
    (hexpected : expectedSnapshot (w.catalog.latestSnapshot flowId) = .ok r.version)
    (hbytes : snapshotTable.serialize ⟨⟨flow.bucketIdentifier, flowId, r.version, t, user,
      r.comments⟩, r.flowContents, r.parameterContexts⟩ = .ok bytes)
    (hdsv : w.Lets ⟨.metadata, "delete_snapshot_version"⟩)
    (hdc : w.Lets (World.contentCall "delete_content")) :
    Snapshotted w flowId r user (runWith (do
      World.saveContent flowId.text (toString r.version) bytes
      tryCatch (World.insertSnapshot ⟨flow.bucketIdentifier, flowId, r.version, t, user, r.comments⟩)
        fun e => do
          discardSnapshot flowId r.version false
          throw e
      tryCatch (World.updateFlow { flow with versionCount := r.version, modifiedTimestamp := t })
        fun e => do
          discardSnapshot flowId r.version true
          throw e
      pure (⟨flow.bucketIdentifier, flowId, r.version, t, user, r.comments⟩ : SnapshotMeta)) w).2 := by
  rw [runWith_bind, World.runWith_saveContent]
  generalize hplan : (w.planned (World.contentCall "save_content")).1 = p
  rcases p with _ | e
  case some => exact .kept rfl rfl
  generalize hsave : w.content.save flowId.text (toString r.version) bytes = saved
  rcases saved with ⟨_ | ⟨⟩, s₁⟩
  · -- the save failed and wrote no blob
    have hkept := @ContentStore.blob?_save_of_error w.content flowId.text (toString r.version)
      bytes (by rw [hsave]; rfl)
    rw [hsave] at hkept
    exact .kept rfl hkept
  have hok : (w.content.save flowId.text (toString r.version) bytes).1.isOk := by rw [hsave]; rfl
  have hsets := ContentStore.sets_of_save hok
  have htakes := ContentStore.takes_save hok
  obtain ⟨s₂, hdel⟩ := ContentStore.delete_after_save hok
  rw [hsave] at hsets htakes hdel
  dsimp only
  have hcalm₁ : ({ w.pass (World.contentCall "save_content") with content := s₁ } : World).Calm :=
    World.calm_pass hcalm _
  have hdsv₁ : ({ w.pass (World.contentCall "save_content") with content := s₁ } : World).Lets
      ⟨.metadata, "delete_snapshot_version"⟩ := (World.lets_pass_of_ne (by decide) w).2 hdsv
  have hdc₁ : ({ w.pass (World.contentCall "save_content") with content := s₁ } : World).Lets
      (World.contentCall "delete_content") := (World.lets_pass_of_ne (by decide) w).2 hdc
  have hcat₁ : ({ w.pass (World.contentCall "save_content") with content := s₁ } : World).catalog =
      w.catalog := rfl
  have hcontent₁ : ({ w.pass (World.contentCall "save_content") with content := s₁ } : World).content =
      s₁ := rfl
  generalize ({ w.pass (World.contentCall "save_content") with content := s₁ } : World) = w₁
    at hcalm₁ hdsv₁ hdc₁ hcat₁ hcontent₁ ⊢
  subst hcontent₁
  generalize hB : runWith (do
    tryCatch (World.insertSnapshot ⟨flow.bucketIdentifier, flowId, r.version, t, user, r.comments⟩)
      fun e => do
        discardSnapshot flowId r.version false
        throw e
    tryCatch (World.updateFlow { flow with versionCount := r.version, modifiedTimestamp := t })
      fun e => do
        discardSnapshot flowId r.version true
        throw e
    pure (⟨flow.bucketIdentifier, flowId, r.version, t, user, r.comments⟩ : SnapshotMeta)) w₁ = pB
  rcases pB with ⟨err | info, w₂⟩
  · -- a write after the content failed: the record, if written, and the content are removed
    have hinfo : (⟨flow.bucketIdentifier, flowId, r.version, t, user, r.comments⟩ :
        SnapshotMeta).flowIdentifier = flowId ∧ (⟨flow.bucketIdentifier, flowId, r.version, t, user,
          r.comments⟩ : SnapshotMeta).version = r.version := ⟨rfl, rfl⟩
    obtain ⟨-, hcat₂, hcontent₂⟩ := snapshotRecord_error hinfo hcalm₁ hdsv₁ hdc₁ hdel hB
    refine .cleared flow hflow hexpected (hcat₂.trans hcat₁) ?_
    rw [hcontent₂]
    exact hsets.trans (ContentStore.sets_of_delete hdel)
  · -- the record and the count were written, after the content
    obtain ⟨_, w₃, hinsert, hrest⟩ := runWith_bind_eq_ok.1 hB
    have hinserted := runWith_tryCatch_eq_ok (fun e v => then_throw_error _ e v) hinsert
    obtain ⟨c₁, hc₁, rfl⟩ := writeCatalog_eq_ok hcalm₁ hinserted
    rw [hcat₁] at hc₁
    obtain ⟨_, w₄, hupdate, hpure⟩ := runWith_bind_eq_ok.1 hrest
    simp only [runWith_pure, Prod.mk.injEq] at hpure
    obtain ⟨-, rfl⟩ := hpure
    have hupdated := runWith_tryCatch_eq_ok (fun e v => then_throw_error _ e v) hupdate
    have hcalm₃ : ({ w₁.pass ⟨.metadata, "insert_snapshot_metadata"⟩ with catalog := c₁ } :
        World).Calm := World.calm_pass hcalm₁ _
    obtain ⟨c₂, hc₂, rfl⟩ := writeCatalog_eq_ok hcalm₃ hupdated
    exact .recorded flow t bytes c₁ hflow hexpected hbytes hc₁ hc₂ hsets htakes

/-- A snapshot leaves the catalog and the blobs in one of the three ways `Snapshotted` names,
whatever else the plan fails, when it lets the removal of a failed snapshot through. -/
theorem createSnapshot_snapshotted (flowId : Uuid) (claimed : Revision) (r : SnapshotRequest)
    (user : String) (hcalm : w.Calm) (hdsv : w.Lets ⟨.metadata, "delete_snapshot_version"⟩)
    (hdc : w.Lets (World.contentCall "delete_content")) :
    Snapshotted w flowId r user (runWith (createSnapshot flowId claimed r user) w).2 := by
  unfold createSnapshot
  dsimp only
  split
  rw [runWith_bind, runWith_lift]
  rcases validateDescription _ with _ | _
  · exact .kept rfl rfl
  dsimp only
  all_goals
    rw [runWith_bind_snd fun _ _ => rfl]
    refine Manager.update_lands (show World.revisionCall "get_revision" ∉
      [⟨.metadata, "delete_snapshot_version"⟩, World.contentCall "delete_content"] by decide) hcalm
      (fun _ h => Snapshotted.of_frame h) ?_ ?_
    · intro w₁ h₁
      have hcalm₁ := h₁.calm hcalm
      refine lands_bind_within hcalm₁ (within_requireFlow (by decide) _)
        (fun _ h => Snapshotted.of_frame (h₁.trans h)) fun flow w₂ hrun₂ h₂ => ?_
      refine lands_bind_within (h₂.calm hcalm₁) (within_readCatalog (by decide) _)
        (fun _ h => Snapshotted.of_frame ((h₁.trans h₂).trans h)) fun latest w₃ hrun₃ h₃ => ?_
      have h := h₁.trans (h₂.trans h₃)
      rw [runWith_bind, runWith_lift]
      rcases hexp : expectedSnapshot latest with _ | expected
      · exact Snapshotted.of_frame h
      dsimp only
      split
      · exact Snapshotted.of_frame h
      next hversion =>
      obtain rfl : r.version = expected := not_not.1 hversion
      have hcat₃ : w₃.catalog = w₂.catalog := congrArg (fun s => s.2.1) h₃.view
      have hcat₂ : w₂.catalog = w₁.catalog := congrArg (fun s => s.2.1) h₂.view
      have hflow : w₃.catalog.fetchFlow flowId = some flow := by
        rw [hcat₃, hcat₂]
        exact requireFlow_result hcalm₁ hrun₂
      have hexpected : expectedSnapshot (w₃.catalog.latestSnapshot flowId) = .ok r.version := by
        rw [hcat₃, World.readCatalog_result (h₂.calm hcalm₁) hrun₃, hexp]
      rw [runWith_bind, World.runWith_now]
      dsimp only
      rw [runWith_bind, runWith_lift]
      rcases hbytes : snapshotTable.serialize _ with _ | bytes
      · exact Snapshotted.of_frame h
      dsimp only
      exact (snapshotWrites_snapshotted (h.calm hcalm) hflow hexpected hbytes ((h.lets (by decide)).2 hdsv)
        ((h.lets (by decide)).2 hdc)).of_stores h.view
    · intro u current hu
      obtain ⟨hcat, hcontent⟩ := Manager.advance_metadata current claimed u
      exact hu.congr hcat hcontent

end Coordinator

/-! ### What an upload keeps of the flows -/

namespace World

variable {β : Type}

/-- A part of the catalog, and every blob not under the key `e`. -/
def outside (part : Catalog → β) (e : String) (w : World) : β × (String → String → Option Bytes) :=
  (part w.catalog, fun e' v => if e' = e then none else w.content.blob? e' v)

theorem outside_eq {part : Catalog → β} {e : String} {w w' : World} (h : w'.stores = w.stores) :
    w'.outside part e = w.outside part e := by
  have hcat : w'.catalog = w.catalog := congrArg (fun s => s.2.1) h
  have hblob : w'.content.blob? = w.content.blob? := congrArg (fun s => s.2.2) h
  simp only [outside, hcat, hblob]

end World

section Outside

variable {α β : Type} {part : Catalog → β} {cs : List Call} {e : String}

theorem Within.outside {m : Registry α} (hm : Within cs World.stores m) :
    Within cs (World.outside part e) m :=
  fun w hcalm => ⟨World.outside_eq (hm w hcalm).view, (hm w hcalm).queued, (hm w hcalm).failures⟩

/-- A write of the catalog whose operation keeps the part. -/
theorem within_writeCatalog_outside {m : String} {f : Catalog → Outcome Catalog}
    (hf : ∀ c c', f c = .ok c' → part c' = part c) :
    Within [] (World.outside part e) (World.writeCatalog m f) := fun w hcalm => by
  have pass := frame_pass (c := ⟨.metadata, m⟩) List.not_mem_nil w
  rcases World.writeCatalog_cases hcalm m f with ⟨err, hrun⟩ | ⟨c, hc, hrun⟩ <;> rw [hrun]
  · exact ⟨World.outside_eq pass.view, pass.queued, pass.failures⟩
  · exact ⟨by simp only [World.outside, World.pass_content, hf _ _ hc],
      pass.queued, pass.failures⟩

theorem within_changeCatalog_outside {m : String} {f : Catalog → α × Catalog}
    (hf : ∀ c, part (f c).2 = part c) :
    Within [] (World.outside part e) (World.changeCatalog m f) := fun w hcalm => by
  have pass := frame_pass (c := ⟨.metadata, m⟩) List.not_mem_nil w
  rw [World.runWith_changeCatalog hcalm]
  split
  · exact ⟨World.outside_eq pass.view, pass.queued, pass.failures⟩
  · exact ⟨by simp only [World.outside, World.pass_content, hf w.catalog],
      pass.queued, pass.failures⟩

theorem within_saveContent_outside (v : String) (data : Bytes) :
    Within [] (World.outside part e) (World.saveContent e v data) := fun w _ => by
  have pass := frame_pass (c := World.contentCall "save_content") List.not_mem_nil w
  rw [World.runWith_saveContent]
  split
  · exact ⟨World.outside_eq pass.view, pass.queued, pass.failures⟩
  · refine ⟨?_, pass.queued, pass.failures⟩
    simp only [World.outside, World.pass_catalog]
    congr 1
    funext e' v'
    split
    · rfl
    · next hne => rw [ContentStore.blob?_save]; simp [hne]

theorem within_deleteContent_outside (v : String) :
    Within [] (World.outside part e) (World.deleteContent e v) := fun w _ => by
  have pass := frame_pass (c := World.contentCall "delete_content") List.not_mem_nil w
  rw [World.runWith_deleteContent]
  split
  · exact ⟨World.outside_eq pass.view, pass.queued, pass.failures⟩
  · split
    · next s hdel =>
      refine ⟨?_, pass.queued, pass.failures⟩
      have hsets := ContentStore.sets_of_delete hdel
      simp only [World.outside, World.pass_catalog]
      congr 1
      funext e' v'
      split
      · rfl
      · next hne => rw [hsets]; simp [hne]
    · exact ⟨World.outside_eq pass.view, pass.queued, pass.failures⟩

end Outside

namespace Catalog

variable {c c' : Catalog}

/-- The flows and their snapshot records. -/
def flowRecords (c : Catalog) : List Flow × List SnapshotMeta := (c.flows, c.snapshots)

theorem flowRecords_putBundleVersion {v : BundleVersion} (h : c.putBundleVersion v = .ok c') :
    c'.flowRecords = c.flowRecords := by
  unfold putBundleVersion at h
  split at h
  · cases h
  cases h
  rfl

theorem flowRecords_updateBundle {b : Bundle} (h : c.updateBundle b = .ok c') :
    c'.flowRecords = c.flowRecords := by
  unfold updateBundle at h
  split at h
  · cases h
  cases h
  rfl

end Catalog

namespace Coordinator

variable {w : World}

theorem within_restoreBundleVersion_outside (bundleId : Uuid) (version : String)
    (previous : Option BundleVersion) (previousBytes : Option Bytes) :
    Within [] (World.outside Catalog.flowRecords bundleId.text)
      (restoreBundleVersion bundleId version previous previousBytes) := by
  unfold restoreBundleVersion
  refine (Within.tryCatch ?_ fun _ => Within.pure' ()).bind fun _ =>
    Within.tryCatch ?_ fun _ => Within.pure' ()
  · cases previous
    · exact (within_changeCatalog_outside fun _ => rfl).bind fun _ => Within.pure' ()
    · exact within_writeCatalog_outside fun _ _ => Catalog.flowRecords_putBundleVersion
  · cases previousBytes
    · exact within_deleteContent_outside _
    · exact within_saveContent_outside _ _

theorem within_recordBundleVersion_outside (bundle : Bundle) (record : BundleVersion)
    (existing : Option BundleVersion) (previousBytes : Option Bytes) :
    Within [] (World.outside Catalog.flowRecords record.bundleIdentifier.text)
      (recordBundleVersion bundle record existing previousBytes) := by
  have undo : ∀ e, Within [] (World.outside Catalog.flowRecords record.bundleIdentifier.text) (do
      restoreBundleVersion record.bundleIdentifier record.version existing previousBytes
      throw e : Registry Unit) := fun e =>
    (within_restoreBundleVersion_outside _ _ _ _).bind fun _ => Within.throw' e
  exact ((within_writeCatalog_outside fun _ _ => Catalog.flowRecords_putBundleVersion).tryCatch
    undo).bind fun _ => (Within.lift _).bind fun _ =>
      (within_writeCatalog_outside fun _ _ => Catalog.flowRecords_updateBundle).tryCatch undo

/-- An upload of a bundle keeps every flow, every snapshot record and every blob outside the
bundle's key, whatever the plan fails; it writes a blob only for a bundle that exists. -/
theorem addBundleVersion_apart (bundleId : Uuid) (claimed : Revision) (version : String)
    (data : Bytes) (user : String) (hcalm : w.Calm) :
    (runWith (addBundleVersion bundleId claimed version data user) w).2.outside Catalog.flowRecords
        bundleId.text = w.outside Catalog.flowRecords bundleId.text ∧
      ((runWith (addBundleVersion bundleId claimed version data user) w).2.content.blob? =
        w.content.blob? ∨ w.catalog.Live .bundle bundleId) := by
  unfold addBundleVersion
  dsimp only
  split
  · exact ⟨rfl, .inl rfl⟩
  rw [runWith_bind_snd fun _ _ => rfl]
  refine Manager.update_lands (Q := fun u => u.outside Catalog.flowRecords bundleId.text =
      w.outside Catalog.flowRecords bundleId.text ∧
        (u.content.blob? = w.content.blob? ∨ w.catalog.Live .bundle bundleId))
    List.not_mem_nil hcalm
    (fun _ h => ⟨World.outside_eq h.view, .inl (congrArg (fun s => s.2.2) h.view)⟩) ?_ ?_
  · intro w₁ h₁
    refine lands_bind_within (Q := fun u => u.outside Catalog.flowRecords bundleId.text =
        w.outside Catalog.flowRecords bundleId.text ∧
          (u.content.blob? = w.content.blob? ∨ w.catalog.Live .bundle bundleId))
      (h₁.calm hcalm) (within_requireBundle List.not_mem_nil _)
      (fun _ h => ⟨World.outside_eq (h₁.trans h).view,
        .inl (congrArg (fun s => s.2.2) (h₁.trans h).view)⟩) fun bundle w₂ hrun₂ h₂ => ?_
    have hlive : w.catalog.Live .bundle bundleId := by
      have hcat₁ : w₁.catalog = w.catalog := congrArg (fun s => s.2.1) h₁.view
      rw [← hcat₁]
      exact Catalog.mem_ids_of_fetchBundle (by rw [requireBundle_result (h₁.calm hcalm) hrun₂]; simp)
    refine ⟨(Within.lands (show Within [] _ _ from ?_) ((h₁.trans h₂).calm hcalm)).trans
      (World.outside_eq (h₁.trans h₂).view), .inr hlive⟩
    have writes : ∀ (existing : Option BundleVersion) (previousBytes : Option Bytes)
        (record : BundleVersion) (bundle : Bundle), record.bundleIdentifier = bundleId →
        Within [] (World.outside Catalog.flowRecords bundleId.text) (do
          World.saveContent bundleId.text (Text.trim version) data
          recordBundleVersion bundle record existing previousBytes
          pure record) := fun existing previousBytes record bundle hrecord =>
      (within_saveContent_outside _ _).bind fun _ =>
        (hrecord ▸ within_recordBundleVersion_outside _ _ _ _).bind fun _ => Within.pure' _
    refine (within_readCatalog List.not_mem_nil _).outside.bind fun found => ?_
    split
    · refine (Within.pure' _).bind fun bucket => ?_
      refine (within_readCatalog List.not_mem_nil _).outside.bind fun existing => ?_
      split
      · exact Within.throw_bind _ _
      refine within_now.outside.bind fun _ => ?_
      split
      · exact (within_previousContent List.not_mem_nil _ _).outside.bind fun _ =>
          writes _ _ _ _ rfl
      · exact (Within.pure' _).bind fun _ => writes _ _ _ _ rfl
    · exact Within.throw_bind _ _
  · intro u current hu
    obtain ⟨hcat, hcontent⟩ := Manager.advance_metadata current claimed u
    refine ⟨?_, ?_⟩
    · rw [← hu.1]
      simp only [World.outside, hcat, hcontent]
    · rw [hcontent]
      exact hu.2

/-- A change of a flow keeps every blob, and keeps the catalog or rewrites the flow's record with
its id and count of versions as they were, whatever the plan fails. -/
theorem updateFlow_counted (id : Uuid) (claimed : Revision) (c : FlowChange) (user : String)
    (hcalm : w.Calm) :
    (runWith (updateFlow id claimed c user) w).2.content.blob? = w.content.blob? ∧
      ((runWith (updateFlow id claimed c user) w).2.catalog = w.catalog ∨
        ∃ c', (∃ f₀ f, w.catalog.fetchFlow id = some f₀ ∧ f.identifier = f₀.identifier ∧
          f.versionCount = f₀.versionCount ∧ w.catalog.updateFlow f = .ok c') ∧
          (runWith (updateFlow id claimed c user) w).2.catalog = c') := by
  unfold updateFlow
  dsimp only
  split
  rw [runWith_bind, runWith_lift]
  rcases validateName "flow" _ with _ | _
  · exact ⟨rfl, .inl rfl⟩
  dsimp only
  all_goals
    rw [runWith_bind, runWith_lift]
    rcases validateDescription c.description with _ | _
    · exact ⟨rfl, .inl rfl⟩
    dsimp only
    rw [runWith_bind_snd fun _ _ => rfl]
    refine Manager.update_cases (P := fun c c' => ∃ f₀ f, c.fetchFlow id = some f₀ ∧
      f.identifier = f₀.identifier ∧ f.versionCount = f₀.versionCount ∧ c.updateFlow f = .ok c')
      hcalm ?_
    refine WritesOnce.read_bind_of (R := fun c f₀ => c.fetchFlow id = some f₀)
      (within_requireFlow List.not_mem_nil id) (fun _ _ _ hcalm h => requireFlow_result hcalm h)
      fun f₀ => ?_
    have write : ∀ g : Flow, g.identifier = f₀.identifier → g.versionCount = f₀.versionCount →
        WritesOnce [] (fun c c' => c.fetchFlow id = some f₀ → ∃ f₀ f, c.fetchFlow id = some f₀ ∧
          f.identifier = f₀.identifier ∧ f.versionCount = f₀.versionCount ∧ c.updateFlow f = .ok c')
          (do
            let g := { g with
              description := c.description.orElse fun _ => g.description
              modifiedTimestamp := ← World.now }
            World.updateFlow g
            pure g) := fun g hid hcount =>
      WritesOnce.read_bind within_now fun _ =>
        (WritesOnce.write List.not_mem_nil fun _ _ hc hf₀ =>
          ⟨f₀, _, hf₀, by exact hid, by exact hcount, hc⟩).bind_pure _
    split
    · rw [pure_bind]
      exact write f₀ rfl rfl
    · refine WritesOnce.read_bind (within_readCatalog List.not_mem_nil _) fun found => ?_
      split
      · split
        · exact WritesOnce.throw_bind _ _
        · rw [pure_bind]
          exact write _ rfl rfl
      · rw [pure_bind]
        exact write _ rfl rfl

end Coordinator

end FlowRegistry
