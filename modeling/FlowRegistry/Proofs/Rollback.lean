import FlowRegistry.Proofs.Frames
import FlowRegistry.Proofs.Effects
import FlowRegistry.Coordinator.Snapshots
import FlowRegistry.Coordinator.Bundles

/-!
# Taking back a failed change

A change of the registry writes its stores one after another, and when a step after the first
write fails it takes the earlier writes back. This module says what a failed change leaves when
the plan lets through the calls that the undo rests on (`undoCalls`).

* `Clean cs m`: started on a calm registry, `m` keeps the revisions and the plan of the calls
  `cs`, and fails only with the stores as it found them. The closures that create and change
  buckets, flows and bundles are clean: they read, and write the catalog once, last.
* The revision manager runs a closure between its checks and one write of the revision store.
  When the plan lets that write through, it cannot fail for an entity the checks found, save by a
  panic at the largest version (`Manager.atomicAt_create`, `Manager.atomicAt_update`).
* A snapshot saves its content, then its record, then the flow's count of versions; a failure
  after the save discards what was written (`Coordinator.atomicAt_snapshotWrites`), which gives
  the blobs back only when no blob was stored under the new key before.
* An upload saves its content, then its record and the bundle's count; a failed write puts back
  the record and the blob it replaced (`Coordinator.atomicAt_bundleWrites`), as read beforehand by
  `Coordinator.previousContent`. A count at its largest stops it by a panic, with nothing put back
  (`Coordinator.bundleRecord_error`).
-/

namespace FlowRegistry

/-- The store calls whose planned failures decide whether a failed change can be taken back. -/
def undoCalls : List Call :=
  [World.revisionCall "create_revision", World.revisionCall "put_revision",
   ⟨.metadata, "delete_snapshot_version"⟩, ⟨.metadata, "put_bundle_version"⟩,
   ⟨.metadata, "delete_bundle_version"⟩, World.contentCall "save_content",
   World.contentCall "get_content", World.contentCall "delete_content"]

section

variable {α β : Type} {w : World}


/-- Started on any calm registry, `m` keeps the revisions and the plan of the calls `cs`, and
fails only by a panic or with the stores as it found them. -/
structure Clean (cs : List Call) (m : Registry α) : Prop where
  within : Within cs World.revisions m
  atomic : ∀ w, w.Calm → AtomicAt m w

namespace Clean

variable {cs : List Call}

theorem pure' (a : α) : Clean cs (pure a : Registry α) :=
  ⟨Within.pure' a, fun w _ => fun _ herr => by cases herr⟩

theorem throw_bind (err : RegistryError) (f : α → Registry β) : Clean cs (throw err >>= f) :=
  ⟨fun w _ => Frame.refl cs World.revisions w, fun w _ => AtomicAt.throw_bind err f w⟩

/-- A read, then what is clean wherever the read may leave the registry. -/
theorem read_bind {m : Registry α} {f : α → Registry β} (hm : Within cs World.stores m)
    (hf : ∀ a, Clean cs (f a)) : Clean cs (m >>= f) :=
  ⟨hm.revisions.bind fun a => (hf a).within,
    fun _ hcalm => AtomicAt.bind_within cs hcalm hm fun a _ _ h => (hf a).atomic _ (h.calm hcalm)⟩

theorem write {m : String} (hc : ⟨.metadata, m⟩ ∉ cs) (f : Catalog → Outcome Catalog) :
    Clean cs (World.writeCatalog m f) :=
  ⟨within_writeCatalog hc f, fun _ hcalm => atomicAt_writeCatalog hcalm f⟩

/-- One write of the catalog, then the answer. -/
theorem write_pure {m : String} (hc : ⟨.metadata, m⟩ ∉ cs) (f : Catalog → Outcome Catalog) (b : β) :
    Clean cs (World.writeCatalog m f >>= fun _ => pure b) :=
  ⟨(within_writeCatalog hc f).bind fun _ => Within.pure' b,
    fun _ hcalm => (atomicAt_writeCatalog hcalm f).bind_pure fun _ => b⟩

end Clean

namespace Manager

variable {cs : List Call} {e : String} {claimed : Revision}

theorem within_checkAbsent (hc : World.revisionCall "get_revision" ∉ cs) (e : String) :
    Within cs World.stores (checkAbsent e) :=
  (within_getRevision hc e).bind fun o => by
    by_cases h : o.isSome
    · simpa [h] using Within.throw' _
    · simpa [h] using Within.pure' ()

theorem within_verifyLocked (hc : World.revisionCall "get_revision" ∉ cs) (e : String)
    (claimed : Revision) : Within cs World.stores (verifyLocked e claimed) :=
  ((within_getRevision hc e).bind fun o => by
    cases o
    · exact Within.throw' _
    · exact Within.pure' _).bind fun current => by
    by_cases h : current.version = claimed.version
    · simpa [h] using Within.pure' current
    · simpa [h] using Within.throw' _

/-- A creation whose entity has no revision registers it, when the plan lets the write through. -/
theorem register_of_lets (claimed : Revision) (hlets : w.Lets (World.revisionCall "create_revision"))
    (habsent : w.revisions.get? e = none) :
    (runWith (register e claimed) w).1 = .ok (Revision.initial e claimed.clientId) := by
  have hentity : (Revision.initial e claimed.clientId).entityId = e := rfl
  simp only [register, runWith_bind, World.runWith_createRevision]
  rw [hlets]
  simp [RevisionTable.create, hentity, habsent]

/-- An update whose revision is still stored moves it forward, or panics at the largest version,
when the plan lets the write through. -/
theorem advance_panics {current : Revision} (claimed : Revision) (hlets : w.Lets (World.revisionCall "put_revision"))
    (hstored : w.revisions.get? current.entityId = some current) (err : RegistryError)
    (herr : (runWith (advance current claimed) w).1 = .error err) : err.isPanic = true := by
  simp only [advance, runWith_bind, runWith_lift] at herr
  rcases hnext : current.next claimed.clientId with e' | next <;> rw [hnext] at herr
  · simp only [Revision.next] at hnext
    split at hnext
    · cases hnext
    · cases hnext
      cases herr
      rfl
  · obtain ⟨-, rfl⟩ := Revision.next_eq_ok.1 hnext
    simp only [World.runWith_putRevision] at herr
    rw [hlets] at herr
    simp [RevisionTable.put, hstored] at herr

theorem atomicAt_create {creation : Registry α} (hcalm : w.Calm)
    (hlets : w.Lets (World.revisionCall "create_revision"))
    (hkeep : Within [World.revisionCall "create_revision"] World.revisions creation)
    (hc : ∀ w', Frame undoCalls World.stores w w' → AtomicAt creation w') :
    AtomicAt (create e claimed creation) w := by
  unfold create
  refine AtomicAt.lift_bind fun _ _ => AtomicAt.lift_bind fun _ _ => ?_
  refine AtomicAt.bind_within undoCalls hcalm (within_checkAbsent (by decide) e)
    fun _ w₁ habsent h₁ => ?_
  refine AtomicAt.bind_of_panics (hc w₁ h₁) fun a w₂ hrun err herr => ?_
  have h₂ := hkeep w₁ (h₁.calm hcalm)
  rw [hrun] at h₂
  have hlets₂ : w₂.Lets (World.revisionCall "create_revision") :=
    (h₂.lets (by simp)).2 ((h₁.lets (by decide)).2 hlets)
  obtain ⟨hnone, hkept⟩ := checkAbsent_ok habsent
  have hregister := register_of_lets claimed hlets₂ (by rw [h₂.view, hkept]; exact hnone)
  rw [runWith_bind] at herr
  generalize runWith (register e claimed) w₂ = p at hregister herr
  rcases p with ⟨_ | r, w₃⟩
  · cases hregister
  · cases herr

theorem atomicAt_update {mutation : Registry α} (hcalm : w.Calm)
    (hlets : w.Lets (World.revisionCall "put_revision"))
    (hkeep : Within [World.revisionCall "put_revision"] World.revisions mutation)
    (hc : ∀ w', Frame undoCalls World.stores w w' → AtomicAt mutation w') :
    AtomicAt (update e claimed mutation) w := by
  unfold update
  refine AtomicAt.lift_bind fun _ _ => ?_
  refine AtomicAt.bind_within undoCalls hcalm (within_verifyLocked (by decide) e claimed)
    fun current w₁ hverify h₁ => ?_
  refine AtomicAt.bind_of_panics (hc w₁ h₁) fun a w₂ hrun err herr => ?_
  have h₂ := hkeep w₁ (h₁.calm hcalm)
  rw [hrun] at h₂
  have hlets₂ : w₂.Lets (World.revisionCall "put_revision") :=
    (h₂.lets (by simp)).2 ((h₁.lets (by decide)).2 hlets)
  obtain ⟨hstored, -, hkept⟩ := verifyLocked_ok hverify
  have hstored₂ : w₂.revisions.get? current.entityId = some current := by
    rw [h₂.view, hkept, RevisionTable.get?_entityId hstored]
    exact hstored
  rw [runWith_bind] at herr
  have hadvance := advance_panics claimed hlets₂ hstored₂
  generalize runWith (advance current claimed) w₂ = p at hadvance herr
  rcases p with ⟨e' | r, w₃⟩
  · cases herr
    exact hadvance err rfl
  · cases herr

theorem atomicAt_create_of_clean {creation : Registry α} (hcalm : w.Calm)
    (hlets : w.Lets (World.revisionCall "create_revision"))
    (hclean : Clean [World.revisionCall "create_revision"] creation) :
    AtomicAt (create e claimed creation) w :=
  atomicAt_create hcalm hlets hclean.within fun w' h' => hclean.atomic w' (h'.calm hcalm)

theorem atomicAt_update_of_clean {mutation : Registry α} (hcalm : w.Calm)
    (hlets : w.Lets (World.revisionCall "put_revision"))
    (hclean : Clean [World.revisionCall "put_revision"] mutation) :
    AtomicAt (update e claimed mutation) w :=
  atomicAt_update hcalm hlets hclean.within fun w' h' => hclean.atomic w' (h'.calm hcalm)

end Manager

namespace Coordinator

theorem within_requireBucket {cs : List Call} (hc : ⟨.metadata, "fetch_bucket"⟩ ∉ cs) (id : Uuid) :
    Within cs World.stores (requireBucket id) :=
  (within_readCatalog hc _).bind fun found => by
    cases found
    · exact Within.throw' _
    · exact Within.pure' _

theorem within_requireFlow {cs : List Call} (hc : ⟨.metadata, "fetch_flow"⟩ ∉ cs) (id : Uuid) :
    Within cs World.stores (requireFlow id) :=
  (within_readCatalog hc _).bind fun found => by
    cases found
    · exact Within.throw' _
    · exact Within.pure' _

theorem within_requireBundle {cs : List Call} (hc : ⟨.metadata, "fetch_bundle"⟩ ∉ cs) (id : Uuid) :
    Within cs World.stores (requireBundle id) :=
  (within_readCatalog hc _).bind fun found => by
    cases found
    · exact Within.throw' _
    · exact Within.pure' _

/-- With its two clean-up calls let through, discarding a snapshot succeeds: it removes the
content under the snapshot's key and, when recorded, its record, and keeps everything else. -/
theorem runWith_discardSnapshot {flowId : Uuid} {version : Nat} (recorded : Bool) (hcalm : w.Calm)
    (hdsv : w.Lets ⟨.metadata, "delete_snapshot_version"⟩)
    (hdc : w.Lets (World.contentCall "delete_content")) {t : ContentStore}
    (hdel : w.content.delete flowId.text (toString version) = .ok t) :
    ∃ w', runWith (discardSnapshot flowId version recorded) w = (.ok (), w') ∧
      w'.revisions = w.revisions ∧
      w'.catalog = (if recorded then (w.catalog.deleteSnapshotVersion flowId version).2 else w.catalog) ∧
      w'.content = t := by
  have hdc' : (w.planned (World.contentCall "delete_content")).1 = none := hdc
  unfold discardSnapshot
  cases recorded
  · refine ⟨{ w.pass (World.contentCall "delete_content") with content := t }, ?_, rfl, rfl, rfl⟩
    simp only [Bool.false_eq_true, if_false, runWith_tryCatch, World.runWith_deleteContent, hdc',
      hdel]
  · have hdsv' : (w.planned ⟨.metadata, "delete_snapshot_version"⟩).1 = none := hdsv
    have hdc'' : ((w.pass ⟨.metadata, "delete_snapshot_version"⟩).planned
        (World.contentCall "delete_content")).1 = none :=
      (World.lets_pass_of_ne (by decide) w).2 hdc
    let w₁ : World := { w.pass ⟨.metadata, "delete_snapshot_version"⟩ with
      catalog := (w.catalog.deleteSnapshotVersion flowId version).2 }
    refine ⟨{ w₁.pass (World.contentCall "delete_content") with content := t }, ?_, rfl, rfl, rfl⟩
    simp only [if_true, runWith_bind, runWith_tryCatch, World.deleteSnapshotVersion,
      World.runWith_changeCatalog hcalm, hdsv', runWith_pure]
    simp only [World.runWith_deleteContent]
    rw [show (w₁.planned (World.contentCall "delete_content")).1 = none from hdc'']
    simp only [w₁, World.pass_content, hdel]

/-- The writes of a snapshot after its content: when one fails, the record, if written, and the
content are removed again, and the failure is passed on. -/
theorem snapshotRecord_error {flowId : Uuid} {version : Nat} {info : SnapshotMeta} {flow : Flow}
    (hinfo : info.flowIdentifier = flowId ∧ info.version = version) (hcalm : w.Calm)
    (hdsv : w.Lets ⟨.metadata, "delete_snapshot_version"⟩)
    (hdc : w.Lets (World.contentCall "delete_content")) {t : ContentStore}
    (hdel : w.content.delete flowId.text (toString version) = .ok t) {err : RegistryError}
    {w' : World}
    (h : runWith (do
      tryCatch (World.insertSnapshot info) fun e => do
        discardSnapshot flowId version false
        throw e
      tryCatch (World.updateFlow flow) fun e => do
        discardSnapshot flowId version true
        throw e
      pure info) w = (.error err, w')) :
    w'.revisions = w.revisions ∧ w'.catalog = w.catalog ∧ w'.content = t := by
  have hdsv₁ : (w.pass ⟨.metadata, "insert_snapshot_metadata"⟩).Lets
      ⟨.metadata, "delete_snapshot_version"⟩ := (World.lets_pass_of_ne (by decide) w).2 hdsv
  have hdc₁ : (w.pass ⟨.metadata, "insert_snapshot_metadata"⟩).Lets
      (World.contentCall "delete_content") := (World.lets_pass_of_ne (by decide) w).2 hdc
  rw [runWith_bind, runWith_tryCatch] at h
  rcases World.writeCatalog_cases hcalm "insert_snapshot_metadata" (·.insertSnapshot info) with
    ⟨e, hins⟩ | ⟨cat, hcat, hins⟩
  · -- the record was refused: only the content goes
    have hins' : runWith (World.insertSnapshot info) w = _ := hins
    obtain ⟨w₂, hdiscard, hrev, hcatalog, hcontent⟩ :=
      runWith_discardSnapshot false (World.calm_pass hcalm _) hdsv₁ hdc₁ hdel
    simp only [hins', runWith_bind, hdiscard, runWith_throw, Prod.mk.injEq] at h
    obtain ⟨-, rfl⟩ := h
    exact ⟨hrev, hcatalog, hcontent⟩
  · -- the record was written: a failed update of the flow takes it back with the content
    generalize hw₂ : ({ w.pass ⟨.metadata, "insert_snapshot_metadata"⟩ with catalog := cat } : World)
      = w₂ at hins
    have hcalm₂ : w₂.Calm := hw₂ ▸ World.calm_pass hcalm _
    have hcat₂ : w₂.catalog = cat := hw₂ ▸ rfl
    have hdel₂ : w₂.content.delete flowId.text (toString version) = .ok t := hw₂ ▸ hdel
    have hdsv₂ : w₂.Lets ⟨.metadata, "delete_snapshot_version"⟩ := hw₂ ▸ hdsv₁
    have hdc₂ : w₂.Lets (World.contentCall "delete_content") := hw₂ ▸ hdc₁
    have hrev₂ : w₂.revisions = w.revisions := hw₂ ▸ rfl
    have hins' : runWith (World.insertSnapshot info) w = (.ok (), w₂) := hins
    simp only [hins', runWith_bind, runWith_tryCatch] at h
    rcases World.writeCatalog_cases hcalm₂ "update_flow" (·.updateFlow flow) with
      ⟨e, hupd⟩ | ⟨cat', -, hupd⟩
    · have hupd' : runWith (World.updateFlow flow) w₂ = _ := hupd
      have hdsv₃ : (w₂.pass ⟨.metadata, "update_flow"⟩).Lets ⟨.metadata, "delete_snapshot_version"⟩ :=
        (World.lets_pass_of_ne (by decide) w₂).2 hdsv₂
      have hdc₃ : (w₂.pass ⟨.metadata, "update_flow"⟩).Lets (World.contentCall "delete_content") :=
        (World.lets_pass_of_ne (by decide) w₂).2 hdc₂
      obtain ⟨w₄, hdiscard, hrev, hcatalog, hcontent⟩ :=
        runWith_discardSnapshot true (World.calm_pass hcalm₂ _) hdsv₃ hdc₃ hdel₂
      simp only [hupd', hdiscard, runWith_throw, Prod.mk.injEq] at h
      obtain ⟨-, rfl⟩ := h
      refine ⟨hrev.trans hrev₂, ?_, hcontent⟩
      rw [hcatalog, if_pos rfl, World.pass_catalog, hcat₂, ← hinfo.1, ← hinfo.2]
      exact Catalog.deleteSnapshotVersion_insertSnapshot hcat
    · have hupd' : runWith (World.updateFlow flow) w₂ = _ := hupd
      simp [hupd'] at h

/-- The writes of a snapshot fail without a trace when the clean-up calls are let through and no
blob is stored under the snapshot's key. -/
theorem atomicAt_snapshotWrites {flowId : Uuid} {version : Nat} {info : SnapshotMeta} {flow : Flow}
    {bytes : Bytes} (hinfo : info.flowIdentifier = flowId ∧ info.version = version)
    (hcalm : w.Calm) (hdsv : w.Lets ⟨.metadata, "delete_snapshot_version"⟩)
    (hdc : w.Lets (World.contentCall "delete_content"))
    (hfresh : w.content.blob? flowId.text (toString version) = none) :
    AtomicAt (do
      World.saveContent flowId.text (toString version) bytes
      tryCatch (World.insertSnapshot info) fun e => do
        discardSnapshot flowId version false
        throw e
      tryCatch (World.updateFlow flow) fun e => do
        discardSnapshot flowId version true
        throw e
      pure info) w := by
  intro err herr _
  rw [runWith_bind, World.runWith_saveContent] at herr ⊢
  generalize hplan : (w.planned (World.contentCall "save_content")).1 = p at herr ⊢
  rcases p with _ | e
  · generalize hsave : w.content.save flowId.text (toString version) bytes = saved at herr ⊢
    rcases saved with ⟨_ | ⟨⟩, s₁⟩
    · -- the save failed and wrote no blob
      have hkept := ContentStore.blob?_save_of_error (by rw [hsave]; rfl)
      rw [hsave] at hkept
      exact World.stores_eq rfl rfl hkept
    · -- the content is stored; the records after it fail and are taken back
      have hok : (w.content.save flowId.text (toString version) bytes).1.isOk := by rw [hsave]; rfl
      have hsets := ContentStore.sets_of_save hok
      obtain ⟨t, hdel⟩ := ContentStore.delete_after_save hok
      simp only [hsave] at hsets hdel
      let w₁ : World := { w.pass (World.contentCall "save_content") with content := s₁ }
      have hdsv₁ : w₁.Lets ⟨.metadata, "delete_snapshot_version"⟩ :=
        (World.lets_pass_of_ne (by decide) w).2 hdsv
      have hdc₁ : w₁.Lets (World.contentCall "delete_content") :=
        (World.lets_pass_of_ne (by decide) w).2 hdc
      have hcalm₁ : w₁.Calm := World.calm_pass hcalm _
      obtain ⟨hrev, hcat, hcontent⟩ := snapshotRecord_error hinfo hcalm₁ hdsv₁ hdc₁ hdel
        (Prod.ext herr rfl)
      have hgone : w.content.Sets t flowId.text (toString version) (w.content.blob? flowId.text
          (toString version)) := hfresh ▸ hsets.trans (ContentStore.sets_of_delete hdel)
      exact World.stores_eq hrev hcat (by rw [hcontent]; exact hgone.blob?_eq)
  · rfl

theorem within_discardSnapshot {cs : List Call} (hdsv : ⟨.metadata, "delete_snapshot_version"⟩ ∉ cs)
    (hdc : World.contentCall "delete_content" ∉ cs) (flowId : Uuid) (version : Nat)
    (recorded : Bool) : Within cs World.revisions (discardSnapshot flowId version recorded) := by
  have hcontent : Within cs World.revisions
      (tryCatch (World.deleteContent flowId.text (toString version)) fun _ => pure ()) :=
    (within_deleteContent hdc _ _).tryCatch fun _ => Within.pure' ()
  unfold discardSnapshot
  cases recorded
  · exact hcontent
  · exact (((within_changeCatalog hdsv _).bind fun _ => Within.pure' ()).tryCatch
      fun _ => Within.pure' ()).bind fun _ => hcontent

/-! Clean-up calls that the plan lets through and the store can carry out succeed. -/

theorem runWith_restorePut {prior : BundleVersion} {c₀ : Catalog} (hcalm : w.Calm)
    (hlets : w.Lets ⟨.metadata, "put_bundle_version"⟩) (hput : w.catalog.putBundleVersion prior = .ok c₀) :
    runWith (tryCatch (World.putBundleVersion prior) fun _ => pure ()) w =
      (.ok (), { w.pass ⟨.metadata, "put_bundle_version"⟩ with catalog := c₀ }) := by
  have hlets' : (w.planned ⟨.metadata, "put_bundle_version"⟩).1 = none := hlets
  simp [runWith_tryCatch, World.putBundleVersion, World.runWith_writeCatalog hcalm, hlets', hput]

theorem runWith_restoreDelete {bundleId : Uuid} {version : String} (hcalm : w.Calm)
    (hlets : w.Lets ⟨.metadata, "delete_bundle_version"⟩) :
    runWith (tryCatch (do let _ ← World.deleteBundleVersion bundleId version) fun _ => pure ()) w =
      (.ok (), { w.pass ⟨.metadata, "delete_bundle_version"⟩ with
        catalog := (w.catalog.deleteBundleVersion bundleId version).2 }) := by
  have hlets' : (w.planned ⟨.metadata, "delete_bundle_version"⟩).1 = none := hlets
  simp [runWith_tryCatch, World.deleteBundleVersion, World.runWith_changeCatalog hcalm, hlets',
    Except.map]

/-- The call that puts back the record a version had before an upload. -/
def restoreCall : Option BundleVersion → Call
  | some _ => ⟨.metadata, "put_bundle_version"⟩
  | none => ⟨.metadata, "delete_bundle_version"⟩

/-- The plan lets the record of a version be put back to `previous`, which leaves the catalog
`c₀`. -/
def RecordRestorable (w : World) (b : Uuid) (ver : String) (c₀ : Catalog)
    (previous : Option BundleVersion) : Prop :=
  w.Lets (restoreCall previous) ∧ w.catalog.putBack b ver previous = .ok c₀

/-- The plan and the content store let the blob under a key be put back to `previous`. -/
def ContentRestorable (w : World) (e v : String) : Option Bytes → Prop
  | some prior => w.Lets (World.contentCall "save_content") ∧ (w.content.save e v prior).1.isOk
  | none => w.Lets (World.contentCall "delete_content") ∧ ∃ t, w.content.delete e v = .ok t

/-- Whether the blob can be put back depends only on the content and the content calls' plan. -/
theorem ContentRestorable.mono {w' : World} {e v : String} {previous : Option Bytes}
    (hcontent : w'.content = w.content)
    (hsave : w'.Lets (World.contentCall "save_content") ↔ w.Lets (World.contentCall "save_content"))
    (hdelete : w'.Lets (World.contentCall "delete_content") ↔
      w.Lets (World.contentCall "delete_content"))
    (h : ContentRestorable w e v previous) : ContentRestorable w' e v previous := by
  cases previous with
  | some prior => exact ⟨hsave.2 h.1, hcontent ▸ h.2⟩
  | none => exact ⟨hdelete.2 h.1, hcontent ▸ h.2⟩

/-- A call of the catalog keeps what the content needs to be put back. -/
theorem ContentRestorable.pass {e v : String} {previous : Option Bytes} (m : String)
    (h : ContentRestorable w e v previous) :
    ContentRestorable (w.pass ⟨.metadata, m⟩) e v previous := by
  have hne : ∀ n, (⟨.metadata, m⟩ : Call) ≠ World.contentCall n := fun n h => by
    cases h
  exact h.mono (World.pass_content w _) (World.lets_pass_of_ne (hne _) w)
    (World.lets_pass_of_ne (hne _) w)

theorem runWith_restoreSave {e v : String} {data : Bytes}
    (h : ContentRestorable w e v (some data)) :
    ∃ w', runWith (tryCatch (World.saveContent e v data) fun _ => pure ()) w = (.ok (), w') ∧
      w'.revisions = w.revisions ∧ w'.catalog = w.catalog ∧ w.content.Sets w'.content e v (some data) := by
  obtain ⟨hlets, hsave⟩ := h
  have hlets' : (w.planned (World.contentCall "save_content")).1 = none := hlets
  have hsave' : (w.content.save e v data).1 = .ok () := by
    revert hsave
    cases (w.content.save e v data).1 <;> simp [Except.isOk, Except.toBool]
  refine ⟨{ w.pass (World.contentCall "save_content") with content := (w.content.save e v data).2 },
    ?_, rfl, rfl, ContentStore.sets_of_save hsave⟩
  simp [runWith_tryCatch, World.runWith_saveContent, hlets', hsave']

theorem runWith_restoreErase {e v : String} (h : ContentRestorable w e v none) :
    ∃ w', runWith (tryCatch (World.deleteContent e v) fun _ => pure ()) w = (.ok (), w') ∧
      w'.revisions = w.revisions ∧ w'.catalog = w.catalog ∧ w.content.Sets w'.content e v none := by
  obtain ⟨hlets, t, hdel⟩ := h
  have hlets' : (w.planned (World.contentCall "delete_content")).1 = none := hlets
  refine ⟨{ w.pass (World.contentCall "delete_content") with content := t }, ?_, rfl, rfl,
    ContentStore.sets_of_delete hdel⟩
  simp [runWith_tryCatch, World.runWith_deleteContent, hlets', hdel]

/-- With its calls let through and able to write, putting back a version's record and content
succeeds: it leaves the catalog the record's undo gives, and the blob it had under its key. -/
theorem runWith_restoreBundleVersion {bundleId : Uuid} {version : String}
    {previous : Option BundleVersion} {previousBytes : Option Bytes} {c₀ : Catalog}
    (hcalm : w.Calm) (hrecord : RecordRestorable w bundleId version c₀ previous)
    (hcontent : ContentRestorable w bundleId.text version previousBytes) :
    ∃ w', runWith (restoreBundleVersion bundleId version previous previousBytes) w = (.ok (), w') ∧
      w'.revisions = w.revisions ∧ w'.catalog = c₀ ∧
      w.content.Sets w'.content bundleId.text version previousBytes := by
  obtain ⟨hlets, hback⟩ := hrecord
  unfold restoreBundleVersion
  cases previous with
  | some prior =>
    let w₁ : World := { w.pass ⟨.metadata, "put_bundle_version"⟩ with catalog := c₀ }
    have hrun : runWith (tryCatch (World.putBundleVersion prior) fun _ => pure ()) w = (.ok (), w₁) :=
      runWith_restorePut hcalm hlets hback
    have hcontent₁ : ContentRestorable w₁ bundleId.text version previousBytes := hcontent.pass _
    cases previousBytes with
    | some bytes =>
      obtain ⟨w₂, hrun₂, hrev₂, hcat₂, hsets⟩ := runWith_restoreSave hcontent₁
      exact ⟨w₂, by rw [runWith_bind, hrun]; exact hrun₂, hrev₂, hcat₂, hsets⟩
    | none =>
      obtain ⟨w₂, hrun₂, hrev₂, hcat₂, hsets⟩ := runWith_restoreErase hcontent₁
      exact ⟨w₂, by rw [runWith_bind, hrun]; exact hrun₂, hrev₂, hcat₂, hsets⟩
  | none =>
    let w₁ : World := { w.pass ⟨.metadata, "delete_bundle_version"⟩ with catalog := c₀ }
    have hrun : runWith (tryCatch (do let _ ← World.deleteBundleVersion bundleId version)
        fun _ => pure ()) w = (.ok (), w₁) := by
      rw [runWith_restoreDelete hcalm hlets, Except.ok.inj hback]
    have hcontent₁ : ContentRestorable w₁ bundleId.text version previousBytes := hcontent.pass _
    cases previousBytes with
    | some bytes =>
      obtain ⟨w₂, hrun₂, hrev₂, hcat₂, hsets⟩ := runWith_restoreSave hcontent₁
      exact ⟨w₂, by rw [runWith_bind, hrun]; exact hrun₂, hrev₂, hcat₂, hsets⟩
    | none =>
      obtain ⟨w₂, hrun₂, hrev₂, hcat₂, hsets⟩ := runWith_restoreErase hcontent₁
      exact ⟨w₂, by rw [runWith_bind, hrun]; exact hrun₂, hrev₂, hcat₂, hsets⟩

/-- Unless the plan makes the read report a missing blob, the read before a version is uploaded
again gives the blob under its key, or fails. -/
theorem runWith_previousContent {key ver : String}
    (hread : ∀ msg, (w.planned (World.contentCall "get_content")).1 ≠ some (.notFound msg)) :
    runWith (previousContent key ver) w =
        (.ok (w.content.blob? key ver), w.pass (World.contentCall "get_content")) ∨
      ∃ err, runWith (previousContent key ver) w = (.error err, w.pass (World.contentCall "get_content")) := by
  unfold previousContent
  rw [runWith_tryCatch, runWith_map, World.runWith_getContent]
  generalize hplan : (w.planned (World.contentCall "get_content")).1 = p at hread
  rcases p with _ | e
  · -- the read went to the store: a missing blob is no content, any other failure is passed on
    rcases hget : w.content.get key ver with e | data
    · dsimp only [Except.map]
      split
      · next msg => exact Or.inl (by rw [ContentStore.blob?_of_get_notFound hget]; rfl)
      · exact Or.inr ⟨_, rfl⟩
    · exact Or.inl (by rw [ContentStore.blob?_of_get_ok hget]; rfl)
  · -- a planned failure, which is not a missing blob
    dsimp only [Except.map]
    split
    · next msg => exact absurd rfl (hread msg)
    · exact Or.inr ⟨_, rfl⟩

/-- Reading the content to put back, then an atomic step. -/
theorem AtomicAt.previousContent_bind {key ver : String} {f : Option Bytes → Registry β}
    (hread : ∀ msg, (w.planned (World.contentCall "get_content")).1 ≠ some (.notFound msg))
    (hf : AtomicAt (f (w.content.blob? key ver)) (w.pass (World.contentCall "get_content"))) :
    AtomicAt (previousContent key ver >>= f) w := by
  intro err herr hpanic
  rw [runWith_bind] at herr ⊢
  rcases runWith_previousContent hread with hrun | ⟨e, hrun⟩ <;> rw [hrun] at herr ⊢
  · exact hf err herr hpanic
  · rfl

theorem restoreCall_ne_updateBundle (previous : Option BundleVersion) :
    (⟨.metadata, "update_bundle"⟩ : Call) ≠ restoreCall previous := by
  cases previous <;> simp [restoreCall]

/-- The count an upload gives its bundle: one more for a new version, which has none past the
largest value, or the count as it was. -/
theorem recordCount_eq {existing : Option BundleVersion} {n : Nat} :
    (if existing.isNone then nextWord32 n else pure n : Outcome Nat) =
      if existing.isNone ∧ maxWord32 ≤ n then .error .overflow
      else .ok (if existing.isNone then n + 1 else n) := by
  cases existing with
  | none =>
    by_cases hroom : n < maxWord32
    · simp [nextWord32_of_lt hroom, Nat.not_le.2 hroom]
    · simp [nextWord32_of_le (Nat.le_of_not_lt hroom), Nat.le_of_not_lt hroom]
  | some _ => rfl

/-- A step whose failure is ignored succeeds. -/
theorem runWith_tryCatch_ignore (m : Registry Unit) (w : World) :
    ∃ w', runWith (tryCatch m fun _ => pure ()) w = (.ok (), w') := by
  rw [runWith_tryCatch]
  rcases runWith m w with ⟨_ | ⟨⟩, w'⟩ <;> exact ⟨_, rfl⟩

/-- Putting back what an upload wrote never fails, so the undo passes on the failure it is given. -/
theorem runWith_undo (bundleId : Uuid) (version : String) (previous : Option BundleVersion)
    (previousBytes : Option Bytes) (err : RegistryError) (w : World) :
    ∃ w', runWith (do restoreBundleVersion bundleId version previous previousBytes; throw err :
      Registry Unit) w = (.error err, w') := by
  have ignored : ∀ m m' : Registry Unit, ∃ w', runWith (do
      tryCatch m fun _ => pure ()
      tryCatch m' fun _ => pure ()) w = (.ok (), w') := fun m m' => by
    obtain ⟨w₁, h₁⟩ := runWith_tryCatch_ignore m w
    rw [runWith_bind, h₁]
    exact runWith_tryCatch_ignore m' w₁
  obtain ⟨w₁, h₁⟩ : ∃ w₁, runWith (restoreBundleVersion bundleId version previous previousBytes) w =
      (.ok (), w₁) := ignored _ _
  exact ⟨w₁, by rw [runWith_bind, h₁]; rfl⟩

/-- A write of a version's record that fails either put back the record and the content before
the upload, or wrote the record of a new version and then met its bundle's count at the largest
value, with nothing put back. -/
theorem bundleRecord_error {bundleId : Uuid} {ver : String} {previousBytes : Option Bytes}
    {bundle : Bundle} {record : BundleVersion}
    (hrecord : record.bundleIdentifier = bundleId ∧ record.version = ver) (hcalm : w.Calm)
    (hbundle : (w.catalog.fetchBundle bundleId).isSome)
    (hback : (w.pass ⟨.metadata, "put_bundle_version"⟩).Lets
      (restoreCall (w.catalog.fetchBundleVersion bundleId ver)))
    (hcontent : ContentRestorable w bundleId.text ver previousBytes) {err : RegistryError}
    {w' : World}
    (h : runWith (recordBundleVersion bundle record (w.catalog.fetchBundleVersion bundleId ver)
      previousBytes) w = (.error err, w')) :
    (w'.revisions = w.revisions ∧ w'.catalog = w.catalog ∧
      w.content.Sets w'.content bundleId.text ver previousBytes) ∨
    (err = .overflow ∧ w.catalog.fetchBundleVersion bundleId ver = none ∧
      maxWord32 ≤ bundle.versionCount ∧ w.catalog.putBundleVersion record = .ok w'.catalog ∧
      w'.revisions = w.revisions ∧ w'.content = w.content) := by
  obtain ⟨rfl, rfl⟩ := hrecord
  unfold recordBundleVersion at h
  rw [runWith_bind, runWith_tryCatch] at h
  rcases World.writeCatalog_cases hcalm "put_bundle_version" (·.putBundleVersion record) with
    ⟨e, hput⟩ | ⟨cat, hcat, hput⟩
  · -- the record was refused: the catalog is as it was, and the content goes back
    have hput' : runWith (World.putBundleVersion record) w = _ := hput
    obtain ⟨w₂, hrestore, hrev, hcatalog, hsets⟩ := runWith_restoreBundleVersion
      (World.calm_pass hcalm _) ⟨hback, Catalog.putBack_fetch hbundle⟩ (hcontent.pass _)
    simp only [hput', runWith_bind, hrestore, runWith_throw, Prod.mk.injEq] at h
    obtain ⟨-, rfl⟩ := h
    exact .inl ⟨hrev, hcatalog, hsets⟩
  generalize hw₂ : ({ w.pass ⟨.metadata, "put_bundle_version"⟩ with catalog := cat } : World)
    = w₂ at hput
  have hcalm₂ : w₂.Calm := hw₂ ▸ World.calm_pass hcalm _
  have hput' : runWith (World.putBundleVersion record) w = (.ok (), w₂) := hput
  simp only [hput', runWith_bind, runWith_lift, recordCount_eq] at h
  by_cases hfull : (w.catalog.fetchBundleVersion record.bundleIdentifier record.version).isNone ∧
      maxWord32 ≤ bundle.versionCount
  · -- a new version, and no count past the largest: nothing is put back
    simp only [if_pos hfull, Prod.mk.injEq, Except.error.injEq] at h
    obtain ⟨rfl, rfl⟩ := h
    subst hw₂
    exact .inr ⟨rfl, Option.isNone_iff_eq_none.1 hfull.1, hfull.2, hcat, rfl, rfl⟩
  simp only [if_neg hfull, runWith_tryCatch] at h
  rcases World.writeCatalog_cases hcalm₂ "update_bundle" (·.updateBundle { bundle with
      versionCount := if (w.catalog.fetchBundleVersion record.bundleIdentifier record.version).isNone
        then bundle.versionCount + 1 else bundle.versionCount
      modifiedTimestamp := record.timestamp }) with ⟨e, hupd⟩ | ⟨cat', -, hupd⟩
  · -- the bundle was refused: the record goes back with the content
    have hupd' : runWith (World.updateBundle _) w₂ = _ := hupd
    have hrecord₃ : RecordRestorable (w₂.pass ⟨.metadata, "update_bundle"⟩) record.bundleIdentifier
        record.version w.catalog (w.catalog.fetchBundleVersion record.bundleIdentifier record.version) :=
      ⟨(World.lets_pass_of_ne (restoreCall_ne_updateBundle _) w₂).2 (hw₂ ▸ hback),
        hw₂ ▸ Catalog.putBack_after_put hcat⟩
    have hcontent₃ : ContentRestorable (w₂.pass ⟨.metadata, "update_bundle"⟩)
        record.bundleIdentifier.text record.version previousBytes := hw₂ ▸ (hcontent.pass _).pass _
    obtain ⟨w₄, hrestore, hrev, hcatalog, hsets⟩ :=
      runWith_restoreBundleVersion (World.calm_pass hcalm₂ _) hrecord₃ hcontent₃
    simp only [hupd', runWith_bind, hrestore, runWith_throw, Prod.mk.injEq] at h
    obtain ⟨-, rfl⟩ := h
    have hcontent₂ : w₂.content = w.content := hw₂ ▸ rfl
    refine .inl ⟨hrev.trans (hw₂ ▸ rfl), hcatalog, ?_⟩
    rw [← hcontent₂]
    exact hsets
  · have hupd' : runWith (World.updateBundle _) w₂ = _ := hupd
    simp only [hupd', Prod.mk.injEq, reduceCtorEq, false_and] at h
/-- A write of a version's record that succeeds wrote the record, then the bundle with its count
one more for a new version, and left the revisions and the content. -/
theorem bundleRecord_ok {bundle : Bundle} {record : BundleVersion}
    {existing : Option BundleVersion} {previousBytes : Option Bytes} {w' : World} (hcalm : w.Calm)
    (h : runWith (recordBundleVersion bundle record existing previousBytes) w = (.ok (), w')) :
    ∃ c, w.catalog.putBundleVersion record = .ok c ∧
      c.updateBundle { bundle with
        versionCount := if existing.isNone then bundle.versionCount + 1 else bundle.versionCount
        modifiedTimestamp := record.timestamp } = .ok w'.catalog ∧
      w'.revisions = w.revisions ∧ w'.content = w.content := by
  unfold recordBundleVersion at h
  rw [runWith_bind, runWith_tryCatch] at h
  rcases World.writeCatalog_cases hcalm "put_bundle_version" (·.putBundleVersion record) with
    ⟨e, hput⟩ | ⟨c, hc, hput⟩
  · have hput' : runWith (World.putBundleVersion record) w = _ := hput
    obtain ⟨w₂, hundo⟩ := runWith_undo record.bundleIdentifier record.version existing previousBytes e
      (w.pass ⟨.metadata, "put_bundle_version"⟩)
    simp only [hput', hundo] at h
    cases h
  generalize hw₁ : ({ w.pass ⟨.metadata, "put_bundle_version"⟩ with catalog := c } : World)
    = w₁ at hput
  have hcalm₁ : w₁.Calm := hw₁ ▸ World.calm_pass hcalm _
  have hput' : runWith (World.putBundleVersion record) w = (.ok (), w₁) := hput
  simp only [hput', runWith_bind, runWith_lift, recordCount_eq] at h
  by_cases hfull : existing.isNone = true ∧ maxWord32 ≤ bundle.versionCount
  · simp only [if_pos hfull] at h
    cases h
  simp only [if_neg hfull, runWith_tryCatch] at h
  rcases World.writeCatalog_cases hcalm₁ "update_bundle" (·.updateBundle { bundle with
      versionCount := if existing.isNone then bundle.versionCount + 1 else bundle.versionCount
      modifiedTimestamp := record.timestamp }) with ⟨e, hupd⟩ | ⟨c', hc', hupd⟩
  · have hupd' : runWith (World.updateBundle _) _ = _ := hupd
    obtain ⟨w₂, hundo⟩ := runWith_undo record.bundleIdentifier record.version existing previousBytes e
      (w₁.pass ⟨.metadata, "update_bundle"⟩)
    simp only [hupd', hundo] at h
    cases h
  · have hupd' : runWith (World.updateBundle _) _ = _ := hupd
    simp only [hupd', Prod.mk.injEq] at h
    obtain ⟨-, rfl⟩ := h
    subst hw₁
    exact ⟨c, hc, hc', rfl, rfl⟩

theorem restoreCall_mem (previous : Option BundleVersion) :
    restoreCall previous ∈ [⟨.metadata, "put_bundle_version"⟩, ⟨.metadata, "delete_bundle_version"⟩] := by
  cases previous <;> simp [restoreCall]

/-- The writes of an upload fail without a trace, save by a panic, when the clean-up calls are let
through and the content to put back is the blob under the version's key. -/
theorem atomicAt_bundleWrites {bundleId : Uuid} {ver : String} {existing : Option BundleVersion}
    {previousBytes : Option Bytes} {bundle : Bundle} {record : BundleVersion} {data : Bytes}
    (hrecord : record.bundleIdentifier = bundleId ∧ record.version = ver) (hcalm : w.Calm)
    (hbundle : (w.catalog.fetchBundle bundleId).isSome)
    (hexisting : w.catalog.fetchBundleVersion bundleId ver = existing)
    (hback : (w.pass ⟨.metadata, "put_bundle_version"⟩).Lets (restoreCall existing))
    (hdc : w.Lets (World.contentCall "delete_content"))
    (hprevious : previousBytes = w.content.blob? bundleId.text ver) :
    AtomicAt (do
      World.saveContent bundleId.text ver data
      recordBundleVersion bundle record existing previousBytes
      pure record) w := by
  subst hexisting hprevious
  intro err herr hpanic
  rw [runWith_bind, World.runWith_saveContent] at herr ⊢
  generalize hplan : (w.planned (World.contentCall "save_content")).1 = p at herr ⊢
  rcases p with _ | e
  · generalize hsave : w.content.save bundleId.text ver data = saved at herr ⊢
    rcases saved with ⟨_ | ⟨⟩, s₁⟩
    · -- the save failed and wrote no blob
      have hkept := ContentStore.blob?_save_of_error (by rw [hsave]; rfl)
      rw [hsave] at hkept
      exact World.stores_eq rfl rfl hkept
    · -- the content is stored; the records after it fail and are put back with it
      have hok : (w.content.save bundleId.text ver data).1.isOk := by rw [hsave]; rfl
      have hsets := ContentStore.sets_of_save hok
      rw [hsave] at hsets
      let w₁ : World := { w.pass (World.contentCall "save_content") with content := s₁ }
      have hpass : Frame [⟨.metadata, "put_bundle_version"⟩, ⟨.metadata, "delete_bundle_version"⟩]
          World.stores w (w.pass (World.contentCall "save_content")) := frame_pass (by decide) w
      have hframe : Frame [⟨.metadata, "put_bundle_version"⟩, ⟨.metadata, "delete_bundle_version"⟩]
          World.revisions w w₁ := ⟨rfl, hpass.queued, hpass.failures⟩
      have hback₁ : (w₁.pass ⟨.metadata, "put_bundle_version"⟩).Lets
          (restoreCall (w₁.catalog.fetchBundleVersion bundleId ver)) :=
        (hframe.lets_pass (by decide) (restoreCall_mem _)).2 hback
      have hcontent : ContentRestorable w₁ bundleId.text ver (w.content.blob? bundleId.text ver) := by
        cases w.content.blob? bundleId.text ver with
        | some prior =>
          have hagain := ContentStore.save_again hok prior
          rw [hsave] at hagain
          exact ⟨World.lets_pass_self hplan, hagain⟩
        | none =>
          obtain ⟨t, hdel⟩ := ContentStore.delete_after_save hok
          rw [hsave] at hdel
          exact ⟨(World.lets_pass_of_ne (by decide) w).2 hdc, t, hdel⟩
      have hcalm₁ : w₁.Calm := World.calm_pass hcalm _
      dsimp only at herr ⊢
      rw [runWith_bind] at herr ⊢
      split
      · next hrun =>
        rw [hrun] at herr
        cases herr
      · next e w₂ hrun =>
        rw [hrun] at herr
        cases herr
        rcases bundleRecord_error hrecord hcalm₁ hbundle hback₁ hcontent hrun with
          ⟨hrev, hcat, hsets'⟩ | ⟨rfl, -⟩
        · exact World.stores_eq hrev hcat (hsets.trans hsets').blob?_eq
        · cases hpanic
  · rfl

theorem requireBundle_result {w' : World} (hcalm : w.Calm) {id : Uuid} {b : Bundle}
    (h : runWith (requireBundle id) w = (.ok b, w')) : w.catalog.fetchBundle id = some b := by
  unfold requireBundle at h
  rw [runWith_bind] at h
  generalize hrun : runWith (World.fetchBundle id) w = p at h
  rcases p with ⟨_ | found, w₁⟩
  · cases h
  · have hfound : w.catalog.fetchBundle id = found := World.readCatalog_result hcalm hrun
    rw [hfound]
    cases found
    · cases h
    · cases h
      rfl

theorem within_previousContent {cs : List Call} (hc : World.contentCall "get_content" ∉ cs)
    (key ver : String) : Within cs World.stores (previousContent key ver) :=
  ((within_getContent hc key ver).map some).tryCatch fun e => by
    split
    · exact Within.pure' _
    · exact Within.throw' _

theorem within_restoreBundleVersion {cs : List Call} (hput : ⟨.metadata, "put_bundle_version"⟩ ∉ cs)
    (hdbv : ⟨.metadata, "delete_bundle_version"⟩ ∉ cs) (hsc : World.contentCall "save_content" ∉ cs)
    (hdc : World.contentCall "delete_content" ∉ cs) (bundleId : Uuid) (version : String)
    (previous : Option BundleVersion) (previousBytes : Option Bytes) :
    Within cs World.revisions (restoreBundleVersion bundleId version previous previousBytes) := by
  unfold restoreBundleVersion
  refine (Within.tryCatch ?_ fun _ => Within.pure' ()).bind fun _ =>
    Within.tryCatch ?_ fun _ => Within.pure' ()
  · cases previous
    · exact (within_changeCatalog hdbv _).bind fun _ => Within.pure' ()
    · exact within_writeCatalog hput _
  · cases previousBytes
    · exact within_deleteContent hdc _ _
    · exact within_saveContent hsc _ _ _

theorem within_recordBundleVersion {cs : List Call} (hput : ⟨.metadata, "put_bundle_version"⟩ ∉ cs)
    (hupd : ⟨.metadata, "update_bundle"⟩ ∉ cs) (hdbv : ⟨.metadata, "delete_bundle_version"⟩ ∉ cs)
    (hsc : World.contentCall "save_content" ∉ cs) (hdc : World.contentCall "delete_content" ∉ cs)
    (bundle : Bundle) (record : BundleVersion) (existing : Option BundleVersion)
    (previousBytes : Option Bytes) :
    Within cs World.revisions (recordBundleVersion bundle record existing previousBytes) := by
  have undo : ∀ e, Within cs World.revisions (do
      restoreBundleVersion record.bundleIdentifier record.version existing previousBytes
      throw e : Registry Unit) := fun e =>
    (within_restoreBundleVersion hput hdbv hsc hdc _ _ _ _).bind fun _ => Within.throw' e
  exact ((within_writeCatalog hput _).tryCatch undo).bind fun _ =>
    (Within.lift _).bind fun _ => (within_writeCatalog hupd _).tryCatch undo

theorem within_bundleWrites {cs : List Call} (hsc : World.contentCall "save_content" ∉ cs)
    (hput : ⟨.metadata, "put_bundle_version"⟩ ∉ cs) (hupd : ⟨.metadata, "update_bundle"⟩ ∉ cs)
    (hdbv : ⟨.metadata, "delete_bundle_version"⟩ ∉ cs) (hdc : World.contentCall "delete_content" ∉ cs)
    {bundleId : Uuid} {ver : String} {existing : Option BundleVersion}
    {previousBytes : Option Bytes} {bundle : Bundle} {record : BundleVersion} {data : Bytes} :
    Within cs World.revisions (do
      World.saveContent bundleId.text ver data
      recordBundleVersion bundle record existing previousBytes
      pure record) :=
  (within_saveContent hsc _ _ _).bind fun _ =>
    (within_recordBundleVersion hput hupd hdbv hsc hdc _ _ _ _).bind fun _ => Within.pure' _

/-- What the registry must let through for an upload's record to be put back. -/
theorem lets_restoreCall
    (hput : (w.pass ⟨.metadata, "put_bundle_version"⟩).Lets ⟨.metadata, "put_bundle_version"⟩)
    (hdbv : w.Lets ⟨.metadata, "delete_bundle_version"⟩) (previous : Option BundleVersion) :
    (w.pass ⟨.metadata, "put_bundle_version"⟩).Lets (restoreCall previous) := by
  cases previous
  · exact (World.lets_pass_of_ne (by decide) w).2 hdbv
  · exact hput

end Coordinator

end

end FlowRegistry
