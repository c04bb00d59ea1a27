import FlowRegistry.Proofs.Rollback

/-!
# Failed changes leave the stores as they were

Each change of the registry that writes to more than one store (`Coordinator.Mutation`)
succeeds, panics at a counter's largest value, or fails with the revisions, every table of the
catalog and every stored blob as it found them (`Coordinator.failed_mutation_keeps_stores`),
provided that

* no flow is queued to appear in the catalog while it runs;
* the plan lets through the write of the revision store after the change (`create_revision`
  after a creation, `put_revision` after any other change), and the calls that clean up;
* the plan does not make the read of a replaced version's content report it missing;
* a new snapshot, or a new version of a bundle, finds no blob stored under its key.

Without the second condition a failed creation keeps its record
(`Coordinator.failed_registration_keeps_bucket`).
-/

namespace FlowRegistry

section

variable {α β : Type} {w : World}

namespace Coordinator

theorem atomicAt_createBucket (r : BucketRequest) (claimed : Revision) (user : String)
    (hcalm : w.Calm) (hlets : w.Lets (World.revisionCall "create_revision")) :
    AtomicAt (createBucket r claimed user) w := by
  unfold createBucket
  refine AtomicAt.lift_bind fun _ _ => AtomicAt.lift_bind fun _ _ => ?_
  refine AtomicAt.lift_bind fun claimed' _ => AtomicAt.now_bind ?_
  refine AtomicAt.bind_of_panics (Manager.atomicAt_create_of_clean hcalm hlets ?_) ?_
  · refine Clean.read_bind (within_readCatalog (by decide) _) fun found => ?_
    dsimp only
    split
    · exact Clean.throw_bind _ _
    · exact Clean.write (by decide) _
  · rintro ⟨⟨⟩, revision⟩ w₁ - err herr
    cases herr

theorem atomicAt_updateBucket (id : Uuid) (claimed : Revision) (c : BucketChange) (user : String)
    (hcalm : w.Calm) (hlets : w.Lets (World.revisionCall "put_revision")) :
    AtomicAt (updateBucket id claimed c user) w := by
  unfold updateBucket
  dsimp only
  split
  refine AtomicAt.lift_bind fun _ _ => ?_
  all_goals
    refine AtomicAt.lift_bind fun _ _ => ?_
    refine AtomicAt.bind_of_panics (Manager.atomicAt_update_of_clean hcalm hlets ?_) ?_
    · refine Clean.read_bind (within_requireBucket (by decide) id) fun b => ?_
      split
      · exact Clean.read_bind (Within.pure' _) fun _ => Clean.write_pure (by decide) _ _
      · refine Clean.read_bind (within_readCatalog (by decide) _) fun found => ?_
        split
        · split
          · exact Clean.throw_bind _ _
          · exact Clean.read_bind (Within.pure' _) fun _ => Clean.write_pure (by decide) _ _
        · exact Clean.read_bind (Within.pure' _) fun _ => Clean.write_pure (by decide) _ _
    · rintro ⟨b, revision⟩ w₁ - err herr
      cases herr

theorem atomicAt_createFlow (r : FlowRequest) (claimed : Revision) (user : String)
    (hcalm : w.Calm) (hlets : w.Lets (World.revisionCall "create_revision")) :
    AtomicAt (createFlow r claimed user) w := by
  unfold createFlow
  refine AtomicAt.lift_bind fun _ _ => AtomicAt.lift_bind fun _ _ => ?_
  refine AtomicAt.lift_bind fun claimed' _ => AtomicAt.now_bind ?_
  refine AtomicAt.bind_of_panics (Manager.atomicAt_create_of_clean hcalm hlets ?_) ?_
  · refine Clean.read_bind (within_readCatalog (by decide) _) fun bucket => ?_
    dsimp only
    split
    · exact Clean.throw_bind _ _
    · refine Clean.read_bind (within_readCatalog (by decide) _) fun found => ?_
      split
      · exact Clean.throw_bind _ _
      · exact Clean.write (by decide) _
  · rintro ⟨⟨⟩, revision⟩ w₁ - err herr
    cases herr

theorem atomicAt_updateFlow (id : Uuid) (claimed : Revision) (c : FlowChange) (user : String)
    (hcalm : w.Calm) (hlets : w.Lets (World.revisionCall "put_revision")) :
    AtomicAt (updateFlow id claimed c user) w := by
  unfold updateFlow
  dsimp only
  split
  refine AtomicAt.lift_bind fun _ _ => ?_
  all_goals
    refine AtomicAt.lift_bind fun _ _ => ?_
    refine AtomicAt.bind_of_panics (Manager.atomicAt_update_of_clean hcalm hlets ?_) ?_
    · refine Clean.read_bind (within_requireFlow (by decide) id) fun f => ?_
      split
      · exact Clean.read_bind (Within.pure' _) fun _ => Clean.read_bind within_now fun _ =>
          Clean.write_pure (by decide) _ _
      · refine Clean.read_bind (within_readCatalog (by decide) _) fun found => ?_
        split
        · split
          · exact Clean.throw_bind _ _
          · exact Clean.read_bind (Within.pure' _) fun _ => Clean.read_bind within_now fun _ =>
              Clean.write_pure (by decide) _ _
        · exact Clean.read_bind (Within.pure' _) fun _ => Clean.read_bind within_now fun _ =>
            Clean.write_pure (by decide) _ _
    · rintro ⟨f, revision⟩ w₁ - err herr
      cases herr

theorem atomicAt_createBundle (r : BundleRequest) (claimed : Revision) (user : String)
    (hcalm : w.Calm) (hlets : w.Lets (World.revisionCall "create_revision")) :
    AtomicAt (createBundle r claimed user) w := by
  unfold createBundle
  refine AtomicAt.lift_bind fun _ _ => AtomicAt.lift_bind fun _ _ => ?_
  refine AtomicAt.lift_bind fun _ _ => AtomicAt.lift_bind fun claimed' _ => ?_
  refine AtomicAt.now_bind ?_
  refine AtomicAt.bind_of_panics (Manager.atomicAt_create_of_clean hcalm hlets ?_) ?_
  · refine Clean.read_bind (within_readCatalog (by decide) _) fun bucket => ?_
    dsimp only
    split
    · exact Clean.throw_bind _ _
    · refine Clean.read_bind (within_readCatalog (by decide) _) fun found => ?_
      split
      · exact Clean.throw_bind _ _
      · exact Clean.write (by decide) _
  · rintro ⟨⟨⟩, revision⟩ w₁ - err herr
    cases herr

theorem atomicAt_updateBundle (id : Uuid) (claimed : Revision) (description : Option String)
    (user : String) (hcalm : w.Calm) (hlets : w.Lets (World.revisionCall "put_revision")) :
    AtomicAt (updateBundle id claimed description user) w := by
  unfold updateBundle
  refine AtomicAt.lift_bind fun _ _ => ?_
  refine AtomicAt.bind_of_panics (Manager.atomicAt_update_of_clean hcalm hlets ?_) ?_
  · exact Clean.read_bind (within_requireBundle (by decide) id) fun _ =>
      Clean.read_bind within_now fun _ => Clean.write_pure (by decide) _ _
  · rintro ⟨b, revision⟩ w₁ - err herr
    cases herr

theorem atomicAt_createSnapshot (flowId : Uuid) (claimed : Revision) (r : SnapshotRequest)
    (user : String) (hcalm : w.Calm) (hlets : w.Lets (World.revisionCall "put_revision"))
    (hdsv : w.Lets ⟨.metadata, "delete_snapshot_version"⟩)
    (hdc : w.Lets (World.contentCall "delete_content"))
    (hfresh : w.content.blob? flowId.text (toString r.version) = none) :
    AtomicAt (createSnapshot flowId claimed r user) w := by
  unfold createSnapshot
  dsimp only
  split
  refine AtomicAt.lift_bind fun _ _ => ?_
  all_goals
    refine AtomicAt.bind_of_panics (Manager.atomicAt_update hcalm hlets ?_ ?_) ?_
    · refine (within_requireFlow (by decide) _).revisions.bind fun flow => ?_
      refine (within_readCatalog (by decide) _).revisions.bind fun latest => ?_
      refine (Within.lift _).bind fun expected => ?_
      split
      · exact Within.throw_bind _ _
      · exact within_now.revisions.bind fun _ => (Within.lift _).bind fun _ =>
          (within_saveContent (by decide) _ _ _).bind fun _ =>
          ((within_writeCatalog (by decide) _).tryCatch fun e =>
            (within_discardSnapshot (by decide) (by decide) _ _ _).bind fun _ => Within.throw' e).bind
          fun _ => ((within_writeCatalog (by decide) _).tryCatch fun e =>
            (within_discardSnapshot (by decide) (by decide) _ _ _).bind fun _ => Within.throw' e).bind
          fun _ => Within.pure' _
    · intro w₁ h₁
      have hcalm₁ := h₁.calm hcalm
      refine AtomicAt.bind_within undoCalls hcalm₁ (within_requireFlow (by decide) _)
        fun flow w₂ _ h₂ => ?_
      refine AtomicAt.bind_within undoCalls (h₂.calm hcalm₁) (within_readCatalog (by decide) _)
        fun latest w₃ _ h₃ => ?_
      refine AtomicAt.lift_bind fun expected _ => ?_
      split
      · exact AtomicAt.throw_bind _ _ _
      · next hv =>
        have hexpected : r.version = expected := Decidable.not_not.1 hv
        have h := h₁.trans (h₂.trans h₃)
        have hblob : w₃.content.blob? = w.content.blob? := congrArg (fun s => s.2.2) h.view
        refine AtomicAt.now_bind (AtomicAt.lift_bind fun bytes _ => ?_)
        exact atomicAt_snapshotWrites ⟨rfl, rfl⟩ (h.calm hcalm) ((h.lets (by decide)).2 hdsv)
          ((h.lets (by decide)).2 hdc) (by rw [hblob, ← hexpected]; exact hfresh)
    · rintro ⟨info, revision⟩ w₁ - err herr
      cases herr

theorem atomicAt_addBundleVersion (bundleId : Uuid) (claimed : Revision) (version : String)
    (data : Bytes) (user : String) (hcalm : w.Calm)
    (hlets : w.Lets (World.revisionCall "put_revision"))
    (hput : (w.pass ⟨.metadata, "put_bundle_version"⟩).Lets ⟨.metadata, "put_bundle_version"⟩)
    (hdbv : w.Lets ⟨.metadata, "delete_bundle_version"⟩)
    (hdc : w.Lets (World.contentCall "delete_content"))
    (hread : ∀ msg, (w.planned (World.contentCall "get_content")).1 ≠ some (.notFound msg))
    (hfresh : (w.catalog.fetchBundleVersion bundleId (Text.trim version)).isSome ∨
      w.content.blob? bundleId.text (Text.trim version) = none) :
    AtomicAt (addBundleVersion bundleId claimed version data user) w := by
  unfold addBundleVersion
  dsimp only
  split
  · exact AtomicAt.throw_bind _ _ _
  refine AtomicAt.bind_of_panics (Manager.atomicAt_update hcalm hlets ?_ ?_) ?_
  · refine (within_requireBundle (by decide) _).revisions.bind fun bundle => ?_
    refine (within_readCatalog (by decide) _).revisions.bind fun found => ?_
    split
    · refine (Within.pure' _).bind fun bucket => ?_
      refine (within_readCatalog (by decide) _).revisions.bind fun existing => ?_
      split
      · exact Within.throw_bind _ _
      refine within_now.revisions.bind fun _ => ?_
      split
      · exact (within_previousContent (by decide) _ _).revisions.bind fun _ =>
          within_bundleWrites (by decide) (by decide) (by decide) (by decide) (by decide)
      · exact (Within.pure' _).bind fun _ =>
          within_bundleWrites (by decide) (by decide) (by decide) (by decide) (by decide)
    · exact Within.throw_bind _ _
  · intro w₁ h₁
    have hcalm₁ := h₁.calm hcalm
    refine AtomicAt.bind_within undoCalls hcalm₁ (within_requireBundle (by decide) _)
      fun bundle w₂ hrun₂ h₂ => ?_
    refine AtomicAt.bind_within undoCalls (h₂.calm hcalm₁) (within_readCatalog (by decide) _)
      fun found w₃ _ h₃ => ?_
    split
    · rw [pure_bind]
      refine AtomicAt.bind_within undoCalls ((h₂.trans h₃).calm hcalm₁)
        (within_readCatalog (by decide) _) fun existing w₄ hrun₄ h₄ => ?_
      split
      · exact AtomicAt.throw_bind _ _ _
      refine AtomicAt.now_bind ?_
      have h := h₁.trans (h₂.trans (h₃.trans h₄))
      have hcalm₄ := h.calm hcalm
      have hcat : w₄.catalog = w.catalog := congrArg (fun s => s.2.1) h.view
      have hbundle : (w₄.catalog.fetchBundle bundleId).isSome := by
        have hcat₁ : w₁.catalog = w.catalog := congrArg (fun s => s.2.1) h₁.view
        rw [hcat, ← hcat₁, requireBundle_result hcalm₁ hrun₂]
        rfl
      have hexisting : w₄.catalog.fetchBundleVersion bundleId (Text.trim version) = existing := by
        have hcat₃ : w₃.catalog = w₄.catalog := (congrArg (fun s => s.2.1) h₄.view).symm
        rw [← hcat₃]
        exact World.readCatalog_result ((h₂.trans h₃).calm hcalm₁) hrun₄
      have hrecord : Frame [⟨.metadata, "put_bundle_version"⟩, ⟨.metadata, "delete_bundle_version"⟩]
          World.stores w w₄ := h.mono (by decide)
      have hback := (hrecord.lets_pass (by decide) (restoreCall_mem existing)).2
        (lets_restoreCall hput hdbv existing)
      have hdc₄ : w₄.Lets (World.contentCall "delete_content") := (h.lets (by decide)).2 hdc
      split
      · -- a version is replaced: the content it had is read first
        have hread₄ : ∀ msg, (w₄.planned (World.contentCall "get_content")).1 ≠ some (.notFound msg) := by
          rw [h.planned (by decide)]
          exact hread
        refine AtomicAt.previousContent_bind hread₄ ?_
        have hrecord₅ : Frame [⟨.metadata, "put_bundle_version"⟩, ⟨.metadata, "delete_bundle_version"⟩]
            World.stores w (w₄.pass (World.contentCall "get_content")) :=
          hrecord.trans (frame_pass (by decide) w₄)
        exact atomicAt_bundleWrites ⟨rfl, rfl⟩ (World.calm_pass hcalm₄ _) hbundle hexisting
          ((hrecord₅.lets_pass (by decide) (restoreCall_mem existing)).2
            (lets_restoreCall hput hdbv existing))
          ((World.lets_pass_of_ne (by decide) w₄).2 hdc₄) rfl
      · -- a new version: the key is free, so there is no content to put back
        next hnew =>
        rw [pure_bind]
        have hfree : w₄.content.blob? bundleId.text (Text.trim version) = none := by
          have hblob : w₄.content.blob? = w.content.blob? := congrArg (fun s => s.2.2) h.view
          rw [hblob]
          refine hfresh.resolve_left ?_
          rw [← hcat, hexisting]
          exact hnew
        exact atomicAt_bundleWrites ⟨rfl, rfl⟩ hcalm₄ hbundle hexisting hback hdc₄ hfree.symm
    · exact AtomicAt.throw_bind _ _ _
  · rintro ⟨record, revision⟩ w₁ - err herr
    cases herr

/-- The changes of the registry that write more than one store. -/
inductive Mutation where
  | createBucket (r : BucketRequest) (claimed : Revision) (user : String)
  | updateBucket (id : Uuid) (claimed : Revision) (change : BucketChange) (user : String)
  | createFlow (r : FlowRequest) (claimed : Revision) (user : String)
  | updateFlow (id : Uuid) (claimed : Revision) (change : FlowChange) (user : String)
  | createSnapshot (flowId : Uuid) (claimed : Revision) (r : SnapshotRequest) (user : String)
  | createBundle (r : BundleRequest) (claimed : Revision) (user : String)
  | updateBundle (id : Uuid) (claimed : Revision) (description : Option String) (user : String)
  | addBundleVersion (bundleId : Uuid) (claimed : Revision) (version : String) (data : Bytes)
      (user : String)

namespace Mutation

/-- A change run for its effect on the stores. -/
def run : Mutation → Registry Unit
  | .createBucket r claimed user => (fun _ => ()) <$> Coordinator.createBucket r claimed user
  | .updateBucket id claimed change user =>
    (fun _ => ()) <$> Coordinator.updateBucket id claimed change user
  | .createFlow r claimed user => (fun _ => ()) <$> Coordinator.createFlow r claimed user
  | .updateFlow id claimed change user => (fun _ => ()) <$> Coordinator.updateFlow id claimed change user
  | .createSnapshot flowId claimed r user =>
    (fun _ => ()) <$> Coordinator.createSnapshot flowId claimed r user
  | .createBundle r claimed user => (fun _ => ()) <$> Coordinator.createBundle r claimed user
  | .updateBundle id claimed description user =>
    (fun _ => ()) <$> Coordinator.updateBundle id claimed description user
  | .addBundleVersion bundleId claimed version data user =>
    (fun _ => ()) <$> Coordinator.addBundleVersion bundleId claimed version data user

/-- What the plan must let through, and what the stores must hold, for a failed change to be
taken back: the write of the revision store after the change, the clean-up calls, the read of
the content to put back, and no blob left under a key the change takes as free. -/
def Spared : Mutation → World → Prop
  | .createBucket .., w | .createFlow .., w | .createBundle .., w =>
    w.Lets (World.revisionCall "create_revision")
  | .updateBucket .., w | .updateFlow .., w | .updateBundle .., w =>
    w.Lets (World.revisionCall "put_revision")
  | .createSnapshot flowId _ r _, w =>
    w.Lets (World.revisionCall "put_revision") ∧ w.Lets ⟨.metadata, "delete_snapshot_version"⟩ ∧
      w.Lets (World.contentCall "delete_content") ∧
      w.content.blob? flowId.text (toString r.version) = none
  | .addBundleVersion bundleId _ version _ _, w =>
    w.Lets (World.revisionCall "put_revision") ∧
      (w.pass ⟨.metadata, "put_bundle_version"⟩).Lets ⟨.metadata, "put_bundle_version"⟩ ∧
      w.Lets ⟨.metadata, "delete_bundle_version"⟩ ∧ w.Lets (World.contentCall "delete_content") ∧
      (∀ msg, (w.planned (World.contentCall "get_content")).1 ≠ some (.notFound msg)) ∧
      ((w.catalog.fetchBundleVersion bundleId (Text.trim version)).isSome ∨
        w.content.blob? bundleId.text (Text.trim version) = none)

theorem atomicAt_run (m : Mutation) (hcalm : w.Calm) (hspared : m.Spared w) : AtomicAt m.run w := by
  cases m with
  | createBucket r claimed user => exact AtomicAt.map (atomicAt_createBucket r claimed user hcalm hspared) _
  | updateBucket id claimed change user =>
    exact AtomicAt.map (atomicAt_updateBucket id claimed change user hcalm hspared) _
  | createFlow r claimed user => exact AtomicAt.map (atomicAt_createFlow r claimed user hcalm hspared) _
  | updateFlow id claimed change user =>
    exact AtomicAt.map (atomicAt_updateFlow id claimed change user hcalm hspared) _
  | createSnapshot flowId claimed r user =>
    obtain ⟨hlets, hdsv, hdc, hfresh⟩ := hspared
    exact AtomicAt.map (atomicAt_createSnapshot flowId claimed r user hcalm hlets hdsv hdc hfresh) _
  | createBundle r claimed user => exact AtomicAt.map (atomicAt_createBundle r claimed user hcalm hspared) _
  | updateBundle id claimed description user =>
    exact AtomicAt.map (atomicAt_updateBundle id claimed description user hcalm hspared) _
  | addBundleVersion bundleId claimed version data user =>
    obtain ⟨hlets, hput, hdbv, hdc, hread, hfresh⟩ := hspared
    exact AtomicAt.map (atomicAt_addBundleVersion bundleId claimed version data user hcalm hlets hput hdbv hdc
      hread hfresh) _

end Mutation

/-- A change of the registry that fails, other than by a panic, leaves the revisions, every table
of the catalog and every stored blob as they were, when the registry has no flow queued to
appear, and the plan lets through the revision write after the change and the calls that clean
up after it, and does not make the read of a replaced version's content report it missing; a
new snapshot or version must also find no blob under its key. -/
theorem failed_mutation_keeps_stores (m : Mutation) (w : World) (hcalm : w.Calm)
    (hspared : m.Spared w) (err : RegistryError) (herr : (runWith m.run w).1 = .error err)
    (hpanic : err.isPanic = false) : (runWith m.run w).2.stores = w.stores :=
  m.atomicAt_run hcalm hspared err herr hpanic

theorem failed_change_keeps_stores :
    let b : Uuid := ⟨⟨0xb1, by decide⟩⟩
    let w : World := { (runWith (createBucket ⟨b, "Team", none, false, false⟩ ⟨"", 0, "c"⟩ "user")
        (World.fresh default ⟨0, 0, 0⟩)).2 with
      faults := FaultPlan.empty.plan ⟨.metadata, "update_bucket"⟩ ⟨some 1, .persistence "store down"⟩ }
    let m : Mutation := .updateBucket b ⟨b.text, 0, "c"⟩ ⟨none, some "shared", some true, none⟩ "user"
    w.Calm ∧ m.Spared w ∧ (runWith m.run w).1 = .error (.persistence "store down") ∧
      (runWith m.run w).2.stores = w.stores := by
  intro b w m
  have hcalm : w.Calm := fun q hq => by cases hq
  have hspared : m.Spared w := show w.Lets (World.revisionCall "put_revision") by decide +kernel
  have herr : (runWith m.run w).1 = .error (.persistence "store down") :=
    Outcome.eq_error_of_failsWith (by decide +kernel)
  exact ⟨hcalm, hspared, herr, failed_mutation_keeps_stores m w hcalm hspared _ herr rfl⟩

/-- When the revision of a new bucket cannot be registered, the creation fails and keeps the
record it inserted. -/
theorem failed_registration_keeps_bucket :
    let w : World := { World.fresh default ⟨0, 0, 0⟩ with
      faults := FaultPlan.empty.plan (World.revisionCall "create_revision")
        ⟨none, .persistence "store down"⟩ }
    let m : Mutation := .createBucket ⟨⟨⟨1, by decide⟩⟩, "b", none, false, false⟩ ⟨"", 0, "c"⟩ "user"
    w.Calm ∧ (runWith m.run w).1 = .error (.persistence "store down") ∧
      (runWith m.run w).2.stores ≠ w.stores := by
  intro w m
  refine ⟨fun q hq => (by cases hq), Outcome.eq_error_of_failsWith (by decide +kernel), fun h => ?_⟩
  have hbucket := congrArg (fun s => (s.2.1.fetchBucket ⟨⟨1, by decide⟩⟩).isSome) h
  revert hbucket
  decide +kernel

end Coordinator

end

end FlowRegistry