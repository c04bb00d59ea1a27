import FlowRegistry.Proofs.BucketPurge
import FlowRegistry.Proofs.ChildRetries

/-!
# What a delete of a bucket keeps, and how often it asks the catalog

A delete of the bucket `id` run from `w₀` can only touch the ids of the flows and bundles in the
bucket and of the flows queued to appear (`World.Touched`). While every child of the bucket and
every queued flow has an id in `T` (`World.Confined`), each of its calls changes nothing stored
under an id outside `T` other than the bucket's, and so does the whole delete, whatever it answers
(`FrameRel`, `World.SameOutside`).

The catalog's delete of a bucket is asked once a pass, so at most `bucketDeletePasses` times. With
no refusal of invalid input planned, every other call fails, if it fails, with another error; so a
delete that answers with a refusal of invalid input has made all its passes, and the refusal is the
catalog's, counting the children the bucket still holds (`BucketCount`).

`Coordinator.deleteBucket_cascades_and_spares_the_rest` puts these together with what a delete that
succeeds removes (`Coordinator.deleteBucket_purges`).
-/

namespace FlowRegistry

/-! ### The ids a delete of a bucket touches -/

namespace World

/-- The ids that a delete of the bucket `id` run from `w` may touch: those of the flows and bundles
in the bucket, and of the flows queued to appear in the catalog. -/
def Touched (w : World) (id x : Uuid) : Prop :=
  (∃ f ∈ w.catalog.flows, f.bucketIdentifier = id ∧ f.identifier = x) ∨
    (∃ b ∈ w.catalog.bundles, b.bucketIdentifier = id ∧ b.identifier = x) ∨
    ∃ f, w.faults.Queues f ∧ f.identifier = x

/-- Every flow and bundle in the bucket `id`, and every flow queued to appear, has an id in `T`. -/
structure Confined (w : World) (id : Uuid) (T : Uuid → Prop) : Prop where
  flows : ∀ f ∈ w.catalog.flows, f.bucketIdentifier = id → T f.identifier
  bundles : ∀ b ∈ w.catalog.bundles, b.bucketIdentifier = id → T b.identifier
  queued : ∀ f, w.faults.Queues f → T f.identifier

theorem confined_touched (w : World) (id : Uuid) : w.Confined id (w.Touched id) where
  flows f hf hb := .inl ⟨f, hf, hb, rfl⟩
  bundles b hb hbk := .inr (.inl ⟨b, hb, hbk, rfl⟩)
  queued f hq := .inr (.inr ⟨f, hq, rfl⟩)

/-- From `w` to `w'` nothing changed under an id outside `T`: no revision but the bucket's, no
blob, no snapshot or version record, and no record of a flow, a bundle or another bucket. -/
structure SameOutside (w : World) (id : Uuid) (T : Uuid → Prop) (w' : World) : Prop where
  revisions : ∀ e, e ≠ id.text → (∀ x, T x → e ≠ x.text) → w'.revisions.get? e = w.revisions.get? e
  content : ∀ e v, (∀ x, T x → e ≠ x.text) → w'.content.blob? e v = w.content.blob? e v
  snapshots : ∀ x, ¬T x → w'.catalog.listSnapshots x = w.catalog.listSnapshots x
  versions : ∀ x, ¬T x → w'.catalog.listBundleVersions x = w.catalog.listBundleVersions x
  flows : ∀ x, ¬T x → w'.catalog.fetchFlow x = w.catalog.fetchFlow x
  bundles : ∀ x, ¬T x → w'.catalog.fetchBundle x = w.catalog.fetchBundle x
  buckets : ∀ x, x ≠ id → w'.catalog.fetchBucket x = w.catalog.fetchBucket x

variable {w w₁ w₂ w' : World} {id : Uuid} {T : Uuid → Prop}

namespace SameOutside

protected theorem refl (w : World) (id : Uuid) (T : Uuid → Prop) : w.SameOutside id T w :=
  ⟨fun _ _ _ => rfl, fun _ _ _ => rfl, fun _ _ => rfl, fun _ _ => rfl, fun _ _ => rfl,
    fun _ _ => rfl, fun _ _ => rfl⟩

protected theorem trans (h₁ : w.SameOutside id T w₁) (h₂ : w₁.SameOutside id T w₂) :
    w.SameOutside id T w₂ where
  revisions e he hT := (h₂.revisions e he hT).trans (h₁.revisions e he hT)
  content e v hT := (h₂.content e v hT).trans (h₁.content e v hT)
  snapshots x hx := (h₂.snapshots x hx).trans (h₁.snapshots x hx)
  versions x hx := (h₂.versions x hx).trans (h₁.versions x hx)
  flows x hx := (h₂.flows x hx).trans (h₁.flows x hx)
  bundles x hx := (h₂.bundles x hx).trans (h₁.bundles x hx)
  buckets x hx := (h₂.buckets x hx).trans (h₁.buckets x hx)

end SameOutside

end World

/-! ### Runs that spare the ids outside -/

/-- From a registry confined to `T`, a run leaves one confined to `T` and the same under every id
outside `T`. -/
def FrameRel (id : Uuid) (T : Uuid → Prop) : RunRel := fun w _ w' =>
  w.Confined id T → w'.Confined id T ∧ w.SameOutside id T w'

namespace FrameRel

variable {w w' : World} {id : Uuid} {T : Uuid → Prop} {o : Option RegistryError}

theorem composes (id : Uuid) (T : Uuid → Prop) : Composes (FrameRel id T) where
  refl w hc := ⟨hc, .refl w id T⟩
  trans h₁ h₂ hc := ⟨(h₂ (h₁ hc).1).1, (h₁ hc).2.trans (h₂ (h₁ hc).1).2⟩

/-- A change of the revisions and the blobs under the bucket's id or an id in `T`. -/
theorem of_stores (hcat : w'.catalog = w.catalog) (hq : w'.faults.queued = w.faults.queued)
    (hrev : ∀ e, e ≠ id.text → (∀ x, T x → e ≠ x.text) → w'.revisions.get? e = w.revisions.get? e)
    (hcontent : ∀ e v, (∀ x, T x → e ≠ x.text) → w'.content.blob? e v = w.content.blob? e v) :
    FrameRel id T w o w' := fun hc =>
  ⟨⟨fun f hf hb => hc.flows f (hcat ▸ hf) hb, fun b hb hbk => hc.bundles b (hcat ▸ hb) hbk,
      fun f hf => hc.queued f (by unfold FaultPlan.Queues at hf ⊢; rw [← hq]; exact hf)⟩,
    ⟨hrev, hcontent, fun x _ => by rw [hcat], fun x _ => by rw [hcat], fun x _ => by rw [hcat],
      fun x _ => by rw [hcat], fun x _ => by rw [hcat]⟩⟩

/-- A change of the catalog that adds no flow or bundle and keeps every record outside `T` and
every other bucket. -/
theorem of_catalog {c : Catalog} (hflows : ∀ f ∈ c.flows, f ∈ w.catalog.flows)
    (hbundles : ∀ b ∈ c.bundles, b ∈ w.catalog.bundles)
    (houtside : ∀ x, ¬T x → c.listSnapshots x = w.catalog.listSnapshots x ∧
      c.listBundleVersions x = w.catalog.listBundleVersions x ∧ c.fetchFlow x = w.catalog.fetchFlow x ∧
      c.fetchBundle x = w.catalog.fetchBundle x)
    (hbuckets : ∀ x, x ≠ id → c.fetchBucket x = w.catalog.fetchBucket x) :
    FrameRel id T w o { w with catalog := c } := fun hc =>
  ⟨⟨fun f hf hb => hc.flows f (hflows f hf) hb, fun b hb hbk => hc.bundles b (hbundles b hb) hbk,
      hc.queued⟩,
    ⟨fun _ _ _ => rfl, fun _ _ _ => rfl, fun x hx => (houtside x hx).1, fun x hx => (houtside x hx).2.1,
      fun x hx => (houtside x hx).2.2.1, fun x hx => (houtside x hx).2.2.2, hbuckets⟩⟩

theorem pass (w : World) (c : Call) : FrameRel id T w o (w.pass c) :=
  of_stores rfl (World.pass_queued w c) (fun _ _ _ => rfl) fun _ _ _ => rfl

/-- A flow taken off its queue has an id in `T`, so inserting it changes no record outside. -/
theorem dequeue (m : String) : World.DequeueRel (FrameRel id T) m := fun w f hf => by
  have hTf : w.Confined id T → T f.identifier := fun hc => hc.queued f (FaultPlan.queues_of_dequeue hf)
  refine ⟨fun c hins hc => ?_, fun e _ hc => ?_⟩
  · have hnew : ∀ x, f.identifier ≠ x → c.fetchFlow x = w.catalog.fetchFlow x :=
      fun _ hx => Catalog.fetchFlow_insertFlow hins hx
    obtain ⟨-, rfl⟩ := Catalog.insertFlow_eq_ok hins
    refine ⟨⟨fun g hg hb => ?_, hc.bundles,
      fun g hg => hc.queued g (FaultPlan.Queues.of_dequeue hg)⟩, ?_⟩
    · rcases mem_of_mem_insertById hg with rfl | hg
      · exact hTf hc
      · exact hc.flows g hg hb
    · exact ⟨fun _ _ _ => rfl, fun _ _ _ => rfl, fun _ _ => rfl, fun _ _ => rfl,
        fun x hx => hnew x fun hfx => hx (hfx ▸ hTf hc), fun _ _ => rfl, fun _ _ => rfl⟩
  · exact ⟨⟨hc.flows, hc.bundles, fun g hg => hc.queued g (FaultPlan.Queues.of_dequeue hg)⟩,
      ⟨fun _ _ _ => rfl, fun _ _ _ => rfl, fun _ _ => rfl, fun _ _ => rfl, fun _ _ => rfl,
        fun _ _ => rfl, fun _ _ => rfl⟩⟩

/-- The relation ignores the error, so a run resumes after any. -/
theorem resumes (e : RegistryError) : Resumes (FrameRel id T) e :=
  fun h₁ h₂ => (composes id T).trans h₁ h₂

theorem purgeSteps (id : Uuid) (T : Uuid → Prop) : PurgeSteps (FrameRel id T) where
  composes := composes id T
  pass c _ w := pass w c
  passOk c _ w := pass w c
  stays _ _ w := (composes id T).refl w
  resumes _ _ _ := resumes _
  dequeue m _ := dequeue m

/-! #### The changes made to one child, whose id is in `T` -/

variable {x : Uuid}

theorem dropRevision (hx : T x) (w : World) :
    FrameRel id T w o { w with revisions := (w.revisions.delete x.text).1 } :=
  of_stores rfl rfl (fun e _ hT => by rw [RevisionTable.get?_delete, if_neg (hT x hx)])
    fun _ _ _ => rfl

theorem dropOwnRevision (w : World) :
    FrameRel id T w o { w with revisions := (w.revisions.delete id.text).1 } :=
  of_stores rfl rfl (fun e he _ => by rw [RevisionTable.get?_delete, if_neg he]) fun _ _ _ => rfl

theorem without (hx : T x) (w : World) : FrameRel id T w o { w with content := w.content.without x.text } :=
  of_stores rfl rfl (fun _ _ _ => rfl)
    fun e v hT => by rw [ContentStore.blob?_without, if_neg (hT x hx)]

theorem ne_of_not (hx : T x) {y : Uuid} (hy : ¬T y) : y ≠ x := fun h => hy (h ▸ hx)

theorem deleteSnapshots (hx : T x) (w : World) :
    FrameRel id T w o { w with catalog := (w.catalog.deleteSnapshots x).2 } :=
  of_catalog (fun _ h => h) (fun _ h => h)
    (fun y hy => ⟨by rw [Catalog.listSnapshots_deleteSnapshots, if_neg (ne_of_not hx hy)], rfl, rfl, rfl⟩)
    fun _ _ => rfl

theorem deleteBundleVersions (hx : T x) (w : World) :
    FrameRel id T w o { w with catalog := (w.catalog.deleteBundleVersions x).2 } :=
  of_catalog (fun _ h => h) (fun _ h => h)
    (fun y hy => ⟨rfl, by rw [Catalog.listBundleVersions_deleteBundleVersions,
      if_neg (ne_of_not hx hy)], rfl, rfl⟩)
    fun _ _ => rfl

theorem deleteFlow (hx : T x) (w : World) :
    FrameRel id T w o { w with catalog := (w.catalog.deleteFlow x).2 } :=
  of_catalog (fun _ h => (List.mem_filter.1 h).1) (fun _ h => h)
    (fun _ hy => ⟨rfl, rfl, Catalog.fetchFlow_deleteFlow (ne_of_not hx hy), rfl⟩) fun _ _ => rfl

theorem deleteBundle (hx : T x) (w : World) :
    FrameRel id T w o { w with catalog := (w.catalog.deleteBundle x).2 } :=
  of_catalog (fun _ h => h) (fun _ h => (List.mem_filter.1 h).1)
    (fun _ hy => ⟨rfl, rfl, rfl, Catalog.fetchBundle_deleteBundle (ne_of_not hx hy)⟩) fun _ _ => rfl

end FrameRel

namespace Coordinator

variable {α β : Type} {id : Uuid} {T : Uuid → Prop}

/-- A read of the catalog answers what its function gives of the catalog it ends with. -/
theorem answer_readCatalog {m : String} {f : Catalog → α} {w w₁ : World} {a : α}
    (h : runWith (World.readCatalog m f) w = (.ok a, w₁)) : a = f w₁.catalog := by
  have hpost := (Triple.readCatalog (Q := fun a w => a = f w.catalog) (Admits.const True)
    (fun _ _ => rfl) fun _ _ => trivial).answers trivial (by rw [h])
  rw [h] at hpost
  exact hpost

/-- A read of the catalog, and what follows knowing that what it read is confined to `T`. -/
theorem relates_frame_readCatalog_bind {m : String} (hm : m ≠ "delete_bucket") {f : Catalog → α}
    {g : α → Registry β} (hg : ∀ w : World, w.Confined id T → Relates (FrameRel id T) (g (f w.catalog))) :
    Relates (FrameRel id T) (World.readCatalog m f >>= g) :=
  ((FrameRel.purgeSteps id T).readCatalog hm f).bind_ok (FrameRel.composes id T)
    fun _ _ w₁ hr hc => by
      rw [answer_readCatalog hr]
      exact hg w₁ hc w₁ hc

/-- The purge deletes the children it lists, whose ids are in `T`. -/
theorem relates_frame_purgeChildren (id : Uuid) (T : Uuid → Prop) :
    Relates (FrameRel id T) (purgeChildren id) := by
  have S := FrameRel.purgeSteps id T
  unfold purgeChildren
  refine relates_frame_readCatalog_bind (by decide) fun w hc => ?_
  refine (Relates.forM S.composes _ fun f hf => ?_).bind S.composes fun _ =>
    relates_frame_readCatalog_bind (by decide) fun (w' : World) (hc' : w'.Confined id T) =>
      Relates.forM S.composes _ fun b hb => ?_
  · obtain ⟨hf, hbk⟩ := Catalog.mem_listFlows.1 hf
    have hx := hc.flows f hf hbk
    exact relates_flowChild S (FrameRel.dropRevision hx) (FrameRel.without hx)
      (FrameRel.deleteSnapshots hx) (FrameRel.deleteFlow hx)
  · obtain ⟨hb, hbk⟩ := Catalog.mem_listBundles.1 hb
    have hx := hc'.bundles b hb hbk
    exact relates_bundleChild S (FrameRel.dropRevision hx) (FrameRel.without hx)
      (FrameRel.deleteBundleVersions hx) (FrameRel.deleteBundle hx)

theorem relates_frame_deleteBucketCall (id : Uuid) (T : Uuid → Prop) :
    Relates (FrameRel id T) (World.deleteBucket id) :=
  World.relates_deleteBucket (FrameRel.composes id T) (fun w => FrameRel.pass w _)
    (FrameRel.dequeue _)
    (fun w _ _ h => by
      rw [Catalog.deleteBucket_eq h]
      exact FrameRel.of_catalog (fun _ h => h) (fun _ h => h) (fun _ _ => ⟨rfl, rfl, rfl, rfl⟩)
        fun y hy => find?_filter_of_ne hy _)
    fun w _ _ => (FrameRel.composes id T).refl w

/-- A delete of a bucket, run from a registry confined to `T`, changes nothing under an id
outside `T` but the bucket's revision and record, whatever it answers. -/
theorem relates_frame_deleteBucket (id : Uuid) (T : Uuid → Prop) (claimed : Revision) :
    Relates (FrameRel id T) (deleteBucket id claimed) :=
  have S := FrameRel.purgeSteps id T
  relates_deleteBucket_of_purge S FrameRel.dropOwnRevision
    (relates_purgeBucketWithin S (relates_frame_purgeChildren id T) (relates_frame_deleteBucketCall id T)
      fun _ => FrameRel.resumes _) claimed

end Coordinator

/-! ### How often the catalog is asked to delete the bucket -/

namespace FaultPlan

/-- No failure is planned with a refusal of invalid input. -/
def PlansNoInvalidInput (p : FaultPlan) : Prop :=
  ∀ cf ∈ p.failures, cf.2.error.isInvalidInput = false

theorem count_tally (p : FaultPlan) (c c' : Call) :
    (p.tally c).count c' = if c' = c then p.count c + 1 else p.count c' := by
  unfold tally count
  by_cases h : c' = c
  · subst h
    simp
  · have hfind : (p.counts.filter (·.1 != c)).find? (·.1 == c') = p.counts.find? (·.1 == c') := by
      rw [List.find?_filter]
      congr 1
      funext a
      by_cases ha : a.1 = c' <;> simp [ha, h]
    simp [h, Ne.symm h, hfind]

theorem counts_next (p : FaultPlan) (c : Call) : (p.next c).2.counts = p.counts := by
  unfold next
  split
  · rfl
  · split <;> rfl

theorem dequeue_counts (p : FaultPlan) (m : String) : (p.dequeue m).2.counts = p.counts := by
  unfold dequeue
  split <;> rfl

/-- A call through the plan plans no refusal of invalid input where there was none, and meets
none. -/
theorem plansNoInvalidInput_next {p : FaultPlan} (h : p.PlansNoInvalidInput) (c : Call) :
    (p.next c).2.PlansNoInvalidInput ∧ ∀ e, (p.next c).1 = some e → e.isInvalidInput = false := by
  unfold next
  split
  · exact ⟨h, fun _ he => by cases he⟩
  · next c' f hfind =>
    have hf := h _ (List.mem_of_find?_eq_some hfind)
    have hkept : ∀ cf ∈ p.failures.filter (·.1 != c), cf.2.error.isInvalidInput = false :=
      fun cf hcf => h cf (List.mem_filter.1 hcf).1
    split
    · exact ⟨h, fun _ he => by cases he; exact hf⟩
    · exact ⟨hkept, fun _ he => by cases he⟩
    · refine ⟨fun cf hcf => ?_, fun _ he => by cases he; exact hf⟩
      rcases List.mem_cons.1 hcf with rfl | hother
      · exact hf
      · exact hkept cf hother

end FaultPlan

theorem RegistryError.isInvalidInput_of_refusesFlow {e : RegistryError} (h : e.refusesFlow = true) :
    e.isInvalidInput = false := by
  cases e <;> first | rfl | cases h

namespace World

theorem count_pass (w : World) (c c' : Call) :
    (w.pass c).faults.count c' = if c' = c then w.faults.count c + 1 else w.faults.count c' := by
  simp only [pass, planned, FaultPlan.count, FaultPlan.counts_next]
  exact FaultPlan.count_tally _ c c'

end World

/-- A run that leaves the count of the catalog's deletes of a bucket as it was, and, when no
refusal of invalid input is planned, plans none and fails with none. -/
def CountRel : RunRel := fun w o w' =>
  w'.faults.count ⟨.metadata, "delete_bucket"⟩ = w.faults.count ⟨.metadata, "delete_bucket"⟩ ∧
    (w.faults.PlansNoInvalidInput →
      w'.faults.PlansNoInvalidInput ∧ ∀ e, o = some e → e.isInvalidInput = false)

namespace CountRel

theorem composes : Composes CountRel where
  refl _ := ⟨rfl, fun h => ⟨h, fun _ he => by cases he⟩⟩
  trans h₁ h₂ := ⟨h₂.1.trans h₁.1, fun h => h₂.2 (h₁.2 h).1⟩

/-- A change that keeps the plan. -/
theorem of_faults {w w' : World} (hf : w'.faults = w.faults) : CountRel w none w' := by
  refine ⟨by rw [hf], fun h => ⟨?_, fun _ he => by cases he⟩⟩
  unfold FaultPlan.PlansNoInvalidInput
  rw [hf]
  exact h

theorem pass {c : Call} (hc : c ≠ ⟨.metadata, "delete_bucket"⟩) (w : World) :
    CountRel w (w.planned c).1 (w.pass c) :=
  ⟨by rw [World.count_pass, if_neg (Ne.symm hc)],
    fun h => FaultPlan.plansNoInvalidInput_next (p := w.faults.tally c) h c⟩

/-- Taking a flow off its queue keeps the counts and the planned failures. -/
theorem dequeue_plan (w : World) (m : String) :
    (w.faults.dequeue m).2.count ⟨.metadata, "delete_bucket"⟩ =
        w.faults.count ⟨.metadata, "delete_bucket"⟩ ∧
      (w.faults.PlansNoInvalidInput → (w.faults.dequeue m).2.PlansNoInvalidInput) := by
  refine ⟨by simp only [FaultPlan.count, FaultPlan.dequeue_counts], fun h => ?_⟩
  unfold FaultPlan.PlansNoInvalidInput
  rw [FaultPlan.dequeue_failures]
  exact h

theorem dequeue (m : String) : World.DequeueRel CountRel m := fun w _ _ =>
  ⟨fun _ _ => ⟨(dequeue_plan w m).1, fun h => ⟨(dequeue_plan w m).2 h, fun _ he => by cases he⟩⟩,
    fun e he => ⟨(dequeue_plan w m).1, fun h => ⟨(dequeue_plan w m).2 h, fun _ he' => by
      cases he'
      exact RegistryError.isInvalidInput_of_refusesFlow (Catalog.refusesFlow_of_insertFlow he)⟩⟩⟩

theorem purgeSteps : PurgeSteps CountRel where
  composes := composes
  pass c hc w := pass hc w
  passOk c hc w := ⟨(pass hc w).1, fun h => ⟨((pass hc w).2 h).1, fun _ he => by cases he⟩⟩
  stays e he _ := ⟨rfl, fun h => ⟨h, fun _ he' => by cases he'; exact he⟩⟩
  resumes _ _ _ := fun h₁ h₂ => ⟨h₂.1.trans h₁.1, fun h => h₂.2 (h₁.2 h).1⟩
  dequeue m _ := dequeue m

end CountRel

/-- What a purge of the bucket `id` in at most `k` passes did to the count of the catalog's deletes
of a bucket: it added at most `k`; and, with no refusal of invalid input planned, it plans none,
and it fails with one only having added `k`, as the catalog refuses to delete the bucket in the
registry it leaves. -/
def BucketCount (id : Uuid) (k : Nat) : RunRel := fun w o w' =>
  w'.faults.count ⟨.metadata, "delete_bucket"⟩ ≤ w.faults.count ⟨.metadata, "delete_bucket"⟩ + k ∧
    (w.faults.PlansNoInvalidInput → w'.faults.PlansNoInvalidInput ∧
      ∀ e, o = some e → e.isInvalidInput = true →
        w'.faults.count ⟨.metadata, "delete_bucket"⟩ = w.faults.count ⟨.metadata, "delete_bucket"⟩ + k ∧
          w'.catalog.deleteBucket id = .error e)

namespace BucketCount

variable {id : Uuid} {k n : Nat} {w w₁ w₂ : World} {o : Option RegistryError}

theorem of_count (h : CountRel w o w₁) : BucketCount id k w o w₁ := by
  have hc := h.1
  refine ⟨by omega, fun hp => ⟨(h.2 hp).1, fun e he hi => ?_⟩⟩
  rw [(h.2 hp).2 e he] at hi
  cases hi

theorem after_count (h₁ : CountRel w none w₁) (h₂ : BucketCount id k w₁ o w₂) :
    BucketCount id k w o w₂ := by
  have hc := h₁.1
  have hle := h₂.1
  refine ⟨by omega, fun hp => ?_⟩
  obtain ⟨hp₂, hinv⟩ := h₂.2 (h₁.2 hp).1
  refine ⟨hp₂, fun e he hi => ?_⟩
  obtain ⟨hcount, hrefuse⟩ := hinv e he hi
  exact ⟨by omega, hrefuse⟩

theorem then_count (h₁ : BucketCount id k w none w₁) (h₂ : CountRel w₁ o w₂) :
    BucketCount id k w o w₂ := by
  have hc := h₂.1
  have hle := h₁.1
  refine ⟨by omega, fun hp => ?_⟩
  obtain ⟨hp₂, hno⟩ := h₂.2 (h₁.2 hp).1
  refine ⟨hp₂, fun e he hi => ?_⟩
  rw [hno e he] at hi
  cases hi

/-- A run that fails with no refusal of invalid input stays within any larger count. -/
theorem mono (h : BucketCount id k w o w₁) (hk : k ≤ n)
    (ho : ∀ e, o = some e → e.isInvalidInput = false) : BucketCount id n w o w₁ := by
  have hle := h.1
  refine ⟨by omega, fun hp => ⟨(h.2 hp).1, fun e he hi => ?_⟩⟩
  rw [ho e he] at hi
  cases hi

/-- A pass whose delete of the bucket was refused, then `n` passes more. -/
theorem after_refusal {e : RegistryError} (h₁ : BucketCount id 1 w (some e) w₁)
    (he : e.isInvalidInput = true) (h₂ : BucketCount id n w₁ o w₂) : BucketCount id (n + 1) w o w₂ := by
  have hle₁ := h₁.1
  have hle₂ := h₂.1
  refine ⟨by omega, fun hp => ?_⟩
  obtain ⟨hp₁, hinv₁⟩ := h₁.2 hp
  obtain ⟨hcount₁, -⟩ := hinv₁ e rfl he
  obtain ⟨hp₂, hinv₂⟩ := h₂.2 hp₁
  refine ⟨hp₂, fun e' he' hi => ?_⟩
  obtain ⟨hcount₂, hrefuse⟩ := hinv₂ e' he' hi
  exact ⟨by omega, hrefuse⟩

end BucketCount

/-- Entering the catalog's delete of a bucket: the call is counted when it reaches the catalog, and
it meets no refusal of invalid input unless one is planned. -/
def EnterCount : RunRel := fun w o w' =>
  w'.faults.count ⟨.metadata, "delete_bucket"⟩ ≤ w.faults.count ⟨.metadata, "delete_bucket"⟩ + 1 ∧
    (o = none →
      w'.faults.count ⟨.metadata, "delete_bucket"⟩ = w.faults.count ⟨.metadata, "delete_bucket"⟩ + 1) ∧
    (w.faults.PlansNoInvalidInput →
      w'.faults.PlansNoInvalidInput ∧ ∀ e, o = some e → e.isInvalidInput = false)

/-- The call through the plan, from a registry whose plan counts and fails as that of `w`. -/
theorem enterCount_guard {w w₁ : World}
    (hc : w₁.faults.count ⟨.metadata, "delete_bucket"⟩ = w.faults.count ⟨.metadata, "delete_bucket"⟩)
    (hf : w₁.faults.failures = w.faults.failures) :
    EnterCount w (Outcome.failure (runWith (World.guard ⟨.metadata, "delete_bucket"⟩) w₁).1)
      (runWith (World.guard ⟨.metadata, "delete_bucket"⟩) w₁).2 := by
  have hcount := World.count_pass w₁ ⟨.metadata, "delete_bucket"⟩ ⟨.metadata, "delete_bucket"⟩
  rw [if_pos rfl] at hcount
  rw [World.runWith_guard]
  dsimp only
  refine ⟨by omega, fun _ => by omega, fun hp => ?_⟩
  have hp₁ : (w₁.faults.tally ⟨.metadata, "delete_bucket"⟩).PlansNoInvalidInput := by
    unfold FaultPlan.PlansNoInvalidInput
    rw [show (w₁.faults.tally ⟨.metadata, "delete_bucket"⟩).failures = w₁.faults.failures from rfl, hf]
    exact hp
  obtain ⟨hnext, hplanned⟩ := FaultPlan.plansNoInvalidInput_next hp₁ ⟨.metadata, "delete_bucket"⟩
  refine ⟨hnext, fun e he => hplanned e ?_⟩
  rcases hq : (w₁.planned ⟨.metadata, "delete_bucket"⟩).1 with _ | e' <;> rw [hq] at he
  · cases he
  · cases he
    exact hq

theorem relates_enterCount : Relates EnterCount (World.enterMetadata "delete_bucket") := fun w => by
  have hsame := CountRel.dequeue_plan w "delete_bucket"
  rw [World.runWith_enterMetadata_eq]
  split
  · next hf =>
    rw [World.dequeue_of_none hf]
    exact enterCount_guard rfl rfl
  · split
    · exact enterCount_guard hsame.1 (FaultPlan.dequeue_failures _ _)
    · next e he =>
      refine ⟨by dsimp only; omega, fun h => (Option.some_ne_none e h).elim,
        fun hp => ⟨hsame.2 hp, fun e' he' => ?_⟩⟩
      cases he'
      exact RegistryError.isInvalidInput_of_refusesFlow (Catalog.refusesFlow_of_insertFlow he)

/-- One call of the catalog's delete of a bucket counts once, and refuses with invalid input,
unless one is planned, only as the catalog refuses in the registry it leaves. -/
theorem bucketCount_deleteBucketCall (id : Uuid) : Relates (BucketCount id 1) (World.deleteBucket id) :=
  Relates.bind' (S := fun w₁ o w₂ => w₂.faults = w₁.faults ∧
      ∀ e, o = some e → w₂.catalog.deleteBucket id = .error e)
    relates_enterCount
    (fun _ w₁ => by
      rcases h : w₁.catalog.deleteBucket id with e | ⟨existed, c⟩
      · simp [runWith_bind, runWith_get, runWith_lift, h]
      · simp [runWith_bind, runWith_get, runWith_lift, runWith_modify, h])
    (fun h => ⟨h.1, fun hp => ⟨(h.2.2 hp).1, fun e he hi => by
      rw [(h.2.2 hp).2 e he] at hi
      cases hi⟩⟩)
    fun h₁ h₂ => by
      have hcount := h₁.2.1 rfl
      have hfaults := h₂.1
      refine ⟨by rw [hfaults]; omega, fun hp => ⟨?_, fun e he _ => ⟨by rw [hfaults]; exact hcount,
        h₂.2 e he⟩⟩⟩
      unfold FaultPlan.PlansNoInvalidInput
      rw [hfaults]
      exact (h₁.2.2 hp).1

namespace Coordinator

theorem relates_count_purgeChildren (id : Uuid) : Relates CountRel (purgeChildren id) :=
  have S := CountRel.purgeSteps
  relates_purgeChildren S id
    (fun _ => relates_flowChild S (fun _ => CountRel.of_faults rfl) (fun _ => CountRel.of_faults rfl)
      (fun _ => CountRel.of_faults rfl) fun _ => CountRel.of_faults rfl)
    fun _ => relates_bundleChild S (fun _ => CountRel.of_faults rfl) (fun _ => CountRel.of_faults rfl)
      (fun _ => CountRel.of_faults rfl) fun _ => CountRel.of_faults rfl

/-- Each pass of the purge asks the catalog once to delete the bucket. The induction is on the
passes left: a refusal of invalid input on a pass with passes left goes on to them. -/
theorem bucketCount_purgeBucketWithin (id : Uuid) :
    ∀ n, Relates (BucketCount id n) (purgeBucketWithin id n)
  | 0 => fun w => BucketCount.of_count (CountRel.composes.refl w)
  | n + 1 => Relates.bind' (relates_count_purgeChildren id) (fun _ w => by
      have h := ((bucketCount_deleteBucketCall id).bind' (fun _ => Relates.pure' CountRel.composes ())
        (fun h => h) BucketCount.then_count) w
      rw [runWith_tryCatch]
      rcases hr : runWith (World.deleteBucket id >>= fun _ => pure ()) w with ⟨e | u, w₁⟩ <;>
        rw [hr] at h
      · cases e with
        | invalidInput t =>
          dsimp only
          split
          · next hn => exact h.after_refusal rfl (bucketCount_purgeBucketWithin id n w₁)
          · next hn =>
            obtain rfl : n = 0 := by omega
            exact h
        | _ => exact h.mono (by omega) fun _ he => by cases he; rfl
      · exact h.mono (by omega) fun _ he => by cases he)
    BucketCount.of_count BucketCount.after_count

/-- A delete of a bucket asks the catalog to delete it at most once a pass. -/
theorem bucketCount_deleteBucket (id : Uuid) (claimed : Revision) :
    Relates (BucketCount id bucketDeletePasses) (deleteBucket id claimed) := by
  have S := CountRel.purgeSteps
  have hdeletion : Relates (BucketCount id bucketDeletePasses)
      (do let b ← World.fetchBucket id; purgeBucket id; pure b) :=
    (S.readCatalog (by decide) _).bind' (fun b => (bucketCount_purgeBucketWithin id _).bind'
      (fun _ => Relates.pure' S.composes b) (fun h => h) BucketCount.then_count)
      BucketCount.of_count BucketCount.after_count
  unfold deleteBucket
  rw [Manager.deleteWith_eq]
  exact (Manager.relates_checkEntity S _ claimed).bind' (fun _ =>
    (Manager.relates_verifyLocked S _ claimed).bind' (fun _ =>
      hdeletion.bind' (fun a => (S.deleteRevision fun _ => CountRel.of_faults rfl).bind S.composes
        fun _ => Relates.pure' S.composes a) (fun h => h) BucketCount.then_count)
      BucketCount.of_count BucketCount.after_count)
    BucketCount.of_count BucketCount.after_count

end Coordinator

/-- The catalog refuses to delete a bucket only while it holds children, and says how many. -/
theorem Catalog.deleteBucket_eq_error {c : Catalog} {id : Uuid} {e : RegistryError}
    (h : c.deleteBucket id = .error e) :
    ∃ nf nb, (c.listFlows id).length = nf ∧ (c.listBundles id).length = nb ∧ 0 < nf + nb ∧
      e = .invalidInput s!"bucket {id.text} still holds {nf} flows and {nb} bundles" := by
  unfold Catalog.deleteBucket at h
  dsimp only at h
  split at h
  · next hpos =>
    cases h
    exact ⟨_, _, by simp [Catalog.listFlows, List.length_mergeSort],
      by simp [Catalog.listBundles, List.length_mergeSort], hpos, rfl⟩
  · cases h

/-! ### The delete of a bucket -/

namespace Coordinator

/-- A delete of a bucket cascades to its children and spares the rest. Whatever the plan makes its
calls meet, and whatever flows it makes appear on the way, a delete of the bucket `id` run from `w`

* when it succeeds, leaves the bucket with no record, revision or child, and nothing stored under
  the id of a flow or bundle the bucket had, nor under that of a flow queued to appear in it unless
  the flow is still queued;
* whatever it answers, changes nothing stored under an id that is neither the bucket's nor that of
  a child of the bucket or of a queued flow: no revision but the bucket's, no blob, no snapshot or
  version record, and no record of a flow, a bundle or another bucket; so the blobs stored under the
  bucket's own id stay;
* asks the catalog to delete the bucket at most `bucketDeletePasses` times;
* and, with no refusal of invalid input planned, answers with one only after asking that many times,
  as the catalog's refusal counting the flows and bundles the bucket still holds. -/
theorem deleteBucket_cascades_and_spares_the_rest (id : Uuid) (claimed : Revision) (w : World)
    (hkeys : w.faults.KeysApart) :
    ((∃ b, (runWith (deleteBucket id claimed) w).1 = .ok b) →
        (runWith (deleteBucket id claimed) w).2.BucketPurged w id) ∧
      w.SameOutside id (w.Touched id) (runWith (deleteBucket id claimed) w).2 ∧
      (runWith (deleteBucket id claimed) w).2.faults.count ⟨.metadata, "delete_bucket"⟩ ≤
        w.faults.count ⟨.metadata, "delete_bucket"⟩ + bucketDeletePasses ∧
      (w.faults.PlansNoInvalidInput → ∀ t,
        (runWith (deleteBucket id claimed) w).1 = .error (.invalidInput t) →
          (runWith (deleteBucket id claimed) w).2.faults.count ⟨.metadata, "delete_bucket"⟩ =
              w.faults.count ⟨.metadata, "delete_bucket"⟩ + bucketDeletePasses ∧
            ∃ nf nb, ((runWith (deleteBucket id claimed) w).2.catalog.listFlows id).length = nf ∧
              ((runWith (deleteBucket id claimed) w).2.catalog.listBundles id).length = nb ∧
              0 < nf + nb ∧ t = s!"bucket {id.text} still holds {nf} flows and {nb} bundles") := by
  have hcount := bucketCount_deleteBucket id claimed w
  refine ⟨fun ⟨b, hb⟩ => deleteBucket_purges hkeys (Prod.ext hb rfl),
    (relates_frame_deleteBucket id (w.Touched id) claimed w (World.confined_touched w id)).2,
    hcount.1, fun hp t ht => ?_⟩
  obtain ⟨hexact, hrefuse⟩ := (hcount.2 hp).2 (.invalidInput t) (by rw [ht]; rfl) rfl
  obtain ⟨nf, nb, hnf, hnb, hpos, hmsg⟩ := Catalog.deleteBucket_eq_error hrefuse
  exact ⟨hexact, nf, nb, hnf, hnb, hpos, RegistryError.invalidInput.inj hmsg⟩

/-- A bucket holding two flows and a bundle, beside another bucket with a flow of its own, and
nothing queued to appear. -/
theorem deleteBucket_cascades_of_bucket_with_children :
    let t : Time.Instant := ⟨0, 0, 0⟩
    let b : Uuid := ⟨⟨0xb1, by decide⟩⟩
    let other : Uuid := ⟨⟨0xb2, by decide⟩⟩
    let w := (runWith (do
      let _ ← createBucket ⟨b, "Team", none, false, false⟩ ⟨"", 0, "c"⟩ "user"
      let _ ← createBucket ⟨other, "Ops", none, false, false⟩ ⟨"", 0, "c"⟩ "user"
      let _ ← createFlow ⟨⟨⟨0xf1, by decide⟩⟩, b, "ingest", none⟩ ⟨"", 0, "c"⟩ "user"
      let _ ← createFlow ⟨⟨⟨0xf2, by decide⟩⟩, b, "export", none⟩ ⟨"", 0, "c"⟩ "user"
      let _ ← createBundle ⟨⟨⟨0xa1, by decide⟩⟩, b, .nifiNar, "org.x", "nar", none⟩
        ⟨"", 0, "c"⟩ "user"
      createFlow ⟨⟨⟨0xf3, by decide⟩⟩, other, "kept", none⟩ ⟨"", 0, "c"⟩ "user")
      (World.fresh default t)).2
    let w' := (runWith (deleteBucket b ⟨b.text, 0, "c1"⟩) w).2
    w.faults.KeysApart ∧ w.catalog.flows.map (·.bucketIdentifier) = [b, b, other] ∧
      w.catalog.bundles.map (·.bucketIdentifier) = [b] ∧
      ((∃ r, (runWith (deleteBucket b ⟨b.text, 0, "c1"⟩) w).1 = .ok r) → w'.BucketPurged w b) ∧
      w.SameOutside b (w.Touched b) w' ∧
      w'.faults.count ⟨.metadata, "delete_bucket"⟩ ≤
        w.faults.count ⟨.metadata, "delete_bucket"⟩ + bucketDeletePasses := by
  intro t b other w w'
  have hkeys : w.faults.KeysApart := by
    unfold FaultPlan.KeysApart
    decide +kernel
  have ⟨purged, spared, count, _⟩ :=
    deleteBucket_cascades_and_spares_the_rest b ⟨b.text, 0, "c1"⟩ w hkeys
  exact ⟨hkeys, by decide +kernel, by decide +kernel, purged, spared, count⟩

/-- The blobs saved under the id of a bucket outlive the bucket's delete, which removes the blobs
of its flows and bundles only. -/
theorem bucket_delete_keeps_content_under_its_id :
    let t : Time.Instant := ⟨0, 0, 0⟩
    let b : Uuid := ⟨⟨0xb1, by decide⟩⟩
    let w₁ := (runWith (World.saveContent b.text "1" (Text.encode "kept")) (World.fresh default t)).2
    let w := (runWith (createBucket ⟨b, "Team", none, false, false⟩ ⟨"", 0, "client"⟩ "user") w₁).2
    (runWith (deleteBucket b ⟨b.text, 0, "c1"⟩) w).1 = .ok (some ⟨b, "Team", none, t, false, false⟩) ∧
      (runWith (deleteBucket b ⟨b.text, 0, "c1"⟩) w).2.content.blob? b.text "1" =
        some (Text.encode "kept") := by
  intro t b w₁ w
  -- the save is computed by lemmas: the kernel cannot run the segment check's character scan
  have hversion : checkSegment "version" "1" = .ok () := by
    simp only [checkSegment, String.any, String.contains_bool_eq]
    simp
  have hsave : w₁ = { (World.fresh default t).pass (World.contentCall "save_content") with
      content := .memory ⟨[(b.text, [("1", Text.encode "kept")])]⟩ } := by
    have hplanned : ((World.fresh default t).planned (World.contentCall "save_content")).1 = none :=
      rfl
    simp only [w₁]
    rw [World.runWith_saveContent, hplanned]
    simp only [World.fresh]
    rw [show (default : ContentStore) = .memory ⟨[]⟩ from rfl]
    simp [ContentStore.save, MemoryBlobs.save, checkSegment_text, hversion, keyedGet?, keyedSet]
    rfl
  simp only [w, hsave]
  exact ⟨by decide +kernel, by decide +kernel⟩

end Coordinator

end FlowRegistry
