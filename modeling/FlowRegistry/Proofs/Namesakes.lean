import FlowRegistry.Proofs.Integrity

/-!
# Deletes given the id of an entity of another kind

Buckets, flows and bundles share one namespace of revisions, and a delete checks its claim against
the revision stored under its id, whatever kind of entity holds that id. Given the id of an entity
of another kind and that entity's revision, a delete passes its check; finding no record of its
own kind it takes the call for the retry of a delete that already removed the record, and goes on
with what it does for its own kind: it purges what its kind keeps under the id, and drops the
revision.

What survives is the other entity's records, whatever the plan makes the calls meet:

* a delete of a flow writes flows, snapshot records, blobs and revisions only, so every bucket,
  bundle and bundle version stays;
* a delete of a bundle writes bundles, bundle versions, blobs and revisions, and the only flow it
  can add is a queued one with an id no stored flow has, so every stored flow, bucket and snapshot
  record stays;
* a delete of a bucket deletes the flows and bundles in it, so a flow or bundle with the bucket's
  id keeps its record, its snapshot or version records and its blobs when none of the two is in a
  bucket with that id and no flow queued to appear has it (`World.Unnested`).

What does not survive is the revision, and for a delete of a flow or a bundle, the blobs under the
id: with nothing planned, a delete with the id's current revision as its claim goes through and
leaves neither (`deletes_keep_other_kinds_but_not_their_revisions`).

The three are one argument about views of the registry that only the catalog, the blobs and the
queued flows decide (`World.Local`): calls of the revision store keep them, and each call of the
catalog or the content store keeps them when its own change does (`World.KeptBy`).
-/

namespace FlowRegistry

/-! ### Records found by id -/

theorem find?_insertById_of_ne {α : Type} {key : α → Uuid} {x : α} {u : Uuid} (hx : key x ≠ u)
    (xs : List α) : (insertById key x xs).find? (key · == u) = xs.find? (key · == u) := by
  induction xs with
  | nil => simp [insertById, hx]
  | cons y ys ih =>
    unfold insertById
    split
    · next hxy =>
      have hy : key y ≠ u := hxy ▸ hx
      simp [hx, hy]
    · split
      · simp [hx]
      · simp only [List.find?_cons, ih]

theorem find?_filter_of_ne {α : Type} {key : α → Uuid} {y u : Uuid} (hy : u ≠ y) (xs : List α) :
    (xs.filter (key · != y)).find? (key · == u) = xs.find? (key · == u) := by
  rw [List.find?_filter]
  congr 1
  funext a
  by_cases ha : key a = u
  · simp [ha, hy]
  · simp [ha]

/-- An insert by key keeps every element with another key. -/
theorem mem_insertById_of_ne {α : Type} {key : α → Uuid} {x y : α} {xs : List α} (hy : y ∈ xs)
    (hne : key y ≠ key x) : y ∈ insertById key x xs := by
  induction xs with
  | nil => cases hy
  | cons z zs ih =>
    unfold insertById
    rcases List.mem_cons.1 hy with rfl | hy
    · split
      · next h => exact absurd h.symm hne
      · split <;> simp
    · split
      · exact List.mem_cons_of_mem _ hy
      · split
        · exact List.mem_cons_of_mem _ (List.mem_cons_of_mem _ hy)
        · exact List.mem_cons_of_mem _ (ih hy)

namespace Catalog

variable {c c' : Catalog} {f g : Flow} {x y : Uuid}

/-- A flow inserted into the catalog had an id no flow had. -/
theorem insertFlow_eq_ok (h : c.insertFlow f = .ok c') :
    c.fetchFlow f.identifier = none ∧ c' = { c with flows := insertById (·.identifier) f c.flows } := by
  unfold insertFlow at h
  split at h
  · cases h
  · split at h
    · cases h
    · next hfree =>
      cases h
      exact ⟨Option.not_isSome_iff_eq_none.1 hfree, rfl⟩

/-- Inserting a flow keeps every stored flow. -/
theorem mem_flows_insertFlow (h : c.insertFlow f = .ok c') (hg : g ∈ c.flows) : g ∈ c'.flows := by
  obtain ⟨hfree, rfl⟩ := insertFlow_eq_ok h
  have hne : g.identifier ≠ f.identifier := fun hid => by
    have := List.find?_eq_none.1 hfree g hg
    simp [hid] at this
  exact mem_insertById_of_ne hg hne

theorem fetchFlow_insertFlow (h : c.insertFlow f = .ok c') (hx : f.identifier ≠ x) :
    c'.fetchFlow x = c.fetchFlow x := by
  obtain ⟨-, rfl⟩ := insertFlow_eq_ok h
  exact find?_insertById_of_ne hx c.flows

theorem fetchFlow_deleteFlow (hx : x ≠ y) : (c.deleteFlow y).2.fetchFlow x = c.fetchFlow x :=
  find?_filter_of_ne hx c.flows

theorem fetchBundle_deleteBundle (hx : x ≠ y) : (c.deleteBundle y).2.fetchBundle x = c.fetchBundle x :=
  find?_filter_of_ne hx c.bundles

end Catalog

/-! ### Views that only the catalog, the blobs and the queued flows decide -/

namespace World

variable {γ : Type} {I : World → Prop} {v : World → γ}

/-- `I` and `v` look at the catalog, the blobs and the queued flows only: a registry that agrees
with one where `I` holds on these satisfies `I` and has the same view. -/
def Local (I : World → Prop) (v : World → γ) : Prop :=
  ∀ w w' : World, w'.catalog = w.catalog → w'.content = w.content →
    w'.faults.queued = w.faults.queued → I w → I w' ∧ v w' = v w

/-- The change `g` keeps `I` and the view `v`. -/
def KeptBy (I : World → Prop) (v : World → γ) (g : World → World) : Prop :=
  ∀ w, I w → I (g w) ∧ v (g w) = v w

end World

namespace KeepsUnder

variable {α γ : Type} {I : World → Prop} {v : World → γ}

/-- A run that keeps `I` and `v`, made after a change that kept them. -/
theorem run_from {m : Registry α} (hm : KeepsUnder I v m) {w w' : World} (h : I w' ∧ v w' = v w) :
    I (runWith m w').2 ∧ v (runWith m w').2 = v w :=
  have ⟨hI, hv⟩ := hm w' h.1
  ⟨hI, hv.trans h.2⟩

end KeepsUnder

namespace World

variable {α β γ : Type} {I : World → Prop} {v : World → γ}

theorem keepsUnder_of_stays (hl : Local I v) {m : Registry α}
    (h : ∀ w, (runWith m w).2.catalog = w.catalog ∧ (runWith m w).2.content = w.content ∧
      (runWith m w).2.faults.queued = w.faults.queued) : KeepsUnder I v m := fun w hw =>
  have ⟨hcat, hcontent, hqueued⟩ := h w
  hl w _ hcat hcontent hqueued hw

theorem keepsUnder_guard (hl : Local I v) (c : Call) : KeepsUnder I v (guard c) :=
  keepsUnder_of_stays hl fun w => by
    rw [runWith_guard]
    exact ⟨rfl, rfl, pass_queued w c⟩

theorem keepsUnder_getRevision (hl : Local I v) (e : String) : KeepsUnder I v (getRevision e) :=
  (keepsUnder_guard hl _).bind fun _ => KeepsUnder.of_state fun _ => rfl

theorem keepsUnder_deleteRevision (hl : Local I v) (e : String) : KeepsUnder I v (deleteRevision e) :=
  keepsUnder_of_stays hl fun w => by
    rw [runWith_deleteRevision]
    split <;> exact ⟨rfl, rfl, pass_queued w _⟩

/-- A metadata call keeps `I` and `v` when taking a flow off the queue does, and so does
inserting it into the catalog. -/
theorem keepsUnder_enterMetadata (hl : Local I v)
    (hdeq : ∀ m, KeptBy I v fun w => { w with faults := (w.faults.dequeue m).2 })
    (hins : ∀ w m f c, I w → (w.faults.dequeue m).1 = some f → w.catalog.insertFlow f = .ok c →
      I { w with faults := (w.faults.dequeue m).2, catalog := c } ∧
        v { w with faults := (w.faults.dequeue m).2, catalog := c } = v w)
    (m : String) : KeepsUnder I v (enterMetadata m) := by
  intro w hw
  rw [runWith_enterMetadata_eq]
  split
  · exact (keepsUnder_guard hl _).run_from (hdeq m w hw)
  · next f hf =>
    split
    · next c hc => exact (keepsUnder_guard hl _).run_from (hins w m f c hw hf hc)
    · exact hdeq m w hw

section Catalog

variable (he : ∀ m, KeepsUnder I v (enterMetadata m))
include he

/-- A read of the catalog keeps `I` and `v`, and what it reads is the catalog of a registry where
`I` holds. -/
theorem keepsUnder_readCatalog_bind {m : String} {f : Catalog → α} {g : α → Registry β}
    (hg : ∀ w, I w → KeepsUnder I v (g (f w.catalog))) : KeepsUnder I v (readCatalog m f >>= g) := by
  intro w hw
  obtain ⟨hI, hv⟩ := he m w hw
  simp only [readCatalog, bind_assoc, runWith_bind] at hI hv ⊢
  generalize runWith (enterMetadata m) w = p at hI hv ⊢
  rcases p with ⟨_ | _, w₁⟩
  · exact ⟨hI, hv⟩
  · exact (hg w₁ hI).run_from ⟨hI, hv⟩

theorem keepsUnder_readCatalog (m : String) (f : Catalog → α) : KeepsUnder I v (readCatalog m f) :=
  (he m).bind fun _ => KeepsUnder.of_state fun _ => rfl

theorem keepsUnder_changeCatalog {m : String} {f : Catalog → α × Catalog}
    (hf : KeptBy I v fun w => { w with catalog := (f w.catalog).2 }) :
    KeepsUnder I v (changeCatalog m f) :=
  (he m).bind fun _ w hw => by
    obtain ⟨hI, hv⟩ := hf w hw
    rcases hfc : f w.catalog with ⟨a, c⟩
    simp only [hfc] at hI hv
    simp only [runWith_bind, runWith_get, hfc, runWith_modify, runWith_pure]
    exact ⟨hI, hv⟩

theorem keepsUnder_deleteBucket {id : Uuid}
    (hb : ∀ w existed c, I w → w.catalog.deleteBucket id = .ok (existed, c) →
      I { w with catalog := c } ∧ v { w with catalog := c } = v w) :
    KeepsUnder I v (deleteBucket id) :=
  (he _).bind fun _ w hw => by
    rcases h : w.catalog.deleteBucket id with err | ⟨existed, c⟩
    · simpa only [runWith_bind, runWith_get, runWith_lift, h] using (⟨hw, rfl⟩ : I w ∧ v w = v w)
    · simpa only [runWith_bind, runWith_get, runWith_lift, runWith_modify, runWith_pure, h]
        using hb w existed c hw h

end Catalog

theorem keepsUnder_deleteAllContent (hl : Local I v) (u : Uuid)
    (hd : KeptBy I v fun w => { w with content := w.content.without u.text }) :
    KeepsUnder I v (deleteAllContent u.text) :=
  (keepsUnder_guard hl _).bind fun _ w hw => by
    simpa only [runWith_bind, runWith_get, ContentStore.deleteAll_text, runWith_lift, runWith_modify]
      using hd w hw

end World

namespace Manager

variable {α γ : Type} {I : World → Prop} {v : World → γ}

theorem keepsUnder_getRevision (hl : World.Local I v) (e : String) : KeepsUnder I v (getRevision e) :=
  (World.keepsUnder_getRevision hl e).bind fun o => by
    cases o
    · exact .throw' _
    · exact .pure' _

theorem keepsUnder_verifyLocked (hl : World.Local I v) (e : String) (claimed : Revision) :
    KeepsUnder I v (verifyLocked e claimed) :=
  (keepsUnder_getRevision hl e).bind fun current => by
    by_cases h : current.version = claimed.version
    · simpa [h] using KeepsUnder.pure' (I := I) (v := v) current
    · simpa [h] using KeepsUnder.throw' (I := I) (v := v) (α := Revision) _

theorem keepsUnder_delete (hl : World.Local I v) (e : String) : KeepsUnder I v (delete e) :=
  (World.keepsUnder_deleteRevision hl e).bind fun _ => .pure' ()

theorem keepsUnder_deleteWith (hl : World.Local I v) (e : String) (claimed : Revision)
    {deletion : Registry α} (hd : KeepsUnder I v deletion) :
    KeepsUnder I v (deleteWith e claimed deletion) :=
  (KeepsUnder.lift _).bind fun _ => (keepsUnder_verifyLocked hl e claimed).bind fun _ =>
    hd.bind fun _ => (World.keepsUnder_deleteRevision hl e).bind fun _ => .pure' _

end Manager

namespace Coordinator

variable {γ : Type} {I : World → Prop} {v : World → γ}

theorem keepsUnder_currentRevision (hl : World.Local I v) (e : String) :
    KeepsUnder I v (currentRevision? e) :=
  ((Manager.keepsUnder_getRevision hl e).map some).tryCatch fun err => by
    split
    · exact .pure' _
    · exact .throw' _

theorem keepsUnder_deleteChildWithin (hl : World.Local I v) (held e : String)
    {purge : Registry Unit} (hpurge : KeepsUnder I v purge) :
    ∀ fuel, KeepsUnder I v (deleteChildWithin held e purge fuel)
  | 0 => .throw' _
  | fuel + 1 => (keepsUnder_currentRevision hl e).bind fun current => by
    cases current with
    | none =>
      exact hpurge.bind fun _ => (KeepsUnder.lockChild held e).bind fun _ =>
        Manager.keepsUnder_delete hl e
    | some current =>
      refine (KeepsUnder.lockChild held e).bind fun _ =>
        (Manager.keepsUnder_deleteWith hl e current hpurge).tryCatch fun err => ?_
      split
      · exact keepsUnder_deleteChildWithin hl held e hpurge fuel
      · exact .throw' _

theorem keepsUnder_deleteChild (hl : World.Local I v) (held e : String) {purge : Registry Unit}
    (hpurge : KeepsUnder I v purge) : KeepsUnder I v (deleteChild held e purge) :=
  (KeepsUnder.of_state fun _ => rfl).bind fun n => (KeepsUnder.of_state fun _ => rfl).bind fun q =>
    keepsUnder_deleteChildWithin hl held e hpurge (n + q + 1)

section Purges

variable (hl : World.Local I v) (he : ∀ m, KeepsUnder I v (World.enterMetadata m)) {id : Uuid}
  (hd : World.KeptBy I v fun w => { w with content := w.content.without id.text })
include hl he hd

theorem keepsUnder_purgeFlowContent
    (hs : World.KeptBy I v fun w => { w with catalog := (w.catalog.deleteSnapshots id).2 }) :
    KeepsUnder I v (purgeFlowContent id) :=
  (World.keepsUnder_deleteAllContent hl id hd).bind fun _ =>
    (World.keepsUnder_changeCatalog he hs).bind fun _ => .pure' ()

theorem keepsUnder_purgeBundleContent
    (hs : World.KeptBy I v fun w => { w with catalog := (w.catalog.deleteBundleVersions id).2 }) :
    KeepsUnder I v (purgeBundleContent id) :=
  (World.keepsUnder_deleteAllContent hl id hd).bind fun _ =>
    (World.keepsUnder_changeCatalog he hs).bind fun _ => .pure' ()

/-- A delete of a flow keeps what its purge and the removal of the record keep. -/
theorem keepsUnder_deleteFlow (claimed : Revision)
    (hs : World.KeptBy I v fun w => { w with catalog := (w.catalog.deleteSnapshots id).2 })
    (hf : World.KeptBy I v fun w => { w with catalog := (w.catalog.deleteFlow id).2 }) :
    KeepsUnder I v (deleteFlow id claimed) :=
  Manager.keepsUnder_deleteWith hl _ claimed ((World.keepsUnder_readCatalog he _ _).bind fun _ =>
    (keepsUnder_purgeFlowContent hl he hd hs).bind fun _ =>
      (World.keepsUnder_changeCatalog he hf).bind fun _ => .pure' _)

/-- A delete of a bundle keeps what its purge and the removal of the record keep. -/
theorem keepsUnder_deleteBundle (claimed : Revision)
    (hs : World.KeptBy I v fun w => { w with catalog := (w.catalog.deleteBundleVersions id).2 })
    (hb : World.KeptBy I v fun w => { w with catalog := (w.catalog.deleteBundle id).2 }) :
    KeepsUnder I v (deleteBundle id claimed) :=
  Manager.keepsUnder_deleteWith hl _ claimed ((World.keepsUnder_readCatalog he _ _).bind fun _ =>
    (keepsUnder_purgeBundleContent hl he hd hs).bind fun _ =>
      (World.keepsUnder_changeCatalog he hb).bind fun _ => .pure' _)

end Purges

end Coordinator

/-! ### What a delete of a flow or a bundle keeps -/

namespace Coordinator

/-- A delete of a flow keeps every bucket, bundle and bundle version, whatever it answers and
whatever the plan makes its calls meet. -/
theorem keeps_deleteFlow_others (id : Uuid) (claimed : Revision) :
    Keeps (fun w => (w.catalog.buckets, w.catalog.bundles, w.catalog.bundleVersions))
      (deleteFlow id claimed) := by
  have hl : World.Local (fun _ => True)
      (fun w => (w.catalog.buckets, w.catalog.bundles, w.catalog.bundleVersions)) :=
    fun _ _ hc _ _ _ => ⟨trivial, by simp only [hc]⟩
  have he := World.keepsUnder_enterMetadata hl (fun _ _ _ => ⟨trivial, rfl⟩) fun _ _ _ _ _ _ hc => by
    obtain ⟨-, rfl⟩ := Catalog.insertFlow_eq_ok hc
    exact ⟨trivial, rfl⟩
  intro w
  exact (keepsUnder_deleteFlow hl he (fun _ _ => ⟨trivial, rfl⟩) claimed (fun _ _ => ⟨trivial, rfl⟩)
    (fun _ _ => ⟨trivial, rfl⟩) w trivial).2

/-- A delete of a bundle keeps every stored flow, every bucket and every snapshot record,
whatever it answers and whatever the plan makes its calls meet. -/
theorem keepsUnder_deleteBundle_others (id : Uuid) (claimed : Revision) (f : Flow) :
    KeepsUnder (fun w => f ∈ w.catalog.flows) (fun w => (w.catalog.buckets, w.catalog.snapshots))
      (deleteBundle id claimed) := by
  have hl : World.Local (fun w => f ∈ w.catalog.flows)
      (fun w => (w.catalog.buckets, w.catalog.snapshots)) :=
    fun _ _ hc _ _ hf => ⟨by simpa only [hc] using hf, by simp only [hc]⟩
  have he := World.keepsUnder_enterMetadata hl (fun _ _ hf => ⟨hf, rfl⟩) fun _ _ _ _ hf _ hc => by
    refine ⟨Catalog.mem_flows_insertFlow hc hf, ?_⟩
    obtain ⟨-, rfl⟩ := Catalog.insertFlow_eq_ok hc
    rfl
  exact keepsUnder_deleteBundle hl he (fun _ hf => ⟨hf, rfl⟩) claimed (fun _ hf => ⟨hf, rfl⟩)
    fun _ hf => ⟨hf, rfl⟩

end Coordinator

/-! ### The namesakes of a bucket -/

/-- No flow or bundle with the id `x` is in a bucket with the id `x`, and no flow queued to appear
has the id `x`: a delete of the bucket `x` then deletes no entity with its own id. -/
structure World.Unnested (x : Uuid) (w : World) : Prop where
  catalog : w.catalog.Unnested x
  queued : ∀ f, w.faults.Queues f → f.identifier ≠ x

/-- What the flow and the bundle with the id `x` hold in the catalog: their records, and their
snapshot and version records. -/
def Catalog.namesakes (x : Uuid) (c : Catalog) :
    Option Flow × List SnapshotMeta × Option Bundle × List BundleVersion :=
  (c.fetchFlow x, c.listSnapshots x, c.fetchBundle x, c.listBundleVersions x)

/-- What the flow and the bundle with the id `x` hold: their records, their snapshot and version
records, and the blobs under the id. -/
def World.namesakes (x : Uuid) (w : World) :
    (Option Flow × List SnapshotMeta × Option Bundle × List BundleVersion) × (String → Option Bytes) :=
  (w.catalog.namesakes x, w.content.blob? x.text)

namespace Catalog

variable {c c' : Catalog} {f : Flow} {x y : Uuid}

/-- A change of the catalog that nests no entity `x` in the bucket `x` and keeps what the
entities `x` hold. -/
def Spares (x : Uuid) (g : Catalog → Catalog) : Prop :=
  ∀ c, c.Unnested x → (g c).Unnested x ∧ (g c).namesakes x = c.namesakes x

theorem spares_insertFlow (h : c.insertFlow f = .ok c') (hf : f.identifier ≠ x) (hc : c.Unnested x) :
    c'.Unnested x ∧ c'.namesakes x = c.namesakes x := by
  have hfetch := fetchFlow_insertFlow h hf
  obtain ⟨-, rfl⟩ := insertFlow_eq_ok h
  refine ⟨⟨fun g hg hgx => ?_, hc.bundles⟩, by simp only [namesakes, hfetch]; rfl⟩
  rcases mem_of_mem_insertById hg with rfl | hg
  · exact absurd hgx hf
  · exact hc.flows g hg hgx

theorem spares_deleteSnapshots (hy : y ≠ x) : Spares x fun c => (c.deleteSnapshots y).2 :=
  fun c hc => ⟨⟨hc.flows, hc.bundles⟩, by
    rw [namesakes, namesakes, listSnapshots_deleteSnapshots, if_neg (Ne.symm hy)]
    rfl⟩

theorem spares_deleteFlow (hy : y ≠ x) : Spares x fun c => (c.deleteFlow y).2 :=
  fun c hc => ⟨⟨fun f hf => hc.flows f (List.mem_filter.1 hf).1, hc.bundles⟩, by
    rw [namesakes, namesakes, fetchFlow_deleteFlow (Ne.symm hy)]
    rfl⟩

theorem spares_deleteBundleVersions (hy : y ≠ x) : Spares x fun c => (c.deleteBundleVersions y).2 :=
  fun c hc => ⟨⟨hc.flows, hc.bundles⟩, by
    rw [namesakes, namesakes, listBundleVersions_deleteBundleVersions, if_neg (Ne.symm hy)]
    rfl⟩

theorem spares_deleteBundle (hy : y ≠ x) : Spares x fun c => (c.deleteBundle y).2 :=
  fun c hc => ⟨⟨hc.flows, fun b hb => hc.bundles b (List.mem_filter.1 hb).1⟩, by
    rw [namesakes, namesakes, fetchBundle_deleteBundle (Ne.symm hy)]
    rfl⟩

theorem spares_deleteBucket {existed : Bool} (h : c.deleteBucket y = .ok (existed, c'))
    (hc : c.Unnested x) : c'.Unnested x ∧ c'.namesakes x = c.namesakes x := by
  unfold deleteBucket at h
  dsimp only at h
  split at h
  · cases h
  · cases h
    exact ⟨⟨hc.flows, hc.bundles⟩, rfl⟩

end Catalog

namespace World

variable {x y : Uuid}

theorem local_unnested (x : Uuid) : Local (Unnested x) (namesakes x) :=
  fun w _ hc hcontent hqueued hw =>
    ⟨⟨hc ▸ hw.catalog, fun f hf => hw.queued f (by unfold FaultPlan.Queues at hf ⊢; rwa [← hqueued])⟩,
      by simp only [namesakes, hc, hcontent]⟩

/-- A change of the catalog that spares `x` keeps the namesakes of `x`. -/
theorem keptBy_of_spares {g : Catalog → Catalog} (hg : Catalog.Spares x g) :
    KeptBy (Unnested x) (namesakes x) fun w => { w with catalog := g w.catalog } := fun w hw =>
  have ⟨hI, hv⟩ := hg w.catalog hw.catalog
  ⟨⟨hI, hw.queued⟩, by simp only [namesakes, hv]⟩

theorem keptBy_without (hy : y ≠ x) :
    KeptBy (Unnested x) (namesakes x) fun w => { w with content := w.content.without y.text } :=
  fun w hw => ⟨⟨hw.catalog, hw.queued⟩, by
    have hother : x.text ≠ y.text := fun h => hy (Uuid.text_injective h).symm
    simp only [namesakes]
    congr 1
    funext v
    rw [ContentStore.blob?_without, if_neg hother]⟩

/-- A metadata call keeps the namesakes of `x`: a flow it inserts was queued, so it has another
id. -/
theorem keepsNamesakes_enterMetadata (m : String) :
    KeepsUnder (Unnested x) (namesakes x) (enterMetadata m) :=
  keepsUnder_enterMetadata (local_unnested x)
    (fun _ w hw => ⟨⟨hw.catalog, fun f hf => hw.queued f (FaultPlan.Queues.of_dequeue hf)⟩, rfl⟩)
    (fun w _ f _ hw hf hc => by
      have ⟨hI, hv⟩ := Catalog.spares_insertFlow hc (hw.queued f (FaultPlan.queues_of_dequeue hf))
        hw.catalog
      exact ⟨⟨hI, fun g hg => hw.queued g (FaultPlan.Queues.of_dequeue hg)⟩,
        by simp only [namesakes, hv]⟩)
    m

end World

namespace Coordinator

variable {x : Uuid}

theorem keepsNamesakes_purgeFlowContent {y : Uuid} (hy : y ≠ x) :
    KeepsUnder (World.Unnested x) (World.namesakes x) (purgeFlowContent y) :=
  keepsUnder_purgeFlowContent (World.local_unnested x) World.keepsNamesakes_enterMetadata
    (World.keptBy_without hy) (World.keptBy_of_spares (Catalog.spares_deleteSnapshots hy))

theorem keepsNamesakes_purgeBundleContent {y : Uuid} (hy : y ≠ x) :
    KeepsUnder (World.Unnested x) (World.namesakes x) (purgeBundleContent y) :=
  keepsUnder_purgeBundleContent (World.local_unnested x) World.keepsNamesakes_enterMetadata
    (World.keptBy_without hy) (World.keptBy_of_spares (Catalog.spares_deleteBundleVersions hy))

/-- The purge of the bucket `x`'s children keeps the namesakes of `x`: every child it deletes was
listed from a catalog where none with the id `x` is in the bucket. -/
theorem keepsNamesakes_purgeChildren :
    KeepsUnder (World.Unnested x) (World.namesakes x) (purgeChildren x) :=
  World.keepsUnder_readCatalog_bind World.keepsNamesakes_enterMetadata fun w hw =>
    (KeepsUnder.forM _ fun f hf => by
      have hy := hw.catalog.ne_of_mem_listFlows hf
      exact (keepsUnder_deleteChild (World.local_unnested x) _ _
        (keepsNamesakes_purgeFlowContent hy)).bind fun _ =>
          (World.keepsUnder_changeCatalog World.keepsNamesakes_enterMetadata
            (World.keptBy_of_spares (Catalog.spares_deleteFlow hy))).bind fun _ => .pure' ()).bind
    fun _ => World.keepsUnder_readCatalog_bind World.keepsNamesakes_enterMetadata fun w' hw' =>
      KeepsUnder.forM _ fun b hb => by
        have hy := hw'.catalog.ne_of_mem_listBundles hb
        exact (keepsUnder_deleteChild (World.local_unnested x) _ _
          (keepsNamesakes_purgeBundleContent hy)).bind fun _ =>
            (World.keepsUnder_changeCatalog World.keepsNamesakes_enterMetadata
              (World.keptBy_of_spares (Catalog.spares_deleteBundle hy))).bind fun _ => .pure' ()

theorem keepsNamesakes_purgeBucketWithin :
    ∀ passes, KeepsUnder (World.Unnested x) (World.namesakes x) (purgeBucketWithin x passes)
  | 0 => .pure' ()
  | left + 1 => keepsNamesakes_purgeChildren.bind fun _ =>
    ((World.keepsUnder_deleteBucket World.keepsNamesakes_enterMetadata fun w _ _ hw h =>
      have ⟨hI, hv⟩ := Catalog.spares_deleteBucket h hw.catalog
      ⟨⟨hI, hw.queued⟩, by simp only [World.namesakes, hv]⟩).bind fun _ => .pure' ()).tryCatch
      fun err => by
        split
        · split
          · exact keepsNamesakes_purgeBucketWithin left
          · exact .throw' _
        · exact .throw' _

/-- A delete of the bucket `x` keeps the records and blobs of the flow and the bundle with the id
`x`, whatever it answers and whatever the plan makes its calls meet. -/
theorem keepsNamesakes_deleteBucket (claimed : Revision) :
    KeepsUnder (World.Unnested x) (World.namesakes x) (deleteBucket x claimed) :=
  Manager.keepsUnder_deleteWith (World.local_unnested x) _ claimed
    ((World.keepsUnder_readCatalog World.keepsNamesakes_enterMetadata _ _).bind fun _ =>
      (keepsNamesakes_purgeBucketWithin _).bind fun _ => .pure' _)

end Coordinator

/-! ### Deletes given the id of an entity of another kind -/

/-- A delete given the id `x` keeps the records of the entities of the other kinds, whatever the
plan makes its calls meet: a delete of a flow keeps every bucket, bundle and bundle version; a
delete of a bundle every stored flow, bucket and snapshot record; a delete of a bucket, when no
flow or bundle `x` is in the bucket `x` or queued, the records and blobs of the flow and the
bundle `x`. Yet with nothing planned and the current revision of `x` as its claim, each goes
through, answers the record of its own kind (none when `x` is of another kind) and leaves `x`
without a revision, a delete of a bucket when no flow or bundle `x` is in the bucket `x`; a delete
of a flow or a bundle also leaves no blob under `x`. -/
theorem deletes_keep_other_kinds_but_not_their_revisions (x : Uuid) (claimed : Revision) :
    Keeps (fun w => (w.catalog.buckets, w.catalog.bundles, w.catalog.bundleVersions))
        (Coordinator.deleteFlow x claimed) ∧
      (∀ f : Flow, KeepsUnder (fun w => f ∈ w.catalog.flows)
        (fun w => (w.catalog.buckets, w.catalog.snapshots)) (Coordinator.deleteBundle x claimed)) ∧
      KeepsUnder (World.Unnested x) (World.namesakes x) (Coordinator.deleteBucket x claimed) ∧
      ∀ (w : World) (p : FaultPlan) (cur : Revision), p.Steady → claimed.entityId = x.text →
        w.revisions.get? x.text = some cur → cur.version = claimed.version →
        (∃ u, Settles (Coordinator.deleteFlow x claimed) { w with faults := p }
            (.ok (w.catalog.fetchFlow x)) u ∧
          u.revisions.get? x.text = none ∧ ∀ v, u.content.blob? x.text v = none) ∧
        (∃ u, Settles (Coordinator.deleteBundle x claimed) { w with faults := p }
            (.ok (w.catalog.fetchBundle x)) u ∧
          u.revisions.get? x.text = none ∧ ∀ v, u.content.blob? x.text v = none) ∧
        (w.catalog.Unnested x → ∃ u, Settles (Coordinator.deleteBucket x claimed)
          { w with faults := p } (.ok (w.catalog.fetchBucket x)) u ∧ u.revisions.get? x.text = none) := by
  refine ⟨Coordinator.keeps_deleteFlow_others x claimed,
    Coordinator.keepsUnder_deleteBundle_others x claimed, Coordinator.keepsNamesakes_deleteBucket claimed,
    fun w p cur hp hentity hcur hver => ?_⟩
  have flowGone := w.flowGone_dropFlow x
  have bundleGone := w.bundleGone_dropBundle x
  exact ⟨⟨_, Coordinator.settles_deleteFlow hp hentity hcur hver, flowGone.revision, flowGone.content⟩,
    ⟨_, Coordinator.settles_deleteBundle hp hentity hcur hver, bundleGone.revision, bundleGone.content⟩,
    fun hun => ⟨_, Coordinator.settles_deleteBucket hp hentity hcur hver hun,
      (w.bucketGone_dropBucket x).revision⟩⟩

/-- A delete of a flow given a bucket's id and the bucket's revision drops the bucket's
revision. -/
theorem deletes_keep_other_kinds_of_bucket_id :
    let t : Time.Instant := ⟨0, 0, 0⟩
    let b : Uuid := ⟨⟨0xb1, by decide⟩⟩
    let w := (runWith (Coordinator.createBucket ⟨b, "Team", none, false, false⟩ ⟨"", 0, "c"⟩ "user")
      (World.fresh default t)).2
    let claimed : Revision := ⟨b.text, 0, "c1"⟩
    FaultPlan.empty.Steady ∧ w.revisions.get? b.text = some ⟨b.text, 0, "c"⟩ ∧
      ∃ u, Settles (Coordinator.deleteFlow b claimed) { w with faults := .empty }
          (.ok (w.catalog.fetchFlow b)) u ∧
        u.revisions.get? b.text = none ∧ ∀ v, u.content.blob? b.text v = none := by
  intro t b w claimed
  have hcur : w.revisions.get? b.text = some ⟨b.text, 0, "c"⟩ := by decide +kernel
  exact ⟨FaultPlan.steady_empty, hcur, ((deletes_keep_other_kinds_but_not_their_revisions b claimed).2.2.2
    w .empty _ FaultPlan.steady_empty rfl hcur rfl).1⟩

theorem Outcome.eq_ok_of_toOption {α : Type} {o : Outcome α} {a : α} (h : o.toOption = some a) :
    o = .ok a := by
  rcases o with e | a'
  · cases h
  · cases h
    rfl

/-- A delete of a bundle given a flow's id and the flow's revision finds no bundle and answers so,
keeps the flow's record, and drops the flow's revision. -/
theorem bundle_delete_by_flow_id_drops_its_revision :
    let t : Time.Instant := ⟨0, 0, 0⟩
    let b : Uuid := ⟨⟨0xb1, by decide⟩⟩
    let f : Uuid := ⟨⟨0xa1, by decide⟩⟩
    let w₁ := (runWith (Coordinator.createBucket ⟨b, "Team", none, false, false⟩ ⟨"", 0, "c"⟩ "user")
      (World.fresh default t)).2
    let w₂ := (runWith (Coordinator.createFlow ⟨f, b, "Flow", none⟩ ⟨"", 0, "c"⟩ "user") w₁).2
    let w₃ := (runWith (Coordinator.deleteBundle f ⟨f.text, 0, "c1"⟩) w₂).2
    w₂.revisions.get? f.text = some ⟨f.text, 0, "c"⟩ ∧
      (runWith (Coordinator.deleteBundle f ⟨f.text, 0, "c1"⟩) w₂).1 = .ok none ∧
      (w₂.catalog.fetchFlow f).isSome ∧ w₃.catalog.fetchFlow f = w₂.catalog.fetchFlow f ∧
      w₃.revisions.get? f.text = none := by
  intro t b f w₁ w₂ w₃
  exact ⟨by decide +kernel, Outcome.eq_ok_of_toOption (by decide +kernel), by decide +kernel,
    by decide +kernel, by decide +kernel⟩

end FlowRegistry
