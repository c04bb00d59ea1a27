import Mathlib.Data.List.Nodup
import FlowRegistry.Proofs.RunRelations
import FlowRegistry.Proofs.Triples
import FlowRegistry.Proofs.Namesakes
import FlowRegistry.Proofs.Steady
import FlowRegistry.Proofs.Names

/-!
# What a delete of a bucket removes

A delete of a bucket purges its children: for each flow and bundle it lists in the bucket it
deletes the child under its current revision, which removes the child's blobs and its snapshot or
version records, drops the child's revision and then the child's record; then it asks the catalog
to delete the bucket, listing the bucket again while the catalog refuses because children appeared.

Under any fault plan, whatever it makes the calls meet and whatever flows it makes appear in the
bucket, a run of the delete prunes (`World.Prunes`): it stores nothing under an id that had nothing,
and each flow or bundle of the bucket, present or queued to appear, is kept or has nothing left
under its id (`World.FlowCleared`, `World.BundleCleared`). The one exception is a run that fails
because the catalog refused to insert a queued flow (`PruneRel`). A delete that succeeds has moreover
left the bucket with no record, no revision and no child, so that every flow and bundle it had, and
every flow queued to appear in it, has nothing left under its id
(`Coordinator.deleteBucket_purges`).
-/

namespace FlowRegistry

/-! ### Queued flows under keys apart -/

theorem mem_insertById_self {α : Type} (key : α → Uuid) (x : α) (xs : List α) :
    x ∈ insertById key x xs := by
  induction xs with
  | nil => simp [insertById]
  | cons y ys ih =>
    unfold insertById
    split
    · exact List.mem_cons_self
    · split
      · exact List.mem_cons_self
      · exact List.mem_cons_of_mem _ ih

namespace FaultPlan

/-- Each metadata method has at most one queue of flows. -/
def KeysApart (p : FaultPlan) : Prop := (p.queued.map (·.1)).Nodup

theorem keysApart_dequeue {p : FaultPlan} (h : p.KeysApart) (m : String) : (p.dequeue m).2.KeysApart := by
  unfold dequeue
  split
  · unfold KeysApart at h ⊢
    refine List.nodup_cons.2 ⟨fun hm => ?_, List.Nodup.sublist ((List.filter_sublist).map _) h⟩
    obtain ⟨q, hq, hkey⟩ := List.mem_map.1 hm
    have hne := (List.mem_filter.1 hq).2
    simp [hkey] at hne
  · exact h

/-- Taking a flow off its queue leaves every other queued flow queued, the queues being apart. -/
theorem queues_dequeue {p : FaultPlan} {m : String} {f g : Flow} (hkeys : p.KeysApart)
    (hf : (p.dequeue m).1 = some f) (hg : p.Queues g) : g = f ∨ (p.dequeue m).2.Queues g := by
  obtain ⟨q, hq, hgq⟩ := hg
  unfold dequeue at hf ⊢
  split at hf
  · next m' f' rest hfind =>
    cases hf
    have hfound := List.mem_of_find?_eq_some hfind
    have hkey : m' = m := by simpa using List.find?_some hfind
    by_cases hqm : q.1 = m
    · -- the queue of `m` is the one the flow was taken from
      have hqeq := List.inj_on_of_nodup_map hkeys hq hfound (by simp [hqm, hkey])
      subst hqeq
      rcases List.mem_cons.1 hgq with rfl | hrest
      · exact .inl rfl
      · exact .inr ⟨(m, rest), List.mem_cons_self, hrest⟩
    · exact .inr ⟨q, List.mem_cons_of_mem _ (List.mem_filter.2 ⟨hq, by simpa using hqm⟩), hgq⟩
  · cases hf

end FaultPlan

/-! ### What a delete may leave of a child -/

namespace World

/-- Nothing is stored under the id of the flow `x`: no revision, no blob and no snapshot record. -/
structure FlowCleared (w : World) (x : Uuid) : Prop where
  revision : w.revisions.get? x.text = none
  content : ∀ v, w.content.blob? x.text v = none
  snapshots : w.catalog.listSnapshots x = []

/-- Nothing is stored under the id of the bundle `x`: no revision, no blob and no version record. -/
structure BundleCleared (w : World) (x : Uuid) : Prop where
  revision : w.revisions.get? x.text = none
  content : ∀ v, w.content.blob? x.text v = none
  versions : w.catalog.listBundleVersions x = []

/-- From `w` to `w'` nothing was stored under an id that had nothing, and each flow and bundle of the
bucket `id`, present or queued to appear in it, was kept or has nothing left under its id. -/
structure Prunes (w : World) (id : Uuid) (w' : World) : Prop where
  revision : ∀ e, w.revisions.get? e = none → w'.revisions.get? e = none
  content : ∀ e v, w.content.blob? e v = none → w'.content.blob? e v = none
  snapshots : ∀ x, w.catalog.listSnapshots x = [] → w'.catalog.listSnapshots x = []
  versions : ∀ x, w.catalog.listBundleVersions x = [] → w'.catalog.listBundleVersions x = []
  flows : ∀ f ∈ w.catalog.flows, f.bucketIdentifier = id →
    f ∈ w'.catalog.flows ∨ w'.FlowCleared f.identifier
  bundles : ∀ b ∈ w.catalog.bundles, b.bucketIdentifier = id →
    b ∈ w'.catalog.bundles ∨ w'.BundleCleared b.identifier
  queued : w.faults.KeysApart → ∀ f, w.faults.Queues f → f.bucketIdentifier = id →
    w'.faults.Queues f ∨ f ∈ w'.catalog.flows ∨ w'.FlowCleared f.identifier
  keys : w.faults.KeysApart → w'.faults.KeysApart

variable {w w₁ w₂ w' : World} {id x : Uuid}

theorem FlowCleared.of_prunes (hx : w.FlowCleared x) (h : w.Prunes id w') : w'.FlowCleared x :=
  ⟨h.revision _ hx.revision, fun v => h.content _ v (hx.content v), h.snapshots _ hx.snapshots⟩

theorem BundleCleared.of_prunes (hx : w.BundleCleared x) (h : w.Prunes id w') : w'.BundleCleared x :=
  ⟨h.revision _ hx.revision, fun v => h.content _ v (hx.content v), h.versions _ hx.versions⟩

namespace Prunes

protected theorem refl (w : World) (id : Uuid) : w.Prunes id w where
  revision _ h := h
  content _ _ h := h
  snapshots _ h := h
  versions _ h := h
  flows _ hf _ := .inl hf
  bundles _ hb _ := .inl hb
  queued _ _ hf _ := .inl hf
  keys h := h

protected theorem trans (h₁ : w.Prunes id w₁) (h₂ : w₁.Prunes id w₂) : w.Prunes id w₂ where
  revision e he := h₂.revision e (h₁.revision e he)
  content e v he := h₂.content e v (h₁.content e v he)
  snapshots x hx := h₂.snapshots x (h₁.snapshots x hx)
  versions x hx := h₂.versions x (h₁.versions x hx)
  flows f hf hb := (h₁.flows f hf hb).elim (fun hf₁ => h₂.flows f hf₁ hb) fun hc => .inr (hc.of_prunes h₂)
  bundles b hb hbk :=
    (h₁.bundles b hb hbk).elim (fun hb₁ => h₂.bundles b hb₁ hbk) fun hc => .inr (hc.of_prunes h₂)
  queued hk f hq hb := by
    rcases h₁.queued hk f hq hb with hq₁ | hf₁ | hc
    · exact h₂.queued (h₁.keys hk) f hq₁ hb
    · exact .inr ((h₂.flows f hf₁ hb).elim .inl .inr)
    · exact .inr (.inr (hc.of_prunes h₂))
  keys hk := h₂.keys (h₁.keys hk)

/-- A change of the revisions and the blobs that stores nothing new prunes. -/
theorem of_stores (hcat : w'.catalog = w.catalog) (hq : w'.faults.queued = w.faults.queued)
    (hrev : ∀ e, w.revisions.get? e = none → w'.revisions.get? e = none)
    (hcontent : ∀ e v, w.content.blob? e v = none → w'.content.blob? e v = none) : w.Prunes id w' where
  revision := hrev
  content := hcontent
  snapshots x hx := hcat ▸ hx
  versions x hx := hcat ▸ hx
  flows _ hf _ := .inl (hcat ▸ hf)
  bundles _ hb _ := .inl (hcat ▸ hb)
  queued _ f hf _ := .inl (by unfold FaultPlan.Queues; rw [hq]; exact hf)
  keys hk := by unfold FaultPlan.KeysApart; rw [hq]; exact hk

/-- A change of the catalog that keeps every flow and bundle and adds no snapshot or version
record where there was none prunes. -/
theorem of_catalog {c : Catalog} (hflows : c.flows = w.catalog.flows) (hbundles : c.bundles = w.catalog.bundles)
    (hsnap : ∀ x, w.catalog.listSnapshots x = [] → c.listSnapshots x = [])
    (hver : ∀ x, w.catalog.listBundleVersions x = [] → c.listBundleVersions x = []) :
    w.Prunes id { w with catalog := c } where
  revision _ h := h
  content _ _ h := h
  snapshots := hsnap
  versions := hver
  flows _ hf _ := .inl (hflows ▸ hf)
  bundles _ hb _ := .inl (hbundles ▸ hb)
  queued _ _ hf _ := .inl hf
  keys h := h

theorem pass (w : World) (c : Call) : w.Prunes id (w.pass c) :=
  of_stores rfl (pass_queued w c) (fun _ h => h) fun _ _ h => h

theorem dropRevision (w : World) (e : String) :
    w.Prunes id { w with revisions := (w.revisions.delete e).1 } :=
  of_stores rfl rfl (fun e' h => by rw [RevisionTable.get?_delete]; split <;> simp [h]) fun _ _ h => h

theorem without (w : World) (e : String) : w.Prunes id { w with content := w.content.without e } :=
  of_stores rfl rfl (fun _ h => h) fun e' v h => by rw [ContentStore.blob?_without]; split <;> simp [h]

theorem deleteSnapshots (w : World) (y : Uuid) :
    w.Prunes id { w with catalog := (w.catalog.deleteSnapshots y).2 } :=
  of_catalog rfl rfl (fun x h => by rw [Catalog.listSnapshots_deleteSnapshots]; split <;> simp [h])
    fun _ h => h

theorem deleteBundleVersions (w : World) (y : Uuid) :
    w.Prunes id { w with catalog := (w.catalog.deleteBundleVersions y).2 } :=
  of_catalog rfl rfl (fun _ h => h)
    fun x h => by rw [Catalog.listBundleVersions_deleteBundleVersions]; split <;> simp [h]

/-- The record of a flow may go once nothing is left under its id. -/
theorem dropFlow (hx : w.FlowCleared x) : w.Prunes id { w with catalog := (w.catalog.deleteFlow x).2 } where
  revision _ h := h
  content _ _ h := h
  snapshots _ h := h
  versions _ h := h
  flows f hf _ := by
    by_cases hfx : f.identifier = x
    · subst hfx
      exact .inr ⟨hx.revision, hx.content, hx.snapshots⟩
    · exact .inl (List.mem_filter.2 ⟨hf, by simpa using hfx⟩)
  bundles _ hb _ := .inl hb
  queued _ _ hf _ := .inl hf
  keys h := h

/-- The record of a bundle may go once nothing is left under its id. -/
theorem dropBundle (hx : w.BundleCleared x) :
    w.Prunes id { w with catalog := (w.catalog.deleteBundle x).2 } where
  revision _ h := h
  content _ _ h := h
  snapshots _ h := h
  versions _ h := h
  flows _ hf _ := .inl hf
  bundles b hb _ := by
    by_cases hbx : b.identifier = x
    · subst hbx
      exact .inr ⟨hx.revision, hx.content, hx.versions⟩
    · exact .inl (List.mem_filter.2 ⟨hb, by simpa using hbx⟩)
  queued _ _ hf _ := .inl hf
  keys h := h

/-- A queued flow that the catalog inserts is kept, and so is every other flow. -/
theorem insertQueued {m : String} {f : Flow} {c : Catalog} (hf : (w.faults.dequeue m).1 = some f)
    (hc : w.catalog.insertFlow f = .ok c) :
    w.Prunes id { w with faults := (w.faults.dequeue m).2, catalog := c } := by
  have hflows : ∀ g ∈ w.catalog.flows, g ∈ c.flows := fun _ hg => Catalog.mem_flows_insertFlow hc hg
  obtain ⟨-, rfl⟩ := Catalog.insertFlow_eq_ok hc
  exact {
    revision := fun _ h => h
    content := fun _ _ h => h
    snapshots := fun _ h => h
    versions := fun _ h => h
    flows := fun g hg _ => .inl (hflows g hg)
    bundles := fun _ hb _ => .inl hb
    queued := fun hk g hg _ => (FaultPlan.queues_dequeue hk hf hg).elim
      (fun hgf => .inr (.inl (hgf ▸ mem_insertById_self _ _ _))) .inl
    keys := fun hk => FaultPlan.keysApart_dequeue hk m }

end Prunes

end World

/-! ### Runs that prune -/

/-- Whether an error is the catalog's refusal of a flow: its bucket unknown or its id taken. -/
def RegistryError.refusesFlow : RegistryError → Bool
  | .notFound _ | .alreadyExists _ => true
  | _ => false

theorem Catalog.refusesFlow_of_insertFlow {c : Catalog} {f : Flow} {e : RegistryError}
    (h : c.insertFlow f = .error e) : e.refusesFlow = true := by
  unfold Catalog.insertFlow at h
  split at h
  · cases h
    rfl
  · split at h
    · cases h
      rfl
    · cases h

/-- A run prunes for the bucket `id`, unless it failed as the catalog refused a flow. -/
def PruneRel (id : Uuid) : RunRel := fun w o w' => w.Prunes id w' ∨ ∃ e, o = some e ∧ e.refusesFlow = true

namespace PruneRel

variable {id : Uuid} {w w₁ w₂ : World} {o : Option RegistryError}

theorem prunes (h : PruneRel id w o w₁) (ho : ∀ e, o = some e → e.refusesFlow = false) :
    w.Prunes id w₁ :=
  h.resolve_right fun ⟨e, he, hr⟩ => by simp [ho e he] at hr

theorem composes (id : Uuid) : Composes (PruneRel id) where
  refl w := .inl (World.Prunes.refl w id)
  trans h₁ h₂ := h₂.imp_left (h₁.prunes fun _ he => by cases he).trans

theorem resumes {e : RegistryError} (he : e.refusesFlow = false) : Resumes (PruneRel id) e :=
  fun h₁ h₂ => h₂.imp_left (h₁.prunes fun _ h => by cases h; exact he).trans

theorem dequeue (id : Uuid) (m : String) : World.DequeueRel (PruneRel id) m := fun _ _ hf =>
  ⟨fun _ hc => .inl (World.Prunes.insertQueued hf hc),
    fun e he => .inr ⟨e, rfl, Catalog.refusesFlow_of_insertFlow he⟩⟩

theorem purgeSteps (id : Uuid) : PurgeSteps (PruneRel id) where
  composes := composes id
  pass c _ w := .inl (World.Prunes.pass w c)
  passOk c _ w := .inl (World.Prunes.pass w c)
  stays _ _ w := .inl (World.Prunes.refl w id)
  resumes _ _ _ := resumes rfl
  dequeue m _ := dequeue id m

end PruneRel

/-! ### What a child's delete leaves when it succeeds -/

namespace Triple

variable {α : Type} {P : World → Prop}

/-- Nothing is said of the outcome. -/
theorem unknown (m : Registry α) : Triple P m (fun _ _ => True) (fun _ => True) :=
  ⟨fun w _ => by rcases runWith m w with ⟨_ | _, _⟩ <;> trivial⟩

end Triple

namespace World

theorem keeps_content_enterMetadata (m : String) : Keeps World.content (enterMetadata m) := fun w => by
  rw [runWith_enterMetadata_eq]
  split
  · rw [runWith_guard]
    rfl
  · split
    · rw [runWith_guard]
      rfl
    · rfl

/-- The drop of a revision leaves none under its id, and keeps what only the catalog and the blobs
decide. -/
theorem triple_deleteRevision {P : World → Prop} {e : String}
    (hP : ∀ w w', w'.catalog = w.catalog → w'.content = w.content → P w → P w') :
    Triple P (deleteRevision e) (fun _ w => P w ∧ w.revisions.get? e = none) (fun _ => True) :=
  ⟨fun w hw => by
    rw [runWith_deleteRevision]
    split
    · trivial
    · exact ⟨hP w _ rfl rfl hw, by simp [RevisionTable.get?_delete]⟩⟩

theorem triple_deleteAllContent (u : Uuid) :
    Triple (fun _ => True) (deleteAllContent u.text)
      (fun _ w => ∀ v, w.content.blob? u.text v = none) (fun _ => True) :=
  ⟨fun w _ => by
    unfold deleteAllContent
    rw [runWith_guard_bind]
    split
    · trivial
    · simp only [runWith_bind, runWith_get, ContentStore.deleteAll_text, runWith_lift, runWith_modify]
      intro v
      simp [ContentStore.blob?_without]⟩

/-- A change of the catalog keeps every blob. -/
theorem triple_changeCatalog {α : Type} {m : String} {g : Catalog → α × Catalog} {u : Uuid}
    {Q : Catalog → Prop} (hg : ∀ c, Q (g c).2) :
    Triple (fun w => ∀ v, w.content.blob? u.text v = none) (changeCatalog m g)
      (fun _ w => (∀ v, w.content.blob? u.text v = none) ∧ Q w.catalog) (fun _ => True) :=
  ⟨fun w hw => by
    have hcontent := keeps_content_enterMetadata m w
    rw [runWith_changeCatalog_eq]
    rcases hr : runWith (enterMetadata m) w with ⟨e | _, w₁⟩ <;> rw [hr] at hcontent
    · trivial
    · exact ⟨fun v => by simp only at hcontent; rw [hcontent]; exact hw v, hg _⟩⟩

end World

namespace Coordinator

theorem triple_purgeFlowContent_clears (x : Uuid) :
    Triple (fun _ => True) (purgeFlowContent x)
      (fun _ w => (∀ v, w.content.blob? x.text v = none) ∧ w.catalog.listSnapshots x = [])
      (fun _ => True) :=
  (World.triple_deleteAllContent x).bind fun _ =>
    (World.triple_changeCatalog (Q := fun c => c.listSnapshots x = []) fun c => by
      rw [Catalog.listSnapshots_deleteSnapshots, if_pos rfl]).bind fun _ =>
    Triple.pure' () fun _ hw => hw

theorem triple_purgeBundleContent_clears (x : Uuid) :
    Triple (fun _ => True) (purgeBundleContent x)
      (fun _ w => (∀ v, w.content.blob? x.text v = none) ∧ w.catalog.listBundleVersions x = [])
      (fun _ => True) :=
  (World.triple_deleteAllContent x).bind fun _ =>
    (World.triple_changeCatalog (Q := fun c => c.listBundleVersions x = []) fun c => by
      rw [Catalog.listBundleVersions_deleteBundleVersions, if_pos rfl]).bind fun _ =>
    Triple.pure' () fun _ hw => hw

section Child

variable {held e : String} {purge : Registry Unit} {P : World → Prop}
  (hpurge : Triple (fun _ => True) purge (fun _ => P) (fun _ => True))
  (hP : ∀ w w', w'.catalog = w.catalog → w'.content = w.content → P w → P w')
include hpurge hP

/-- Each try of a child's delete that succeeds leaves what its purge leaves, and no revision of the
child: the revision is dropped after the purge, whether or not the child had one. -/
theorem triple_deleteChildWithin_drops :
    ∀ n, Triple (fun _ => True) (deleteChildWithin held e purge n)
      (fun _ w => P w ∧ w.revisions.get? e = none) (fun _ => True)
  | 0 => Triple.throw' _ fun _ _ => trivial
  | n + 1 => (Triple.unknown (currentRevision? e)).bind fun current => by
    cases current with
    | none =>
      exact (hpurge.mono (fun _ _ => trivial) (fun _ _ h => h) fun _ h => h).bind fun _ =>
        (triple_lockChild (fun _ _ => trivial) held e).bind fun _ =>
          (World.triple_deleteRevision hP).bind fun _ => Triple.pure' () fun _ hw => hw
    | some current =>
      refine (Triple.unknown (lockChild held e)).bind fun _ =>
        Triple.tryCatch (?_ : Triple _ _ _ fun _ => True) fun err => ?_
      · rw [Manager.deleteWith_eq]
        exact (Triple.lift _ (fun _ _ _ _ => trivial) fun _ _ => trivial).bind fun _ =>
          (Triple.unknown _).bind fun _ => (hpurge.mono (fun _ _ => trivial) (fun _ _ h => h)
            fun _ h => h).bind fun _ =>
          (World.triple_deleteRevision hP).bind fun _ => Triple.pure' () fun _ hw => hw
      · cases err with
        | staleRevision => exact triple_deleteChildWithin_drops n
        | _ => exact Triple.throw' _ fun _ _ => trivial

theorem triple_deleteChild_drops :
    Triple (fun _ => True) (deleteChild held e purge) (fun _ w => P w ∧ w.revisions.get? e = none)
      (fun _ => True) :=
  (Triple.unknown _).bind fun n => (Triple.unknown _).bind fun q =>
    triple_deleteChildWithin_drops hpurge hP (n + q + 1)

end Child

theorem flowCleared_of_deleteChild {held : String} {x : Uuid} {w w₁ : World} {u : Unit}
    (h : runWith (deleteChild held x.text (purgeFlowContent x)) w = (.ok u, w₁)) :
    w₁.FlowCleared x := by
  have hchild : Triple _ (deleteChild held x.text (purgeFlowContent x)) _ _ :=
    triple_deleteChild_drops (triple_purgeFlowContent_clears x) fun _ _ hc hb hw => hc ▸ hb ▸ hw
  have hpost := hchild.answers trivial (by rw [h])
  rw [h] at hpost
  exact ⟨hpost.2, hpost.1.1, hpost.1.2⟩

theorem bundleCleared_of_deleteChild {held : String} {x : Uuid} {w w₁ : World} {u : Unit}
    (h : runWith (deleteChild held x.text (purgeBundleContent x)) w = (.ok u, w₁)) :
    w₁.BundleCleared x := by
  have hchild : Triple _ (deleteChild held x.text (purgeBundleContent x)) _ _ :=
    triple_deleteChild_drops (triple_purgeBundleContent_clears x) fun _ _ hc hb hw => hc ▸ hb ▸ hw
  have hpost := hchild.answers trivial (by rw [h])
  rw [h] at hpost
  exact ⟨hpost.2, hpost.1.1, hpost.1.2⟩

end Coordinator

/-! ### The delete of a bucket prunes -/

namespace Coordinator

variable {id : Uuid}

/-- A change of the catalog prunes when it prunes from wherever the entry into the catalog led. -/
theorem pruneRel_changeCatalog {α : Type} {m : String} (hm : m ≠ "delete_bucket")
    {g : Catalog → α × Catalog} {w : World}
    (hg : ∀ w₁, w.Prunes id w₁ → w₁.Prunes id { w₁ with catalog := (g w₁.catalog).2 }) :
    PruneRel id w (Outcome.failure (runWith (World.changeCatalog m g) w).1)
      (runWith (World.changeCatalog m g) w).2 := by
  have h := (PruneRel.purgeSteps id).enterMetadata hm w
  rw [World.runWith_changeCatalog_eq]
  rcases hr : runWith (World.enterMetadata m) w with ⟨e | u, w₁⟩ <;> rw [hr] at h
  · exact h
  · have hp := h.prunes fun _ he => by cases he
    exact .inl (hp.trans (hg w₁ hp))

/-- The delete of a listed flow's record, once nothing is left under its id. -/
theorem pruneRel_deleteFlow {x : Uuid} {w : World} (hx : w.FlowCleared x) :
    PruneRel id w (Outcome.failure (runWith (World.deleteFlow x >>= fun _ => pure ()) w).1)
      (runWith (World.deleteFlow x >>= fun _ => pure ()) w).2 := by
  rw [bind_pure_comp, runWith_map, Outcome.failure_map]
  exact pruneRel_changeCatalog (by decide) fun _ hp => World.Prunes.dropFlow (hx.of_prunes hp)

/-- The delete of a listed bundle's record, once nothing is left under its id. -/
theorem pruneRel_deleteBundle {x : Uuid} {w : World} (hx : w.BundleCleared x) :
    PruneRel id w (Outcome.failure (runWith (World.deleteBundle x >>= fun _ => pure ()) w).1)
      (runWith (World.deleteBundle x >>= fun _ => pure ()) w).2 := by
  rw [bind_pure_comp, runWith_map, Outcome.failure_map]
  exact pruneRel_changeCatalog (by decide) fun _ hp => World.Prunes.dropBundle (hx.of_prunes hp)

/-- The delete of a listed flow prunes: the child's delete clears its id before its record goes. -/
theorem relates_prune_flowChild (x : Uuid) :
    Relates (PruneRel id)
      (deleteChild id.text x.text (purgeFlowContent x) >>= fun _ =>
        World.deleteFlow x >>= fun _ => pure ()) :=
  have S := PruneRel.purgeSteps id
  (relates_deleteChild S (fun w => .inl (World.Prunes.dropRevision w x.text))
      (relates_purgeFlowContent S (fun w => .inl (World.Prunes.without w _))
        fun w => .inl (World.Prunes.deleteSnapshots w x))).bind_ok S.composes
    fun _ _ _ hr => pruneRel_deleteFlow (flowCleared_of_deleteChild hr)

/-- The delete of a listed bundle prunes: the child's delete clears its id before its record goes. -/
theorem relates_prune_bundleChild (x : Uuid) :
    Relates (PruneRel id)
      (deleteChild id.text x.text (purgeBundleContent x) >>= fun _ =>
        World.deleteBundle x >>= fun _ => pure ()) :=
  have S := PruneRel.purgeSteps id
  (relates_deleteChild S (fun w => .inl (World.Prunes.dropRevision w x.text))
      (relates_purgeBundleContent S (fun w => .inl (World.Prunes.without w _))
        fun w => .inl (World.Prunes.deleteBundleVersions w x))).bind_ok S.composes
    fun _ _ _ hr => pruneRel_deleteBundle (bundleCleared_of_deleteChild hr)

theorem relates_prune_purgeChildren (id : Uuid) : Relates (PruneRel id) (purgeChildren id) :=
  relates_purgeChildren (PruneRel.purgeSteps id) id relates_prune_flowChild relates_prune_bundleChild

/-- The catalog's delete of the bucket keeps every flow and bundle. -/
theorem relates_prune_deleteBucketCall (id : Uuid) : Relates (PruneRel id) (World.deleteBucket id) :=
  World.relates_deleteBucket (PruneRel.composes id) (fun w => .inl (World.Prunes.pass w _))
    (PruneRel.dequeue id _)
    (fun w _ _ h => .inl (by
      rw [Catalog.deleteBucket_eq h]
      exact World.Prunes.of_catalog rfl rfl (fun _ h => h) fun _ h => h))
    fun w _ _ => .inl (World.Prunes.refl w id)

theorem relates_prune_deleteBucket (id : Uuid) (claimed : Revision) :
    Relates (PruneRel id) (deleteBucket id claimed) :=
  have S := PruneRel.purgeSteps id
  relates_deleteBucket_of_purge S (fun w => .inl (World.Prunes.dropRevision w _))
    (relates_purgeBucketWithin S (relates_prune_purgeChildren id) (relates_prune_deleteBucketCall id)
      fun _ => PruneRel.resumes rfl) claimed

end Coordinator

/-! ### What a delete of a bucket that succeeds leaves -/

/-- The catalog has no record of the bucket `id`, and no flow or bundle in it. -/
structure Catalog.Vacated (c : Catalog) (id : Uuid) : Prop where
  record : ¬c.Live .bucket id
  flows : c.listFlows id = []
  bundles : c.listBundles id = []

/-- The catalog deletes a bucket only when it holds no flow and no bundle. -/
theorem Catalog.vacated_of_deleteBucket {c c' : Catalog} {id : Uuid} {existed : Bool}
    (h : c.deleteBucket id = .ok (existed, c')) : c'.Vacated id := by
  have hc' := Catalog.deleteBucket_eq h
  unfold Catalog.deleteBucket at h
  dsimp only at h
  split at h
  · cases h
  · next hnone =>
    subst hc'
    have hflows : c.flows.filter (·.bucketIdentifier == id) = [] := List.length_eq_zero_iff.1 (by omega)
    have hbundles : c.bundles.filter (·.bucketIdentifier == id) = [] :=
      List.length_eq_zero_iff.1 (by omega)
    refine ⟨fun hx => ((mem_map_filter_ne _ _ _ _).1 hx).2 rfl, ?_, ?_⟩
    · simp only [Catalog.listFlows, hflows, List.mergeSort_nil]
    · simp only [Catalog.listBundles, hbundles, List.mergeSort_nil]

namespace Coordinator

/-- A purge of a bucket that succeeds ends with the catalog's delete of the bucket succeeding. -/
theorem triple_purgeBucketWithin_vacates (id : Uuid) : ∀ n, 0 < n →
    Triple (fun _ => True) (purgeBucketWithin id n) (fun _ w => w.catalog.Vacated id) (fun _ => True)
  | n + 1, _ => (Triple.unknown (purgeChildren id)).bind fun _ => by
    refine Triple.tryCatch (?_ : Triple _ _ _ fun _ => True) fun err => ?_
    · exact (Triple.deleteBucket (Admits.const True)
        (fun _ _ _ _ h => Catalog.vacated_of_deleteBucket h) fun _ _ => trivial).bind fun _ =>
          Triple.pure' () fun _ hw => hw
    · cases err with
      | invalidInput t =>
        dsimp only
        split
        · next hn => exact triple_purgeBucketWithin_vacates id n hn
        · exact Triple.throw' _ fun _ _ => trivial
      | _ => exact Triple.throw' _ fun _ _ => trivial

/-- A delete of a bucket that succeeds leaves it vacated and without a revision. -/
theorem triple_deleteBucket_vacates (id : Uuid) (claimed : Revision) :
    Triple (fun _ => True) (deleteBucket id claimed)
      (fun _ w => w.catalog.Vacated id ∧ w.revisions.get? id.text = none) (fun _ => True) := by
  unfold deleteBucket
  rw [Manager.deleteWith_eq]
  have hpurge : Triple (fun _ => True) (do let b ← World.fetchBucket id; purgeBucket id; pure b)
      (fun _ w => w.catalog.Vacated id) (fun _ => True) :=
    (Triple.unknown _).bind fun b =>
      (triple_purgeBucketWithin_vacates id bucketDeletePasses (by decide)).bind fun _ =>
        Triple.pure' b fun _ hw => hw
  exact (Triple.lift _ (fun _ _ _ _ => trivial) fun _ _ => trivial).bind fun _ =>
    (Triple.unknown _).bind fun _ => hpurge.bind fun a =>
    (World.triple_deleteRevision (P := fun w => w.catalog.Vacated id) fun _ _ hc _ hw => hc ▸ hw).bind
      fun _ => Triple.pure' a fun _ hw => hw

end Coordinator

namespace World

/-- What a delete of the bucket `id` run from `w₀` left in `w` when it succeeded: the bucket has no
record, revision or child, and nothing is left under the id of a flow or bundle it had, nor under
the id of a flow queued to appear in it unless the flow is still queued. -/
structure BucketPurged (w w₀ : World) (id : Uuid) : Prop where
  vacated : w.catalog.Vacated id
  revision : w.revisions.get? id.text = none
  flows : ∀ f ∈ w₀.catalog.listFlows id, w.FlowCleared f.identifier
  bundles : ∀ b ∈ w₀.catalog.listBundles id, w.BundleCleared b.identifier
  queued : ∀ f, w₀.faults.Queues f → f.bucketIdentifier = id →
    w.faults.Queues f ∨ w.FlowCleared f.identifier

end World

namespace Coordinator

/-- A delete of a bucket that succeeds purges it: whatever the plan made its calls meet, and
whatever flows it made appear in the bucket on the way. -/
theorem deleteBucket_purges {id : Uuid} {claimed : Revision} {w w' : World} {b : Option Bucket}
    (hkeys : w.faults.KeysApart) (h : runWith (deleteBucket id claimed) w = (.ok b, w')) :
    w'.BucketPurged w id := by
  have hrel := relates_prune_deleteBucket id claimed w
  rw [h] at hrel
  have hp : w.Prunes id w' := hrel.prunes fun _ he => by cases he
  obtain ⟨hvac, hrev⟩ := (triple_deleteBucket_vacates id claimed).answers trivial (by rw [h])
  rw [h] at hvac hrev
  have hnoflow : ∀ f ∈ w'.catalog.flows, f.bucketIdentifier ≠ id := fun f hf hb => by
    have hmem := Catalog.mem_listFlows.2 ⟨hf, hb⟩
    rw [hvac.flows] at hmem
    cases hmem
  have hnobundle : ∀ x ∈ w'.catalog.bundles, x.bucketIdentifier ≠ id := fun x hx hb => by
    have hmem := Catalog.mem_listBundles.2 ⟨hx, hb⟩
    rw [hvac.bundles] at hmem
    cases hmem
  refine ⟨hvac, hrev, fun f hf => ?_, fun x hx => ?_, fun f hq hb => ?_⟩
  · obtain ⟨hf, hb⟩ := Catalog.mem_listFlows.1 hf
    exact (hp.flows f hf hb).resolve_left fun hf' => hnoflow f hf' hb
  · obtain ⟨hx, hb⟩ := Catalog.mem_listBundles.1 hx
    exact (hp.bundles x hx hb).resolve_left fun hx' => hnobundle x hx' hb
  · rcases hp.queued hkeys f hq hb with hq' | hf' | hc
    · exact .inl hq'
    · exact absurd hb (hnoflow f hf')
    · exact .inr hc

end Coordinator

end FlowRegistry
