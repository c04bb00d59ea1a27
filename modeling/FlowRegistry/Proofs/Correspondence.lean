import FlowRegistry.Proofs.Runs

/-!
# Every live entity holds a revision, and only they do

Buckets, flows and bundles take their revisions from one table but live in three tables of the
catalog. `World.Corresponds` says that the two agree: an id holds a revision exactly when it is
the id of a live bucket, flow or bundle, and no id is live in two kinds.

Each step of the coordinator run with nothing planned keeps this: a creation registers the id it
inserts, which had no revision and so was live nowhere (`Corresponds.created`); a delete its claim
admits removes an id together with its revision, and for a bucket those of its flows and bundles
(`Corresponds.dropBucket`); everything else keeps which ids are live and which hold a revision.
The one condition is that a delete names an entity of its own kind, or none: a delete of a bucket
made under the id and claim of a flow drops the flow's revision and keeps its record.
-/

namespace FlowRegistry

/-- Filtering a list by key drops exactly that key. -/
theorem mem_map_filter_ne {α : Type} (key : α → Uuid) (l : List α) (u x : Uuid) :
    x ∈ (l.filter fun a => key a != u).map key ↔ x ∈ l.map key ∧ x ≠ u := by
  simp only [List.mem_map, List.mem_filter, bne_iff_ne, ne_eq]
  constructor
  · rintro ⟨a, ⟨ha, hne⟩, rfl⟩
    exact ⟨⟨a, ha, rfl⟩, hne⟩
  · rintro ⟨⟨a, ha, rfl⟩, hne⟩
    exact ⟨a, ⟨ha, hne⟩, rfl⟩

namespace Catalog

variable {c c' : Catalog} {k : Kind} {u x : Uuid}

/-! An insert that succeeds adds its id to its own kind. -/

theorem live_insertBucket {b : Bucket} (h : c.insertBucket b = .ok c') (k : Kind) (x : Uuid) :
    c'.Live k x ↔ c.Live k x ∨ (k = .bucket ∧ x = b.identifier) := by
  unfold insertBucket at h
  split at h
  · cases h
  · cases h
    cases k <;> simp [Live, ids, mem_map_insertById, or_comm]

theorem live_insertFlow {f : Flow} (h : c.insertFlow f = .ok c') (k : Kind) (x : Uuid) :
    c'.Live k x ↔ c.Live k x ∨ (k = .flow ∧ x = f.identifier) := by
  unfold insertFlow at h
  split at h
  · cases h
  · split at h
    · cases h
    · cases h
      cases k <;> simp [Live, ids, mem_map_insertById, or_comm]

theorem live_insertBundle {b : Bundle} (h : c.insertBundle b = .ok c') (k : Kind) (x : Uuid) :
    c'.Live k x ↔ c.Live k x ∨ (k = .bundle ∧ x = b.identifier) := by
  unfold insertBundle at h
  split at h
  · cases h
  · split at h
    · cases h
    · cases h
      cases k <;> simp [Live, ids, mem_map_insertById, or_comm]

end Catalog

namespace World

theorem live_dropFlow (w : World) (u : Uuid) (k : Kind) (x : Uuid) :
    (w.dropFlow u).catalog.Live k x ↔ w.catalog.Live k x ∧ (k = .flow → x ≠ u) := by
  cases k
  · simp [Catalog.Live, Catalog.ids]
  · exact (mem_map_filter_ne _ _ _ _).trans (and_congr_right fun _ => (imp_iff_right rfl).symm)
  · simp [Catalog.Live, Catalog.ids]

theorem live_dropBundle (w : World) (u : Uuid) (k : Kind) (x : Uuid) :
    (w.dropBundle u).catalog.Live k x ↔ w.catalog.Live k x ∧ (k = .bundle → x ≠ u) := by
  cases k
  · simp [Catalog.Live, Catalog.ids]
  · simp [Catalog.Live, Catalog.ids]
  · exact (mem_map_filter_ne _ _ _ _).trans (and_congr_right fun _ => (imp_iff_right rfl).symm)

theorem live_foldl_dropFlow (xs : List Flow) (w : World) {k : Kind} {x : Uuid}
    (hx : (xs.foldl (fun y f => y.dropFlow f.identifier) w).catalog.Live k x) : w.catalog.Live k x := by
  induction xs generalizing w with
  | nil => exact hx
  | cons f fs ih => exact ((live_dropFlow w _ k x).1 (ih _ hx)).1

theorem live_foldl_dropBundle (xs : List Bundle) (w : World) {k : Kind} {x : Uuid}
    (hx : (xs.foldl (fun y b => y.dropBundle b.identifier) w).catalog.Live k x) :
    w.catalog.Live k x := by
  induction xs generalizing w with
  | nil => exact hx
  | cons b bs ih => exact ((live_dropBundle w _ k x).1 (ih _ hx)).1

theorem live_dropChildren {w : World} {id : Uuid} {k : Kind} {x : Uuid}
    (hx : (w.dropChildren id).catalog.Live k x) : w.catalog.Live k x :=
  live_foldl_dropFlow _ _ (live_foldl_dropBundle _ _ hx)

/-- The ids that hold a revision are the ids of the live buckets, flows and bundles, and no id is
live in two kinds. -/
structure Corresponds (w : World) : Prop where
  revised : ∀ e, (w.revisions.get? e).isSome ↔ ∃ k u, w.catalog.Live k u ∧ u.text = e
  disjoint : ∀ k k' u, w.catalog.Live k u → w.catalog.Live k' u → k = k'

theorem corresponds_fresh (content : ContentStore) (clock : Time.Instant) :
    (fresh content clock).Corresponds where
  revised e := by
    simp only [fresh, RevisionTable.empty, RevisionTable.get?, List.find?_nil, Option.isSome_none,
      Bool.false_eq_true, false_iff, not_exists, not_and]
    exact fun _ _ hlive => absurd hlive Catalog.not_live_empty
  disjoint _ _ _ hlive := absurd hlive Catalog.not_live_empty

namespace Corresponds

variable {w w' v : World} {k : Kind} {u : Uuid}

/-- The correspondence is a property of the entities alone. -/
theorem of_entities (h : w.Corresponds) (he : w'.entities = w.entities) : w'.Corresponds := by
  have hrev : ∀ e, (w'.revisions.get? e).isSome = (w.revisions.get? e).isSome :=
    fun e => congrFun (congrArg Prod.fst he) e
  have hcat : w'.catalog.Live = w.catalog.Live := congrArg Prod.snd he
  exact ⟨fun e => by rw [hrev, hcat]; exact h.revised e, by rw [hcat]; exact h.disjoint⟩

theorem held (h : w.Corresponds) (hu : w.catalog.Live k u) : (w.revisions.get? u.text).isSome :=
  (h.revised _).2 ⟨k, u, hu, rfl⟩

theorem only (h : w.Corresponds) (hu : w.catalog.Live k u) : w.catalog.Only k u :=
  fun k' hk' => h.disjoint k' k u hk' hu

/-- A new entity, whose id held no revision, is registered under its initial revision. -/
theorem created {c : Catalog} (h : v.Corresponds) (habsent : v.revisions.get? u.text = none)
    (hlive : ∀ k' x, c.Live k' x ↔ v.catalog.Live k' x ∨ (k' = k ∧ x = u)) (client : String) :
    ({ v with
      catalog := c
      revisions := v.revisions.store (Revision.initial u.text client) } : World).Corresponds where
  revised e := by
    simp only [RevisionTable.get?_store, Revision.initial]
    by_cases he : u.text = e
    · subst he
      rw [if_pos rfl]
      exact iff_of_true rfl ⟨k, u, (hlive k u).2 (.inr ⟨rfl, rfl⟩), rfl⟩
    · rw [if_neg he, h.revised e]
      constructor
      · rintro ⟨k', x, hx, rfl⟩
        exact ⟨k', x, (hlive k' x).2 (.inl hx), rfl⟩
      · rintro ⟨k', x, hx, rfl⟩
        rcases (hlive k' x).1 hx with hx | ⟨-, rfl⟩
        · exact ⟨k', x, hx, rfl⟩
        · exact absurd rfl he
  disjoint k₁ k₂ x h₁ h₂ := by
    have hnew : ∀ k', ¬v.catalog.Live k' u := fun k' hu => by
      have := h.held hu
      rw [habsent] at this
      cases this
    rcases (hlive k₁ x).1 h₁ with old₁ | ⟨rfl, rfl⟩
    · rcases (hlive k₂ x).1 h₂ with old₂ | ⟨rfl, rfl⟩
      · exact h.disjoint _ _ _ old₁ old₂
      · exact absurd old₁ (hnew _)
    · rcases (hlive k₂ _).1 h₂ with old₂ | ⟨rfl, -⟩
      · exact absurd old₂ (hnew _)
      · rfl

/-- An id goes from every kind together with its revision. -/
theorem erase (h : w.Corresponds) (hrev : w'.revisions = (w.revisions.delete u.text).1)
    (hlive : ∀ k x, w'.catalog.Live k x ↔ w.catalog.Live k x ∧ x ≠ u) : w'.Corresponds where
  revised e := by
    rw [hrev, RevisionTable.get?_delete]
    by_cases he : e = u.text
    · subst he
      rw [if_pos rfl]
      exact iff_of_false Bool.false_ne_true fun ⟨k, x, hx, htext⟩ =>
        ((hlive k x).1 hx).2 (Uuid.text_injective htext)
    · rw [if_neg he, h.revised e]
      constructor
      · rintro ⟨k, x, hx, rfl⟩
        exact ⟨k, x, (hlive k x).2 ⟨hx, fun hxu => he (hxu ▸ rfl)⟩, rfl⟩
      · rintro ⟨k, x, hx, rfl⟩
        exact ⟨k, x, ((hlive k x).1 hx).1, rfl⟩
  disjoint k k' x h₁ h₂ := h.disjoint k k' x ((hlive k x).1 h₁).1 ((hlive k' x).1 h₂).1

theorem dropFlow (h : w.Corresponds) (hu : w.catalog.Only .flow u) : (w.dropFlow u).Corresponds :=
  h.erase rfl fun k x => (live_dropFlow w u k x).trans hu.live_iff

theorem dropBundle (h : w.Corresponds) (hu : w.catalog.Only .bundle u) :
    (w.dropBundle u).Corresponds :=
  h.erase rfl fun k x => (live_dropBundle w u k x).trans hu.live_iff

theorem foldl_dropFlow (xs : List Flow) (h : w.Corresponds)
    (hxs : ∀ f ∈ xs, w.catalog.Only .flow f.identifier) :
    (xs.foldl (fun y f => y.dropFlow f.identifier) w).Corresponds := by
  induction xs generalizing w with
  | nil => exact h
  | cons f fs ih =>
    refine ih (h.dropFlow (hxs f List.mem_cons_self)) fun g hg => ?_
    exact (hxs g (List.mem_cons_of_mem _ hg)).mono fun k x hx => ((live_dropFlow w _ k x).1 hx).1

theorem foldl_dropBundle (xs : List Bundle) (h : w.Corresponds)
    (hxs : ∀ b ∈ xs, w.catalog.Only .bundle b.identifier) :
    (xs.foldl (fun y b => y.dropBundle b.identifier) w).Corresponds := by
  induction xs generalizing w with
  | nil => exact h
  | cons b bs ih =>
    refine ih (h.dropBundle (hxs b List.mem_cons_self)) fun g hg => ?_
    exact (hxs g (List.mem_cons_of_mem _ hg)).mono fun k x hx => ((live_dropBundle w _ k x).1 hx).1

/-- A bucket goes with its flows and bundles, each of which is live in its own kind only. -/
theorem dropBucket (h : w.Corresponds) {id : Uuid} (hu : w.catalog.Only .bucket id) :
    (w.dropBucket id).Corresponds := by
  have hflows : ∀ f ∈ w.catalog.listFlows id, w.catalog.Only .flow f.identifier := fun f hf =>
    h.only (List.mem_map.2 ⟨f, (Catalog.mem_listFlows.1 hf).1, rfl⟩)
  have hbundles : ∀ b ∈ w.catalog.listBundles id,
      ((w.catalog.listFlows id).foldl (fun y f => y.dropFlow f.identifier) w).catalog.Only
        .bundle b.identifier := fun b hb =>
    (h.only (List.mem_map.2 ⟨b, (Catalog.mem_listBundles.1 hb).1, rfl⟩)).mono
      fun _ _ hx => live_foldl_dropFlow _ _ hx
  have hchildren : (w.dropChildren id).Corresponds :=
    (h.foldl_dropFlow _ hflows).foldl_dropBundle _ hbundles
  have hstays : ∀ k x, k ≠ .bucket → (w.dropChildren id).catalog.Live k x → x ≠ id :=
    fun k x hk hx hxid => hk (hu k (hxid ▸ live_dropChildren hx))
  refine hchildren.erase rfl fun k x => ?_
  cases k
  · exact mem_map_filter_ne _ _ _ _
  · exact ⟨fun hx => ⟨hx, hstays .flow x (by decide) hx⟩, And.left⟩
  · exact ⟨fun hx => ⟨hx, hstays .bundle x (by decide) hx⟩, And.left⟩

end Corresponds

end World

/-! ### Each step keeps the correspondence -/

section Steps

variable {α : Type} {v w u : World} {p : FaultPlan}

theorem Settles.corresponds {m : Registry α} {o : Outcome α} (hs : Settles m w o u)
    (hu : u.Corresponds) : (runWith m w).2.Corresponds := by
  obtain ⟨q, -, hrun⟩ := hs
  rw [hrun]
  exact hu.of_entities rfl

theorem Settles.Either.corresponds {m : Registry α} {P : World → Prop} (he : Settles.Either m v P)
    (hp : p.Steady) (hv : v.Corresponds) (hP : ∀ u, P u → u.Corresponds) :
    (runWith m { v with faults := p }).2.Corresponds := by
  rcases he p hp with ⟨_, hs⟩ | ⟨_, u, hu, hs⟩
  · exact hs.corresponds hv
  · exact hs.corresponds (hP u hu)

namespace World.Corresponds

theorem within {m : Registry α} (h : v.Corresponds) (hp : p.Steady)
    (hm : Within [] World.entities m) : (runWith m { v with faults := p }).2.Corresponds :=
  h.of_entities (hm _ (World.calm_replan hp v)).view

/-- A change keeps the correspondence: a creation registers the id it inserts, every other
change keeps the entities. -/
theorem change (h : v.Corresponds) (hp : p.Steady) (m : Coordinator.Mutation) :
    (runWith m.run { v with faults := p }).2.Corresponds := by
  cases m with
  | createBucket r claimed user =>
    refine ((Coordinator.either_createBucket r claimed user).map _).corresponds hp h ?_
    rintro _ ⟨b, c, hb, habsent, hc, rfl⟩
    exact h.created habsent (hb ▸ Catalog.live_insertBucket hc) _
  | updateBucket id claimed change user =>
    exact h.within hp ((Coordinator.within_updateBucket_entities id claimed change user).map _)
  | createFlow r claimed user =>
    refine ((Coordinator.either_createFlow r claimed user).map _).corresponds hp h ?_
    rintro _ ⟨f, c, hf, -, -, habsent, hc, rfl⟩
    exact h.created habsent (hf ▸ Catalog.live_insertFlow hc) _
  | updateFlow id claimed change user =>
    exact h.within hp ((Coordinator.within_updateFlow_entities id claimed change user).map _)
  | createSnapshot flowId claimed r user =>
    exact h.within hp ((Coordinator.within_createSnapshot_entities flowId claimed r user).map _)
  | createBundle r claimed user =>
    refine ((Coordinator.either_createBundle r claimed user).map _).corresponds hp h ?_
    rintro _ ⟨b, c, hb, -, -, habsent, hc, rfl⟩
    exact h.created habsent (hb ▸ Catalog.live_insertBundle hc) _
  | updateBundle id claimed description user =>
    exact h.within hp ((Coordinator.within_updateBundle_entities id claimed description user).map _)
  | addBundleVersion bundleId claimed version data user =>
    exact h.within hp
      ((Coordinator.within_addBundleVersion_entities bundleId claimed version data user).map _)

/-- A delete its claim refuses changes nothing; one it admits settles where `haccepted` says. -/
theorem deleteWith {deletion : Registry α} (h : v.Corresponds) (hp : p.Steady) (e : String)
    (claimed : Revision)
    (haccepted : claimed.entityId = e → ∀ cur, v.revisions.get? e = some cur →
      cur.version = claimed.version → ∃ a u, u.Corresponds ∧
        Settles (Manager.deleteWith e claimed deletion) { v with faults := p } (.ok a) u) :
    (runWith (Manager.deleteWith e claimed deletion) { v with faults := p }).2.Corresponds := by
  by_cases hgranted : claimed.entityId = e ∧
      ∃ cur, v.revisions.get? e = some cur ∧ cur.version = claimed.version
  · obtain ⟨hentity, cur, hcur, hver⟩ := hgranted
    obtain ⟨_, u, hu, hs⟩ := haccepted hentity cur hcur hver
    exact hs.corresponds hu
  · obtain ⟨_, hs⟩ := Manager.settles_deleteWith_refused deletion hp hgranted
    exact hs.corresponds h

/-- One step of a run with nothing planned, whose delete is aimed, keeps the correspondence. -/
theorem step (h : w.Corresponds) (hp : p.Steady) (t : Time.Instant) (op : Operation)
    (hop : op.Aimed w.catalog) : (runWith op.run { w with faults := p, clock := t }).2.Corresponds := by
  have hw : ({ w with clock := t } : World).Corresponds := h.of_entities rfl
  cases op with
  | change m => exact hw.change hp m
  | deleteBucket id claimed =>
    rw [Operation.run, runWith_map]
    exact hw.deleteWith hp id.text claimed fun hentity cur hcur hver =>
      ⟨_, _, hw.dropBucket hop,
        Coordinator.settles_deleteBucket hp hentity hcur hver (Catalog.Only.unnested hop)⟩
  | deleteFlow id claimed =>
    rw [Operation.run, runWith_map]
    exact hw.deleteWith hp id.text claimed fun hentity cur hcur hver =>
      ⟨_, _, hw.dropFlow hop, Coordinator.settles_deleteFlow hp hentity hcur hver⟩
  | deleteBundle id claimed =>
    rw [Operation.run, runWith_map]
    exact hw.deleteWith hp id.text claimed fun hentity cur hcur hver =>
      ⟨_, _, hw.dropBundle hop, Coordinator.settles_deleteBundle hp hentity hcur hver⟩
  | read q => exact hw.of_entities (q.within_run.entities _ (World.calm_replan hp { w with clock := t })).view

end World.Corresponds

end Steps

/-! ### Runs with nothing planned -/

/-- A step made with nothing planned, by an operation whose delete is aimed. -/
def Operation.Unfaulted (w : World) (p : FaultPlan) (op : Operation) : Prop :=
  p.Steady ∧ op.Aimed w.catalog

/-- Every registry that a run with nothing planned reaches keeps the correspondence. -/
theorem Reaches.corresponds {w : World} (hw : Reaches Operation.Unfaulted w) : w.Corresponds := by
  induction hw with
  | fresh content clock => exact World.corresponds_fresh content clock
  | step _ t op hop ih => exact ih.step hop.1 t op hop.2

/-! ### What the reads of entities answer -/

/-- `rs` lists `xs`, in order, each with the revision its id holds in `t`. -/
def RevisionTable.Lists {α : Type} (t : RevisionTable) (key : α → Uuid) (rs : List (Revisioned α))
    (xs : List α) : Prop :=
  rs.map (·.entity) = xs ∧ ∀ r ∈ rs, t.get? (key r.entity).text = some r.revision

/-- What the reads of entities answer under a plan: a live bucket, flow or bundle with the
revision its id holds, and a listing of buckets, or of the flows or bundles of a live bucket,
with every entity in it, in its order, each with its revision. -/
structure World.ReadsRevisions (w : World) (p : FaultPlan) : Prop where
  getBucket : ∀ id b, w.catalog.fetchBucket id = some b → ∃ r, w.revisions.get? id.text = some r ∧
    (runWith (Coordinator.getBucket id) { w with faults := p }).1 = .ok ⟨b, r⟩
  getFlow : ∀ id f, w.catalog.fetchFlow id = some f → ∃ r, w.revisions.get? id.text = some r ∧
    (runWith (Coordinator.getFlow id) { w with faults := p }).1 = .ok ⟨f, r⟩
  getBundle : ∀ id b, w.catalog.fetchBundle id = some b → ∃ r, w.revisions.get? id.text = some r ∧
    (runWith (Coordinator.getBundle id) { w with faults := p }).1 = .ok ⟨b, r⟩
  listBuckets : ∃ rs, (runWith Coordinator.listBuckets { w with faults := p }).1 = .ok rs ∧
    w.revisions.Lists (·.identifier) rs w.catalog.listBuckets
  listFlows : ∀ b, (w.catalog.fetchBucket b).isSome → ∃ rs,
    (runWith (Coordinator.listFlows b) { w with faults := p }).1 = .ok rs ∧
      w.revisions.Lists (·.identifier) rs (w.catalog.listFlows b)
  listBundles : ∀ b, (w.catalog.fetchBucket b).isSome → ∃ rs,
    (runWith (Coordinator.listBundles b) { w with faults := p }).1 = .ok rs ∧
      w.revisions.Lists (·.identifier) rs (w.catalog.listBundles b)

theorem Catalog.mem_listBuckets {c : Catalog} {b : Bucket} : b ∈ c.listBuckets ↔ b ∈ c.buckets := by
  simp [Catalog.listBuckets, List.mem_mergeSort]

namespace World.Corresponds

variable {w : World} {p : FaultPlan}

/-- A live entity is read with the revision its id holds. -/
theorem revisioned {α : Type} (h : w.Corresponds) {k : Kind} {id : Uuid} (hid : w.catalog.Live k id)
    (x : α) : ∃ r, w.revisions.get? id.text = some r ∧ ∀ q : FaultPlan, q.Steady →
      Settles (do pure ⟨x, ← Manager.getRevision id.text⟩) { w with faults := q }
        (.ok (⟨x, r⟩ : Revisioned α)) w := by
  obtain ⟨r, hr⟩ := Option.isSome_iff_exists.1 (h.held hid)
  exact ⟨r, hr, fun q hq => (Manager.settles_getRevision hq hr).bind fun q' hq' => Settles.pure' hq' _⟩

/-- A listing of live entities reads each with the revision its id holds. -/
theorem listed {α : Type} (h : w.Corresponds) (key : α → Uuid) (k : Kind) (xs : List α)
    (hxs : ∀ x ∈ xs, w.catalog.Live k (key x)) :
    ∃ rs, w.revisions.Lists key rs xs ∧ ∀ q : FaultPlan, q.Steady → Settles (xs.mapM fun x => do
      pure (⟨x, ← Manager.getRevision (key x).text⟩ : Revisioned α)) { w with faults := q } (.ok rs) w := by
  obtain ⟨rs, hmap, hrev, hs⟩ := Settles.listMapM (k := Revisioned.entity)
    (Q := fun y => w.revisions.get? (key y.entity).text = some y.revision) xs
    fun x hx => by
      obtain ⟨r, hr, hs⟩ := h.revisioned (hxs x hx) x
      exact ⟨⟨x, r⟩, rfl, hr, hs⟩
  exact ⟨rs, ⟨hmap, hrev⟩, hs⟩

/-- With nothing planned, every read of entities answers with the revisions their ids hold. -/
theorem readsRevisions (h : w.Corresponds) (hp : p.Steady) : w.ReadsRevisions p where
  getBucket id b hb := by
    have hid : w.catalog.Live .bucket id := Catalog.mem_ids_of_fetchBucket (by simp [hb])
    obtain ⟨r, hr, hs⟩ := h.revisioned hid b
    exact ⟨r, hr, ((Coordinator.settles_requireBucket hp hb).bind hs).outcome⟩
  getFlow id f hf := by
    have hid : w.catalog.Live .flow id := Catalog.mem_ids_of_fetchFlow (by simp [hf])
    obtain ⟨r, hr, hs⟩ := h.revisioned hid f
    exact ⟨r, hr, ((Coordinator.settles_requireFlow hp hf).bind hs).outcome⟩
  getBundle id b hb := by
    have hid : w.catalog.Live .bundle id := Catalog.mem_ids_of_fetchBundle (by simp [hb])
    obtain ⟨r, hr, hs⟩ := h.revisioned hid b
    exact ⟨r, hr, ((Coordinator.settles_requireBundle hp hb).bind hs).outcome⟩
  listBuckets := by
    obtain ⟨rs, hlists, hs⟩ := h.listed (·.identifier) .bucket w.catalog.listBuckets
      fun b hb => List.mem_map.2 ⟨b, Catalog.mem_listBuckets.1 hb, rfl⟩
    exact ⟨rs, ((World.settles_readCatalog hp _ _).bind hs).outcome, hlists⟩
  listFlows b hb := by
    obtain ⟨bucket, hbucket⟩ := Option.isSome_iff_exists.1 hb
    obtain ⟨rs, hlists, hs⟩ := h.listed (·.identifier) .flow (w.catalog.listFlows b)
      fun f hf => List.mem_map.2 ⟨f, (Catalog.mem_listFlows.1 hf).1, rfl⟩
    exact ⟨rs, ((Coordinator.settles_requireBucket hp hbucket).bind fun q hq =>
      (World.settles_readCatalog hq _ _).bind hs).outcome, hlists⟩
  listBundles b hb := by
    obtain ⟨bucket, hbucket⟩ := Option.isSome_iff_exists.1 hb
    obtain ⟨rs, hlists, hs⟩ := h.listed (·.identifier) .bundle (w.catalog.listBundles b)
      fun x hx => List.mem_map.2 ⟨x, (Catalog.mem_listBundles.1 hx).1, rfl⟩
    exact ⟨rs, ((Coordinator.settles_requireBucket hp hbucket).bind fun q hq =>
      (World.settles_readCatalog hq _ _).bind hs).outcome, hlists⟩

end World.Corresponds

/-! ### Runs from empty stores -/

/-- In every run with nothing planned whose deletes are aimed, the ids that hold a revision are
the ids of the live buckets, flows and bundles, one kind each, and every read of entities answers
with the revisions their ids hold. -/
theorem revisions_track_live_entities {w : World} (hw : Reaches Operation.Unfaulted w) :
    w.Corresponds ∧ ∀ p : FaultPlan, p.Steady → w.ReadsRevisions p :=
  ⟨hw.corresponds, fun _ hp => hw.corresponds.readsRevisions hp⟩

theorem revisions_track_live_entities_of_one_bucket :
    let t : Time.Instant := ⟨0, 0, 0⟩
    let w := (runWith (Operation.change (.createBucket ⟨⟨⟨0xb1, by decide⟩⟩, "Team", none, false, false⟩
      ⟨"", 0, "c"⟩ "user")).run { World.fresh default t with faults := FaultPlan.empty, clock := t }).2
    Reaches Operation.Unfaulted w ∧ w.Corresponds ∧ ∀ p : FaultPlan, p.Steady → w.ReadsRevisions p := by
  intro t w
  have hw : Reaches Operation.Unfaulted w :=
    .step (.fresh default t) t _ ⟨FaultPlan.steady_empty, trivial⟩
  exact ⟨hw, revisions_track_live_entities hw⟩

/-- A delete of a bucket made under the id and claim of a flow is not aimed: it drops the flow's
revision and keeps its record, and the flow can no longer be read. -/
theorem bucket_delete_of_flow_orphans_it :
    let t : Time.Instant := ⟨0, 0, 0⟩
    let b : Uuid := ⟨⟨0xb1, by decide⟩⟩
    let f : Uuid := ⟨⟨0xf1, by decide⟩⟩
    let w₁ := (runWith (Operation.change (.createBucket ⟨b, "Team", none, false, false⟩
      ⟨"", 0, "c"⟩ "user")).run { World.fresh default t with faults := FaultPlan.empty, clock := t }).2
    let w₂ := (runWith (Operation.change (.createFlow ⟨f, b, "Flow", none⟩ ⟨"", 0, "c"⟩ "user")).run
      { w₁ with faults := FaultPlan.empty, clock := t }).2
    let w₃ := (runWith (Operation.deleteBucket f ⟨f.text, 0, "c"⟩).run
      { w₂ with faults := FaultPlan.empty, clock := t }).2
    ¬(Operation.deleteBucket f ⟨f.text, 0, "c"⟩).Aimed w₂.catalog ∧ w₃.catalog.Live .flow f ∧
      (runWith (Coordinator.getFlow f) w₃).1 = .error (.notFound s!"revision for entity {f.text}") := by
  intro t b f w₁ w₂ w₃
  exact ⟨by decide +kernel, by decide +kernel, Outcome.eq_error_of_failsWith (by decide +kernel)⟩

end FlowRegistry
