import FlowRegistry.Proofs.Keys
import FlowRegistry.Proofs.Frames
import FlowRegistry.Proofs.Effects
import FlowRegistry.Coordinator.Snapshots
import FlowRegistry.Coordinator.Bundles

/-!
# Runs with nothing planned

Under a plan that fails no call and queues no flow (`FaultPlan.Steady`) every call reaches its
store, and a run of the registry is a function of its stores. `Settles m w o v` says that `m`,
run at `w`, answers `o` and leaves the stores and the clock of `v` under a plan that is still
steady; it passes through `bind` and `forM`, and each call of the stores has a lemma saying what
it settles to. `Settles.Either m v P` says that `m` fails with the stores of `v`, or succeeds
with stores that `P` accepts.

Main statements: what a creation leaves (`Coordinator.either_createBucket`, `either_createFlow`,
`either_createBundle`), and what a delete its claim admits leaves
(`Coordinator.settles_deleteFlow`, `settles_deleteBundle`, `settles_deleteBucket`): the entity's
revision, record, snapshot records or bundle versions and content are gone, and for a bucket
those of every flow and bundle in it (`World.dropBucket`), when none of them has the bucket's id:
the delete of such a child waits for the lock the bucket's delete holds (`lockChild`).
-/

namespace FlowRegistry

namespace FaultPlan

/-- A plan that fails no call and queues no flow. -/
structure Steady (p : FaultPlan) : Prop where
  quiet : p.Quiet
  calm : ∀ q ∈ p.queued, q.2 = []

theorem steady_empty : FaultPlan.empty.Steady := ⟨rfl, fun _ h => by cases h⟩

theorem Steady.pending {p : FaultPlan} (h : p.Steady) : p.pending = 0 := by
  have none_planned : p.failures = [] := h.quiet
  simp [FaultPlan.pending, none_planned]

theorem Steady.queuedFlows {p : FaultPlan} (h : p.Steady) : p.queuedFlows = 0 := by
  unfold FaultPlan.queuedFlows
  have hcalm := h.calm
  generalize p.queued = qs at hcalm ⊢
  induction qs with
  | nil => rfl
  | cons q qs ih =>
    rw [List.map_cons, List.foldr_cons, hcalm q List.mem_cons_self,
      ih fun r hr => hcalm r (List.mem_cons_of_mem _ hr)]
    rfl

end FaultPlan

theorem World.steady_pass {w : World} (h : w.faults.Steady) (c : Call) : (w.pass c).faults.Steady :=
  ⟨quiet_pass h.quiet c, calm_pass h.calm c⟩

/-! ### Settled runs -/

section Settles

variable {α β : Type} {w v u : World} {p : FaultPlan}

/-- Run at `w`, `m` answers `o` and leaves the stores and the clock of `v`, under a plan that is
still steady. -/
def Settles (m : Registry α) (w : World) (o : Outcome α) (v : World) : Prop :=
  ∃ q : FaultPlan, q.Steady ∧ runWith m w = (o, { v with faults := q })

namespace Settles

theorem pure' (hp : p.Steady) (a : α) : Settles (pure a) { v with faults := p } (.ok a) v :=
  ⟨p, hp, rfl⟩

theorem throw' (hp : p.Steady) (e : RegistryError) :
    Settles (throw e : Registry α) { v with faults := p } (.error e) v :=
  ⟨p, hp, rfl⟩

theorem bind {m : Registry α} {f : α → Registry β} {a : α} {o : Outcome β}
    (hm : Settles m w (.ok a) v)
    (hf : ∀ q : FaultPlan, q.Steady → Settles (f a) { v with faults := q } o u) :
    Settles (m >>= f) w o u := by
  obtain ⟨q, hq, hrun⟩ := hm
  obtain ⟨r, hr, hrun'⟩ := hf q hq
  exact ⟨r, hr, by rw [runWith_bind, hrun]; exact hrun'⟩

theorem bind_error {m : Registry α} {e : RegistryError} (hm : Settles m w (.error e) v)
    (f : α → Registry β) : Settles (m >>= f) w (.error e) v := by
  obtain ⟨q, hq, hrun⟩ := hm
  exact ⟨q, hq, by rw [runWith_bind, hrun]⟩

theorem map {m : Registry α} {o : Outcome α} (hm : Settles m w o v) (g : α → β) :
    Settles (g <$> m) w (o.map g) v := by
  obtain ⟨q, hq, hrun⟩ := hm
  exact ⟨q, hq, by rw [runWith_map, hrun]⟩

theorem tryCatch_ok {m : Registry α} {a : α} (hm : Settles m w (.ok a) v)
    (h : RegistryError → Registry α) : Settles (tryCatch m h) w (.ok a) v := by
  obtain ⟨q, hq, hrun⟩ := hm
  exact ⟨q, hq, by rw [runWith_tryCatch, hrun]⟩

theorem tryCatch_error {m : Registry α} {h : RegistryError → Registry α} {e : RegistryError}
    {o : Outcome α} (hm : Settles m w (.error e) v)
    (hh : ∀ q : FaultPlan, q.Steady → Settles (h e) { v with faults := q } o u) :
    Settles (tryCatch m h) w o u := by
  obtain ⟨q, hq, hrun⟩ := hm
  obtain ⟨r, hr, hrun'⟩ := hh q hq
  exact ⟨r, hr, by rw [runWith_tryCatch, hrun]; exact hrun'⟩

theorem lift_bind_ok {o : Outcome α} {a : α} (ho : o = .ok a) {f : α → Registry β}
    {res : Outcome β} (h : Settles (f a) w res v) : Settles (World.lift o >>= f) w res v := by
  subst ho
  exact h

theorem lift_bind_error (hp : p.Steady) {o : Outcome α} {e : RegistryError} (ho : o = .error e)
    (f : α → Registry β) : Settles (World.lift o >>= f) { v with faults := p } (.error e) v := by
  subst ho
  exact (Settles.throw' hp e).bind_error f

/-- A loop whose body settles each listed element's effect settles all of them, one after
another. -/
theorem forM {γ : Type} {body : γ → Registry Unit} {g : γ → World → World} :
    ∀ (xs : List γ), (∀ x ∈ xs, ∀ (v : World) (p : FaultPlan), p.Steady →
      Settles (body x) { v with faults := p } (.ok ()) (g x v)) →
    ∀ (v : World) (p : FaultPlan), p.Steady →
      Settles (xs.forM body) { v with faults := p } (.ok ()) (xs.foldl (fun w x => g x w) v)
  | [], _, _, _, hp => Settles.pure' hp ()
  | x :: xs, hbody, v, p, hp => by
    show Settles (body x >>= fun _ => xs.forM body) _ _ (xs.foldl _ (g x v))
    exact (hbody x List.mem_cons_self v p hp).bind fun q hq =>
      forM xs (fun y hy => hbody y (List.mem_cons_of_mem _ hy)) (g x v) q hq

theorem bind_run {m : Registry α} {f : α → Registry β} {a : α} {o : Outcome β} {q : FaultPlan}
    (hrun : runWith m w = (.ok a, { v with faults := q }))
    (hf : Settles (f a) { v with faults := q } o u) : Settles (m >>= f) w o u := by
  obtain ⟨r, hr, hrun'⟩ := hf
  exact ⟨r, hr, by rw [runWith_bind, hrun]; exact hrun'⟩

/-- A map over a list whose every step settles where it started settles there too, with the
answers the steps give, in order. -/
theorem listMapM {γ δ : Type} {f : γ → Registry δ} {k : δ → γ} {Q : δ → Prop} :
    ∀ xs : List γ, (∀ x ∈ xs, ∃ y, k y = x ∧ Q y ∧
      ∀ q : FaultPlan, q.Steady → Settles (f x) { v with faults := q } (.ok y) v) →
    ∃ ys, ys.map k = xs ∧ (∀ y ∈ ys, Q y) ∧
      ∀ p : FaultPlan, p.Steady → Settles (xs.mapM f) { v with faults := p } (.ok ys) v
  | [], _ => ⟨[], rfl, (fun _ h => nomatch h), fun p hp => by
    rw [List.mapM_nil]
    exact Settles.pure' hp []⟩
  | x :: xs, hf => by
    obtain ⟨y, hk, hQ, hy⟩ := hf x List.mem_cons_self
    obtain ⟨ys, hks, hQs, hys⟩ := listMapM xs fun x hx => hf x (List.mem_cons_of_mem _ hx)
    refine ⟨y :: ys, by rw [List.map_cons, hk, hks], ?_, fun p hp => ?_⟩
    · intro z hz
      rcases List.mem_cons.1 hz with rfl | hz
      · exact hQ
      · exact hQs z hz
    · rw [List.mapM_cons]
      exact (hy p hp).bind fun q hq => (hys q hq).bind fun r hr => Settles.pure' hr _

/-- A settled run answers what it says. -/
theorem outcome {m : Registry α} {o : Outcome α} (h : Settles m w o v) : (runWith m w).1 = o := by
  obtain ⟨q, -, hrun⟩ := h
  rw [hrun]

end Settles


end Settles

/-! ### Store calls -/

namespace World

section Calls

variable {α : Type} {v : World} {p : FaultPlan}

theorem calm_replan (hp : p.Steady) (v : World) : ({ v with faults := p } : World).Calm := hp.calm

theorem quiet_replan (hp : p.Steady) (v : World) : ({ v with faults := p } : World).faults.Quiet :=
  hp.quiet

theorem settles_now (hp : p.Steady) : Settles now { v with faults := p } (.ok v.clock) v :=
  ⟨p, hp, rfl⟩

theorem settles_pendingFailures (hp : p.Steady) :
    Settles pendingFailures { v with faults := p } (.ok 0) v :=
  ⟨p, hp, by simp [pendingFailures, Except.map, hp.pending]⟩

theorem settles_queuedFlows (hp : p.Steady) :
    Settles queuedFlows { v with faults := p } (.ok 0) v :=
  ⟨p, hp, by simp [queuedFlows, Except.map, hp.queuedFlows]⟩

theorem settles_readCatalog (hp : p.Steady) (m : String) (f : Catalog → α) :
    Settles (readCatalog m f) { v with faults := p } (.ok (f v.catalog)) v := by
  refine ⟨_, steady_pass (w := { v with faults := p }) hp ⟨.metadata, m⟩, ?_⟩
  rw [runWith_readCatalog (calm_replan hp v), planned_of_quiet (quiet_replan hp v)]
  rfl

theorem settles_writeCatalog (hp : p.Steady) {m : String} {f : Catalog → Outcome Catalog}
    {c : Catalog} (hf : f v.catalog = .ok c) :
    Settles (writeCatalog m f) { v with faults := p } (.ok ()) { v with catalog := c } := by
  refine ⟨_, steady_pass (w := { v with faults := p }) hp ⟨.metadata, m⟩, ?_⟩
  rw [runWith_writeCatalog (calm_replan hp v), planned_of_quiet (quiet_replan hp v)]
  simp only [hf]
  rfl

theorem settles_writeCatalog_error (hp : p.Steady) {m : String} {f : Catalog → Outcome Catalog}
    {e : RegistryError} (hf : f v.catalog = .error e) :
    Settles (writeCatalog m f) { v with faults := p } (.error e) v := by
  refine ⟨_, steady_pass (w := { v with faults := p }) hp ⟨.metadata, m⟩, ?_⟩
  rw [runWith_writeCatalog (calm_replan hp v), planned_of_quiet (quiet_replan hp v)]
  simp only [hf]
  rfl

theorem settles_changeCatalog (hp : p.Steady) (m : String) (f : Catalog → α × Catalog) :
    Settles (changeCatalog m f) { v with faults := p } (.ok (f v.catalog).1)
      { v with catalog := (f v.catalog).2 } := by
  refine ⟨_, steady_pass (w := { v with faults := p }) hp ⟨.metadata, m⟩, ?_⟩
  rw [runWith_changeCatalog (calm_replan hp v), planned_of_quiet (quiet_replan hp v)]
  rfl

theorem settles_deleteBucket (hp : p.Steady) {id : Uuid} {existed : Bool} {c : Catalog}
    (hf : v.catalog.deleteBucket id = .ok (existed, c)) :
    Settles (deleteBucket id) { v with faults := p } (.ok existed) { v with catalog := c } := by
  refine ⟨_, steady_pass (w := { v with faults := p }) hp ⟨.metadata, "delete_bucket"⟩, ?_⟩
  simp only [deleteBucket, runWith_bind, runWith_enterMetadata (calm_replan hp v),
    runWith_guard_of_quiet (quiet_replan hp v), runWith_get, pass_catalog, hf, runWith_lift,
    runWith_modify, runWith_pure]
  rfl

theorem settles_getRevision (hp : p.Steady) (e : String) :
    Settles (getRevision e) { v with faults := p } (.ok (v.revisions.get? e)) v := by
  refine ⟨_, steady_pass (w := { v with faults := p }) hp (revisionCall "get_revision"), ?_⟩
  rw [runWith_getRevision, planned_of_quiet (quiet_replan hp v)]
  rfl

theorem settles_createRevision (hp : p.Steady) {r : Revision} {t : RevisionTable}
    (h : v.revisions.create r = .ok t) :
    Settles (createRevision r) { v with faults := p } (.ok ()) { v with revisions := t } := by
  refine ⟨_, steady_pass (w := { v with faults := p }) hp (revisionCall "create_revision"), ?_⟩
  rw [runWith_createRevision, planned_of_quiet (quiet_replan hp v)]
  simp only [h]
  rfl

theorem settles_deleteRevision (hp : p.Steady) (e : String) :
    Settles (deleteRevision e) { v with faults := p } (.ok (v.revisions.delete e).2)
      { v with revisions := (v.revisions.delete e).1 } := by
  refine ⟨_, steady_pass (w := { v with faults := p }) hp (revisionCall "delete_revision"), ?_⟩
  rw [runWith_deleteRevision, planned_of_quiet (quiet_replan hp v)]
  rfl

theorem settles_deleteAllContent (hp : p.Steady) (u : Uuid) :
    Settles (deleteAllContent u.text) { v with faults := p } (.ok ())
      { v with content := v.content.without u.text } := by
  refine ⟨_, steady_pass (w := { v with faults := p }) hp (contentCall "delete_all_content"), ?_⟩
  simp only [deleteAllContent, runWith_bind, runWith_guard_of_quiet (quiet_replan hp v), runWith_get,
    pass_content, ContentStore.deleteAll_text, runWith_lift, runWith_modify]
  rfl

end Calls

end World

section Either

variable {α β : Type} {v : World}

/-- From any steady plan on the stores of `v`, `m` fails and leaves the stores as they were, or
succeeds and leaves stores that `P` accepts. -/
def Settles.Either (m : Registry α) (v : World) (P : World → Prop) : Prop :=
  ∀ p : FaultPlan, p.Steady →
    (∃ err, Settles m { v with faults := p } (.error err) v) ∨
    ∃ a u, P u ∧ Settles m { v with faults := p } (.ok a) u

namespace Settles.Either

variable {P : World → Prop}

theorem throw_bind (e : RegistryError) (f : α → Registry β) : Either (throw e >>= f) v P :=
  fun _ hp => .inl ⟨e, (Settles.throw' hp e).bind_error f⟩

theorem lift_bind {o : Outcome α} {f : α → Registry β} (h : ∀ a, o = .ok a → Either (f a) v P) :
    Either (World.lift o >>= f) v P := fun p hp => by
  rcases o with e | a
  · exact .inl ⟨e, Settles.lift_bind_error hp rfl f⟩
  · rcases h a rfl p hp with ⟨e, he⟩ | ⟨b, u, hu, hs⟩
    · exact .inl ⟨e, Settles.lift_bind_ok rfl he⟩
    · exact .inr ⟨b, u, hu, Settles.lift_bind_ok rfl hs⟩

/-- A read, then what follows it. -/
theorem read_bind {m : Registry α} {f : α → Registry β} {a : α}
    (hm : ∀ p : FaultPlan, p.Steady → Settles m { v with faults := p } (.ok a) v)
    (hf : Either (f a) v P) : Either (m >>= f) v P := fun p hp => by
  obtain ⟨q, hq, hrun⟩ := hm p hp
  rcases hf q hq with ⟨e, he⟩ | ⟨b, u, hu, hs⟩
  · exact .inl ⟨e, Settles.bind_run hrun he⟩
  · exact .inr ⟨b, u, hu, Settles.bind_run hrun hs⟩

theorem ite {c : Prop} [Decidable c] {x y : Registry α} (hx : c → Either x v P)
    (hy : ¬c → Either y v P) : Either (if c then x else y) v P := by
  by_cases h : c
  · rw [if_pos h]
    exact hx h
  · rw [if_neg h]
    exact hy h

/-- A write of the catalog, the last step: it fails, or writes what its operation gives. -/
theorem writeCatalog (m : String) (f : Catalog → Outcome Catalog) :
    Either (World.writeCatalog m f) v fun u => ∃ c, f v.catalog = .ok c ∧ u = { v with catalog := c } :=
  fun _ hp => by
    rcases hf : f v.catalog with e | c
    · exact .inl ⟨e, World.settles_writeCatalog_error hp hf⟩
    · exact .inr ⟨(), _, ⟨c, rfl, rfl⟩, World.settles_writeCatalog hp hf⟩

theorem map {m : Registry α} (hm : Either m v P) (g : α → β) : Either (g <$> m) v P :=
  fun p hp => (hm p hp).imp (fun ⟨e, he⟩ => ⟨e, he.map g⟩) fun ⟨a, u, hu, hs⟩ => ⟨g a, u, hu, hs.map g⟩

theorem mono {m : Registry α} {P' : World → Prop} (hm : Either m v P) (h : ∀ u, P u → P' u) :
    Either m v P' := fun p hp => (hm p hp).imp_right fun ⟨a, u, hu, hs⟩ => ⟨a, u, h u hu, hs⟩

/-- What a step that always succeeds and changes nothing leaves after `m`. -/
theorem bind_ret {m : Registry α} {f : α → Registry β} (hm : Either m v P)
    (hf : ∀ a (u : World) (q : FaultPlan), q.Steady → ∃ b, Settles (f a) { u with faults := q } (.ok b) u) :
    Either (m >>= f) v P := fun p hp => by
  rcases hm p hp with ⟨e, he⟩ | ⟨a, u, hu, q, hq, hrun⟩
  · exact .inl ⟨e, he.bind_error f⟩
  · obtain ⟨b, hb⟩ := hf a u q hq
    exact .inr ⟨b, u, hu, Settles.bind_run hrun hb⟩

end Settles.Either

end Either

namespace Manager

variable {α : Type} {v u : World} {p : FaultPlan} {e : String} {claimed cur : Revision}

theorem settles_getRevision (hp : p.Steady) (h : v.revisions.get? e = some cur) :
    Settles (getRevision e) { v with faults := p } (.ok cur) v :=
  (World.settles_getRevision hp e).bind fun _ hq => by
    rw [h]
    exact Settles.pure' hq cur

theorem settles_getRevision_none (hp : p.Steady) (h : v.revisions.get? e = none) :
    Settles (getRevision e) { v with faults := p } (.error (.notFound s!"revision for entity {e}")) v :=
  (World.settles_getRevision hp e).bind fun _ hq => by
    rw [h]
    exact Settles.throw' hq _

theorem settles_verifyLocked (hp : p.Steady) (h : v.revisions.get? e = some cur)
    (hv : cur.version = claimed.version) :
    Settles (verifyLocked e claimed) { v with faults := p } (.ok cur) v :=
  (settles_getRevision hp h).bind fun _ hq => by
    simp only [hv, if_true]
    exact Settles.pure' hq cur

theorem settles_verifyLocked_stale (hp : p.Steady) (h : v.revisions.get? e = some cur)
    (hv : cur.version ≠ claimed.version) :
    Settles (verifyLocked e claimed) { v with faults := p }
      (.error (.staleRevision e claimed.version cur.version)) v :=
  (settles_getRevision hp h).bind fun _ hq => by
    simp only [hv, if_false]
    exact Settles.throw' hq _

theorem settles_delete (hp : p.Steady) (e : String) :
    Settles (delete e) { v with faults := p } (.ok ())
      { v with revisions := (v.revisions.delete e).1 } :=
  (World.settles_deleteRevision hp e).bind fun _ hq => Settles.pure' hq ()

/-- A delete whose claim is the entity's current revision runs its deletion and then drops the
revision. -/
theorem settles_deleteWith {deletion : Registry α} {a : α} (hp : p.Steady)
    (hentity : claimed.entityId = e) (hcur : v.revisions.get? e = some cur)
    (hver : cur.version = claimed.version)
    (hdel : ∀ q : FaultPlan, q.Steady → Settles deletion { v with faults := q } (.ok a) u) :
    Settles (deleteWith e claimed deletion) { v with faults := p } (.ok a)
      { u with revisions := (u.revisions.delete e).1 } := by
  have hcheck : checkEntity e claimed = .ok () := by simp [checkEntity, hentity]
  refine Settles.lift_bind_ok hcheck ?_
  refine (settles_verifyLocked hp hcur hver).bind fun q hq => ?_
  exact (hdel q hq).bind fun r hr =>
    (World.settles_deleteRevision hr e).bind fun s hs => Settles.pure' hs a

/-- A delete whose claim is not the entity's current revision fails before it changes anything. -/
theorem settles_deleteWith_refused (deletion : Registry α) (hp : p.Steady)
    (h : ¬(claimed.entityId = e ∧ ∃ cur, v.revisions.get? e = some cur ∧
      cur.version = claimed.version)) :
    ∃ err, Settles (deleteWith e claimed deletion) { v with faults := p } (.error err) v := by
  by_cases hentity : claimed.entityId = e
  · have hcheck : checkEntity e claimed = .ok () := by simp [checkEntity, hentity]
    rcases hcur : v.revisions.get? e with _ | cur
    · exact ⟨_, Settles.lift_bind_ok hcheck
        (((settles_getRevision_none hp hcur).bind_error _).bind_error _)⟩
    · have hver : cur.version ≠ claimed.version := fun hv => h ⟨hentity, cur, hcur, hv⟩
      exact ⟨_, Settles.lift_bind_ok hcheck ((settles_verifyLocked_stale hp hcur hver).bind_error _)⟩
  · obtain ⟨err, hcheck⟩ : ∃ err, checkEntity e claimed = .error err :=
      ⟨_, by unfold checkEntity; exact if_neg hentity⟩
    exact ⟨err, Settles.lift_bind_error hp hcheck _⟩

theorem settles_register (hp : p.Steady) (h : v.revisions.get? e = none) :
    Settles (register e claimed) { v with faults := p } (.ok (Revision.initial e claimed.clientId))
      { v with revisions := v.revisions.store (Revision.initial e claimed.clientId) } := by
  have hcreate : v.revisions.create (Revision.initial e claimed.clientId) =
      .ok (v.revisions.store (Revision.initial e claimed.clientId)) := by
    simp [RevisionTable.create, Revision.initial, h]
  exact (World.settles_createRevision hp hcreate).bind fun _ hq => Settles.pure' hq _

/-- Under a steady plan a creation either fails with the stores as they were, or finds the entity
without a revision, runs its closure to the end and registers the entity. -/
theorem either_create {creation : Registry α} {Q : World → Prop}
    (hc : Settles.Either creation v Q) (hrev : ∀ u, Q u → u.revisions = v.revisions) :
    Settles.Either (create e claimed creation) v fun u => ∃ u', Q u' ∧
      v.revisions.get? e = none ∧
      u = { u' with revisions := u'.revisions.store (Revision.initial e claimed.clientId) } := by
  refine Settles.Either.lift_bind fun _ _ => Settles.Either.lift_bind fun _ _ => ?_
  intro p hp
  rcases habsent : v.revisions.get? e with _ | r
  · have hcheck : Settles (checkAbsent e) { v with faults := p } (.ok ()) v :=
      (World.settles_getRevision hp e).bind fun q hq => by
        rw [habsent]
        exact Settles.pure' hq ()
    obtain ⟨q, hq, hrun⟩ := hcheck
    rcases hc q hq with ⟨err, herr⟩ | ⟨a, u', hu', hs⟩
    · exact .inl ⟨err, Settles.bind_run hrun (herr.bind_error _)⟩
    · have hnone : u'.revisions.get? e = none := by rw [hrev u' hu']; exact habsent
      exact .inr ⟨_, _, ⟨u', hu', rfl, rfl⟩, Settles.bind_run hrun (hs.bind fun s hs' =>
        (settles_register hs' hnone).bind fun t ht => Settles.pure' ht _)⟩
  · have hcheck : Settles (checkAbsent e) { v with faults := p }
        (.error (.alreadyExists s!"entity {e}")) v :=
      (World.settles_getRevision hp e).bind fun q hq => by
        rw [habsent]
        exact Settles.throw' hq _
    exact .inl ⟨_, hcheck.bind_error _⟩

end Manager

/-! ### What a delete leaves -/

namespace World

/-- The stores without a flow and what it holds: its content, snapshot records and revision. -/
def dropFlow (w : World) (id : Uuid) : World :=
  { w with
    revisions := (w.revisions.delete id.text).1
    catalog := ((w.catalog.deleteSnapshots id).2.deleteFlow id).2
    content := w.content.without id.text }

/-- The stores without a bundle and what it holds: its content, version records and revision. -/
def dropBundle (w : World) (id : Uuid) : World :=
  { w with
    revisions := (w.revisions.delete id.text).1
    catalog := ((w.catalog.deleteBundleVersions id).2.deleteBundle id).2
    content := w.content.without id.text }

/-- The stores without the flows and bundles of a bucket, each dropped in listing order. -/
def dropChildren (w : World) (id : Uuid) : World :=
  (w.catalog.listBundles id).foldl (fun x b => x.dropBundle b.identifier)
    ((w.catalog.listFlows id).foldl (fun x f => x.dropFlow f.identifier) w)

/-- The stores without a bucket, its revision and everything in it. -/
def dropBucket (w : World) (id : Uuid) : World :=
  let children := w.dropChildren id
  { children with
    revisions := (children.revisions.delete id.text).1
    catalog := { children.catalog with
      buckets := children.catalog.buckets.filter (·.identifier != id) } }

@[simp] theorem dropFlow_buckets (w : World) (id : Uuid) :
    (w.dropFlow id).catalog.buckets = w.catalog.buckets := rfl

@[simp] theorem dropBundle_buckets (w : World) (id : Uuid) :
    (w.dropBundle id).catalog.buckets = w.catalog.buckets := rfl

@[simp] theorem dropFlow_bundles (w : World) (id : Uuid) :
    (w.dropFlow id).catalog.bundles = w.catalog.bundles := rfl

@[simp] theorem dropFlow_flows (w : World) (id : Uuid) :
    (w.dropFlow id).catalog.flows = w.catalog.flows.filter (·.identifier != id) := rfl

@[simp] theorem dropBundle_flows (w : World) (id : Uuid) :
    (w.dropBundle id).catalog.flows = w.catalog.flows := rfl

@[simp] theorem dropBundle_bundles (w : World) (id : Uuid) :
    (w.dropBundle id).catalog.bundles = w.catalog.bundles.filter (·.identifier != id) := rfl

/-- Dropping flows in turn keeps the flows whose identifier none of them has. -/
theorem foldl_dropFlow_flows (xs : List Flow) (w : World) :
    (xs.foldl (fun x f => x.dropFlow f.identifier) w).catalog.flows =
      w.catalog.flows.filter fun f => xs.all fun g => f.identifier != g.identifier := by
  induction xs generalizing w with
  | nil => exact (List.filter_eq_self.2 fun _ _ => rfl).symm
  | cons g gs ih => simp [ih, List.filter_filter, Bool.and_comm]

theorem foldl_dropFlow_bundles (xs : List Flow) (w : World) :
    (xs.foldl (fun x f => x.dropFlow f.identifier) w).catalog.bundles = w.catalog.bundles :=
  by induction xs generalizing w with
    | nil => rfl
    | cons g gs ih => simp [ih]

theorem foldl_dropFlow_buckets (xs : List Flow) (w : World) :
    (xs.foldl (fun x f => x.dropFlow f.identifier) w).catalog.buckets = w.catalog.buckets := by
  induction xs generalizing w with
  | nil => rfl
  | cons g gs ih => simp [ih]

/-- Dropping bundles in turn keeps the bundles whose identifier none of them has. -/
theorem foldl_dropBundle_bundles (xs : List Bundle) (w : World) :
    (xs.foldl (fun x b => x.dropBundle b.identifier) w).catalog.bundles =
      w.catalog.bundles.filter fun b => xs.all fun c => b.identifier != c.identifier := by
  induction xs generalizing w with
  | nil => exact (List.filter_eq_self.2 fun _ _ => rfl).symm
  | cons c cs ih => simp [ih, List.filter_filter, Bool.and_comm]

theorem foldl_dropBundle_flows (xs : List Bundle) (w : World) :
    (xs.foldl (fun x b => x.dropBundle b.identifier) w).catalog.flows = w.catalog.flows :=
  by induction xs generalizing w with
    | nil => rfl
    | cons c cs ih => simp [ih]

theorem foldl_dropBundle_buckets (xs : List Bundle) (w : World) :
    (xs.foldl (fun x b => x.dropBundle b.identifier) w).catalog.buckets = w.catalog.buckets := by
  induction xs generalizing w with
  | nil => rfl
  | cons c cs ih => simp [ih]

theorem dropChildren_buckets (w : World) (id : Uuid) :
    (w.dropChildren id).catalog.buckets = w.catalog.buckets := by
  simp [dropChildren, foldl_dropBundle_buckets, foldl_dropFlow_buckets]

end World

theorem Catalog.mem_listFlows {c : Catalog} {b : Uuid} {f : Flow} :
    f ∈ c.listFlows b ↔ f ∈ c.flows ∧ f.bucketIdentifier = b := by
  simp [Catalog.listFlows, List.mem_mergeSort]

theorem Catalog.mem_listBundles {c : Catalog} {b : Uuid} {x : Bundle} :
    x ∈ c.listBundles b ↔ x ∈ c.bundles ∧ x.bucketIdentifier = b := by
  simp [Catalog.listBundles, List.mem_mergeSort]

/-- No flow or bundle with the id `x` is in a bucket with the id `x`. -/
structure Catalog.Unnested (x : Uuid) (c : Catalog) : Prop where
  flows : ∀ f ∈ c.flows, f.identifier = x → f.bucketIdentifier ≠ x
  bundles : ∀ b ∈ c.bundles, b.identifier = x → b.bucketIdentifier ≠ x

/-- A flow listed in the bucket `x` has another id than `x`. -/
theorem Catalog.Unnested.ne_of_mem_listFlows {c : Catalog} {x : Uuid} (h : c.Unnested x) {f : Flow}
    (hf : f ∈ c.listFlows x) : f.identifier ≠ x := fun hid =>
  have ⟨hmem, hbucket⟩ := Catalog.mem_listFlows.1 hf
  h.flows f hmem hid hbucket

theorem Catalog.Unnested.ne_of_mem_listBundles {c : Catalog} {x : Uuid} (h : c.Unnested x)
    {b : Bundle} (hb : b ∈ c.listBundles x) : b.identifier ≠ x := fun hid =>
  have ⟨hmem, hbucket⟩ := Catalog.mem_listBundles.1 hb
  h.bundles b hmem hid hbucket

/-- Once its children are dropped, a bucket holds no flow and no bundle, and the catalog lets it
go. -/
theorem World.deleteBucket_dropChildren (w : World) (id : Uuid) :
    (w.dropChildren id).catalog.deleteBucket id = .ok ((w.catalog.fetchBucket id).isSome,
      { (w.dropChildren id).catalog with
        buckets := (w.dropChildren id).catalog.buckets.filter (·.identifier != id) }) := by
  have noFlows : (w.dropChildren id).catalog.flows.filter (·.bucketIdentifier == id) = [] := by
    simp only [dropChildren, foldl_dropBundle_flows, foldl_dropFlow_flows, List.filter_filter,
      List.filter_eq_nil_iff, Bool.and_eq_true, beq_iff_eq, List.all_eq_true, bne_iff_ne, ne_eq,
      not_and]
    exact fun f hf hbucket hall => hall f (Catalog.mem_listFlows.2 ⟨hf, hbucket⟩) rfl
  have noBundles : (w.dropChildren id).catalog.bundles.filter (·.bucketIdentifier == id) = [] := by
    simp only [dropChildren, foldl_dropBundle_bundles, foldl_dropFlow_bundles, List.filter_filter,
      List.filter_eq_nil_iff, Bool.and_eq_true, beq_iff_eq, List.all_eq_true, bne_iff_ne, ne_eq,
      not_and]
    exact fun b hb hbucket hall => hall b (Catalog.mem_listBundles.2 ⟨hb, hbucket⟩) rfl
  simp [Catalog.deleteBucket, noFlows, noBundles, Catalog.fetchBucket, dropChildren_buckets]

namespace Coordinator

variable {v : World} {p : FaultPlan} {id : Uuid} {claimed cur : Revision}

theorem settles_requireBucket (hp : p.Steady) {id : Uuid} {b : Bucket}
    (h : v.catalog.fetchBucket id = some b) :
    Settles (requireBucket id) { v with faults := p } (.ok b) v :=
  (World.settles_readCatalog hp _ _).bind fun q hq => by
    rw [h]
    exact Settles.pure' hq b

theorem settles_requireFlow (hp : p.Steady) {id : Uuid} {f : Flow}
    (h : v.catalog.fetchFlow id = some f) :
    Settles (requireFlow id) { v with faults := p } (.ok f) v :=
  (World.settles_readCatalog hp _ _).bind fun q hq => by
    rw [h]
    exact Settles.pure' hq f

theorem settles_requireBundle (hp : p.Steady) {id : Uuid} {b : Bundle}
    (h : v.catalog.fetchBundle id = some b) :
    Settles (requireBundle id) { v with faults := p } (.ok b) v :=
  (World.settles_readCatalog hp _ _).bind fun q hq => by
    rw [h]
    exact Settles.pure' hq b

theorem settles_purgeFlowContent (hp : p.Steady) (id : Uuid) :
    Settles (purgeFlowContent id) { v with faults := p } (.ok ())
      { v with content := v.content.without id.text, catalog := (v.catalog.deleteSnapshots id).2 } :=
  (World.settles_deleteAllContent hp id).bind fun _ hq =>
    (World.settles_changeCatalog hq _ _).bind fun _ hr => Settles.pure' hr ()

theorem settles_purgeBundleContent (hp : p.Steady) (id : Uuid) :
    Settles (purgeBundleContent id) { v with faults := p } (.ok ())
      { v with
        content := v.content.without id.text
        catalog := (v.catalog.deleteBundleVersions id).2 } :=
  (World.settles_deleteAllContent hp id).bind fun _ hq =>
    (World.settles_changeCatalog hq _ _).bind fun _ hr => Settles.pure' hr ()

/-- A flow deleted under its current revision goes with everything it holds. -/
theorem settles_deleteFlow (hp : p.Steady) (hentity : claimed.entityId = id.text)
    (hcur : v.revisions.get? id.text = some cur) (hver : cur.version = claimed.version) :
    Settles (deleteFlow id claimed) { v with faults := p } (.ok (v.catalog.fetchFlow id))
      (v.dropFlow id) :=
  Manager.settles_deleteWith (u := { v with
      catalog := ((v.catalog.deleteSnapshots id).2.deleteFlow id).2
      content := v.content.without id.text }) hp hentity hcur hver fun _ hq =>
    (World.settles_readCatalog hq _ _).bind fun _ hr =>
      (settles_purgeFlowContent hr id).bind fun _ hs =>
        (World.settles_changeCatalog hs _ _).bind fun _ ht => Settles.pure' ht _

/-- A bundle deleted under its current revision goes with everything it holds. -/
theorem settles_deleteBundle (hp : p.Steady) (hentity : claimed.entityId = id.text)
    (hcur : v.revisions.get? id.text = some cur) (hver : cur.version = claimed.version) :
    Settles (deleteBundle id claimed) { v with faults := p } (.ok (v.catalog.fetchBundle id))
      (v.dropBundle id) :=
  Manager.settles_deleteWith (u := { v with
      catalog := ((v.catalog.deleteBundleVersions id).2.deleteBundle id).2
      content := v.content.without id.text }) hp hentity hcur hver fun _ hq =>
    (World.settles_readCatalog hq _ _).bind fun _ hr =>
      (settles_purgeBundleContent hr id).bind fun _ hs =>
        (World.settles_changeCatalog hs _ _).bind fun _ ht => Settles.pure' ht _

theorem settles_currentRevision (hp : p.Steady) {e : String} (h : v.revisions.get? e = some cur) :
    Settles (currentRevision? e) { v with faults := p } (.ok (some cur)) v :=
  ((Manager.settles_getRevision hp h).map some).tryCatch_ok _

theorem settles_currentRevision_none (hp : p.Steady) {e : String} (h : v.revisions.get? e = none) :
    Settles (currentRevision? e) { v with faults := p } (.ok none) v :=
  ((Manager.settles_getRevision_none hp h).map some).tryCatch_error fun _ hq => Settles.pure' hq none

theorem lockChild_of_ne {held e : String} (h : e ≠ held) : lockChild held e = pure () := if_neg h

/-- Waiting for a child's lock leaves the registry as it is, whether the lock comes or not. -/
theorem runWith_lockChild_snd (held e : String) (w : World) :
    (runWith (lockChild held e) w).2 = w := by
  unfold lockChild
  split <;> rfl

theorem settles_lockChild {held e : String} (h : e ≠ held) (hp : p.Steady) :
    Settles (lockChild held e) { v with faults := p } (.ok ()) v := by
  rw [lockChild_of_ne h]
  exact Settles.pure' hp ()

/-- Under a steady plan a child with another id than the bucket's goes on the first try, by its
revision or without one: its purge runs and its revision, if any, is dropped. -/
theorem settles_deleteChild {held e t : String} {purge : Registry Unit} {k : Catalog → Catalog}
    (hne : e ≠ held) (hpurge : ∀ (x : World) (q : FaultPlan), q.Steady → Settles purge { x with faults := q } (.ok ())
      { x with content := x.content.without t, catalog := k x.catalog })
    (hp : p.Steady) :
    Settles (deleteChild held e purge) { v with faults := p } (.ok ())
      { v with
        revisions := (v.revisions.delete e).1
        catalog := k v.catalog
        content := v.content.without t } := by
  refine (World.settles_pendingFailures hp).bind fun q₀ hq₀ => ?_
  refine (World.settles_queuedFlows hq₀).bind fun q hq => ?_
  show Settles (deleteChildWithin held e purge 1) _ _ _
  rcases hcur : v.revisions.get? e with _ | cur
  · refine (settles_currentRevision_none hq hcur).bind fun r hr => ?_
    exact (hpurge v r hr).bind fun s hs => (settles_lockChild hne hs).bind fun s' hs' =>
      Manager.settles_delete hs' e
  · refine (settles_currentRevision hq hcur).bind fun r hr => ?_
    refine (settles_lockChild hne hr).bind fun s hs => ?_
    exact (Manager.settles_deleteWith (u := { v with catalog := k v.catalog, content := v.content.without t })
      hs (RevisionTable.get?_entityId hcur) hcur rfl fun s hs => hpurge v s hs).tryCatch_ok _

/-- Under a steady plan every flow and bundle of a bucket goes, in listing order, when none of
them has the bucket's id. -/
theorem settles_purgeChildren (hp : p.Steady) (id : Uuid) (hun : v.catalog.Unnested id) :
    Settles (purgeChildren id) { v with faults := p } (.ok ()) (v.dropChildren id) := by
  have listed : Catalog.listBundles
      ((v.catalog.listFlows id).foldl (fun x f => x.dropFlow f.identifier) v).catalog id =
      v.catalog.listBundles id := by
    simp only [Catalog.listBundles, World.foldl_dropFlow_bundles]
  refine (World.settles_readCatalog hp _ _).bind fun q hq => ?_
  refine (Settles.forM (g := fun (f : Flow) (x : World) => x.dropFlow f.identifier) _
    (fun f hf x r hr => ?flow) v q hq).bind fun r hr => ?_
  case flow =>
    have hne : f.identifier.text ≠ id.text := fun h =>
      hun.ne_of_mem_listFlows hf (Uuid.text_injective h)
    exact (settles_deleteChild (e := f.identifier.text) (t := f.identifier.text)
      (k := fun c => (c.deleteSnapshots f.identifier).2) hne
      (fun y s hs => settles_purgeFlowContent hs f.identifier) hr).bind
      fun _ hs => (World.settles_changeCatalog hs _ _).bind fun _ ht => Settles.pure' ht ()
  refine (World.settles_readCatalog hr _ _).bind fun s hs => ?_
  rw [listed]
  refine Settles.forM (g := fun (b : Bundle) (x : World) => x.dropBundle b.identifier) _
    (fun b hb x t ht => ?bundle) _ s hs
  case bundle =>
    have hne : b.identifier.text ≠ id.text := fun h =>
      hun.ne_of_mem_listBundles hb (Uuid.text_injective h)
    exact (settles_deleteChild (e := b.identifier.text) (t := b.identifier.text)
      (k := fun c => (c.deleteBundleVersions b.identifier).2) hne
      (fun y s hs => settles_purgeBundleContent hs b.identifier) ht).bind
      fun _ hs => (World.settles_changeCatalog hs _ _).bind fun _ ht => Settles.pure' ht ()

/-- Under a steady plan a bucket goes on the first pass, once its children are gone. -/
theorem settles_purgeBucketWithin (hp : p.Steady) (id : Uuid) (hun : v.catalog.Unnested id)
    (left : Nat) :
    Settles (purgeBucketWithin id (left + 1)) { v with faults := p } (.ok ())
      { v.dropChildren id with
        catalog := { (v.dropChildren id).catalog with
          buckets := (v.dropChildren id).catalog.buckets.filter (·.identifier != id) } } :=
  (settles_purgeChildren hp id hun).bind fun _ hq =>
    ((World.settles_deleteBucket hq (World.deleteBucket_dropChildren v id)).bind
      fun _ hr => Settles.pure' hr ()).tryCatch_ok _

/-- A bucket deleted under its current revision goes with every flow and bundle in it, when none
of them has the bucket's id. -/
theorem settles_deleteBucket (hp : p.Steady) (hentity : claimed.entityId = id.text)
    (hcur : v.revisions.get? id.text = some cur) (hver : cur.version = claimed.version)
    (hun : v.catalog.Unnested id) :
    Settles (deleteBucket id claimed) { v with faults := p } (.ok (v.catalog.fetchBucket id))
      (v.dropBucket id) :=
  Manager.settles_deleteWith (u := { v.dropChildren id with
      catalog := { (v.dropChildren id).catalog with
        buckets := (v.dropChildren id).catalog.buckets.filter (·.identifier != id) } })
    hp hentity hcur hver fun _ hq =>
      (World.settles_readCatalog hq _ _).bind fun _ hr =>
        (settles_purgeBucketWithin hr id hun 2).bind fun _ hs => Settles.pure' hs _

theorem bindClaim_ok {e : String} {claimed c : Revision} (h : bindClaim e claimed = .ok c) :
    c = ⟨e, claimed.version, claimed.clientId⟩ := by
  unfold bindClaim at h
  split at h
  · cases h
  · cases h
    rfl

/-- Under a steady plan a bucket is created under its initial revision, or nothing changes. -/
theorem either_createBucket (r : BucketRequest) (claimed : Revision) (user : String) :
    Settles.Either (createBucket r claimed user) v fun u => ∃ b c, b.identifier = r.identifier ∧
      v.revisions.get? r.identifier.text = none ∧ v.catalog.insertBucket b = .ok c ∧
      u = { v with
        catalog := c
        revisions := v.revisions.store (Revision.initial r.identifier.text claimed.clientId) } := by
  refine Settles.Either.lift_bind fun _ _ => Settles.Either.lift_bind fun _ _ =>
    Settles.Either.lift_bind fun claimed' hclaim => ?_
  obtain rfl := bindClaim_ok hclaim
  refine Settles.Either.read_bind (fun p hp => World.settles_now hp) ?_
  refine ((Manager.either_create (Q := fun u => ∃ b c, b.identifier = r.identifier ∧
      v.catalog.insertBucket b = .ok c ∧ u = { v with catalog := c }) ?closure ?_).bind_ret ?_).mono ?_
  case closure =>
    refine Settles.Either.read_bind (fun p hp => World.settles_readCatalog hp _ _) ?_
    refine Settles.Either.ite (fun _ => Settles.Either.throw_bind _ _) fun _ => ?_
    exact (Settles.Either.writeCatalog _ _).mono fun u ⟨c, hc, hu⟩ => ⟨_, c, rfl, hc, hu⟩
  · rintro _ ⟨_, c, -, -, rfl⟩
    rfl
  · rintro ⟨⟨⟩, revision⟩ u q hq
    exact ⟨_, Settles.pure' hq _⟩
  · rintro _ ⟨_, ⟨b, c, hb, hc, rfl⟩, habsent, rfl⟩
    exact ⟨b, c, hb, habsent, hc, rfl⟩

/-- Under a steady plan a flow is created in a bucket that exists, under its initial revision, or
nothing changes. -/
theorem either_createFlow (r : FlowRequest) (claimed : Revision) (user : String) :
    Settles.Either (createFlow r claimed user) v fun u => ∃ f c, f.identifier = r.identifier ∧
      f.bucketIdentifier = r.bucketIdentifier ∧ (v.catalog.fetchBucket r.bucketIdentifier).isSome ∧
      v.revisions.get? r.identifier.text = none ∧ v.catalog.insertFlow f = .ok c ∧
      u = { v with
        catalog := c
        revisions := v.revisions.store (Revision.initial r.identifier.text claimed.clientId) } := by
  refine Settles.Either.lift_bind fun _ _ => Settles.Either.lift_bind fun _ _ =>
    Settles.Either.lift_bind fun claimed' hclaim => ?_
  obtain rfl := bindClaim_ok hclaim
  refine Settles.Either.read_bind (fun p hp => World.settles_now hp) ?_
  refine ((Manager.either_create (Q := fun u => ∃ f c, f.identifier = r.identifier ∧
      f.bucketIdentifier = r.bucketIdentifier ∧ (v.catalog.fetchBucket r.bucketIdentifier).isSome ∧
      v.catalog.insertFlow f = .ok c ∧ u = { v with catalog := c }) ?closure ?_).bind_ret ?_).mono ?_
  case closure =>
    refine Settles.Either.read_bind (fun p hp => World.settles_readCatalog hp _ _) ?_
    refine Settles.Either.ite (fun _ => Settles.Either.throw_bind _ _) fun hbucket => ?_
    refine Settles.Either.read_bind (fun p hp => World.settles_readCatalog hp _ _) ?_
    refine Settles.Either.ite (fun _ => Settles.Either.throw_bind _ _) fun _ => ?_
    have hexists : (v.catalog.fetchBucket r.bucketIdentifier).isSome :=
      Option.isSome_iff_ne_none.2 (by simpa using hbucket)
    exact (Settles.Either.writeCatalog _ _).mono fun u ⟨c, hc, hu⟩ => ⟨_, c, rfl, rfl, hexists, hc, hu⟩
  · rintro _ ⟨_, c, -, -, -, -, rfl⟩
    rfl
  · rintro ⟨⟨⟩, revision⟩ u q hq
    exact ⟨_, Settles.pure' hq _⟩
  · rintro _ ⟨_, ⟨f, c, hf, hbucket, hexists, hc, rfl⟩, habsent, rfl⟩
    exact ⟨f, c, hf, hbucket, hexists, habsent, hc, rfl⟩

/-- Under a steady plan a bundle is created in a bucket that exists, under its initial revision,
or nothing changes. -/
theorem either_createBundle (r : BundleRequest) (claimed : Revision) (user : String) :
    Settles.Either (createBundle r claimed user) v fun u => ∃ b c, b.identifier = r.identifier ∧
      b.bucketIdentifier = r.bucketIdentifier ∧ (v.catalog.fetchBucket r.bucketIdentifier).isSome ∧
      v.revisions.get? r.identifier.text = none ∧ v.catalog.insertBundle b = .ok c ∧
      u = { v with
        catalog := c
        revisions := v.revisions.store (Revision.initial r.identifier.text claimed.clientId) } := by
  refine Settles.Either.lift_bind fun _ _ => Settles.Either.lift_bind fun _ _ =>
    Settles.Either.lift_bind fun _ _ => Settles.Either.lift_bind fun claimed' hclaim => ?_
  obtain rfl := bindClaim_ok hclaim
  refine Settles.Either.read_bind (fun p hp => World.settles_now hp) ?_
  refine ((Manager.either_create (Q := fun u => ∃ b c, b.identifier = r.identifier ∧
      b.bucketIdentifier = r.bucketIdentifier ∧ (v.catalog.fetchBucket r.bucketIdentifier).isSome ∧
      v.catalog.insertBundle b = .ok c ∧ u = { v with catalog := c }) ?closure ?_).bind_ret ?_).mono ?_
  case closure =>
    refine Settles.Either.read_bind (fun p hp => World.settles_readCatalog hp _ _) ?_
    refine Settles.Either.ite (fun _ => Settles.Either.throw_bind _ _) fun hbucket => ?_
    refine Settles.Either.read_bind (fun p hp => World.settles_readCatalog hp _ _) ?_
    refine Settles.Either.ite (fun _ => Settles.Either.throw_bind _ _) fun _ => ?_
    have hexists : (v.catalog.fetchBucket r.bucketIdentifier).isSome :=
      Option.isSome_iff_ne_none.2 (by simpa using hbucket)
    exact (Settles.Either.writeCatalog _ _).mono fun u ⟨c, hc, hu⟩ => ⟨_, c, rfl, rfl, hexists, hc, hu⟩
  · rintro _ ⟨_, c, -, -, -, -, rfl⟩
    rfl
  · rintro ⟨⟨⟩, revision⟩ u q hq
    exact ⟨_, Settles.pure' hq _⟩
  · rintro _ ⟨_, ⟨b, c, hb, hbucket, hexists, hc, rfl⟩, habsent, rfl⟩
    exact ⟨b, c, hb, hbucket, hexists, habsent, hc, rfl⟩

end Coordinator

end FlowRegistry
