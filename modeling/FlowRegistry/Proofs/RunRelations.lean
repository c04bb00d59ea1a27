import FlowRegistry.Proofs.Guards
import FlowRegistry.Proofs.Keys
import FlowRegistry.Proofs.Retry

/-!
# Relations that the runs of the registry compose

A relation `R : RunRel` relates the registry a run starts from, the error the run fails with
(none when it succeeds) and the registry it leaves; `Relates R m` says that every run of `m` is
related. When `R` relates each registry to itself, and a success followed by a run to the run of
both (`Composes`), it passes through `bind`, `map` and `forM`, and through `tryCatch` when the
handler throws its error again or goes on after an error that `R` lets a run resume from
(`Resumes`). Parts related by different relations make a run related by a third when they compose
into it (`Relates.bind'`).

Each call of the stores is related when the change it makes is: a call through the plan
(`Relates.guard`), the arrival of a queued flow (`World.DequeueRel`), a change of the catalog, the
drop of a revision and the removal of an entity's blobs. `PurgeSteps R` collects what a purge of a
bucket's children asks of `R` whatever the child, and from it and the changes made to one child
follow the steps of its delete: the read of its revision, its delete under the revision read, the
purge of its content and the loop that tries again while the revision moves
(`Coordinator.relates_deleteChild`).
-/

namespace FlowRegistry

/-- The error an outcome failed with, none when it succeeded. -/
def Outcome.failure {α : Type} : Outcome α → Option RegistryError
  | .ok _ => none
  | .error e => some e

@[simp] theorem Outcome.failure_ok {α : Type} (a : α) : Outcome.failure (Except.ok a : Outcome α) = none :=
  rfl

@[simp] theorem Outcome.failure_error {α : Type} (e : RegistryError) :
    Outcome.failure (Except.error e : Outcome α) = some e := rfl

@[simp] theorem Outcome.failure_map {α β : Type} (f : α → β) (o : Outcome α) :
    Outcome.failure (o.map f) = Outcome.failure o := by
  cases o <;> rfl

/-- A relation between the registry a run starts from, the error it fails with (none when it
succeeds) and the registry it leaves. -/
abbrev RunRel := World → Option RegistryError → World → Prop

section Relates

variable {α β γ : Type} {R S T : RunRel}

/-- Every run of `m` is related by `R`. -/
def Relates (R : RunRel) (m : Registry α) : Prop :=
  ∀ w, R w (Outcome.failure (runWith m w).1) (runWith m w).2

/-- `R` relates a registry to itself, and a success followed by a run to the run of both. -/
structure Composes (R : RunRel) : Prop where
  refl : ∀ w, R w none w
  trans : ∀ {w w₁ w₂ : World} {o : Option RegistryError}, R w none w₁ → R w₁ o w₂ → R w o w₂

/-- A run that failed with `e`, and a run that goes on from where it failed, relate as one. -/
def Resumes (R : RunRel) (e : RegistryError) : Prop :=
  ∀ {w w₁ w₂ : World} {o : Option RegistryError}, R w (some e) w₁ → R w₁ o w₂ → R w o w₂

namespace Relates

/-- A computation that succeeds and keeps the registry. -/
theorem of_keeps (hR : Composes R) {m : Registry α} (h : ∀ w, ∃ a, runWith m w = (.ok a, w)) :
    Relates R m := fun w => by
  obtain ⟨a, ha⟩ := h w
  rw [ha]
  exact hR.refl w

theorem pure' (hR : Composes R) (a : α) : Relates R (pure a : Registry α) :=
  of_keeps hR fun _ => ⟨a, rfl⟩

theorem throw' {e : RegistryError} (he : ∀ w, R w (some e) w) : Relates R (throw e : Registry α) :=
  fun w => he w

theorem lift (hR : Composes R) (o : Outcome α) (he : ∀ e, o = .error e → ∀ w, R w (some e) w) :
    Relates R (World.lift o) := by
  cases o with
  | ok a => exact pure' hR a
  | error e => exact throw' (he e rfl)

/-- Two parts, related by `R` and by `S`, make a run related by `T`. -/
theorem bind' {m : Registry α} {f : α → Registry β} (hm : Relates R m) (hf : ∀ a, Relates S (f a))
    (herr : ∀ {w w₁ : World} {e : RegistryError}, R w (some e) w₁ → T w (some e) w₁)
    (hok : ∀ {w w₁ w₂ : World} {o : Option RegistryError}, R w none w₁ → S w₁ o w₂ → T w o w₂) :
    Relates T (m >>= f) := fun w => by
  have h := hm w
  rw [runWith_bind]
  rcases hr : runWith m w with ⟨e | a, w₁⟩ <;> rw [hr] at h
  · exact herr h
  · exact hok h (hf a w₁)

theorem bind (hR : Composes R) {m : Registry α} {f : α → Registry β} (hm : Relates R m)
    (hf : ∀ a, Relates R (f a)) : Relates R (m >>= f) :=
  bind' hm hf (fun h => h) hR.trans

/-- A part related by `R`, then a part related from wherever the first one succeeded. -/
theorem bind_ok (hR : Composes R) {m : Registry α} {f : α → Registry β} (hm : Relates R m)
    (hf : ∀ w a w₁, runWith m w = (.ok a, w₁) →
      R w₁ (Outcome.failure (runWith (f a) w₁).1) (runWith (f a) w₁).2) :
    Relates R (m >>= f) := fun w => by
  have h := hm w
  rw [runWith_bind]
  rcases hr : runWith m w with ⟨e | a, w₁⟩ <;> rw [hr] at h
  · exact h
  · exact hR.trans h (hf w a w₁ hr)

theorem map {m : Registry α} (hm : Relates R m) (f : α → β) : Relates R (f <$> m) := fun w => by
  simp only [runWith_map, Outcome.failure_map]
  exact hm w

/-- A handler either goes on after an error `R` lets a run resume from, or throws it again. -/
theorem tryCatch {m : Registry α} {h : RegistryError → Registry α} (hm : Relates R m)
    (hh : ∀ e, (Resumes R e ∧ Relates R (h e)) ∨ ∀ w, runWith (h e) w = (.error e, w)) :
    Relates R (tryCatch m h) := fun w => by
  have hw := hm w
  rw [runWith_tryCatch]
  rcases hr : runWith m w with ⟨e | a, w₁⟩ <;> rw [hr] at hw
  · show R w (Outcome.failure (runWith (h e) w₁).1) (runWith (h e) w₁).2
    rcases hh e with ⟨hres, hrun⟩ | hrethrow
    · exact hres hw (hrun w₁)
    · rw [hrethrow]
      exact hw
  · exact hw

theorem forM (hR : Composes R) {body : γ → Registry PUnit} :
    ∀ xs : List γ, (∀ x ∈ xs, Relates R (body x)) → Relates R (xs.forM body)
  | [], _ => pure' hR PUnit.unit
  | x :: xs, h => by
    show Relates R (body x >>= fun _ => xs.forM body)
    exact bind hR (h x List.mem_cons_self) fun _ =>
      forM hR xs fun y hy => h y (List.mem_cons_of_mem x hy)

/-- A call through the plan, when `R` relates each registry to its pass with the error planned. -/
theorem guard {c : Call} (hpass : ∀ w, R w (w.planned c).1 (w.pass c)) : Relates R (World.guard c) :=
  fun w => by
    have h := hpass w
    rw [World.runWith_guard]
    rcases hp : (w.planned c).1 with _ | e <;> rw [hp] at h <;> exact h

end Relates

end Relates

/-- Whether an error is a refusal of invalid input. -/
def RegistryError.isInvalidInput : RegistryError → Bool
  | .invalidInput _ => true
  | _ => false

/-! ### The calls of the stores -/

namespace World

variable {α : Type} {R : RunRel}

/-- What `R` asks of taking the next flow queued on `m` off the plan and inserting it. -/
def DequeueRel (R : RunRel) (m : String) : Prop :=
  ∀ w f, (w.faults.dequeue m).1 = some f →
    (∀ c, w.catalog.insertFlow f = .ok c →
      R w none { w with faults := (w.faults.dequeue m).2, catalog := c }) ∧
    (∀ e, w.catalog.insertFlow f = .error e →
      R w (some e) { w with faults := (w.faults.dequeue m).2 })

theorem dequeue_of_none {p : FaultPlan} {m : String} (h : (p.dequeue m).1 = none) :
    (p.dequeue m).2 = p := by
  unfold FaultPlan.dequeue at h ⊢
  split at h
  · cases h
  · rfl

theorem relates_enterMetadata (hR : Composes R) {m : String}
    (hpass : ∀ w, R w (w.planned ⟨.metadata, m⟩).1 (w.pass ⟨.metadata, m⟩)) (hdeq : DequeueRel R m) :
    Relates R (enterMetadata m) := fun w => by
  rw [runWith_enterMetadata_eq]
  split
  · next hf =>
    rw [dequeue_of_none hf]
    exact Relates.guard hpass w
  · next f hf =>
    obtain ⟨hok, herr⟩ := hdeq w f hf
    split
    · next c hc => exact hR.trans (hok c hc) (Relates.guard hpass _)
    · next e hc => exact herr e hc

theorem runWith_changeCatalog_eq (m : String) (g : Catalog → α × Catalog) (w : World) :
    runWith (changeCatalog m g) w =
      match runWith (enterMetadata m) w with
      | (.ok _, w₁) => (.ok (g w₁.catalog).1, { w₁ with catalog := (g w₁.catalog).2 })
      | (.error e, w₁) => (.error e, w₁) := by
  unfold changeCatalog
  rw [runWith_bind]
  rcases runWith (enterMetadata m) w with ⟨e | u, w₁⟩
  · rfl
  · rcases hg : g w₁.catalog with ⟨a, c⟩
    simp only [runWith_bind, runWith_get, hg, runWith_modify, runWith_pure]

section Metadata

variable (hR : Composes R) {m : String}
  (hpass : ∀ w, R w (w.planned ⟨.metadata, m⟩).1 (w.pass ⟨.metadata, m⟩)) (hdeq : DequeueRel R m)
include hR hpass hdeq

theorem relates_readCatalog (f : Catalog → α) : Relates R (readCatalog m f) :=
  (relates_enterMetadata hR hpass hdeq).bind hR fun _ => Relates.of_keeps hR fun _ => ⟨_, rfl⟩

theorem relates_changeCatalog {g : Catalog → α × Catalog}
    (hcat : ∀ w, R w none { w with catalog := (g w.catalog).2 }) : Relates R (changeCatalog m g) :=
  fun w => by
    have h := relates_enterMetadata hR hpass hdeq w
    rw [runWith_changeCatalog_eq]
    rcases hr : runWith (enterMetadata m) w with ⟨e | u, w₁⟩ <;> rw [hr] at h
    · exact h
    · exact hR.trans h (hcat w₁)

end Metadata

/-- The catalog's delete of a bucket: the change it makes, or its refusal, which changes nothing. -/
theorem relates_deleteBucket (hR : Composes R) {id : Uuid}
    (hpass : ∀ w, R w (w.planned ⟨.metadata, "delete_bucket"⟩).1 (w.pass ⟨.metadata, "delete_bucket"⟩))
    (hdeq : DequeueRel R "delete_bucket")
    (hdel : ∀ w existed c, w.catalog.deleteBucket id = .ok (existed, c) → R w none { w with catalog := c })
    (hrefuse : ∀ w e, w.catalog.deleteBucket id = .error e → R w (some e) w) :
    Relates R (deleteBucket id) :=
  (relates_enterMetadata hR hpass hdeq).bind hR fun _ w => by
    rcases h : w.catalog.deleteBucket id with e | ⟨existed, c⟩
    · simpa only [runWith_bind, runWith_get, runWith_lift, h, Outcome.failure_error]
        using hrefuse w e h
    · simpa only [runWith_bind, runWith_get, runWith_lift, runWith_modify, runWith_pure, h,
        Outcome.failure_ok] using hdel w existed c h

theorem relates_getRevision (hR : Composes R)
    (hpass : ∀ w, R w (w.planned (revisionCall "get_revision")).1 (w.pass (revisionCall "get_revision")))
    (e : String) : Relates R (getRevision e) :=
  (Relates.guard hpass).bind hR fun _ => Relates.of_keeps hR fun _ => ⟨_, rfl⟩

theorem relates_deleteRevision (hR : Composes R)
    (hpass : ∀ w, R w (w.planned (revisionCall "delete_revision")).1
      (w.pass (revisionCall "delete_revision")))
    {e : String} (hdel : ∀ w, R w none { w with revisions := (w.revisions.delete e).1 }) :
    Relates R (deleteRevision e) := fun w => by
  have h := hpass w
  rw [runWith_deleteRevision]
  rcases hp : (w.planned (revisionCall "delete_revision")).1 with _ | err <;> rw [hp] at h
  · exact hR.trans h (hdel _)
  · exact h

/-- The removal of the blobs of an entity named by a UUID, which only the plan can fail. -/
theorem relates_deleteAllContent (hR : Composes R)
    (hpass : ∀ w, R w (w.planned (contentCall "delete_all_content")).1
      (w.pass (contentCall "delete_all_content")))
    {u : Uuid} (hdel : ∀ w, R w none { w with content := w.content.without u.text }) :
    Relates R (deleteAllContent u.text) :=
  (Relates.guard hpass).bind hR fun _ w => by
    simpa only [runWith_bind, runWith_get, ContentStore.deleteAll_text, runWith_lift, runWith_modify,
      Outcome.failure_ok] using hdel w

end World

/-! ### What a purge of a bucket's children asks of a relation -/

/-- What a purge of a bucket's children asks of `R` whatever the child: every call but the
catalog's delete of a bucket passes through the plan, with the error planned or with none; a
failure with any error but a refusal of invalid input changes nothing; a run resumes after a stale
revision; and taking a flow queued on any method but the delete of a bucket is related. -/
structure PurgeSteps (R : RunRel) : Prop where
  composes : Composes R
  pass : ∀ c : Call, c ≠ ⟨.metadata, "delete_bucket"⟩ → ∀ w, R w (w.planned c).1 (w.pass c)
  passOk : ∀ c : Call, c ≠ ⟨.metadata, "delete_bucket"⟩ → ∀ w, R w none (w.pass c)
  stays : ∀ e : RegistryError, e.isInvalidInput = false → ∀ w, R w (some e) w
  resumes : ∀ e a b, Resumes R (.staleRevision e a b)
  dequeue : ∀ m, m ≠ "delete_bucket" → World.DequeueRel R m

namespace PurgeSteps

variable {α : Type} {R : RunRel} (S : PurgeSteps R)
include S

theorem enterMetadata {m : String} (hm : m ≠ "delete_bucket") : Relates R (World.enterMetadata m) :=
  World.relates_enterMetadata S.composes (S.pass _ fun h => hm (Call.mk.inj h).2) (S.dequeue m hm)

theorem readCatalog {m : String} (hm : m ≠ "delete_bucket") (f : Catalog → α) :
    Relates R (World.readCatalog m f) :=
  World.relates_readCatalog S.composes (S.pass _ fun h => hm (Call.mk.inj h).2) (S.dequeue m hm) f

theorem changeCatalog {m : String} (hm : m ≠ "delete_bucket") {g : Catalog → α × Catalog}
    (hcat : ∀ w, R w none { w with catalog := (g w.catalog).2 }) :
    Relates R (World.changeCatalog m g) :=
  World.relates_changeCatalog S.composes (S.pass _ fun h => hm (Call.mk.inj h).2) (S.dequeue m hm)
    hcat

theorem getRevision (e : String) : Relates R (World.getRevision e) :=
  World.relates_getRevision S.composes (S.pass _ (by decide)) e

theorem deleteRevision {e : String} (hdel : ∀ w, R w none { w with revisions := (w.revisions.delete e).1 }) :
    Relates R (World.deleteRevision e) :=
  World.relates_deleteRevision S.composes (S.pass _ (by decide)) hdel

theorem deleteAllContent {u : Uuid} (hdel : ∀ w, R w none { w with content := w.content.without u.text }) :
    Relates R (World.deleteAllContent u.text) :=
  World.relates_deleteAllContent S.composes (S.pass _ (by decide)) hdel

theorem throw' {e : RegistryError} (he : e.isInvalidInput = false) :
    Relates R (throw e : Registry α) :=
  Relates.throw' (S.stays e he)

end PurgeSteps

/-! ### The steps of a child's delete -/

section Child

variable {α : Type} {R : RunRel} (S : PurgeSteps R) {e : String}
  (hdrop : ∀ w, R w none { w with revisions := (w.revisions.delete e).1 })
include S

namespace Manager

theorem relates_getRevision (e : String) : Relates R (Manager.getRevision e) :=
  (S.getRevision e).bind S.composes fun o => by
    cases o with
    | none => exact S.throw' rfl
    | some r => exact Relates.pure' S.composes r

theorem relates_verifyLocked (e : String) (claimed : Revision) :
    Relates R (Manager.verifyLocked e claimed) :=
  (relates_getRevision S e).bind S.composes fun current => by
    by_cases h : current.version = claimed.version
    · rw [if_pos h]
      exact Relates.pure' S.composes current
    · rw [if_neg h]
      exact S.throw' rfl

theorem relates_checkEntity (e : String) (claimed : Revision) :
    Relates R (World.lift (Manager.checkEntity e claimed)) :=
  Relates.lift S.composes _ fun err herr => S.stays err (by
    unfold Manager.checkEntity at herr
    split at herr
    · cases herr
    · cases herr
      rfl)

include hdrop

theorem relates_delete : Relates R (Manager.delete e) :=
  (S.deleteRevision hdrop).bind S.composes fun _ => Relates.pure' S.composes ()

theorem relates_deleteWith (claimed : Revision) {deletion : Registry α} (hd : Relates R deletion) :
    Relates R (Manager.deleteWith e claimed deletion) := by
  rw [Manager.deleteWith_eq]
  exact (relates_checkEntity S e claimed).bind S.composes fun _ =>
    (relates_verifyLocked S e claimed).bind S.composes fun _ => hd.bind S.composes fun a =>
      (S.deleteRevision hdrop).bind S.composes fun _ => Relates.pure' S.composes a

end Manager

namespace Coordinator

/-- The read of a child's revision: a read that finds none answers none, whatever the plan made
it meet, unless it met another failure. -/
theorem relates_currentRevision (e : String) : Relates R (currentRevision? e) := fun w => by
  have hpass := S.pass (World.revisionCall "get_revision") (by decide) w
  have hok := S.passOk (World.revisionCall "get_revision") (by decide) w
  unfold currentRevision?
  rw [runWith_tryCatch, runWith_map, Manager.runWith_getRevision]
  rcases hp : (w.planned (World.revisionCall "get_revision")).1 with _ | err <;> rw [hp] at hpass
  · rcases w.revisions.get? e with _ | r
    · exact hok
    · exact hok
  · simp only [Except.map]
    split
    · exact hok
    · exact hpass

/-- The wait for a child's lock: granted, or a deadlock that changes nothing. -/
theorem relates_lockChild (held e : String) : Relates R (lockChild held e) := by
  unfold lockChild
  split
  · exact S.throw' rfl
  · exact Relates.pure' S.composes ()

include hdrop

theorem relates_deleteChildWithin {held : String} {purge : Registry Unit}
    (hpurge : Relates R purge) : ∀ fuel, Relates R (deleteChildWithin held e purge fuel)
  | 0 => S.throw' rfl
  | fuel + 1 => (relates_currentRevision S e).bind S.composes fun current => by
    cases current with
    | none =>
      exact hpurge.bind S.composes fun _ => (relates_lockChild S held e).bind S.composes fun _ =>
        Manager.relates_delete S hdrop
    | some current =>
      refine (relates_lockChild S held e).bind S.composes fun _ =>
        (Manager.relates_deleteWith S hdrop current hpurge).tryCatch fun err => ?_
      cases err with
      | staleRevision a b c =>
        exact .inl ⟨S.resumes a b c, relates_deleteChildWithin hpurge fuel⟩
      | _ => exact .inr fun _ => rfl

theorem relates_deleteChild {held : String} {purge : Registry Unit} (hpurge : Relates R purge) :
    Relates R (deleteChild held e purge) :=
  (Relates.of_keeps S.composes fun _ => ⟨_, rfl⟩).bind S.composes fun n =>
    (Relates.of_keeps S.composes fun _ => ⟨_, rfl⟩).bind S.composes fun q =>
      relates_deleteChildWithin S hdrop hpurge (n + q + 1)

omit hdrop in
theorem relates_purgeFlowContent {x : Uuid}
    (hblobs : ∀ w, R w none { w with content := w.content.without x.text })
    (hsnaps : ∀ w, R w none { w with catalog := (w.catalog.deleteSnapshots x).2 }) :
    Relates R (purgeFlowContent x) :=
  (S.deleteAllContent hblobs).bind S.composes fun _ =>
    (S.changeCatalog (by decide) hsnaps).bind S.composes fun _ => Relates.pure' S.composes ()

omit hdrop in
theorem relates_purgeBundleContent {x : Uuid}
    (hblobs : ∀ w, R w none { w with content := w.content.without x.text })
    (hversions : ∀ w, R w none { w with catalog := (w.catalog.deleteBundleVersions x).2 }) :
    Relates R (purgeBundleContent x) :=
  (S.deleteAllContent hblobs).bind S.composes fun _ =>
    (S.changeCatalog (by decide) hversions).bind S.composes fun _ => Relates.pure' S.composes ()

end Coordinator

end Child

/-! ### The purge of a bucket's children -/

namespace Coordinator

variable {R : RunRel} (S : PurgeSteps R)
include S

/-- The delete of a listed flow: the child's delete, then the removal of its record. -/
theorem relates_flowChild {held : String} {x : Uuid}
    (hdrop : ∀ w, R w none { w with revisions := (w.revisions.delete x.text).1 })
    (hblobs : ∀ w, R w none { w with content := w.content.without x.text })
    (hsnaps : ∀ w, R w none { w with catalog := (w.catalog.deleteSnapshots x).2 })
    (hrecord : ∀ w, R w none { w with catalog := (w.catalog.deleteFlow x).2 }) :
    Relates R
      (deleteChild held x.text (purgeFlowContent x) >>= fun _ =>
        World.deleteFlow x >>= fun _ => pure ()) :=
  (relates_deleteChild S hdrop (relates_purgeFlowContent S hblobs hsnaps)).bind S.composes fun _ =>
    (S.changeCatalog (by decide) hrecord).bind S.composes fun _ => Relates.pure' S.composes ()

/-- The delete of a listed bundle: the child's delete, then the removal of its record. -/
theorem relates_bundleChild {held : String} {x : Uuid}
    (hdrop : ∀ w, R w none { w with revisions := (w.revisions.delete x.text).1 })
    (hblobs : ∀ w, R w none { w with content := w.content.without x.text })
    (hversions : ∀ w, R w none { w with catalog := (w.catalog.deleteBundleVersions x).2 })
    (hrecord : ∀ w, R w none { w with catalog := (w.catalog.deleteBundle x).2 }) :
    Relates R
      (deleteChild held x.text (purgeBundleContent x) >>= fun _ =>
        World.deleteBundle x >>= fun _ => pure ()) :=
  (relates_deleteChild S hdrop (relates_purgeBundleContent S hblobs hversions)).bind S.composes
    fun _ => (S.changeCatalog (by decide) hrecord).bind S.composes fun _ => Relates.pure' S.composes ()

/-- The purge of a bucket's children, when the delete of every child is related. -/
theorem relates_purgeChildren (id : Uuid)
    (hflow : ∀ x : Uuid, Relates R
      (deleteChild id.text x.text (purgeFlowContent x) >>= fun _ =>
        World.deleteFlow x >>= fun _ => pure ()))
    (hbundle : ∀ x : Uuid, Relates R
      (deleteChild id.text x.text (purgeBundleContent x) >>= fun _ =>
        World.deleteBundle x >>= fun _ => pure ())) :
    Relates R (purgeChildren id) := by
  unfold purgeChildren
  exact (S.readCatalog (by decide) _).bind S.composes fun fs =>
    (Relates.forM S.composes fs fun f _ => hflow f.identifier).bind S.composes fun _ =>
      (S.readCatalog (by decide) _).bind S.composes fun bs =>
        Relates.forM S.composes bs fun b _ => hbundle b.identifier

/-- The passes of a purge of a bucket, when a run resumes after the catalog refused the bucket's
delete. The induction is on the passes left. -/
theorem relates_purgeBucketWithin {id : Uuid} (hchildren : Relates R (purgeChildren id))
    (hcall : Relates R (World.deleteBucket id)) (hresume : ∀ t, Resumes R (.invalidInput t)) :
    ∀ n, Relates R (purgeBucketWithin id n)
  | 0 => Relates.pure' S.composes ()
  | n + 1 => hchildren.bind S.composes fun _ =>
    (hcall.bind S.composes fun _ => Relates.pure' S.composes ()).tryCatch fun err => by
      cases err with
      | invalidInput t =>
        dsimp only
        by_cases hn : 0 < n
        · rw [if_pos hn]
          exact .inl ⟨hresume t, relates_purgeBucketWithin hchildren hcall hresume n⟩
        · rw [if_neg hn]
          exact .inr fun _ => rfl
      | _ => exact .inr fun _ => rfl

/-- A delete of a bucket, when its purge is related and so is the drop of its revision. -/
theorem relates_deleteBucket_of_purge {id : Uuid}
    (hdrop : ∀ w, R w none { w with revisions := (w.revisions.delete id.text).1 })
    (hpurge : ∀ n, Relates R (purgeBucketWithin id n)) (claimed : Revision) :
    Relates R (deleteBucket id claimed) := by
  unfold deleteBucket
  exact Manager.relates_deleteWith S hdrop claimed
    ((S.readCatalog (by decide) _).bind S.composes fun b =>
      (hpurge _).bind S.composes fun _ => Relates.pure' S.composes b)

end Coordinator

end FlowRegistry
