import FlowRegistry.Proofs.Retry

/-!
# What a change leaves under a plan of faults

A plan may fail any call of a change, and a change that meets a failure stops there. This module
says, for each change of the registry, every state of the stores it can leave when no flow is
queued to appear, whatever else the plan holds.

The closures that create and change buckets, flows and bundles read, and write the catalog once,
last: from a calm registry they fail with the stores as they found them, or succeed after that one
write (`WritesOnce`). A creation then registers its entity, which the plan must let through for
the two to go together (`Manager.create_cases`); a change moves its revision forward or fails
after its write (`Manager.update_cases`).
-/

namespace FlowRegistry

/-- What follows `m` and changes nothing leaves the registry where `m` leaves it. -/
theorem runWith_bind_snd {α β : Type} {m : Registry α} {f : α → Registry β}
    (hf : ∀ a w, (runWith (f a) w).2 = w) (w : World) : (runWith (m >>= f) w).2 = (runWith m w).2 := by
  rw [runWith_bind]
  rcases runWith m w with ⟨_ | a, w₁⟩
  · rfl
  · exact hf a w₁

section WritesOnce

variable {α β : Type} {cs : List Call} {P : Catalog → Catalog → Prop}

/-- Started on any calm registry, `m` keeps the revisions and the plan of the calls `cs`, and
either fails with the stores as it found them, or succeeds after one write of the catalog, to a
catalog that `P` relates to the one it found. -/
def WritesOnce (cs : List Call) (P : Catalog → Catalog → Prop) (m : Registry α) : Prop :=
  ∀ w, w.Calm → Frame cs World.revisions w (runWith m w).2 ∧
    ((∃ err, (runWith m w).1 = .error err) ∧ (runWith m w).2.stores = w.stores ∨
      (∃ a, (runWith m w).1 = .ok a) ∧
        ∃ c, P w.catalog c ∧ (runWith m w).2.stores = ({ w with catalog := c } : World).stores)

namespace WritesOnce

theorem mono {m : Registry α} {P' : Catalog → Catalog → Prop} (hm : WritesOnce cs P m)
    (h : ∀ c c', P c c' → P' c c') : WritesOnce cs P' m := fun w hcalm =>
  ⟨(hm w hcalm).1, (hm w hcalm).2.imp_right fun ⟨hok, c, hc, hs⟩ => ⟨hok, c, h _ _ hc, hs⟩⟩

theorem throw_bind (err : RegistryError) (f : α → Registry β) :
    WritesOnce cs P (throw err >>= f) :=
  fun w _ => ⟨Frame.refl cs World.revisions w, .inl ⟨⟨err, rfl⟩, rfl⟩⟩

/-- A read, then what writes once from where the read leaves the registry, knowing what `R` says
of the catalog read and the answer. -/
theorem read_bind_of {m : Registry α} {f : α → Registry β} {R : Catalog → α → Prop}
    (hm : Within cs World.stores m)
    (hres : ∀ w a w', w.Calm → runWith m w = (.ok a, w') → R w.catalog a)
    (hf : ∀ a, WritesOnce cs (fun c c' => R c a → P c c') (f a)) :
    WritesOnce cs P (m >>= f) := by
  intro w hcalm
  have first := hm w hcalm
  rw [runWith_bind]
  generalize hrun : runWith m w = p at first
  rcases p with ⟨err | a, w₁⟩
  · exact ⟨first.revisions, .inl ⟨⟨err, rfl⟩, first.view⟩⟩
  · have hcat : w₁.catalog = w.catalog := congrArg (fun s => s.2.1) first.view
    obtain ⟨hframe, hcases⟩ := hf a w₁ (first.calm hcalm)
    refine ⟨first.revisions.trans hframe, ?_⟩
    rcases hcases with ⟨hfail, hsame⟩ | ⟨hok, c, hc, hwritten⟩
    · exact .inl ⟨hfail, hsame.trans first.view⟩
    · refine .inr ⟨hok, c, hcat ▸ hc (hcat ▸ hres w a w₁ hcalm hrun), ?_⟩
      rw [hwritten]
      exact congrArg (fun s => (s.1, c, s.2.2)) first.view

theorem read_bind {m : Registry α} {f : α → Registry β} (hm : Within cs World.stores m)
    (hf : ∀ a, WritesOnce cs P (f a)) : WritesOnce cs P (m >>= f) :=
  read_bind_of (R := fun _ _ => True) hm (fun _ _ _ _ _ => trivial) fun a => (hf a).mono fun _ _ h _ => h

/-- One write of the catalog, last: it fails, or writes what its operation gives. -/
theorem write {m : String} (hc : ⟨.metadata, m⟩ ∉ cs) {f : Catalog → Outcome Catalog}
    (hP : ∀ c c', f c = .ok c' → P c c') : WritesOnce cs P (World.writeCatalog m f) := by
  intro w hcalm
  refine ⟨within_writeCatalog hc f w hcalm, ?_⟩
  rcases World.writeCatalog_cases hcalm m f with ⟨err, hrun⟩ | ⟨c, hf, hrun⟩ <;> rw [hrun]
  · exact .inl ⟨⟨err, rfl⟩, rfl⟩
  · exact .inr ⟨⟨(), rfl⟩, c, hP _ _ hf, rfl⟩

theorem bind_pure {m : Registry α} (hm : WritesOnce cs P m) (g : α → β) :
    WritesOnce cs P (m >>= fun a => pure (g a)) := by
  intro w hcalm
  obtain ⟨hframe, hcases⟩ := hm w hcalm
  rw [runWith_bind]
  generalize runWith m w = p at hframe hcases
  rcases p with ⟨err | a, w₁⟩
  · dsimp only at hframe hcases ⊢
    exact ⟨hframe, .inl ⟨⟨err, rfl⟩, hcases.elim And.right fun ⟨⟨_, h⟩, _⟩ => by cases h⟩⟩
  · refine ⟨hframe, hcases.imp (fun ⟨⟨_, h⟩, _⟩ => by cases h) fun ⟨_, hc⟩ => ⟨⟨g a, rfl⟩, hc⟩⟩

end WritesOnce

end WritesOnce

namespace Manager

variable {α : Type} {w : World} {e : String} {claimed : Revision} {P : Catalog → Catalog → Prop}

/-- With the plan letting it through, the registration of an entity without a revision stores its
initial revision. -/
theorem runWith_register (hlets : w.Lets (World.revisionCall "create_revision"))
    (habsent : w.revisions.get? e = none) :
    runWith (register e claimed) w = (.ok (Revision.initial e claimed.clientId),
      { w.pass (World.revisionCall "create_revision") with
        revisions := w.revisions.store (Revision.initial e claimed.clientId) }) := by
  have hcreate : w.revisions.create (Revision.initial e claimed.clientId) =
      .ok (w.revisions.store (Revision.initial e claimed.clientId)) := by
    simp [RevisionTable.create, Revision.initial, habsent]
  simp only [register, runWith_bind, World.runWith_createRevision]
  rw [hlets]
  simp only [hcreate, runWith_pure]

/-- A creation whose closure writes once fails with the stores as it found them, or finds its
entity without a revision, makes its one write and registers the entity, when the plan lets the
registration through. -/
theorem create_cases {creation : Registry α} (hcalm : w.Calm)
    (hlets : w.Lets (World.revisionCall "create_revision"))
    (hc : WritesOnce [World.revisionCall "create_revision"] P creation) :
    (runWith (create e claimed creation) w).2.stores = w.stores ∨
      w.revisions.get? e = none ∧ ∃ c, P w.catalog c ∧
        (runWith (create e claimed creation) w).2.stores = ({ w with
          catalog := c
          revisions := w.revisions.store (Revision.initial e claimed.clientId) } : World).stores := by
  unfold create
  simp only [runWith_bind, runWith_lift]
  rcases checkEntity e claimed with _ | _
  · exact .inl rfl
  rcases checkInitial e claimed with _ | _
  · exact .inl rfl
  dsimp only
  have hcheck := (within_checkAbsent (by decide) e :
    Within [World.revisionCall "create_revision"] World.stores (checkAbsent e)) w hcalm
  generalize hrun₁ : runWith (checkAbsent e) w = p₁ at hcheck ⊢
  rcases p₁ with ⟨_ | _, w₁⟩
  · exact .inl hcheck.view
  obtain ⟨habsent, hkeep₁⟩ := checkAbsent_ok hrun₁
  obtain ⟨hframe, hcases⟩ := hc w₁ (hcheck.calm hcalm)
  dsimp only
  generalize runWith creation w₁ = p₂ at hframe hcases ⊢
  rcases p₂ with ⟨_ | a, w₂⟩
  · -- the closure failed, with the stores the check left
    dsimp only at hcases ⊢
    exact .inl ((hcases.elim And.right fun ⟨⟨_, h⟩, _⟩ => by cases h).trans hcheck.view)
  · dsimp only at hframe hcases ⊢
    obtain ⟨-, c, hP, hwritten⟩ := hcases.resolve_left fun ⟨⟨_, h⟩, _⟩ => by cases h
    have hcat : w₁.catalog = w.catalog := congrArg (fun s => s.2.1) hcheck.view
    have hrev : w₂.revisions = w.revisions := hframe.view.trans hkeep₁
    have hlets₂ : w₂.Lets (World.revisionCall "create_revision") :=
      (hframe.lets (by simp)).2 ((hcheck.lets (by simp)).2 hlets)
    rw [runWith_register hlets₂ (by rw [hrev]; exact habsent)]
    refine .inr ⟨habsent, c, hcat ▸ hP, ?_⟩
    have hwrote : w₂.catalog = c := congrArg (fun s => s.2.1) hwritten
    have hblob : w₂.content.blob? = w.content.blob? :=
      (congrArg (fun s => s.2.2) hwritten).trans (congrArg (fun s => s.2.2) hcheck.view)
    simp only [runWith_pure, World.stores, World.pass_content, World.pass_catalog, hrev, hblob,
      hwrote]

/-- Moving a revision forward writes the revision store only. -/
theorem advance_metadata (current claimed : Revision) (w : World) :
    (runWith (advance current claimed) w).2.catalog = w.catalog ∧
      (runWith (advance current claimed) w).2.content = w.content := by
  simp only [advance, runWith_bind, runWith_lift]
  rcases current.next claimed.clientId with _ | next
  · exact ⟨rfl, rfl⟩
  · have hput : (runWith (World.putRevision current.version next) w).2.catalog = w.catalog ∧
        (runWith (World.putRevision current.version next) w).2.content = w.content := by
      rw [World.runWith_putRevision]
      split
      · exact ⟨rfl, rfl⟩
      · split <;> exact ⟨rfl, rfl⟩
    dsimp only
    generalize runWith (World.putRevision current.version next) w = p at hput ⊢
    rcases p with ⟨_ | _, w₁⟩ <;> exact hput

/-- A change whose closure writes once fails with the catalog and blobs as it found them, or
makes its one write, whatever becomes of its revision after it. -/
theorem update_cases {mutation : Registry α} (hcalm : w.Calm) (hc : WritesOnce [] P mutation) :
    (runWith (update e claimed mutation) w).2.content.blob? = w.content.blob? ∧
      ((runWith (update e claimed mutation) w).2.catalog = w.catalog ∨
        ∃ c, P w.catalog c ∧ (runWith (update e claimed mutation) w).2.catalog = c) := by
  unfold update
  simp only [runWith_bind, runWith_lift]
  rcases checkEntity e claimed with _ | _
  · exact ⟨rfl, .inl rfl⟩
  dsimp only
  have hcheck := within_verifyLocked List.not_mem_nil e claimed w hcalm
  generalize runWith (verifyLocked e claimed) w = p₁ at hcheck ⊢
  rcases p₁ with ⟨_ | current, w₁⟩
  · exact ⟨congrArg (fun s => s.2.2) hcheck.view, .inl (congrArg (fun s => s.2.1) hcheck.view)⟩
  obtain ⟨-, hcases⟩ := hc w₁ (hcheck.calm hcalm)
  dsimp only
  generalize runWith mutation w₁ = p₂ at hcases ⊢
  rcases p₂ with ⟨_ | a, w₂⟩
  · dsimp only at hcases ⊢
    have hsame := (hcases.elim And.right fun ⟨⟨_, h⟩, _⟩ => by cases h).trans hcheck.view
    exact ⟨congrArg (fun s => s.2.2) hsame, .inl (congrArg (fun s => s.2.1) hsame)⟩
  · dsimp only at hcases ⊢
    obtain ⟨-, c, hP, hwritten⟩ := hcases.resolve_left fun ⟨⟨_, h⟩, _⟩ => by cases h
    have hcat₁ : w₁.catalog = w.catalog := congrArg (fun s => s.2.1) hcheck.view
    have hwrote : w₂.catalog = c := congrArg (fun s => s.2.1) hwritten
    have hblob : w₂.content.blob? = w.content.blob? :=
      (congrArg (fun s => s.2.2) hwritten).trans (congrArg (fun s => s.2.2) hcheck.view)
    obtain ⟨hcat, hcontent⟩ := advance_metadata current claimed w₂
    generalize runWith (advance current claimed) w₂ = p₃ at hcat hcontent ⊢
    rcases p₃ with ⟨_ | next, w₃⟩ <;> simp only [runWith_pure] at hcat hcontent ⊢ <;>
      exact ⟨by rw [hcontent, hblob], .inr ⟨c, hcat₁ ▸ hP, hcat.trans hwrote⟩⟩

/-- What holds wherever the stores are as a change found them, and of whatever its closure leaves
from such a registry, holds after the change, when moving the revision forward keeps it. -/
theorem update_lands {mutation : Registry α} {cs : List Call} {Q : World → Prop}
    (hc : World.revisionCall "get_revision" ∉ cs) (hcalm : w.Calm)
    (hstay : ∀ w', Frame cs World.stores w w' → Q w')
    (hm : ∀ w', Frame cs World.stores w w' → Q (runWith mutation w').2)
    (hadvance : ∀ u current, Q u → Q (runWith (advance current claimed) u).2) :
    Q (runWith (update e claimed mutation) w).2 := by
  unfold update
  rw [runWith_bind, runWith_lift]
  rcases checkEntity e claimed with _ | _
  · exact hstay w (Frame.refl cs _ w)
  dsimp only
  have hcheck := within_verifyLocked hc e claimed w hcalm
  rw [runWith_bind]
  generalize runWith (verifyLocked e claimed) w = p₁ at hcheck ⊢
  rcases p₁ with ⟨_ | current, w₁⟩
  · exact hstay w₁ hcheck
  dsimp only
  rw [runWith_bind]
  have hclosure := hm w₁ hcheck
  generalize runWith mutation w₁ = p₂ at hclosure ⊢
  rcases p₂ with ⟨_ | a, w₂⟩
  · exact hclosure
  dsimp only
  rw [runWith_bind_snd fun _ _ => rfl]
  exact hadvance w₂ current hclosure

end Manager

/-- A read, then what follows from where it leaves the registry: what holds wherever the stores
are as they were, and after what follows, holds after both. -/
theorem lands_bind_within {α β : Type} {cs : List Call} {v : World} {m : Registry α}
    {f : α → Registry β} {Q : World → Prop} (hcalm : v.Calm) (hm : Within cs World.stores m)
    (hstay : ∀ v', Frame cs World.stores v v' → Q v')
    (hf : ∀ a v', runWith m v = (.ok a, v') → Frame cs World.stores v v' → Q (runWith (f a) v').2) :
    Q (runWith (m >>= f) v).2 := by
  have first := hm v hcalm
  rw [runWith_bind]
  generalize hrun : runWith m v = p at first
  rcases p with ⟨_ | a, v₁⟩
  · exact hstay v₁ first
  · exact hf a v₁ hrun first

namespace Coordinator

variable {w : World}

/-- A bucket is created under its initial revision, or the stores stay as they were, when the plan
lets the registration through. -/
theorem createBucket_cases (r : BucketRequest) (claimed : Revision) (user : String) (hcalm : w.Calm)
    (hlets : w.Lets (World.revisionCall "create_revision")) :
    (runWith (createBucket r claimed user) w).2.stores = w.stores ∨
      w.revisions.get? r.identifier.text = none ∧ ∃ c, (∃ b, b.identifier = r.identifier ∧
        w.catalog.insertBucket b = .ok c) ∧
        (runWith (createBucket r claimed user) w).2.stores = ({ w with
          catalog := c
          revisions := w.revisions.store (Revision.initial r.identifier.text claimed.clientId) } :
            World).stores := by
  unfold createBucket
  rw [runWith_bind, runWith_lift]
  rcases validateName "bucket" r.name with _ | _
  · exact .inl rfl
  dsimp only
  rw [runWith_bind, runWith_lift]
  rcases validateDescription r.description with _ | _
  · exact .inl rfl
  dsimp only
  rw [runWith_bind, runWith_lift]
  rcases hclaim : bindClaim r.identifier.text claimed with _ | claimed'
  · exact .inl rfl
  obtain rfl := bindClaim_ok hclaim
  dsimp only
  rw [runWith_bind, World.runWith_now]
  dsimp only
  rw [runWith_bind_snd fun _ _ => rfl]
  refine Manager.create_cases (P := fun c c' => ∃ b : Bucket, b.identifier = r.identifier ∧
    c.insertBucket b = .ok c') hcalm hlets ?_
  refine WritesOnce.read_bind (within_readCatalog (by decide) _) fun found => ?_
  split
  · exact WritesOnce.throw_bind _ _
  · exact WritesOnce.write (by decide) fun _ _ hc => ⟨_, rfl, hc⟩

/-- A flow, with no snapshot yet, is created under its initial revision, or the stores stay as
they were, when the plan lets the registration through. -/
theorem createFlow_cases (r : FlowRequest) (claimed : Revision) (user : String) (hcalm : w.Calm)
    (hlets : w.Lets (World.revisionCall "create_revision")) :
    (runWith (createFlow r claimed user) w).2.stores = w.stores ∨
      w.revisions.get? r.identifier.text = none ∧ ∃ c, (∃ f, f.identifier = r.identifier ∧
        f.versionCount = 0 ∧ w.catalog.insertFlow f = .ok c) ∧
        (runWith (createFlow r claimed user) w).2.stores = ({ w with
          catalog := c
          revisions := w.revisions.store (Revision.initial r.identifier.text claimed.clientId) } :
            World).stores := by
  unfold createFlow
  rw [runWith_bind, runWith_lift]
  rcases validateName "flow" r.name with _ | _
  · exact .inl rfl
  dsimp only
  rw [runWith_bind, runWith_lift]
  rcases validateDescription r.description with _ | _
  · exact .inl rfl
  dsimp only
  rw [runWith_bind, runWith_lift]
  rcases hclaim : bindClaim r.identifier.text claimed with _ | claimed'
  · exact .inl rfl
  obtain rfl := bindClaim_ok hclaim
  dsimp only
  rw [runWith_bind, World.runWith_now]
  dsimp only
  rw [runWith_bind_snd fun _ _ => rfl]
  refine Manager.create_cases (P := fun c c' => ∃ f : Flow, f.identifier = r.identifier ∧
    f.versionCount = 0 ∧ c.insertFlow f = .ok c') hcalm hlets ?_
  refine WritesOnce.read_bind (within_readCatalog (by decide) _) fun bucket => ?_
  split
  · exact WritesOnce.throw_bind _ _
  refine WritesOnce.read_bind (within_readCatalog (by decide) _) fun found => ?_
  split
  · exact WritesOnce.throw_bind _ _
  · exact WritesOnce.write (by decide) fun _ _ hc => ⟨_, rfl, rfl, hc⟩

/-- A bundle, with no version yet, is created under its initial revision, or the stores stay as
they were, when the plan lets the registration through. -/
theorem createBundle_cases (r : BundleRequest) (claimed : Revision) (user : String)
    (hcalm : w.Calm) (hlets : w.Lets (World.revisionCall "create_revision")) :
    (runWith (createBundle r claimed user) w).2.stores = w.stores ∨
      w.revisions.get? r.identifier.text = none ∧ ∃ c, (∃ b, b.identifier = r.identifier ∧
        b.versionCount = 0 ∧ w.catalog.insertBundle b = .ok c) ∧
        (runWith (createBundle r claimed user) w).2.stores = ({ w with
          catalog := c
          revisions := w.revisions.store (Revision.initial r.identifier.text claimed.clientId) } :
            World).stores := by
  unfold createBundle
  rw [runWith_bind, runWith_lift]
  rcases validateName "bundle group id" r.groupId with _ | _
  · exact .inl rfl
  dsimp only
  rw [runWith_bind, runWith_lift]
  rcases validateName "bundle artifact id" r.artifactId with _ | _
  · exact .inl rfl
  dsimp only
  rw [runWith_bind, runWith_lift]
  rcases validateDescription r.description with _ | _
  · exact .inl rfl
  dsimp only
  rw [runWith_bind, runWith_lift]
  rcases hclaim : bindClaim r.identifier.text claimed with _ | claimed'
  · exact .inl rfl
  obtain rfl := bindClaim_ok hclaim
  dsimp only
  rw [runWith_bind, World.runWith_now]
  dsimp only
  rw [runWith_bind_snd fun _ _ => rfl]
  refine Manager.create_cases (P := fun c c' => ∃ b : Bundle, b.identifier = r.identifier ∧
    b.versionCount = 0 ∧ c.insertBundle b = .ok c') hcalm hlets ?_
  refine WritesOnce.read_bind (within_readCatalog (by decide) _) fun bucket => ?_
  split
  · exact WritesOnce.throw_bind _ _
  refine WritesOnce.read_bind (within_readCatalog (by decide) _) fun found => ?_
  split
  · exact WritesOnce.throw_bind _ _
  · exact WritesOnce.write (by decide) fun _ _ hc => ⟨_, rfl, rfl, hc⟩

/-- A change of a bucket keeps every blob, and keeps the catalog or rewrites one bucket record in
it, whatever the plan fails. -/
theorem updateBucket_cases (id : Uuid) (claimed : Revision) (c : BucketChange) (user : String)
    (hcalm : w.Calm) :
    (runWith (updateBucket id claimed c user) w).2.content.blob? = w.content.blob? ∧
      ((runWith (updateBucket id claimed c user) w).2.catalog = w.catalog ∨
        ∃ c', (∃ b, w.catalog.updateBucket b = .ok c') ∧
          (runWith (updateBucket id claimed c user) w).2.catalog = c') := by
  unfold updateBucket
  dsimp only
  split
  rw [runWith_bind, runWith_lift]
  rcases validateName "bucket" _ with _ | _
  · exact ⟨rfl, .inl rfl⟩
  dsimp only
  all_goals
    rw [runWith_bind, runWith_lift]
    rcases validateDescription c.description with _ | _
    · exact ⟨rfl, .inl rfl⟩
    dsimp only
    rw [runWith_bind_snd fun _ _ => rfl]
    refine Manager.update_cases (P := fun c c' => ∃ b, c.updateBucket b = .ok c') hcalm ?_
    have write : ∀ b : Bucket, WritesOnce [] (fun c c' => ∃ b, c.updateBucket b = .ok c')
        (World.updateBucket b >>= fun _ => pure b) :=
      fun b => (WritesOnce.write List.not_mem_nil fun _ _ hc => ⟨b, hc⟩).bind_pure _
    refine WritesOnce.read_bind (within_requireBucket List.not_mem_nil id) fun b => ?_
    split
    · exact WritesOnce.read_bind (Within.pure' _) fun _ => write _
    · refine WritesOnce.read_bind (within_readCatalog List.not_mem_nil _) fun found => ?_
      split
      · split
        · exact WritesOnce.throw_bind _ _
        · exact WritesOnce.read_bind (Within.pure' _) fun _ => write _
      · exact WritesOnce.read_bind (Within.pure' _) fun _ => write _

/-- A change of a flow keeps every blob, and keeps the catalog or rewrites one flow record in it,
whatever the plan fails. -/
theorem updateFlow_cases (id : Uuid) (claimed : Revision) (c : FlowChange) (user : String)
    (hcalm : w.Calm) :
    (runWith (updateFlow id claimed c user) w).2.content.blob? = w.content.blob? ∧
      ((runWith (updateFlow id claimed c user) w).2.catalog = w.catalog ∨
        ∃ c', (∃ f, w.catalog.updateFlow f = .ok c') ∧
          (runWith (updateFlow id claimed c user) w).2.catalog = c') := by
  unfold updateFlow
  dsimp only
  split
  rw [runWith_bind, runWith_lift]
  rcases validateName "flow" _ with _ | _
  · exact ⟨rfl, .inl rfl⟩
  dsimp only
  all_goals
    rw [runWith_bind, runWith_lift]
    rcases validateDescription c.description with _ | _
    · exact ⟨rfl, .inl rfl⟩
    dsimp only
    rw [runWith_bind_snd fun _ _ => rfl]
    refine Manager.update_cases (P := fun c c' => ∃ f, c.updateFlow f = .ok c') hcalm ?_
    have write : ∀ f : Flow, WritesOnce [] (fun c c' => ∃ f, c.updateFlow f = .ok c')
        (World.updateFlow f >>= fun _ => pure f) :=
      fun f => (WritesOnce.write List.not_mem_nil fun _ _ hc => ⟨f, hc⟩).bind_pure _
    refine WritesOnce.read_bind (within_requireFlow List.not_mem_nil id) fun f => ?_
    split
    · exact WritesOnce.read_bind (Within.pure' _) fun _ => WritesOnce.read_bind within_now fun _ =>
        write _
    · refine WritesOnce.read_bind (within_readCatalog List.not_mem_nil _) fun found => ?_
      split
      · split
        · exact WritesOnce.throw_bind _ _
        · exact WritesOnce.read_bind (Within.pure' _) fun _ =>
            WritesOnce.read_bind within_now fun _ => write _
      · exact WritesOnce.read_bind (Within.pure' _) fun _ => WritesOnce.read_bind within_now fun _ =>
          write _

/-- A change of a bundle keeps every blob, and keeps the catalog or rewrites the bundle's record
with the description and time of the change, its count of versions as it was. -/
theorem updateBundle_cases (id : Uuid) (claimed : Revision) (description : Option String)
    (user : String) (hcalm : w.Calm) :
    (runWith (updateBundle id claimed description user) w).2.content.blob? = w.content.blob? ∧
      ((runWith (updateBundle id claimed description user) w).2.catalog = w.catalog ∨
        ∃ c', (∃ b d t, w.catalog.fetchBundle id = some b ∧
          w.catalog.updateBundle { b with description := d, modifiedTimestamp := t } = .ok c') ∧
          (runWith (updateBundle id claimed description user) w).2.catalog = c') := by
  unfold updateBundle
  rw [runWith_bind, runWith_lift]
  rcases validateDescription description with _ | _
  · exact ⟨rfl, .inl rfl⟩
  dsimp only
  rw [runWith_bind_snd fun _ _ => rfl]
  refine Manager.update_cases (P := fun c c' => ∃ b d t, c.fetchBundle id = some b ∧
    c.updateBundle { b with description := d, modifiedTimestamp := t } = .ok c') hcalm ?_
  refine WritesOnce.read_bind_of (R := fun c b => c.fetchBundle id = some b)
    (within_requireBundle List.not_mem_nil id) (fun _ _ _ hcalm h => requireBundle_result hcalm h)
    fun b => ?_
  refine WritesOnce.read_bind within_now fun t => ?_
  exact (WritesOnce.write List.not_mem_nil fun _ _ hc hb => ⟨b, _, t, hb, hc⟩).bind_pure _

/-! ### Uploads -/

/-- What an upload of `data` as the version `ver` of the bundle `id`, made by `user`, can leave of
the catalog and the blobs it found in `w`. -/
inductive Uploaded (w : World) (id : Uuid) (ver : String) (data : Bytes) (user : String) :
    World → Prop
  /-- It failed before it wrote, or what it wrote was put back. -/
  | kept {u : World} (hcat : u.catalog = w.catalog) (hblob : u.content.blob? = w.content.blob?) :
      Uploaded w id ver data user u
  /-- It failed after storing the content of a new version, and the key was emptied again. -/
  | cleared {u : World} (hcat : u.catalog = w.catalog)
      (hnew : w.catalog.fetchBundleVersion id ver = none)
      (hset : w.content.Sets u.content id.text ver none) : Uploaded w id ver data user u
  /-- It stored the content under the version's key, then the version's record and the bundle's
  count of versions, in a bucket that allows a version to be replaced when it has one; the store
  takes the version's key, so it holds the content there for reads. -/
  | recorded {u : World} (bundle : Bundle) (bucket : Bucket) (t : Time.Instant) (c : Catalog)
      (hbundle : w.catalog.fetchBundle id = some bundle)
      (hbucket : w.catalog.fetchBucket bundle.bucketIdentifier = some bucket)
      (hallowed : (w.catalog.fetchBundleVersion id ver).isSome → bucket.allowBundleRedeploy = true)
      (hput : w.catalog.putBundleVersion ⟨id, ver, Digest.sha256Hex data, data.length, user, t⟩ =
        .ok c)
      (hcount : c.updateBundle { bundle with
        versionCount := if (w.catalog.fetchBundleVersion id ver).isNone then
          bundle.versionCount + 1 else bundle.versionCount
        modifiedTimestamp := t } = .ok u.catalog)
      (hset : w.content.Sets u.content id.text ver (some data))
      (htakes : u.content.Takes id.text ver) : Uploaded w id ver data user u
  /-- It stored the content of a new version and its record, and then the bundle's count, at its
  largest value, had no next: the upload stopped there with nothing put back, the count as it
  was. -/
  | overflowed {u : World} (bundle : Bundle) (t : Time.Instant)
      (hbundle : w.catalog.fetchBundle id = some bundle)
      (hnew : w.catalog.fetchBundleVersion id ver = none) (hfull : maxWord32 ≤ bundle.versionCount)
      (hput : w.catalog.putBundleVersion ⟨id, ver, Digest.sha256Hex data, data.length, user, t⟩ =
        .ok u.catalog)
      (hset : w.content.Sets u.content id.text ver (some data))
      (htakes : u.content.Takes id.text ver) : Uploaded w id ver data user u

namespace Uploaded

variable {id : Uuid} {ver : String} {data : Bytes} {user : String} {u u' v : World}

/-- What an upload leaves is a matter of the catalog and the content store. -/
theorem congr (h : Uploaded w id ver data user u) (hcat : u'.catalog = u.catalog)
    (hcontent : u'.content = u.content) : Uploaded w id ver data user u' := by
  have hsets : ∀ {s : ContentStore} {o : Option Bytes}, s.Sets u.content id.text ver o →
      s.Sets u'.content id.text ver o := fun hs e' v' => by rw [hcontent]; exact hs e' v'
  cases h with
  | kept hcat₀ hblob₀ => exact .kept (hcat.trans hcat₀) (by rw [hcontent, hblob₀])
  | cleared hcat₀ hnew hset => exact .cleared (hcat.trans hcat₀) hnew (hsets hset)
  | recorded bundle bucket t c hbundle hbucket hallowed hput hcount hset htakes =>
    exact .recorded bundle bucket t c hbundle hbucket hallowed hput (hcat ▸ hcount) (hsets hset)
      (hcontent ▸ htakes)
  | overflowed bundle t hbundle hnew hfull hput hset htakes =>
    exact .overflowed bundle t hbundle hnew hfull (hcat ▸ hput) (hsets hset) (hcontent ▸ htakes)

/-- An upload from a registry with the same stores leaves the same. -/
theorem of_stores (h : Uploaded v id ver data user u) (hs : v.stores = w.stores) :
    Uploaded w id ver data user u := by
  have hcat : v.catalog = w.catalog := congrArg (fun s => s.2.1) hs
  have hblob : v.content.blob? = w.content.blob? := congrArg (fun s => s.2.2) hs
  have hsets : ∀ {o : Option Bytes}, v.content.Sets u.content id.text ver o →
      w.content.Sets u.content id.text ver o := fun hs e' v' => by rw [← hblob]; exact hs e' v'
  cases h with
  | kept hcat₀ hblob₀ => exact .kept (hcat₀.trans hcat) (hblob₀.trans hblob)
  | cleared hcat₀ hnew hset => exact .cleared (hcat₀.trans hcat) (hcat ▸ hnew) (hsets hset)
  | recorded bundle bucket t c hbundle hbucket hallowed hput hcount hset htakes =>
    exact .recorded bundle bucket t c (hcat ▸ hbundle) (hcat ▸ hbucket) (hcat ▸ hallowed)
      (hcat ▸ hput) (hcat ▸ hcount) (hsets hset) htakes
  | overflowed bundle t hbundle hnew hfull hput hset htakes =>
    exact .overflowed bundle t (hcat ▸ hbundle) (hcat ▸ hnew) hfull (hcat ▸ hput) (hsets hset)
      htakes

/-- A registry with the stores of `w` is what a failed upload leaves. -/
theorem of_frame {cs : List Call} (h : Frame cs World.stores w u) : Uploaded w id ver data user u :=
  .kept (congrArg (fun s => s.2.1) h.view) (congrArg (fun s => s.2.2) h.view)

end Uploaded

/-- A write of the catalog that succeeds wrote what its operation gives. -/
theorem writeCatalog_eq_ok {m : String} {f : Catalog → Outcome Catalog} {w' : World} {u : Unit}
    (hcalm : w.Calm) (h : runWith (World.writeCatalog m f) w = (.ok u, w')) :
    ∃ c, f w.catalog = .ok c ∧ w' = { w.pass ⟨.metadata, m⟩ with catalog := c } := by
  rcases World.writeCatalog_cases hcalm m f with ⟨err, hrun⟩ | ⟨c, hc, hrun⟩ <;> rw [hrun] at h
  · cases h
  · cases h
    exact ⟨c, hc, rfl⟩

/-- A guarded step whose handler always fails succeeds only as the step itself does. -/
theorem runWith_tryCatch_eq_ok {α : Type} {m : Registry α} {h : RegistryError → Registry α} {a : α}
    {w' : World} (hh : ∀ e v, ∃ e', (runWith (h e) v).1 = .error e')
    (hrun : runWith (tryCatch m h) w = (.ok a, w')) : runWith m w = (.ok a, w') := by
  rw [runWith_tryCatch] at hrun
  rcases hm : runWith m w with ⟨e | b, w₁⟩ <;> rw [hm] at hrun <;> dsimp only at hrun
  · obtain ⟨e', he'⟩ := hh e w₁
    rw [hrun] at he'
    cases he'
  · exact hrun

/-- The writes of an upload, from the registry its reads left: the content, then the record and
the count, with the record and the blob put back when a write after the content fails, when the
plan lets the calls that put them back through. -/
theorem bundleWrites_uploaded {id : Uuid} {ver : String} {data : Bytes} {user : String}
    {bundle : Bundle} {bucket : Bucket} {existing : Option BundleVersion}
    {previousBytes : Option Bytes} {record : BundleVersion} (hcalm : w.Calm)
    (hbundle : w.catalog.fetchBundle id = some bundle)
    (hbucket : w.catalog.fetchBucket bundle.bucketIdentifier = some bucket)
    (hexisting : w.catalog.fetchBundleVersion id ver = existing)
    (hallowed : existing.isSome → bucket.allowBundleRedeploy = true)
    (hrecord : record = ⟨id, ver, Digest.sha256Hex data, data.length, user, record.timestamp⟩)
    (hback : (w.pass ⟨.metadata, "put_bundle_version"⟩).Lets (restoreCall existing))
    (hdc : w.Lets (World.contentCall "delete_content"))
    (hprevious : previousBytes = if existing.isSome then w.content.blob? id.text ver else none) :
    Uploaded w id ver data user (runWith (do
      World.saveContent id.text ver data
      recordBundleVersion bundle record existing previousBytes
      pure record) w).2 := by
  subst hexisting
  rw [runWith_bind, World.runWith_saveContent]
  generalize hplan : (w.planned (World.contentCall "save_content")).1 = p
  rcases p with _ | e
  case some => exact .kept rfl rfl
  generalize hsave : w.content.save id.text ver data = saved
  rcases saved with ⟨_ | ⟨⟩, s₁⟩
  · -- the save failed and wrote no blob
    have hfail : (w.content.save id.text ver data).1.isOk = false := by rw [hsave]; rfl
    have hkept := ContentStore.blob?_save_of_error hfail
    rw [hsave] at hkept
    exact .kept rfl hkept
  have hok : (w.content.save id.text ver data).1.isOk := by rw [hsave]; rfl
  have hsets := ContentStore.sets_of_save hok
  have htakes := ContentStore.takes_save hok
  rw [hsave] at hsets htakes
  dsimp only
  have hcalm₁ : ({ w.pass (World.contentCall "save_content") with content := s₁ } : World).Calm :=
    World.calm_pass hcalm _
  generalize hB : runWith (do
    recordBundleVersion bundle record (w.catalog.fetchBundleVersion id ver) previousBytes
    pure record) { w.pass (World.contentCall "save_content") with content := s₁ } = pB
  rcases pB with ⟨err | r, w₂⟩
  · -- a write after the content failed
    have hpass : Frame [⟨.metadata, "put_bundle_version"⟩, ⟨.metadata, "delete_bundle_version"⟩]
        World.stores w (w.pass (World.contentCall "save_content")) := frame_pass (by decide) w
    have hframe : Frame [⟨.metadata, "put_bundle_version"⟩, ⟨.metadata, "delete_bundle_version"⟩]
        World.revisions w { w.pass (World.contentCall "save_content") with content := s₁ } :=
      ⟨rfl, hpass.queued, hpass.failures⟩
    have hback₁ := (hframe.lets_pass (by decide) (restoreCall_mem _)).2 hback
    have hcontent : ContentRestorable { w.pass (World.contentCall "save_content") with content := s₁ }
        id.text ver previousBytes := by
      cases previousBytes with
      | some prior =>
        have hagain := ContentStore.save_again hok prior
        rw [hsave] at hagain
        exact ⟨World.lets_pass_self hplan, hagain⟩
      | none =>
        obtain ⟨t, hdel⟩ := ContentStore.delete_after_save hok
        rw [hsave] at hdel
        exact ⟨(World.lets_pass_of_ne (by decide) w).2 hdc, t, hdel⟩
    rcases bundleRecord_error (by rw [hrecord]; exact ⟨rfl, rfl⟩) hcalm₁
        (by rw [World.pass_catalog, hbundle]; rfl) hback₁ hcontent (runWith_bind_pure_eq_error.1 hB)
      with ⟨-, hcat₂, hsets₂⟩ | ⟨-, hnew, hfull, hput, -, hcontent₂⟩
    · -- the record and the blob before the upload are put back
      have hall := hsets.trans hsets₂
      subst hprevious
      rcases hex : w.catalog.fetchBundleVersion id ver with _ | prior <;> simp [hex] at hall
      · exact .cleared hcat₂ hex hall
      · exact .kept hcat₂ hall.blob?_eq
    · -- a new version met its bundle's count at the largest value: nothing is put back
      rw [hrecord] at hput
      exact .overflowed bundle record.timestamp hbundle hnew hfull hput (hcontent₂ ▸ hsets)
        (hcontent₂ ▸ htakes)
  · -- the record and the count were written, after the content
    obtain ⟨_, w₃, hrecorded, hpure⟩ := runWith_bind_eq_ok.1 hB
    simp only [runWith_pure, Prod.mk.injEq] at hpure
    obtain ⟨-, rfl⟩ := hpure
    obtain ⟨c₁, hput, hupd, -, hcontent₂⟩ := bundleRecord_ok hcalm₁ hrecorded
    rw [hrecord] at hput
    exact .recorded bundle bucket record.timestamp c₁ hbundle hbucket hallowed hput hupd
      (hcontent₂ ▸ hsets) (hcontent₂ ▸ htakes)

/-- An upload leaves the catalog and the blobs in one of the three ways `Uploaded` names, whatever
else the plan fails, when it lets the calls that put a failed upload back through and does not
make the read of a replaced version's content report it missing. -/
theorem addBundleVersion_uploaded (bundleId : Uuid) (claimed : Revision) (version : String)
    (data : Bytes) (user : String) (hcalm : w.Calm)
    (hput : (w.pass ⟨.metadata, "put_bundle_version"⟩).Lets ⟨.metadata, "put_bundle_version"⟩)
    (hdbv : w.Lets ⟨.metadata, "delete_bundle_version"⟩)
    (hdc : w.Lets (World.contentCall "delete_content"))
    (hread : ∀ msg, (w.planned (World.contentCall "get_content")).1 ≠ some (.notFound msg)) :
    Uploaded w bundleId (Text.trim version) data user
      (runWith (addBundleVersion bundleId claimed version data user) w).2 := by
  unfold addBundleVersion
  dsimp only
  split
  · exact Uploaded.of_frame (Frame.refl [] World.stores w)
  rw [runWith_bind_snd fun _ _ => rfl]
  refine Manager.update_lands (show World.revisionCall "get_revision" ∉
    [⟨.metadata, "put_bundle_version"⟩, ⟨.metadata, "delete_bundle_version"⟩,
      World.contentCall "delete_content", World.contentCall "get_content"] by decide) hcalm (fun _ h => Uploaded.of_frame h) ?_ ?_
  · intro w₁ h₁
    have hcalm₁ := h₁.calm hcalm
    refine lands_bind_within hcalm₁ (within_requireBundle (by decide) _)
      (fun _ h => Uploaded.of_frame (h₁.trans h)) fun bundle w₂ hrun₂ h₂ => ?_
    refine lands_bind_within (h₂.calm hcalm₁) (within_readCatalog (by decide) _)
      (fun _ h => Uploaded.of_frame ((h₁.trans h₂).trans h)) fun found w₃ hrun₃ h₃ => ?_
    cases found with
    | none => exact Uploaded.of_frame ((h₁.trans h₂).trans h₃)
    | some bucket =>
    dsimp only
    rw [pure_bind]
    refine lands_bind_within ((h₂.trans h₃).calm hcalm₁) (within_readCatalog (by decide) _)
      (fun _ h => Uploaded.of_frame (((h₁.trans h₂).trans h₃).trans h))
      fun existing w₄ hrun₄ h₄ => ?_
    split
    · exact Uploaded.of_frame (((h₁.trans h₂).trans h₃).trans h₄)
    next hallowed =>
    rw [runWith_bind, World.runWith_now]
    dsimp only
    have h := h₁.trans (h₂.trans (h₃.trans h₄))
    have hcalm₄ := h.calm hcalm
    have hcat₁ : w₁.catalog = w.catalog := congrArg (fun s => s.2.1) h₁.view
    have hcat : w₄.catalog = w.catalog := congrArg (fun s => s.2.1) h.view
    have hbundle : w₄.catalog.fetchBundle bundleId = some bundle := by
      rw [hcat, ← hcat₁]
      exact requireBundle_result hcalm₁ hrun₂
    have hbucket : w₄.catalog.fetchBucket bundle.bucketIdentifier = some bucket := by
      have hcat₂ : w₄.catalog = w₂.catalog := congrArg (fun s => s.2.1) (h₃.trans h₄).view
      rw [hcat₂]
      exact World.readCatalog_result (h₂.calm hcalm₁) hrun₃
    have hexisting : w₄.catalog.fetchBundleVersion bundleId (Text.trim version) = existing := by
      have hcat₃ : w₄.catalog = w₃.catalog := congrArg (fun s => s.2.1) h₄.view
      rw [hcat₃]
      exact World.readCatalog_result ((h₂.trans h₃).calm hcalm₁) hrun₄
    have hallowed' : existing.isSome → bucket.allowBundleRedeploy = true := fun hsome => by
      simpa [hsome] using hallowed
    have hrecord : Frame [⟨.metadata, "put_bundle_version"⟩, ⟨.metadata, "delete_bundle_version"⟩]
        World.stores w w₄ := h.mono (by decide)
    have hdc₄ : w₄.Lets (World.contentCall "delete_content") := (h.lets (by decide)).2 hdc
    split
    · -- a version is replaced: the content it had is read first
      next hsome =>
      have hread₄ : ∀ msg, (w₄.planned (World.contentCall "get_content")).1 ≠ some (.notFound msg) := by
        rw [h.planned (by decide)]
        exact hread
      rw [runWith_bind]
      rcases (runWith_previousContent hread₄ : runWith (previousContent bundleId.text
          (Text.trim version)) w₄ = _ ∨ _) with
        hprev | ⟨err, hprev⟩ <;> rw [hprev]
      · dsimp only
        have hrecord₅ : Frame [⟨.metadata, "put_bundle_version"⟩, ⟨.metadata, "delete_bundle_version"⟩]
            World.stores w (w₄.pass (World.contentCall "get_content")) :=
          hrecord.trans (frame_pass (by decide) w₄)
        refine (bundleWrites_uploaded (World.calm_pass hcalm₄ _) hbundle hbucket hexisting hallowed'
          rfl ((hrecord₅.lets_pass (by decide) (restoreCall_mem existing)).2
            (lets_restoreCall hput hdbv existing))
          ((World.lets_pass_of_ne (by decide) w₄).2 hdc₄) (by simp [hsome])).of_stores ?_
        rw [World.stores_pass]
        exact h.view
      · exact .kept hcat (congrArg (fun s => s.2.2) h.view)
    · -- a new version: there is no content to put back
      next hnew =>
      rw [pure_bind]
      exact (bundleWrites_uploaded hcalm₄ hbundle hbucket hexisting hallowed' rfl
        ((hrecord.lets_pass (by decide) (restoreCall_mem existing)).2
          (lets_restoreCall hput hdbv existing)) hdc₄ (by simp [hnew])).of_stores h.view
  · intro u current hu
    obtain ⟨hcat, hcontent⟩ := Manager.advance_metadata current claimed u
    exact hu.congr hcat hcontent

end Coordinator

/-! ### Snapshots, as far as bundles go -/

namespace Catalog

variable {c c' : Catalog}

theorem versions_insertSnapshot {m : SnapshotMeta} (h : c.insertSnapshot m = .ok c') :
    c'.bundles = c.bundles ∧ c'.bundleVersions = c.bundleVersions := by
  unfold insertSnapshot at h
  split at h
  · cases h
  split at h
  · cases h
  cases h
  exact ⟨rfl, rfl⟩

theorem versions_updateFlow {f : Flow} (h : c.updateFlow f = .ok c') :
    c'.bundles = c.bundles ∧ c'.bundleVersions = c.bundleVersions := by
  unfold updateFlow at h
  split at h
  · cases h
  cases h
  exact ⟨rfl, rfl⟩

end Catalog

namespace World

/-- The bundles, their versions, and every blob not under the key `e`. -/
def bundlesApart (e : String) (w : World) :
    List Bundle × List BundleVersion × (String → String → Option Bytes) :=
  (w.catalog.bundles, w.catalog.bundleVersions,
    fun e' v => if e' = e then none else w.content.blob? e' v)

theorem bundlesApart_eq {e : String} {w w' : World} (h : w'.stores = w.stores) :
    w'.bundlesApart e = w.bundlesApart e := by
  have hcat : w'.catalog = w.catalog := congrArg (fun s => s.2.1) h
  have hblob : w'.content.blob? = w.content.blob? := congrArg (fun s => s.2.2) h
  simp only [bundlesApart, hcat, hblob]

end World

section Apart

variable {α : Type} {cs : List Call} {e : String} {w w' : World}

theorem Frame.bundlesApart (h : Frame cs World.stores w w') :
    Frame cs (World.bundlesApart e) w w' :=
  ⟨World.bundlesApart_eq h.view, h.queued, h.failures⟩

/-- What `m` keeps of every calm registry it runs on. -/
theorem Within.lands {γ : Type} {v : World → γ} {m : Registry α} (hm : Within cs v m)
    (hcalm : w.Calm) : v (runWith m w).2 = v w :=
  (hm w hcalm).view

theorem Within.bundlesApart {m : Registry α} (hm : Within cs World.stores m) :
    Within cs (World.bundlesApart e) m :=
  fun w hcalm => (hm w hcalm).bundlesApart

/-- A write of the catalog whose operation keeps the bundles and their versions. -/
theorem within_writeCatalog_apart {m : String} {f : Catalog → Outcome Catalog}
    (hf : ∀ c c', f c = .ok c' → c'.bundles = c.bundles ∧ c'.bundleVersions = c.bundleVersions) :
    Within [] (World.bundlesApart e) (World.writeCatalog m f) := fun w hcalm => by
  have pass := (frame_pass (c := ⟨.metadata, m⟩) List.not_mem_nil w).bundlesApart (e := e)
  rcases World.writeCatalog_cases hcalm m f with ⟨err, hrun⟩ | ⟨c, hc, hrun⟩ <;> rw [hrun]
  · exact pass
  · obtain ⟨hb, hv⟩ := hf _ _ hc
    exact ⟨by simp only [World.bundlesApart, World.pass_content, hb, hv],
      pass.queued, pass.failures⟩

theorem within_changeCatalog_apart {m : String} {f : Catalog → α × Catalog}
    (hf : ∀ c, (f c).2.bundles = c.bundles ∧ (f c).2.bundleVersions = c.bundleVersions) :
    Within [] (World.bundlesApart e) (World.changeCatalog m f) := fun w hcalm => by
  have pass := (frame_pass (c := ⟨.metadata, m⟩) List.not_mem_nil w).bundlesApart (e := e)
  rw [World.runWith_changeCatalog hcalm]
  split
  · exact pass
  · obtain ⟨hb, hv⟩ := hf w.catalog
    exact ⟨by simp only [World.bundlesApart, World.pass_content, hb, hv],
      pass.queued, pass.failures⟩

theorem within_saveContent_apart (v : String) (data : Bytes) :
    Within [] (World.bundlesApart e) (World.saveContent e v data) := fun w _ => by
  have pass := (frame_pass (c := World.contentCall "save_content") List.not_mem_nil w).bundlesApart
    (e := e)
  rw [World.runWith_saveContent]
  split
  · exact pass
  · refine ⟨?_, pass.queued, pass.failures⟩
    have hblob : ∀ e' v', e' ≠ e → (w.content.save e v data).2.blob? e' v' = w.content.blob? e' v' :=
      fun e' v' hne => by rw [ContentStore.blob?_save]; simp [hne]
    simp only [World.bundlesApart, World.pass_catalog]
    congr 2
    funext e' v'
    split
    · rfl
    · next hne => exact hblob e' v' hne

theorem within_deleteContent_apart (v : String) :
    Within [] (World.bundlesApart e) (World.deleteContent e v) := fun w _ => by
  have pass := (frame_pass (c := World.contentCall "delete_content") List.not_mem_nil w).bundlesApart
    (e := e)
  rw [World.runWith_deleteContent]
  split
  · exact pass
  · split
    · next s hdel =>
      refine ⟨?_, pass.queued, pass.failures⟩
      have hsets := ContentStore.sets_of_delete hdel
      simp only [World.bundlesApart, World.pass_catalog]
      congr 2
      funext e' v'
      split
      · rfl
      · next hne => rw [hsets]; simp [hne]
    · exact pass

end Apart

namespace Coordinator

variable {w : World}

theorem requireFlow_result {w' : World} (hcalm : w.Calm) {id : Uuid} {f : Flow}
    (h : runWith (requireFlow id) w = (.ok f, w')) : w.catalog.fetchFlow id = some f := by
  unfold requireFlow at h
  rw [runWith_bind] at h
  generalize hrun : runWith (World.fetchFlow id) w = p at h
  rcases p with ⟨_ | found, w₁⟩
  · cases h
  · rw [World.readCatalog_result hcalm hrun]
    cases found
    · cases h
    · cases h
      rfl

theorem within_discardSnapshot_apart (flowId : Uuid) (version : Nat) (recorded : Bool) :
    Within [] (World.bundlesApart flowId.text) (discardSnapshot flowId version recorded) := by
  have content : Within [] (World.bundlesApart flowId.text)
      (tryCatch (World.deleteContent flowId.text (toString version)) fun _ => pure ()) :=
    (within_deleteContent_apart _).tryCatch fun _ => Within.pure' ()
  unfold discardSnapshot
  cases recorded
  · exact content
  · exact (((within_changeCatalog_apart fun _ => ⟨rfl, rfl⟩).bind fun _ => Within.pure' ()).tryCatch
      fun _ => Within.pure' ()).bind fun _ => content

/-- A snapshot of a flow keeps every bundle, every version of a bundle and every blob outside the
flow's key, whatever the plan fails; it writes a blob only for a flow that exists. -/
theorem createSnapshot_apart (flowId : Uuid) (claimed : Revision) (r : SnapshotRequest)
    (user : String) (hcalm : w.Calm) :
    (runWith (createSnapshot flowId claimed r user) w).2.bundlesApart flowId.text =
        w.bundlesApart flowId.text ∧
      ((runWith (createSnapshot flowId claimed r user) w).2.content.blob? = w.content.blob? ∨
        w.catalog.Live .flow flowId) := by
  unfold createSnapshot
  dsimp only
  split
  rw [runWith_bind, runWith_lift]
  rcases validateDescription _ with _ | _
  · exact ⟨rfl, .inl rfl⟩
  dsimp only
  all_goals
    rw [runWith_bind_snd fun _ _ => rfl]
    refine Manager.update_lands (Q := fun u => u.bundlesApart flowId.text =
        w.bundlesApart flowId.text ∧ (u.content.blob? = w.content.blob? ∨ w.catalog.Live .flow flowId))
      List.not_mem_nil hcalm
      (fun _ h => ⟨World.bundlesApart_eq h.view, .inl (congrArg (fun s => s.2.2) h.view)⟩) ?_ ?_
    · intro w₁ h₁
      refine lands_bind_within (Q := fun u => u.bundlesApart flowId.text =
          w.bundlesApart flowId.text ∧ (u.content.blob? = w.content.blob? ∨ w.catalog.Live .flow flowId))
        (h₁.calm hcalm) (within_requireFlow List.not_mem_nil _)
        (fun _ h => ⟨World.bundlesApart_eq (h₁.trans h).view,
          .inl (congrArg (fun s => s.2.2) (h₁.trans h).view)⟩) fun flow w₂ hrun₂ h₂ => ?_
      have hlive : w.catalog.Live .flow flowId := by
        have hcat₁ : w₁.catalog = w.catalog := congrArg (fun s => s.2.1) h₁.view
        rw [← hcat₁]
        exact Catalog.mem_ids_of_fetchFlow (by rw [requireFlow_result (h₁.calm hcalm) hrun₂]; simp)
      refine ⟨(Within.lands (show Within [] _ _ from ?_) ((h₁.trans h₂).calm hcalm)).trans
        (World.bundlesApart_eq (h₁.trans h₂).view), .inr hlive⟩
      refine (within_readCatalog List.not_mem_nil _).bundlesApart.bind fun latest => ?_
      refine (Within.lift _).bind fun expected => ?_
      split
      · exact Within.throw_bind _ _
      · exact within_now.bundlesApart.bind fun _ => (Within.lift _).bind fun _ =>
          (within_saveContent_apart _ _).bind fun _ =>
          ((within_writeCatalog_apart fun _ _ => Catalog.versions_insertSnapshot).tryCatch fun e =>
            (within_discardSnapshot_apart _ _ _).bind fun _ => Within.throw' e).bind
          fun _ => ((within_writeCatalog_apart fun _ _ => Catalog.versions_updateFlow).tryCatch fun e =>
            (within_discardSnapshot_apart _ _ _).bind fun _ => Within.throw' e).bind
          fun _ => Within.pure' _
    · intro u current hu
      obtain ⟨hcat, hcontent⟩ := Manager.advance_metadata current claimed u
      refine ⟨?_, ?_⟩
      · rw [← hu.1]
        simp only [World.bundlesApart, hcat, hcontent]
      · rw [hcontent]
        exact hu.2

end Coordinator

end FlowRegistry
