import FlowRegistry.Proofs.Frames
import FlowRegistry.Revision.Manager

/-!
# When the revision manager runs a closure

A change, a delete and a creation each run a closure their caller gives. The closure runs at most
once, and only once every check of the claim has passed. A claim that fails a check is refused
with the error of the first check it fails, before the closure: the call then answers and leaves
the registry the same whatever the closure is.

The checks go in this order. For a change or a delete (`Manager.update`, `Manager.deleteWith`):
the claim names the entity (else `invalidRevision`); then, read under the entity's lock, the store
has a revision of it (else `notFound`) at the claimed version (else `staleRevision`, naming both
versions). A claim of a version after the stored one is as stale as one before it. For a creation
(`Manager.create`): the claim names the entity and is at version 0 (else `invalidRevision`); then
the store has no revision of it (else `alreadyExists`); and the initial revision of the claiming
client is registered only once the closure has returned.

The read under the lock goes through the plan of faults like every store call, and a failure
planned for it refuses the call with that failure.

Main statements: `Manager.runWith_checked` and `Manager.runWith_create`, one equation for every
registry each, and `closure_runs_only_for_current_claim`, which reads them as the guard of the
closure.
-/

namespace FlowRegistry

namespace Manager

variable {α β : Type} {e : String} {claimed : Revision}

/-- The read of a revision, under the plan: the planned failure, the revision, or `notFound`. -/
theorem runWith_getRevision (e : String) (w : World) :
    runWith (getRevision e) w =
      match (w.planned (World.revisionCall "get_revision")).1, w.revisions.get? e with
      | some err, _ => (.error err, w.pass (World.revisionCall "get_revision"))
      | none, none =>
        (.error (.notFound s!"revision for entity {e}"), w.pass (World.revisionCall "get_revision"))
      | none, some r => (.ok r, w.pass (World.revisionCall "get_revision")) := by
  simp only [getRevision, runWith_bind, World.runWith_getRevision]
  rcases (w.planned _).1 with _ | err
  · rcases w.revisions.get? e with _ | r <;> rfl
  · rfl

/-- The checks of a change or a delete, and what follows them: the claim is refused unless it
names the entity and is at the version stored for it, in which case the call goes on from the
registry the read left, with the stored revision. -/
theorem runWith_checked (k : Revision → Registry β) (w : World) :
    runWith (World.lift (checkEntity e claimed) >>= fun _ => verifyLocked e claimed >>= k) w =
      if claimed.entityId = e then
        match (w.planned (World.revisionCall "get_revision")).1, w.revisions.get? e with
        | some err, _ => (.error err, w.pass (World.revisionCall "get_revision"))
        | none, none =>
          (.error (.notFound s!"revision for entity {e}"), w.pass (World.revisionCall "get_revision"))
        | none, some cur =>
          if cur.version = claimed.version then runWith (k cur) (w.pass (World.revisionCall "get_revision"))
          else (.error (.staleRevision e claimed.version cur.version),
            w.pass (World.revisionCall "get_revision"))
      else (.error (.invalidRevision s!"revision for {claimed.entityId} presented for {e}"), w) := by
  by_cases hentity : claimed.entityId = e
  · have passes : checkEntity e claimed = .ok () := by simp [checkEntity, hentity]
    simp only [if_pos hentity, runWith_bind, runWith_lift, passes, verifyLocked, runWith_getRevision]
    rcases (w.planned _).1 with _ | err
    · rcases w.revisions.get? e with _ | cur
      · rfl
      · by_cases hv : cur.version = claimed.version <;> simp [hv]
    · rfl
  · have refused : checkEntity e claimed =
        .error (.invalidRevision s!"revision for {claimed.entityId} presented for {e}") := by
      simp [checkEntity, hentity]
    simp only [if_neg hentity, runWith_bind, runWith_lift, refused]

/-- A change is its checks, then its closure, then the move of its revision. -/
theorem update_eq (mutation : Registry α) :
    update e claimed mutation = (World.lift (checkEntity e claimed) >>= fun _ =>
      verifyLocked e claimed >>= fun current =>
        mutation >>= fun a => advance current claimed >>= fun next => pure (a, next)) := rfl

/-- A delete is its checks, then its closure, then the drop of its revision. -/
theorem deleteWith_eq (deletion : Registry α) :
    deleteWith e claimed deletion = (World.lift (checkEntity e claimed) >>= fun _ =>
      verifyLocked e claimed >>= fun _ =>
        deletion >>= fun a => World.deleteRevision e >>= fun _ => pure a) := rfl

/-- A creation is its checks, then its closure, then the registration of its initial revision. -/
theorem create_eq (creation : Registry α) :
    create e claimed creation = (World.lift (checkEntity e claimed) >>= fun _ =>
      World.lift (checkInitial e claimed) >>= fun _ => checkAbsent e >>= fun _ =>
        creation >>= fun a => World.createRevision ⟨e, 0, claimed.clientId⟩ >>= fun _ =>
          pure (a, ⟨e, 0, claimed.clientId⟩)) := by
  simp only [create, register, Revision.initial, bind_assoc, pure_bind]

/-- A creation: its claim is refused unless it names the entity at version 0 and the store has no
revision of it; otherwise the closure runs from the registry the read left, and the initial
revision of the claiming client is registered after it. -/
theorem runWith_create (creation : Registry α) (w : World) :
    runWith (create e claimed creation) w =
      if claimed.entityId = e then
        if claimed.version = 0 then
          match (w.planned (World.revisionCall "get_revision")).1, w.revisions.get? e with
          | some err, _ => (.error err, w.pass (World.revisionCall "get_revision"))
          | none, some _ =>
            (.error (.alreadyExists s!"entity {e}"), w.pass (World.revisionCall "get_revision"))
          | none, none => runWith (creation >>= fun a =>
              World.createRevision ⟨e, 0, claimed.clientId⟩ >>= fun _ =>
                pure (a, ⟨e, 0, claimed.clientId⟩)) (w.pass (World.revisionCall "get_revision"))
        else (.error (.invalidRevision
          s!"a revision version of 0 must be specified when creating {e}, got {claimed.version}"), w)
      else (.error (.invalidRevision s!"revision for {claimed.entityId} presented for {e}"), w) := by
  by_cases hentity : claimed.entityId = e
  · have passes : checkEntity e claimed = .ok () := by simp [checkEntity, hentity]
    by_cases hzero : claimed.version = 0
    · have initial : checkInitial e claimed = .ok () := by simp [checkInitial, hzero]
      simp only [if_pos hentity, if_pos hzero, create_eq, runWith_bind, runWith_lift, passes,
        initial, checkAbsent, World.runWith_getRevision]
      rcases (w.planned _).1 with _ | err
      · rcases w.revisions.get? e with _ | r <;> rfl
      · rfl
    · have refused : checkInitial e claimed = .error (.invalidRevision
          s!"a revision version of 0 must be specified when creating {e}, got {claimed.version}") := by
        simp [checkInitial, hzero]
      simp only [if_pos hentity, if_neg hzero, create_eq, runWith_bind, runWith_lift, passes, refused]
  · have refused : checkEntity e claimed =
        .error (.invalidRevision s!"revision for {claimed.entityId} presented for {e}") := by
      simp [checkEntity, hentity]
    simp only [if_neg hentity, create_eq, runWith_bind, runWith_lift, refused]

/-- The checks of a change or a delete of `e` under `claimed` pass on `w`: the claim names `e`, the
read under the lock meets no planned failure, and the store holds a revision of `e` at the claimed
version. -/
def ChecksPass (w : World) (e : String) (claimed : Revision) : Prop :=
  claimed.entityId = e ∧ w.Lets (World.revisionCall "get_revision") ∧
    ∃ cur, w.revisions.get? e = some cur ∧ cur.version = claimed.version

/-- The checks of a creation of `e` under `claimed` pass on `w`: the claim names `e` at version 0,
the read under the lock meets no planned failure, and the store has no revision of `e`. -/
def CreationChecksPass (w : World) (e : String) (claimed : Revision) : Prop :=
  claimed.entityId = e ∧ claimed.version = 0 ∧ w.Lets (World.revisionCall "get_revision") ∧
    w.revisions.get? e = none

/-- Where the checks of a change or a delete pass, the call goes on from the registry the read
left, with the stored revision. -/
theorem runWith_checked_of_pass (k : Revision → Registry β) {w : World} {cur : Revision}
    (hcur : w.revisions.get? e = some cur) (h : ChecksPass w e claimed) :
    runWith (World.lift (checkEntity e claimed) >>= fun _ => verifyLocked e claimed >>= k) w =
      runWith (k cur) (w.pass (World.revisionCall "get_revision")) := by
  obtain ⟨hentity, hlets, cur', hcur', hv⟩ := h
  obtain rfl : cur' = cur := Option.some.inj (hcur'.symm.trans hcur)
  rw [runWith_checked, if_pos hentity, hlets, hcur]
  exact if_pos hv

/-- Where the checks of a change or a delete fail, the call answers and leaves the registry the
same whatever follows the checks. -/
theorem runWith_checked_of_refused (k k' : Revision → Registry β) {w : World}
    (h : ¬ChecksPass w e claimed) :
    runWith (World.lift (checkEntity e claimed) >>= fun _ => verifyLocked e claimed >>= k) w =
      runWith (World.lift (checkEntity e claimed) >>= fun _ => verifyLocked e claimed >>= k') w := by
  rw [runWith_checked, runWith_checked]
  by_cases hentity : claimed.entityId = e
  · simp only [if_pos hentity]
    rcases hplanned : (w.planned (World.revisionCall "get_revision")).1 with _ | err
    · rcases hstored : w.revisions.get? e with _ | cur
      · rfl
      · -- a stored revision at the claimed version would have let the checks pass
        have hv : cur.version ≠ claimed.version := fun hv => h ⟨hentity, hplanned, cur, hstored, hv⟩
        simp [hv]
    · rfl
  · simp only [if_neg hentity]

/-- Where the checks of a creation pass, its closure runs from the registry the read left, and the
initial revision is registered once it returns. -/
theorem runWith_create_of_pass (creation : Registry α) {w : World} (h : CreationChecksPass w e claimed) :
    runWith (create e claimed creation) w =
      runWith (creation >>= fun a => World.createRevision ⟨e, 0, claimed.clientId⟩ >>= fun _ =>
        pure (a, ⟨e, 0, claimed.clientId⟩)) (w.pass (World.revisionCall "get_revision")) := by
  obtain ⟨hentity, hzero, hlets, hnone⟩ := h
  rw [runWith_create, if_pos hentity, if_pos hzero, hlets, hnone]

/-- Where the checks of a creation fail, it answers and leaves the registry the same whatever its
closure. -/
theorem runWith_create_of_refused (creation creation' : Registry α) {w : World}
    (h : ¬CreationChecksPass w e claimed) :
    runWith (create e claimed creation) w = runWith (create e claimed creation') w := by
  rw [runWith_create, runWith_create]
  by_cases hentity : claimed.entityId = e
  · by_cases hzero : claimed.version = 0
    · simp only [if_pos hentity, if_pos hzero]
      rcases hplanned : (w.planned (World.revisionCall "get_revision")).1 with _ | err
      · rcases hstored : w.revisions.get? e with _ | cur
        · exact absurd ⟨hentity, hzero, hplanned, hstored⟩ h
        · rfl
      · rfl
    · simp only [if_pos hentity, if_neg hzero]
  · simp only [if_neg hentity]

end Manager

open Manager in
/-- The revision manager runs the closure of a change or a delete once, after its checks, exactly
when they pass, and refuses the claim otherwise with the error of the first check that fails,
whatever the closure; a creation runs its closure exactly when its own checks pass, and registers
the initial revision of the claiming client only after the closure has returned. -/
theorem closure_runs_only_for_current_claim {α : Type} (w : World) (e : String) (claimed : Revision)
    (run run' : Registry α) :
    (∀ cur, w.revisions.get? e = some cur → ChecksPass w e claimed →
      runWith (update e claimed run) w = runWith (run >>= fun a => advance cur claimed >>= fun next =>
        pure (a, next)) (w.pass (World.revisionCall "get_revision")) ∧
      runWith (deleteWith e claimed run) w = runWith (run >>= fun a => World.deleteRevision e >>= fun _ =>
        pure a) (w.pass (World.revisionCall "get_revision"))) ∧
    (¬ChecksPass w e claimed →
      runWith (update e claimed run) w = runWith (update e claimed run') w ∧
      runWith (deleteWith e claimed run) w = runWith (deleteWith e claimed run') w) ∧
    (claimed.entityId ≠ e →
      (runWith (update e claimed run) w).1 =
        .error (.invalidRevision s!"revision for {claimed.entityId} presented for {e}") ∧
      (runWith (deleteWith e claimed run) w).1 =
        .error (.invalidRevision s!"revision for {claimed.entityId} presented for {e}")) ∧
    (claimed.entityId = e → w.Lets (World.revisionCall "get_revision") → w.revisions.get? e = none →
      (runWith (update e claimed run) w).1 = .error (.notFound s!"revision for entity {e}") ∧
      (runWith (deleteWith e claimed run) w).1 = .error (.notFound s!"revision for entity {e}")) ∧
    (∀ cur, claimed.entityId = e → w.Lets (World.revisionCall "get_revision") →
      w.revisions.get? e = some cur → cur.version ≠ claimed.version →
      (runWith (update e claimed run) w).1 = .error (.staleRevision e claimed.version cur.version) ∧
      (runWith (deleteWith e claimed run) w).1 = .error (.staleRevision e claimed.version cur.version)) ∧
    (CreationChecksPass w e claimed →
      runWith (create e claimed run) w = runWith (run >>= fun a =>
        World.createRevision ⟨e, 0, claimed.clientId⟩ >>= fun _ => pure (a, ⟨e, 0, claimed.clientId⟩))
        (w.pass (World.revisionCall "get_revision"))) ∧
    (¬CreationChecksPass w e claimed →
      runWith (create e claimed run) w = runWith (create e claimed run') w) ∧
    (claimed.entityId ≠ e → (runWith (create e claimed run) w).1 =
      .error (.invalidRevision s!"revision for {claimed.entityId} presented for {e}")) ∧
    (claimed.entityId = e → claimed.version ≠ 0 → (runWith (create e claimed run) w).1 =
      .error (.invalidRevision
        s!"a revision version of 0 must be specified when creating {e}, got {claimed.version}")) ∧
    (claimed.entityId = e → claimed.version = 0 → w.Lets (World.revisionCall "get_revision") →
      (w.revisions.get? e).isSome →
      (runWith (create e claimed run) w).1 = .error (.alreadyExists s!"entity {e}")) := by
  refine ⟨fun cur hcur h => ⟨?update, ?delete⟩, fun h => ⟨?update', ?delete'⟩, fun hentity => ?foreign,
    fun hentity hlets hnone => ?missing, fun cur hentity hlets hcur hv => ?stale,
    runWith_create_of_pass run, runWith_create_of_refused run run', fun hentity => ?cforeign,
    fun hentity hzero => ?cversion, fun hentity hzero hlets hsome => ?present⟩
  case update => rw [update_eq, runWith_checked_of_pass _ hcur h]
  case delete => rw [deleteWith_eq, runWith_checked_of_pass _ hcur h]
  case update' => rw [update_eq, update_eq, runWith_checked_of_refused _ _ h]
  case delete' => rw [deleteWith_eq, deleteWith_eq, runWith_checked_of_refused _ _ h]
  case foreign =>
    rw [update_eq, deleteWith_eq, runWith_checked, runWith_checked, if_neg hentity, if_neg hentity]
    exact ⟨rfl, rfl⟩
  case missing =>
    rw [update_eq, deleteWith_eq, runWith_checked, runWith_checked, if_pos hentity, if_pos hentity,
      hlets, hnone]
    exact ⟨rfl, rfl⟩
  case stale =>
    rw [update_eq, deleteWith_eq, runWith_checked, runWith_checked, if_pos hentity, if_pos hentity,
      hlets, hcur]
    simp only [if_neg hv, and_self]
  case cforeign => rw [runWith_create, if_neg hentity]
  case cversion => rw [runWith_create, if_pos hentity, if_neg hzero]
  case present =>
    obtain ⟨r, hr⟩ := Option.isSome_iff_exists.1 hsome
    rw [runWith_create, if_pos hentity, if_pos hzero, hlets, hr]

end FlowRegistry
