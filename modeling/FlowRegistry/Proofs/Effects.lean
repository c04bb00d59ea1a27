import FlowRegistry.Proofs.Requests

/-!
# What a call of the revision manager does to the revision table

A view of the registry is what one part of it holds, such as its revision table. `Keeps v m` says
that `m` leaves the view `v` as it finds it, and `Atomic v m` that it does whenever it fails. Both
pass through `bind` as long as what may fail with a trace comes last (`Atomic.bind`), and that is
how every operation of the revision manager is built: checks and reads first, then the closure,
which leaves the revisions alone, then one write of the revision store.

Whatever failures the store meets, every call that fails leaves the revision table exactly as it
was (`Request.atomic_call`). A call that succeeds found what its checks ask for (`Change.Found`)
and leaves under its entity the revision that `Change.after` names, and every other entry as it
was (`Change.call_ok`).
-/

namespace FlowRegistry

section Views

variable {α β γ : Type}

/-- `m` leaves the view `v` of the registry as it finds it. -/
def Keeps (v : World → γ) (m : Registry α) : Prop := ∀ w, v (runWith m w).2 = v w

/-- Whenever `m` fails, it leaves the view `v` of the registry as it found it. -/
def Atomic (v : World → γ) (m : Registry α) : Prop :=
  ∀ w err, (runWith m w).1 = .error err → v (runWith m w).2 = v w

variable {v : World → γ}

namespace Keeps

theorem pure' (a : α) : Keeps v (pure a : Registry α) := fun _ => rfl

theorem throw' (err : RegistryError) : Keeps v (throw err : Registry α) := fun _ => rfl

theorem lift (o : Outcome α) : Keeps v (World.lift o) := fun w => by simp

theorem bind {m : Registry α} {f : α → Registry β} (hm : Keeps v m) (hf : ∀ a, Keeps v (f a)) :
    Keeps v (m >>= f) := by
  intro w
  have first := hm w
  rw [runWith_bind]
  generalize runWith m w = p at first ⊢
  rcases p with ⟨_ | a, w₁⟩
  · exact first
  · exact (hf a w₁).trans first

theorem map {m : Registry α} (hm : Keeps v m) (f : α → β) : Keeps v (f <$> m) :=
  fun w => by simpa using hm w

theorem atomic {m : Registry α} (hm : Keeps v m) : Atomic v m := fun w _ _ => hm w

end Keeps

namespace Atomic

/-- A step that keeps the view, then one that fails without a trace. -/
theorem bind {m : Registry α} {f : α → Registry β} (hm : Keeps v m) (hf : ∀ a, Atomic v (f a)) :
    Atomic v (m >>= f) := by
  intro w err herr
  have first := hm w
  rw [runWith_bind] at herr ⊢
  generalize runWith m w = p at first herr ⊢
  rcases p with ⟨_ | a, w₁⟩
  · exact first
  · exact (hf a w₁ err herr).trans first

theorem map {m : Registry α} (hm : Atomic v m) (f : α → β) : Atomic v (f <$> m) := by
  intro w err herr
  simp only [runWith_map] at herr ⊢
  rcases hout : (runWith m w).1 with e | a <;> rw [hout] at herr
  · exact hm w e hout
  · cases herr

theorem bind_pure {m : Registry α} (hm : Atomic v m) (f : α → β) :
    Atomic v (m >>= fun a => pure (f a)) := by
  rw [bind_pure_comp]
  exact hm.map f

end Atomic

end Views

/-! ### The revision table, entry by entry -/

namespace RevisionTable

/-- `t'` holds `o` under `e` and, under every other id, what `t` holds. -/
def Sets (t t' : RevisionTable) (e : String) (o : Option Revision) : Prop :=
  ∀ x, t'.get? x = if x = e then o else t.get? x

theorem Sets.get?_self {t t' : RevisionTable} {e : String} {o : Option Revision}
    (h : t.Sets t' e o) : t'.get? e = o := by
  simpa using h e

theorem Sets.get?_ne {t t' : RevisionTable} {e x : String} {o : Option Revision}
    (h : t.Sets t' e o) (hx : x ≠ e) : t'.get? x = t.get? x := by
  simpa [hx] using h x

theorem sets_store (t : RevisionTable) (r : Revision) : t.Sets (t.store r) r.entityId (some r) := by
  intro x
  rw [get?_store]
  by_cases hx : x = r.entityId
  · simp [hx]
  · simp [hx, Ne.symm hx]

theorem sets_delete (t : RevisionTable) (e : String) : t.Sets (t.delete e).1 e none :=
  get?_delete t e

theorem sets_of_create {t t' : RevisionTable} {r : Revision} (h : t.create r = .ok t') :
    t.Sets t' r.entityId (some r) := by
  unfold create at h
  split at h
  · cases h
  · cases h; exact sets_store t r

theorem sets_of_put {t t' : RevisionTable} {v : Nat} {r : Revision} (h : t.put v r = .ok t') :
    t.Sets t' r.entityId (some r) := by
  unfold put at h
  split at h
  · cases h
  · split at h
    · cases h; exact sets_store t r
    · cases h

end RevisionTable

theorem Revision.next_eq_ok {r r' : Revision} {c : String} :
    r.next c = .ok r' ↔ r.version < maxRevisionVersion ∧ r' = ⟨r.entityId, r.version + 1, c⟩ := by
  unfold Revision.next
  split <;> simp [*, eq_comm]

/-! ### The calls of the revision store -/

namespace World

theorem keeps_getRevision (e : String) : Keeps World.revisions (getRevision e) := by
  intro w
  rw [runWith_getRevision]
  split <;> rfl

theorem atomic_createRevision (r : Revision) : Atomic World.revisions (createRevision r) := by
  intro w err herr
  rw [runWith_createRevision] at herr ⊢
  generalize (w.planned (revisionCall "create_revision")).1 = planned at herr ⊢
  rcases planned with _ | _
  · generalize w.revisions.create r = written at herr ⊢
    rcases written with _ | _
    · rfl
    · cases herr
  · rfl

theorem atomic_putRevision (v : Nat) (r : Revision) : Atomic World.revisions (putRevision v r) := by
  intro w err herr
  rw [runWith_putRevision] at herr ⊢
  generalize (w.planned (revisionCall "put_revision")).1 = planned at herr ⊢
  rcases planned with _ | _
  · generalize w.revisions.put v r = written at herr ⊢
    rcases written with _ | _
    · rfl
    · cases herr
  · rfl

theorem atomic_deleteRevision (e : String) : Atomic World.revisions (deleteRevision e) := by
  intro w err herr
  rw [runWith_deleteRevision] at herr ⊢
  generalize (w.planned (revisionCall "delete_revision")).1 = planned at herr ⊢
  rcases planned with _ | _
  · cases herr
  · rfl

theorem getRevision_ok {e : String} {w w' : World} {o : Option Revision}
    (h : runWith (getRevision e) w = (.ok o, w')) :
    o = w.revisions.get? e ∧ w'.revisions = w.revisions := by
  rw [runWith_getRevision] at h
  split at h
  · cases h
  · cases h; exact ⟨rfl, rfl⟩

theorem createRevision_ok {r : Revision} {w w' : World} {u : Unit}
    (h : runWith (createRevision r) w = (.ok u, w')) :
    w.revisions.Sets w'.revisions r.entityId (some r) := by
  rw [runWith_createRevision] at h
  split at h
  · cases h
  · split at h
    · rename_i t ht
      cases h
      exact RevisionTable.sets_of_create ht
    · cases h

theorem putRevision_ok {v : Nat} {r : Revision} {w w' : World} {u : Unit}
    (h : runWith (putRevision v r) w = (.ok u, w')) :
    w.revisions.Sets w'.revisions r.entityId (some r) := by
  rw [runWith_putRevision] at h
  split at h
  · cases h
  · split at h
    · rename_i t ht
      cases h
      exact RevisionTable.sets_of_put ht
    · cases h

theorem deleteRevision_ok {e : String} {w w' : World} {b : Bool}
    (h : runWith (deleteRevision e) w = (.ok b, w')) : w.revisions.Sets w'.revisions e none := by
  rw [runWith_deleteRevision] at h
  split at h
  · cases h
  · cases h; exact RevisionTable.sets_delete _ e

end World

/-! ### The operations of the manager -/

namespace Manager

variable {α : Type} {e : String} {claimed : Revision} {w w' : World}

theorem keeps_getRevision (e : String) : Keeps World.revisions (getRevision e) :=
  (World.keeps_getRevision e).bind fun o => by
    cases o
    · exact .throw' _
    · exact .pure' _

theorem keeps_isRevisioned (e : String) : Keeps World.revisions (isRevisioned e) :=
  (World.keeps_getRevision e).bind fun _ => .pure' _

theorem keeps_checkAbsent (e : String) : Keeps World.revisions (checkAbsent e) :=
  (World.keeps_getRevision e).bind fun o => by
    by_cases h : o.isSome
    · simpa [h] using Keeps.throw' _
    · simpa [h] using Keeps.pure' ()

theorem keeps_verifyLocked (e : String) (claimed : Revision) :
    Keeps World.revisions (verifyLocked e claimed) :=
  (keeps_getRevision e).bind fun current => by
    by_cases h : current.version = claimed.version
    · simpa [h] using Keeps.pure' current
    · simpa [h] using Keeps.throw' _

theorem atomic_register (e : String) (claimed : Revision) :
    Atomic World.revisions (register e claimed) :=
  (World.atomic_createRevision _).bind_pure _

theorem atomic_advance (current claimed : Revision) :
    Atomic World.revisions (advance current claimed) :=
  Atomic.bind (Keeps.lift _) fun next => (World.atomic_putRevision _ next).bind_pure _

/-- A creation whose closure leaves the revisions alone fails without a trace on them. -/
theorem atomic_create {creation : Registry α} (hc : Keeps World.revisions creation) :
    Atomic World.revisions (create e claimed creation) :=
  Atomic.bind (Keeps.lift _) fun _ => Atomic.bind (Keeps.lift _) fun _ =>
    Atomic.bind (keeps_checkAbsent e) fun _ => Atomic.bind hc fun _ =>
    (atomic_register e claimed).bind_pure _

theorem atomic_update {mutation : Registry α} (hc : Keeps World.revisions mutation) :
    Atomic World.revisions (update e claimed mutation) :=
  Atomic.bind (Keeps.lift _) fun _ => Atomic.bind (keeps_verifyLocked e claimed) fun current =>
    Atomic.bind hc fun _ => (atomic_advance current claimed).bind_pure _

theorem atomic_deleteWith {deletion : Registry α} (hc : Keeps World.revisions deletion) :
    Atomic World.revisions (deleteWith e claimed deletion) :=
  Atomic.bind (Keeps.lift _) fun _ => Atomic.bind (keeps_verifyLocked e claimed) fun _ =>
    Atomic.bind hc fun _ => (World.atomic_deleteRevision e).bind_pure _

theorem atomic_delete (e : String) : Atomic World.revisions (delete e) :=
  (World.atomic_deleteRevision e).bind_pure _

theorem checkEntity_ok {u : Unit} (h : checkEntity e claimed = .ok u) : claimed.entityId = e := by
  unfold checkEntity at h
  split at h
  · assumption
  · cases h

theorem checkInitial_ok {u : Unit} (h : checkInitial e claimed = .ok u) : claimed.version = 0 := by
  unfold checkInitial at h
  split at h
  · assumption
  · cases h

theorem getRevision_ok {r : Revision} (h : runWith (getRevision e) w = (.ok r, w')) :
    w.revisions.get? e = some r ∧ w'.revisions = w.revisions := by
  simp only [getRevision, runWith_bind_eq_ok] at h
  obtain ⟨o, w₁, hget, h⟩ := h
  obtain ⟨rfl, hkeep⟩ := World.getRevision_ok hget
  rcases hstored : w.revisions.get? e with _ | s <;>
    simp only [hstored, runWith_throw, runWith_pure, Prod.mk.injEq, Except.ok.injEq,
      reduceCtorEq, false_and] at h
  obtain ⟨rfl, rfl⟩ := h
  exact ⟨rfl, hkeep⟩

theorem checkAbsent_ok {u : Unit} (h : runWith (checkAbsent e) w = (.ok u, w')) :
    w.revisions.get? e = none ∧ w'.revisions = w.revisions := by
  simp only [checkAbsent, runWith_bind_eq_ok] at h
  obtain ⟨o, w₁, hget, h⟩ := h
  obtain ⟨rfl, hkeep⟩ := World.getRevision_ok hget
  rcases hstored : w.revisions.get? e with _ | s <;>
    simp only [hstored, Option.isSome_none, Option.isSome_some, if_true, Bool.false_eq_true,
      if_false, runWith_throw, runWith_pure, Prod.mk.injEq, reduceCtorEq, false_and] at h
  obtain ⟨-, rfl⟩ := h
  exact ⟨rfl, hkeep⟩

theorem verifyLocked_ok {current : Revision}
    (h : runWith (verifyLocked e claimed) w = (.ok current, w')) :
    w.revisions.get? e = some current ∧ current.version = claimed.version ∧
      w'.revisions = w.revisions := by
  simp only [verifyLocked, runWith_bind_eq_ok] at h
  obtain ⟨r, w₁, hget, h⟩ := h
  obtain ⟨hstored, hkeep⟩ := getRevision_ok hget
  by_cases hv : r.version = claimed.version <;>
    simp only [hv, if_true, if_false, runWith_throw, runWith_pure, Prod.mk.injEq,
      Except.ok.injEq, reduceCtorEq, false_and] at h
  obtain ⟨rfl, rfl⟩ := h
  exact ⟨hstored, hv, hkeep⟩

theorem register_ok {r : Revision} (h : runWith (register e claimed) w = (.ok r, w')) :
    r = Revision.initial e claimed.clientId ∧ w.revisions.Sets w'.revisions e (some r) := by
  simp only [register, runWith_bind_eq_ok, runWith_pure, Prod.mk.injEq, Except.ok.injEq] at h
  obtain ⟨u, w₁, hcreate, rfl, rfl⟩ := h
  exact ⟨rfl, World.createRevision_ok hcreate⟩

theorem advance_ok {current r : Revision} (hcur : current.entityId = e)
    (h : runWith (advance current claimed) w = (.ok r, w')) :
    current.version < maxRevisionVersion ∧ r = ⟨e, current.version + 1, claimed.clientId⟩ ∧
      w.revisions.Sets w'.revisions e (some r) := by
  simp only [advance, runWith_bind_eq_ok, runWith_lift, runWith_pure, Prod.mk.injEq,
    Except.ok.injEq] at h
  obtain ⟨next, w₁, ⟨hnext, rfl⟩, u, w₂, hput, rfl, rfl⟩ := h
  obtain ⟨hlt, rfl⟩ := Revision.next_eq_ok.1 hnext
  have hset := World.putRevision_ok hput
  rw [hcur] at hset ⊢
  exact ⟨hlt, rfl, hset⟩

/-- The checks of a change to a stored entity, then its closure: what a success has found. -/
theorem verified_ok {β : Type} {closure : Registry α} {rest : Revision → α → Registry β} {b : β}
    (hc : Keeps World.revisions closure)
    (h : runWith (World.lift (checkEntity e claimed) >>= fun _ =>
      verifyLocked e claimed >>= fun current => closure >>= fun a => rest current a) w =
        (.ok b, w')) :
    claimed.entityId = e ∧ ∃ current a w₁, w.revisions.get? e = some current ∧
      current.version = claimed.version ∧ w₁.revisions = w.revisions ∧
      runWith (rest current a) w₁ = (.ok b, w') := by
  simp only [runWith_bind_eq_ok, runWith_lift, Prod.mk.injEq] at h
  obtain ⟨u, w₁, ⟨hentity, rfl⟩, current, w₂, hverify, a, w₃, hclosure, h⟩ := h
  obtain ⟨hstored, hv, hkeep⟩ := verifyLocked_ok hverify
  have hkept : w₃.revisions = w₂.revisions := by simpa [hclosure] using hc w₂
  exact ⟨checkEntity_ok hentity, current, a, w₃, hstored, hv, hkept.trans hkeep, h⟩

theorem create_ok {creation : Registry α} {a : α} {r : Revision}
    (hc : Keeps World.revisions creation)
    (h : runWith (create e claimed creation) w = (.ok (a, r), w')) :
    claimed.entityId = e ∧ claimed.version = 0 ∧ w.revisions.get? e = none ∧
      r = Revision.initial e claimed.clientId ∧ w.revisions.Sets w'.revisions e (some r) := by
  simp only [create, runWith_bind_eq_ok, runWith_lift, runWith_pure, Prod.mk.injEq,
    Except.ok.injEq] at h
  obtain ⟨u₁, w₁, ⟨hentity, rfl⟩, u₂, w₂, ⟨hzero, rfl⟩, u₃, w₃, habsent, value, w₄, hcreation,
    r', w₅, hregister, ⟨rfl, rfl⟩, rfl⟩ := h
  obtain ⟨hnone, hkeep⟩ := checkAbsent_ok habsent
  have hkept : w₄.revisions = w₃.revisions := by simpa [hcreation] using hc w₃
  obtain ⟨rfl, hset⟩ := register_ok hregister
  rw [hkept, hkeep] at hset
  exact ⟨checkEntity_ok hentity, checkInitial_ok hzero, hnone, rfl, hset⟩

theorem update_ok {mutation : Registry α} {a : α} {r : Revision}
    (hc : Keeps World.revisions mutation)
    (h : runWith (update e claimed mutation) w = (.ok (a, r), w')) :
    claimed.entityId = e ∧ (∃ current, w.revisions.get? e = some current ∧
      current.version = claimed.version ∧ current.version < maxRevisionVersion) ∧
      r = ⟨e, claimed.version + 1, claimed.clientId⟩ ∧ w.revisions.Sets w'.revisions e (some r) := by
  obtain ⟨hentity, current, value, w₁, hstored, hv, hkeep, h⟩ := verified_ok hc h
  simp only [runWith_bind_eq_ok, runWith_pure, Prod.mk.injEq, Except.ok.injEq] at h
  obtain ⟨next, w₂, hadvance, ⟨rfl, rfl⟩, rfl⟩ := h
  obtain ⟨hlt, rfl, hset⟩ := advance_ok (RevisionTable.get?_entityId hstored) hadvance
  rw [hkeep] at hset
  exact ⟨hentity, ⟨current, hstored, hv, hlt⟩, by rw [hv], hset⟩

theorem deleteWith_ok {deletion : Registry α} {a : α} (hc : Keeps World.revisions deletion)
    (h : runWith (deleteWith e claimed deletion) w = (.ok a, w')) :
    claimed.entityId = e ∧ (∃ current, w.revisions.get? e = some current ∧
      current.version = claimed.version) ∧ w.revisions.Sets w'.revisions e none := by
  obtain ⟨hentity, current, value, w₁, hstored, hv, hkeep, h⟩ := verified_ok hc h
  simp only [runWith_bind_eq_ok, runWith_pure, Prod.mk.injEq] at h
  obtain ⟨existed, w₂, hdelete, -, rfl⟩ := h
  have hset := World.deleteRevision_ok hdelete
  rw [hkeep] at hset
  exact ⟨hentity, ⟨current, hstored, hv⟩, hset⟩

theorem delete_ok {u : Unit} (h : runWith (delete e) w = (.ok u, w')) :
    w.revisions.Sets w'.revisions e none := by
  simp only [delete, runWith_bind_eq_ok, runWith_pure, Prod.mk.injEq] at h
  obtain ⟨existed, w₁, hdelete, -, rfl⟩ := h
  exact World.deleteRevision_ok hdelete

end Manager

/-! ### Changes and requests -/

namespace Change

/-- What a change that succeeds must have found in the table: a claim of its own entity and, for a
creation, a claim at version 0 and no revision yet; otherwise the stored revision at the claimed
version, which an update can still move forward. -/
def Found (c : Change) (t : RevisionTable) : Prop :=
  c.claimed.entityId = c.entityId ∧
    match c.kind with
    | .create => c.claimed.version = 0 ∧ t.get? c.entityId = none
    | .update => ∃ current, t.get? c.entityId = some current ∧
        current.version = c.claimed.version ∧ current.version < maxRevisionVersion
    | .delete => ∃ current, t.get? c.entityId = some current ∧ current.version = c.claimed.version

/-- What a change that succeeds leaves under its entity, where it found `found`: the initial
revision of its client, the revision after the one found, or none. -/
def after (c : Change) (found : Option Revision) : Option Revision :=
  match c.kind with
  | .create => some (Revision.initial c.entityId c.claimed.clientId)
  | .update => found.map fun current => ⟨c.entityId, current.version + 1, c.claimed.clientId⟩
  | .delete => none

theorem keeps_verdict (c : Change) : Keeps World.revisions (World.lift c.verdict) := Keeps.lift _

theorem atomic_call (c : Change) : Atomic World.revisions c.call := by
  unfold call
  rcases c.kind
  · exact (Manager.atomic_create c.keeps_verdict).map _
  · exact (Manager.atomic_update c.keeps_verdict).map _
  · exact (Manager.atomic_deleteWith c.keeps_verdict).map _

/-- A change that succeeds found what its checks ask for, answers with the revision it leaves,
and leaves it under its entity and every other entry as it was. -/
theorem call_ok {c : Change} {w w' : World} {b : Reply} (h : runWith c.call w = (.ok b, w')) :
    c.Found w.revisions ∧ b = .changed (c.after (w.revisions.get? c.entityId)) 1 ∧
      w.revisions.Sets w'.revisions c.entityId (c.after (w.revisions.get? c.entityId)) := by
  unfold call at h
  unfold Found after
  rcases hk : c.kind <;> simp only [hk] at h ⊢ <;> obtain ⟨⟨a, r⟩, hrun, rfl⟩ := runWith_map_eq_ok.1 h
  · obtain ⟨hentity, hzero, hnone, rfl, hset⟩ := Manager.create_ok c.keeps_verdict hrun
    exact ⟨⟨hentity, hzero, hnone⟩, rfl, hset⟩
  · obtain ⟨hentity, ⟨current, hstored, hv, hlt⟩, rfl, hset⟩ :=
      Manager.update_ok c.keeps_verdict hrun
    refine ⟨⟨hentity, current, hstored, hv, hlt⟩, ?_, ?_⟩ <;> rw [hstored, Option.map_some, hv]
    exact hset
  · obtain ⟨hentity, hfound, hset⟩ := Manager.deleteWith_ok c.keeps_verdict hrun
    exact ⟨⟨hentity, hfound⟩, rfl, hset⟩

end Change

namespace Request

theorem keeps_get (e : String) : Keeps World.revisions (Request.get e).call :=
  (Manager.keeps_getRevision e).map _

theorem keeps_probe (e : String) : Keeps World.revisions (Request.probe e).call :=
  (Manager.keeps_isRevisioned e).map _

/-- Every call of the revision manager that fails leaves the revision table as it was. -/
theorem atomic_call (q : Request) : Atomic World.revisions q.call := by
  cases q with
  | change c => exact c.atomic_call
  | forget e => exact (Manager.atomic_delete e).map _
  | get e => exact (keeps_get e).atomic
  | probe e => exact (keeps_probe e).atomic

theorem forget_ok {e : String} {w w' : World} {b : Reply}
    (h : runWith (Request.forget e).call w = (.ok b, w')) : w.revisions.Sets w'.revisions e none := by
  obtain ⟨u, hrun, -⟩ := runWith_map_eq_ok.1 h
  exact Manager.delete_ok hrun

end Request

end FlowRegistry
