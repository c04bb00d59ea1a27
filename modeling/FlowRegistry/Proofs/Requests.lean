import FlowRegistry.Proofs.Slot

/-!
# The calls of the revision manager

A `Request` is a call of the revision manager as a task of a race makes it: a guarded change
(`create_revision`, `update_revision`, `delete_with_revision`), the drop of a revision
(`delete_revision`), or a read that takes no lock (`get_revision`, `is_revisioned`). Made on its
own, a request is one of the manager's operations (`Request.call`), with a closure that fails as
the change plans or succeeds. Made by a task, a change runs in the phases of `Task.resume`: the
checks before the lock, the check once the lock is held (`Change.check`), and after the closure
the write-back (`Change.write`).

Both act on the revision of the request's entity as `Request.slot` says (`Request.refines_call`,
`Change.refines_check`, `Change.refines_write`), and `Change.slot` is the composition of the
phases, so a change made by a task in phases answers as the manager's operation made at once.
-/

namespace FlowRegistry

namespace Change

/-- What the closure of a change comes to: the failure it plans, or success. -/
def verdict (c : Change) : Outcome Unit :=
  match c.failure with
  | some e => .error e
  | none => .ok ()

/-- The change made on its own, by the manager's operation of its kind. -/
def call (c : Change) : Registry Reply :=
  match c.kind with
  | .create =>
    (fun r => .changed (some r.2) 1) <$> Manager.create c.entityId c.claimed (World.lift c.verdict)
  | .update =>
    (fun r => .changed (some r.2) 1) <$> Manager.update c.entityId c.claimed (World.lift c.verdict)
  | .delete =>
    (fun _ => .changed none 1) <$> Manager.deleteWith c.entityId c.claimed (World.lift c.verdict)

/-- The check a change makes once it holds its entity's lock (`Task.proceed`). -/
def check (c : Change) : Registry (Option Revision) :=
  match c.kind with
  | .create => do Manager.checkAbsent c.entityId; return none
  | _ => some <$> Manager.verifyLocked c.entityId c.claimed

/-- The write-back of a change after its closure (`Task.conclude`). -/
def write (c : Change) (current : Option Revision) : Registry Reply :=
  match c.kind, current with
  | .create, _ => do return .changed (some (← Manager.register c.entityId c.claimed)) 1
  | .update, some r => do return .changed (some (← Manager.advance r c.claimed)) 1
  | .update, none => throw (.internal "update without a verified revision")
  | .delete, _ => do
    let _ ← World.deleteRevision c.entityId
    return .changed none 1

/-- `Change.check` over the entity's revision. -/
def checkSlot (c : Change) : Slot (Option Revision) :=
  match c.kind with
  | .create => do Slot.checkAbsent c.entityId; return none
  | _ => some <$> Slot.verifyLocked c.entityId c.claimed

/-- `Change.write` over the entity's revision. -/
def writeSlot (c : Change) (current : Option Revision) : Slot Reply :=
  match c.kind, current with
  | .create, _ => do return .changed (some (← Slot.register c.entityId c.claimed)) 1
  | .update, some r => do return .changed (some (← Slot.advance r c.claimed)) 1
  | .update, none => throw (.internal "update without a verified revision")
  | .delete, _ => do
    let _ ← Slot.delete
    return .changed none 1

/-- A change over its entity's revision: the checks made before the lock, the check made with
it, the closure, and the write-back. -/
def slot (c : Change) : Slot Reply := do
  Slot.lift (Task.precheck c)
  let current ← c.checkSlot
  Slot.lift c.verdict
  c.writeSlot current

end Change

/-- A call of the revision manager made by a task of a race. -/
inductive Request where
  /-- `create_revision`, `update_revision` or `delete_with_revision`. -/
  | change (c : Change)
  /-- `delete_revision`. -/
  | forget (entityId : String)
  /-- `get_revision`, which takes no lock. -/
  | get (entityId : String)
  /-- `is_revisioned`, which takes no lock. -/
  | probe (entityId : String)

namespace Request

/-- The entity a request is about. -/
def entityId : Request → String
  | .change c => c.entityId
  | .forget e | .get e | .probe e => e

/-- The job of a task that makes the request. -/
def job : Request → Job
  | .change c => .change c
  | .forget e => .forget e
  | .get e => .direct fun s => s.exec (Reply.revision <$> Manager.getRevision e)
  | .probe e => .direct fun s => s.exec (Reply.flag <$> Manager.isRevisioned e)

/-- The request made on its own, by the manager's operation. -/
def call : Request → Registry Reply
  | .change c => c.call
  | .forget e => (fun _ => .done) <$> Manager.delete e
  | .get e => Reply.revision <$> Manager.getRevision e
  | .probe e => Reply.flag <$> Manager.isRevisioned e

/-- The request over its entity's revision. -/
def slot : Request → Slot Reply
  | .change c => c.slot
  | .forget _ => (fun _ => .done) <$> (do let _ ← Slot.delete)
  | .get e => Reply.revision <$> Slot.getRevision e
  | .probe _ => Reply.flag <$> Slot.isRevisioned

/-- Whether a task that makes the request takes its entity's lock: a change whose claim passes
the checks made before the lock, and every drop of a revision. -/
def locks : Request → Bool
  | .change c => (Task.precheck c).isOk
  | .forget _ => true
  | .get _ | .probe _ => false

end Request

/-! ### The phases of a change -/

namespace Slot

@[simp] theorem lift_pure {α : Type} (a : α) : Slot.lift (pure a) = pure a := rfl

theorem lift_bind {α β : Type} (o : Outcome α) (f : α → Outcome β) :
    Slot.lift (o >>= f) = Slot.lift o >>= fun a => Slot.lift (f a) := by
  cases o <;> rfl

/-- A revision that `verifyLocked` accepts is the one stored. -/
theorem eq_of_verifyLocked {e : String} {claimed current : Revision} {o o' : Option Revision}
    (h : runWith (verifyLocked e claimed) o = (.ok current, o')) : o = some current := by
  unfold verifyLocked getRevision at h
  rcases o with _ | r
  · simp at h
  · by_cases hv : r.version = claimed.version <;> simp [hv] at h
    exact congrArg some h.1

end Slot

namespace Change

theorem precheck_eq (c : Change) :
    Task.precheck c = (do
      Manager.checkEntity c.entityId c.claimed
      if c.kind = .create then Manager.checkInitial c.entityId c.claimed) := rfl

theorem refines_check (c : Change) : Refines c.check c.entityId c.checkSlot := by
  unfold check checkSlot
  rcases c.kind with _ | _ | _
  · exact (Manager.refines_checkAbsent _).bind fun _ => .pure' none
  · exact (Manager.refines_verifyLocked _ _).map some
  · exact (Manager.refines_verifyLocked _ _).map some

/-- The revision a change's check hands on, if any, is one stored under the change's entity. -/
theorem entityId_of_checkSlot {c : Change} {o o' : Option Revision} {current : Option Revision}
    (ho : ∀ r, o = some r → r.entityId = c.entityId)
    (h : runWith c.checkSlot o = (.ok current, o')) :
    ∀ r, current = some r → r.entityId = c.entityId := by
  intro r hr
  subst hr
  unfold checkSlot at h
  rcases hk : c.kind <;> simp only [hk] at h
  case create =>
    rcases hca : runWith (Slot.checkAbsent c.entityId) o with ⟨_ | _, o₁⟩ <;>
      simp [hca, Except.map] at h
  all_goals
    rcases hv : runWith (Slot.verifyLocked c.entityId c.claimed) o with ⟨_ | cur, o₁⟩ <;>
      simp [hv, Except.map] at h
    rw [← h.1]
    exact ho cur (Slot.eq_of_verifyLocked hv)

theorem refines_write (c : Change) {current : Option Revision}
    (hcur : ∀ r, current = some r → r.entityId = c.entityId) :
    Refines (c.write current) c.entityId (c.writeSlot current) := by
  unfold write writeSlot
  rcases c.kind with _ | _ | _
  · exact (Manager.refines_register _ _).bind fun r => .pure' _
  · rcases current with _ | r
    · exact .throw' _
    · exact (Manager.refines_advance _ (hcur r rfl)).bind fun _ => .pure' _
  · exact (World.refines_deleteRevision _).bind fun _ => .pure' _

/-- The manager's operation of a change acts on the entity's revision as the change's phases do
one after another. -/
theorem refines_call (c : Change) : Refines c.call c.entityId c.slot := by
  have phases : c.slot = (do
      Slot.lift (Manager.checkEntity c.entityId c.claimed)
      Slot.lift (if c.kind = .create then Manager.checkInitial c.entityId c.claimed else pure ())
      let current ← c.checkSlot
      Slot.lift c.verdict
      c.writeSlot current) := by
    simp only [slot, precheck_eq, Slot.lift_bind, bind_assoc]
  rw [phases]
  unfold call
  rcases hk : c.kind with _ | _ | _
  · simp only [Manager.create, checkSlot, writeSlot, hk, if_true, map_bind, map_pure, bind_assoc,
      pure_bind]
    exact (Refines.lift _).bind fun _ => (Refines.lift _).bind fun _ =>
      (Manager.refines_checkAbsent _).bind fun _ => (Refines.lift _).bind fun _ =>
      (Manager.refines_register _ _).bind fun _ => .pure' _
  all_goals
    simp only [Manager.update, Manager.deleteWith, checkSlot, writeSlot, hk, reduceCtorEq, if_false,
      Slot.lift_pure, map_bind, map_pure, bind_map_left, pure_bind]
    refine (Refines.lift _).bind fun _ =>
      (Manager.refines_verifyLocked _ _).bind_of (P := fun r => r.entityId = c.entityId) ?_ ?_
    · intro w _ r hr
      rcases hv : runWith (Slot.verifyLocked c.entityId c.claimed) (w.revisions.get? c.entityId)
        with ⟨_ | cur, o⟩
      · simp [hv] at hr
      · simp only [hv, Except.ok.injEq] at hr
        subst hr
        exact RevisionTable.get?_entityId (Slot.eq_of_verifyLocked hv)
  · exact fun r hr => (Refines.lift _).bind fun _ =>
      (Manager.refines_advance _ hr).bind fun _ => .pure' _
  · exact fun _ _ => (Refines.lift _).bind fun _ =>
      (World.refines_deleteRevision _).bind fun _ => .pure' _

end Change

namespace Request

/-- Every call of the revision manager acts on its entity's revision as its slot computation
does, and on no other revision. -/
theorem refines_call (r : Request) : Refines r.call r.entityId r.slot := by
  cases r with
  | change c => exact c.refines_call
  | forget e => exact (Manager.refines_deleteRevision e).map _
  | get e => exact (Manager.refines_getRevision e).map _
  | probe e => exact (Manager.refines_isRevisioned e).map _

end Request

end FlowRegistry
