import FlowRegistry.Proofs.Schedule

/-!
# Requests made one at a time

`Request.serial` makes requests one after another, each as the manager's operation, and
`Request.replay` makes them one after another over the revision of a single entity. With no
failure planned they agree entity by entity (`Request.get?_serial`): the revision an entity ends
with depends only on the requests on that entity and their order, so requests on different
entities commute (`Request.get?_serial_congr`).

The second part gives what a request does as one record, `Request.Made`, for the two ways a task
ends a request: at once (`Request.made_call`), or by concluding a change that paused after its
check (`Change.made_conclusion`). The last part runs updates on a revision: the one whose claim
is at the stored version moves it forward by one, and every other is refused as stale.
-/

namespace FlowRegistry

namespace Request

/-- Makes requests one after another, each as the manager's operation: the registry after them. -/
def serial (qs : List Request) (w : World) : World := qs.foldl (fun w q => (runWith q.call w).2) w

/-- Makes requests one after another over the revision of one entity: the revision after them. -/
def replay (qs : List Request) (σ : Option Revision) : Option Revision :=
  qs.foldl (fun σ q => (runWith q.slot σ).2) σ

@[simp] theorem serial_nil (w : World) : serial [] w = w := rfl

@[simp] theorem serial_cons (q : Request) (qs : List Request) (w : World) :
    serial (q :: qs) w = serial qs (runWith q.call w).2 := rfl

@[simp] theorem replay_nil (σ : Option Revision) : replay [] σ = σ := rfl

@[simp] theorem replay_cons (q : Request) (qs : List Request) (σ : Option Revision) :
    replay (q :: qs) σ = replay qs (runWith q.slot σ).2 := rfl

theorem quiet_serial (qs : List Request) {w : World} (hq : w.faults.Quiet) :
    (serial qs w).faults.Quiet := by
  induction qs generalizing w with
  | nil => exact hq
  | cons q qs ih => exact ih (q.refines_call.quiet w hq)

/-- Made one after another with no failure planned, requests leave each entity with the revision
that those of them on the entity leave it, made one after another over its revision. -/
theorem get?_serial (qs : List Request) {w : World} (hq : w.faults.Quiet) (e : String) :
    (serial qs w).revisions.get? e =
      replay (qs.filter (·.entityId = e)) (w.revisions.get? e) := by
  induction qs generalizing w with
  | nil => rfl
  | cons q qs ih =>
    rw [serial_cons, ih (q.refines_call.quiet w hq)]
    by_cases he : q.entityId = e
    · subst he
      simp [q.refines_call.slot w hq]
    · simp [he, q.refines_call.frame w hq e (Ne.symm he)]

/-- Two orders of the same requests that agree on each entity leave the same revisions: requests
on different entities commute. -/
theorem get?_serial_congr {qs qs' : List Request} {w : World} (hq : w.faults.Quiet)
    (hsame : ∀ e, qs.filter (·.entityId = e) = qs'.filter (·.entityId = e)) (e : String) :
    (serial qs w).revisions.get? e = (serial qs' w).revisions.get? e := by
  rw [get?_serial qs hq, get?_serial qs' hq, hsame]

/-- A request made after others answers as it does on the revision they leave its entity. -/
theorem runWith_call_serial (q : Request) (qs : List Request) {w : World} (hq : w.faults.Quiet) :
    (runWith q.call (serial qs w)).1 =
      (runWith q.slot (replay (qs.filter (·.entityId = q.entityId)) (w.revisions.get? q.entityId))).1 := by
  rw [q.refines_call.outcome _ (quiet_serial qs hq), get?_serial qs hq]

/-- A request that takes no lock leaves its entity's revision as it was. -/
theorem slot_state_of_locks {q : Request} (hl : q.locks = false) (σ : Option Revision) :
    (runWith q.slot σ).2 = σ := by
  cases q with
  | change c =>
    rcases hpre : Task.precheck c with err | u
    · simp [slot, Change.slot, hpre]
    · simp [locks, hpre, Except.isOk, Except.toBool] at hl
  | forget e => simp [locks] at hl
  | get e =>
    simp only [slot, Slot.getRevision, runWith_map, runWith_bind, runWith_get]
    rcases σ with _ | r <;> rfl
  | probe e => rfl

end Request

/-! ### What a request does -/

namespace Change

/-- `Change.conclusion` over the entity's revision. -/
def conclusionSlot (c : Change) (current : Option Revision) : Slot Reply := do
  Slot.lift c.verdict
  c.writeSlot current

/-- The check of a change only reads the revision. -/
theorem checkSlot_state (c : Change) (σ : Option Revision) : (runWith c.checkSlot σ).2 = σ := by
  unfold checkSlot
  rcases c.kind with _ | _ | _ <;>
    simp only [Slot.checkAbsent, Slot.verifyLocked, Slot.getRevision, runWith_bind, runWith_get,
      runWith_map] <;>
    rcases σ with _ | cur <;> simp
  all_goals by_cases hv : cur.version = c.claimed.version <;> simp [hv]

/-- Once the checks made before the lock pass and its check hands on `cur`, a change over its
entity's revision is its conclusion from `cur`. -/
theorem runWith_slot_of_check {c : Change} (hpre : Task.precheck c = .ok ())
    {σ : Option Revision} {cur : Option Revision} (hcheck : (runWith c.checkSlot σ).1 = .ok cur) :
    runWith c.slot σ = runWith (c.conclusionSlot cur) σ := by
  have hrun : runWith c.checkSlot σ = (.ok cur, σ) := Prod.ext hcheck (checkSlot_state c σ)
  simp only [slot, hpre, Slot.runWith_lift, runWith_bind, hrun, conclusionSlot]

theorem refines_conclusion (c : Change) {current : Option Revision}
    (hcur : ∀ r, current = some r → r.entityId = c.entityId) :
    Refines (c.conclusion current) c.entityId (c.conclusionSlot current) :=
  (Refines.lift _).bind fun _ => c.refines_write hcur

/-- The check of a change leaves every revision as it was. -/
theorem get?_check (c : Change) {w : World} (hq : w.faults.Quiet) (x : String) :
    (runWith c.check w).2.revisions.get? x = w.revisions.get? x := by
  by_cases hx : x = c.entityId
  · subst hx
    rw [c.refines_check.slot w hq, checkSlot_state]
  · exact c.refines_check.frame w hq x hx

end Change

namespace Request

/-- `w'` is the registry after the request `q` was made on `w` and answered `a`, as its slot
computation says: no failure is planned after it, the revision of its entity changes as the slot
computation changes it, and no other revision changes. -/
structure Made (q : Request) (w w' : World) (a : Outcome Reply) : Prop where
  quiet : w'.faults.Quiet
  answer : a = (runWith q.slot (w.revisions.get? q.entityId)).1
  slot : w'.revisions.get? q.entityId = (runWith q.slot (w.revisions.get? q.entityId)).2
  frame : ∀ x, x ≠ q.entityId → w'.revisions.get? x = w.revisions.get? x

theorem made_call (q : Request) {w : World} (hq : w.faults.Quiet) :
    q.Made w (runWith q.call w).2 (runWith q.call w).1 :=
  ⟨q.refines_call.quiet w hq, q.refines_call.outcome w hq, q.refines_call.slot w hq,
    q.refines_call.frame w hq⟩

/-- A request that takes no lock leaves every revision as it was. -/
theorem get?_call_of_locks {q : Request} (hl : q.locks = false) {w : World} (hq : w.faults.Quiet)
    (x : String) : (runWith q.call w).2.revisions.get? x = w.revisions.get? x := by
  by_cases hx : x = q.entityId
  · subst hx
    rw [q.refines_call.slot w hq, slot_state_of_locks hl]
  · exact q.refines_call.frame w hq x hx

end Request

/-- A change that passed its check on its entity's revision concludes as its request would be
made at once. -/
theorem Change.made_conclusion {c : Change} {w : World} (hq : w.faults.Quiet)
    (hpre : Task.precheck c = .ok ()) {cur : Option Revision}
    (hcheck : (runWith c.checkSlot (w.revisions.get? c.entityId)).1 = .ok cur) :
    (Request.change c).Made w (runWith (c.conclusion cur) w).2 (runWith (c.conclusion cur) w).1 := by
  have hcur : ∀ r, cur = some r → r.entityId = c.entityId :=
    c.entityId_of_checkSlot (fun _ hr => RevisionTable.get?_entityId hr)
      (Prod.ext hcheck (c.checkSlot_state _))
  have href := c.refines_conclusion hcur
  have hslot := runWith_slot_of_check hpre hcheck
  refine ⟨href.quiet w hq, ?_, ?_, href.frame w hq⟩
  · simp only [Request.slot, Request.entityId, hslot]
    exact href.outcome w hq
  · simp only [Request.slot, Request.entityId, hslot]
    exact href.slot w hq

/-! ### Updates that claim one version -/

namespace Request

/-- The request is an update of `e` that claims its version `v`, with a change that succeeds. -/
def ClaimsUpdate (e : String) (v : Nat) : Request → Prop
  | .change c => c.kind = .update ∧ c.entityId = e ∧ c.claimed.entityId = e ∧
      c.claimed.version = v ∧ c.failure = none
  | _ => False

variable {e : String} {v : Nat} {q : Request}

theorem ClaimsUpdate.locks (hq : q.ClaimsUpdate e v) : q.locks = true := by
  rcases q with c | _ | _ | _ <;> simp only [ClaimsUpdate] at hq
  obtain ⟨hk, he, hid, -, -⟩ := hq
  simp [locks, Task.precheck, Manager.checkEntity, hid, he, hk, Except.isOk, Except.toBool]

theorem ClaimsUpdate.entityId (hq : q.ClaimsUpdate e v) : q.entityId = e := by
  rcases q with c | _ | _ | _ <;> simp only [ClaimsUpdate] at hq
  exact hq.2.1

theorem ClaimsUpdate.exists_change (hq : q.ClaimsUpdate e v) : ∃ c, q = .change c := by
  rcases q with c | _ | _ | _ <;> simp only [ClaimsUpdate] at hq
  exact ⟨c, rfl⟩

/-- An update that claims the version of the stored revision moves it forward by one, to the
claiming client. -/
theorem slot_of_claimsUpdate {c : Change} (hq : (Request.change c).ClaimsUpdate e v)
    {cur : Revision} (hcur : cur.entityId = e) (hv : cur.version = v)
    (hmax : v < maxRevisionVersion) :
    runWith (Request.change c).slot (some cur) =
      (.ok (.changed (some ⟨e, v + 1, c.claimed.clientId⟩) 1),
        some ⟨e, v + 1, c.claimed.clientId⟩) := by
  obtain ⟨hk, he, hid, hcv, hf⟩ := hq
  subst he hv
  simp [slot, Change.slot, Task.precheck, Manager.checkEntity, hid, hk, Change.checkSlot,
    Slot.verifyLocked, Slot.getRevision, hcv, Change.verdict, hf, Change.writeSlot, Slot.advance,
    Revision.next, hmax, Slot.put, hcur, Except.map]

/-- An update that claims another version than the stored one is refused as stale, and leaves the
revision as it was. -/
theorem slot_of_claimsUpdate_stale {c : Change} (hq : (Request.change c).ClaimsUpdate e v)
    {cur : Revision} (hv : cur.version ≠ v) :
    runWith (Request.change c).slot (some cur) =
      (.error (.staleRevision e v cur.version), some cur) := by
  obtain ⟨hk, he, hid, hcv, -⟩ := hq
  subst he hcv
  simp [slot, Change.slot, Task.precheck, Manager.checkEntity, hid, hk, Change.checkSlot,
    Slot.verifyLocked, Slot.getRevision, hv]

/-- Once the revision has moved on from `v`, updates that claim `v` leave it as it is. -/
theorem replay_claimsUpdate_stale {qs : List Request} (hqs : ∀ q ∈ qs, q.ClaimsUpdate e v)
    {cur : Revision} (hv : cur.version ≠ v) : replay qs (some cur) = some cur := by
  induction qs with
  | nil => rfl
  | cons q qs ih =>
    obtain ⟨c, rfl⟩ : ∃ c, q = .change c := by
      rcases q with c | _ | _ | _ <;> simp only [ClaimsUpdate] at hqs ⊢ <;> simp_all
    rw [replay_cons, slot_of_claimsUpdate_stale (hqs _ (by simp)) hv]
    exact ih fun q hq => hqs q (by simp [hq])

/-- Updates that all claim the version `v` of the stored revision, made one at a time: the first
moves it to `v + 1` for its client, and the others leave it there. -/
theorem replay_claimsUpdate {c : Change} {qs : List Request}
    (hq : (Request.change c).ClaimsUpdate e v) (hqs : ∀ q ∈ qs, q.ClaimsUpdate e v)
    {cur : Revision} (hcur : cur.entityId = e) (hv : cur.version = v)
    (hmax : v < maxRevisionVersion) :
    replay (.change c :: qs) (some cur) = some ⟨e, v + 1, c.claimed.clientId⟩ := by
  rw [replay_cons, slot_of_claimsUpdate hq hcur hv hmax]
  exact replay_claimsUpdate_stale hqs (by simp)

end Request

end FlowRegistry
