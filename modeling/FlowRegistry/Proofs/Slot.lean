import FlowRegistry.Revision.Task
import FlowRegistry.Proofs.Run

/-!
# The revision of one entity

Every operation of the revision manager reads and writes the revision of one entity only. `Slot`
is the registry's monad over that one revision, and `Refines m e p` says that, with no failure
planned, the registry computation `m` acts on the revision stored under `e` as the computation `p`
does on it alone, and leaves the revisions of other entities as they are.

The calls of the revision store refine `get`, `Slot.create`, `Slot.put` and `Slot.delete`; the
manager's operations refine the same operations written over a slot (`Slot.verifyLocked`, …), by
composition (`Refines.bind`). The revision a stored revision is found under is its own entity's
(`RevisionTable.get?_entityId`), which is what lets a change write back the revision it read.
-/

namespace FlowRegistry

/-! ### The revision table, seen one entity at a time -/

namespace RevisionTable

theorem get?_entityId {t : RevisionTable} {e : String} {r : Revision} (h : t.get? e = some r) :
    r.entityId = e := by
  have found := List.find?_some h
  simpa using found

theorem get?_delete (t : RevisionTable) (e x : String) :
    (t.delete e).1.get? x = if x = e then none else t.get? x := by
  simp only [delete, get?, List.find?_filter]
  by_cases hx : x = e
  · subst hx
    simp only [if_true]
    apply List.find?_eq_none.2
    intro r _
    by_cases hr : r.entityId = x <;> simp [hr]
  · simp only [hx, if_false]
    congr 1
    funext r
    by_cases hr : r.entityId = x
    · simp [hr, hx]
    · simp [hr]

theorem create_eq (t : RevisionTable) (r : Revision) :
    t.create r = match t.get? r.entityId with
      | some _ => .error (.alreadyExists s!"revision for entity {r.entityId}")
      | none => .ok (t.store r) := rfl

end RevisionTable

/-! ### Computations on one revision -/

/-- Computations on the revision stored under one entity. -/
abbrev Slot := ExceptT RegistryError (StateM (Option Revision))

namespace Slot

/-- Fails with the error of an outcome. -/
def lift {α : Type} (o : Outcome α) : Slot α :=
  match o with
  | .ok a => pure a
  | .error e => throw e

@[simp] theorem runWith_lift {α : Type} (o : Outcome α) (s : Option Revision) :
    runWith (lift o) s = (o, s) := by
  cases o <;> rfl

/-- The store's creation: refused when the entity has a revision. -/
def create (r : Revision) : Slot Unit := do
  match ← get with
  | some _ => throw (.alreadyExists s!"revision for entity {r.entityId}")
  | none => set (some r)

/-- The store's conditional replacement: only of a revision at the expected version. -/
def put (expected : Nat) (r : Revision) : Slot Unit := do
  match ← get with
  | none => throw (.notFound s!"revision for entity {r.entityId}")
  | some s =>
    if s.version = expected then set (some r)
    else throw (.staleRevision r.entityId expected s.version)

/-- The store's removal: says whether there was a revision. -/
def delete : Slot Bool := do
  let old ← get
  set (none : Option Revision)
  pure old.isSome

/-- `Manager.getRevision` over a slot. -/
def getRevision (e : String) : Slot Revision := do
  match ← get with
  | some r => pure r
  | none => throw (.notFound s!"revision for entity {e}")

/-- `Manager.isRevisioned` over a slot. -/
def isRevisioned : Slot Bool := do return (← get).isSome

/-- `Manager.checkAbsent` over a slot. -/
def checkAbsent (e : String) : Slot Unit := do
  if (← get).isSome then throw (.alreadyExists s!"entity {e}")

/-- `Manager.verifyLocked` over a slot. -/
def verifyLocked (e : String) (claimed : Revision) : Slot Revision := do
  let current ← getRevision e
  if current.version = claimed.version then pure current
  else throw (.staleRevision e claimed.version current.version)

/-- `Manager.register` over a slot. -/
def register (e : String) (claimed : Revision) : Slot Revision := do
  let initial := Revision.initial e claimed.clientId
  create initial
  pure initial

/-- `Manager.advance` over a slot. -/
def advance (current claimed : Revision) : Slot Revision := do
  let next ← lift (current.next claimed.clientId)
  put current.version next
  pure next

end Slot

/-! ### Refinement -/

/-- With no failure planned, `m` acts on the revision stored under `e` as `p` does on it alone,
leaves the revisions of other entities as they are, and plans no failure after it. -/
structure Refines {α : Type} (m : Registry α) (e : String) (p : Slot α) : Prop where
  quiet : ∀ w : World, w.faults.Quiet → (runWith m w).2.faults.Quiet
  outcome : ∀ w : World, w.faults.Quiet → (runWith m w).1 = (runWith p (w.revisions.get? e)).1
  slot : ∀ w : World, w.faults.Quiet →
    (runWith m w).2.revisions.get? e = (runWith p (w.revisions.get? e)).2
  frame : ∀ w : World, w.faults.Quiet → ∀ x, x ≠ e →
    (runWith m w).2.revisions.get? x = w.revisions.get? x

namespace Refines

variable {α β : Type} {e : String}

theorem pure' (a : α) : Refines (pure a : Registry α) e (pure a) :=
  ⟨fun _ hq => hq, fun _ _ => rfl, fun _ _ => rfl, fun _ _ _ _ => rfl⟩

theorem throw' (err : RegistryError) : Refines (throw err : Registry α) e (throw err) :=
  ⟨fun _ hq => hq, fun _ _ => rfl, fun _ _ => rfl, fun _ _ _ _ => rfl⟩

theorem lift (o : Outcome α) : Refines (World.lift o) e (Slot.lift o) :=
  ⟨fun _ hq => by simpa using hq, fun _ _ => by simp, fun _ _ => by simp,
    fun _ _ _ _ => by simp⟩

/-- Binding, where the continuation need only refine at the values that `p` gives from a
revision of the store: those `P` holds of. -/
theorem bind_of {P : α → Prop} {m : Registry α} {p : Slot α} {f : α → Registry β}
    {q : α → Slot β} (hm : Refines m e p)
    (hp : ∀ w : World, w.faults.Quiet → ∀ a, (runWith p (w.revisions.get? e)).1 = .ok a → P a)
    (hf : ∀ a, P a → Refines (f a) e (q a)) :
    Refines (m >>= f) e (p >>= q) := by
  constructor
  · intro w hq
    have hq₁ := hm.quiet w hq
    have hout := hm.outcome w hq
    rw [runWith_bind]
    rcases hrun : runWith m w with ⟨_ | a, w₁⟩
    · simpa [hrun] using hq₁
    · have ha : P a := hp w hq a (by rw [← hout, hrun])
      exact (hf a ha).quiet w₁ (by simpa [hrun] using hq₁)
  · intro w hq
    have hq₁ := hm.quiet w hq
    have hout := hm.outcome w hq
    have hslot := hm.slot w hq
    rw [runWith_bind, runWith_bind]
    rcases hrun : runWith m w with ⟨_ | a, w₁⟩ <;>
      rcases hsrun : runWith p (w.revisions.get? e) with ⟨_ | b, s₁⟩ <;>
      simp only [hrun, hsrun, Except.error.injEq, reduceCtorEq] at hout hslot hq₁ ⊢
    · rw [hout]
    · cases hout
      have ha : P a := hp w hq a (by rw [hsrun])
      rw [(hf a ha).outcome w₁ hq₁, hslot]
  · intro w hq
    have hq₁ := hm.quiet w hq
    have hout := hm.outcome w hq
    have hslot := hm.slot w hq
    rw [runWith_bind, runWith_bind]
    rcases hrun : runWith m w with ⟨_ | a, w₁⟩ <;>
      rcases hsrun : runWith p (w.revisions.get? e) with ⟨_ | b, s₁⟩ <;>
      simp only [hrun, hsrun, Except.error.injEq, reduceCtorEq] at hout hslot hq₁ ⊢
    · exact hslot
    · cases hout
      have ha : P a := hp w hq a (by rw [hsrun])
      rw [(hf a ha).slot w₁ hq₁, hslot]
  · intro w hq x hx
    have hq₁ := hm.quiet w hq
    have hout := hm.outcome w hq
    have hframe := hm.frame w hq x hx
    rw [runWith_bind]
    rcases hrun : runWith m w with ⟨_ | a, w₁⟩ <;> simp only [hrun] at hframe hq₁ hout ⊢
    · exact hframe
    · have ha : P a := hp w hq a hout.symm
      rw [(hf a ha).frame w₁ hq₁ x hx, hframe]

theorem bind {m : Registry α} {p : Slot α} {f : α → Registry β} {q : α → Slot β}
    (hm : Refines m e p) (hf : ∀ a, Refines (f a) e (q a)) :
    Refines (m >>= f) e (p >>= q) :=
  hm.bind_of (P := fun _ => True) (fun _ _ _ _ => trivial) fun a _ => hf a

/-- An outcome lifted into both monads: only its own value goes on. -/
theorem lift_bind (o : Outcome α) {f : α → Registry β} {q : α → Slot β}
    (hf : ∀ a, o = .ok a → Refines (f a) e (q a)) :
    Refines (World.lift o >>= f) e (Slot.lift o >>= q) := by
  cases o with
  | error err => exact throw' err
  | ok a => exact hf a rfl

theorem map {m : Registry α} {p : Slot α} (hm : Refines m e p) (f : α → β) :
    Refines (f <$> m) e (f <$> p) := by
  have as_bind : ∀ {γ : Type} (n : ExceptT RegistryError (StateM γ) α),
      f <$> n = n >>= fun a => pure (f a) := fun _ => rfl
  rw [as_bind, as_bind]
  exact hm.bind fun a => pure' (f a)

end Refines

/-! ### The calls of the revision store -/

namespace World

theorem refines_getRevision (e : String) : Refines (getRevision e) e get := by
  constructor <;> intro w hq <;> simp only [runWith_getRevision, planned_of_quiet hq]
  · exact quiet_pass hq _
  · rfl
  · rfl
  · intro x _
    rfl

theorem refines_createRevision (r : Revision) :
    Refines (createRevision r) r.entityId (Slot.create r) := by
  refine ⟨fun w hq => ?_, fun w hq => ?_, fun w hq => ?_, fun w hq x hx => ?_⟩ <;>
    rcases hcur : w.revisions.get? r.entityId with _ | cur <;>
    simp only [runWith_createRevision, planned_of_quiet hq, RevisionTable.create_eq, Slot.create,
      runWith_bind, runWith_get, runWith_set, runWith_throw, hcur]
  case refine_1.none | refine_1.some => exact quiet_pass hq _
  case refine_3.none => simp [RevisionTable.get?_store]
  case refine_3.some => simp [hcur]
  case refine_4.none => simp [RevisionTable.get?_store, Ne.symm hx]
  case refine_4.some => rfl

theorem refines_putRevision (v : Nat) (r : Revision) :
    Refines (putRevision v r) r.entityId (Slot.put v r) := by
  have put_eq : ∀ t : RevisionTable, t.put v r = match t.get? r.entityId with
      | none => .error (.notFound s!"revision for entity {r.entityId}")
      | some s => if s.version = v then .ok (t.store r)
        else .error (.staleRevision r.entityId v s.version) := fun _ => rfl
  refine ⟨fun w hq => ?_, fun w hq => ?_, fun w hq => ?_, fun w hq x hx => ?_⟩ <;>
    rcases hcur : w.revisions.get? r.entityId with _ | cur <;>
    simp only [runWith_putRevision, planned_of_quiet hq, put_eq, Slot.put, runWith_bind,
      runWith_get, runWith_throw, hcur]
  case refine_1.none => exact quiet_pass hq _
  case refine_1.some => by_cases hv : cur.version = v <;> simp [hv, quiet_pass hq]
  case refine_2.some => by_cases hv : cur.version = v <;> simp [hv]
  case refine_3.none => simp [hcur]
  case refine_3.some => by_cases hv : cur.version = v <;> simp [hv, hcur, RevisionTable.get?_store]
  case refine_4.none => rfl
  case refine_4.some =>
    by_cases hv : cur.version = v <;> simp [hv, RevisionTable.get?_store, Ne.symm hx]

theorem refines_deleteRevision (e : String) : Refines (deleteRevision e) e Slot.delete := by
  constructor <;> intro w hq <;>
    simp only [runWith_deleteRevision, planned_of_quiet hq, Slot.delete, runWith_bind, runWith_get,
      runWith_set, runWith_pure]
  · exact quiet_pass hq _
  · simp [RevisionTable.delete]
  · simp [RevisionTable.get?_delete]
  · intro x hx
    simp [RevisionTable.get?_delete, hx]

end World

/-! ### The manager's operations -/

namespace Manager

theorem refines_getRevision (e : String) : Refines (getRevision e) e (Slot.getRevision e) :=
  (World.refines_getRevision e).bind fun
    | some r => .pure' r
    | none => .throw' _

theorem refines_isRevisioned (e : String) : Refines (isRevisioned e) e Slot.isRevisioned :=
  (World.refines_getRevision e).bind fun o => .pure' o.isSome

theorem refines_checkAbsent (e : String) : Refines (checkAbsent e) e (Slot.checkAbsent e) :=
  (World.refines_getRevision e).bind fun o => by
    cases o with
    | none => exact .pure' ()
    | some _ => exact .throw' _

theorem refines_verifyLocked (e : String) (claimed : Revision) :
    Refines (verifyLocked e claimed) e (Slot.verifyLocked e claimed) :=
  (refines_getRevision e).bind fun current => by
    by_cases hv : current.version = claimed.version
    · simpa only [hv, if_true] using Refines.pure' current
    · simpa only [hv, if_false] using Refines.throw' _

theorem refines_register (e : String) (claimed : Revision) :
    Refines (register e claimed) e (Slot.register e claimed) :=
  (World.refines_createRevision (Revision.initial e claimed.clientId)).bind fun _ =>
    .pure' _

/-- The write-back of a change refines the slot's when the revision it read is the entity's. -/
theorem refines_advance {e : String} {current : Revision} (claimed : Revision)
    (hcur : current.entityId = e) :
    Refines (advance current claimed) e (Slot.advance current claimed) := by
  unfold advance Slot.advance
  refine Refines.lift_bind _ fun next hnext => ?_
  have hid : next.entityId = e := (Revision.next_version hnext).2.1.trans hcur
  rw [← hid]
  exact (World.refines_putRevision current.version next).bind fun _ => .pure' next

theorem refines_deleteRevision (e : String) : Refines (delete e) e (do let _ ← Slot.delete) :=
  (World.refines_deleteRevision e).bind fun _ => .pure' ()

end Manager

end FlowRegistry
