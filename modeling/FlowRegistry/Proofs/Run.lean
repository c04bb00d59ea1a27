import FlowRegistry.World.State

/-!
# Running registry computations

`runWith m s` is the outcome of a computation of the registry's monad started in the state `s`,
together with the state it leaves. The equations of the first part push `runWith` through the
operations of the monad, so that later proofs never unfold `ExceptT` or `StateT`; they hold for
every type of state, and the same monad over the revision of one entity (`Proofs.Slot`) uses them
as well.

The second part says what the calls of the revision store do. Every call is counted and may meet
a planned failure (`World.guard`); a plan that fails nothing (`FaultPlan.Quiet`) lets every call
through, and stays so. The third part gives each call of the revision store as one equation: the
planned failure, or the table's own operation.
-/

namespace FlowRegistry

section Run

variable {σ α β : Type}

/-- The outcome of a computation started in the state `s`, and the state it leaves. -/
def runWith (m : ExceptT RegistryError (StateM σ) α) (s : σ) : Outcome α × σ := m.run.run s

@[simp] theorem runWith_pure (a : α) (s : σ) :
    runWith (pure a : ExceptT RegistryError (StateM σ) α) s = (.ok a, s) := rfl

@[simp] theorem runWith_throw (e : RegistryError) (s : σ) :
    runWith (throw e : ExceptT RegistryError (StateM σ) α) s = (.error e, s) := rfl

@[simp] theorem runWith_get (s : σ) :
    runWith (get : ExceptT RegistryError (StateM σ) σ) s = (.ok s, s) := rfl

@[simp] theorem runWith_set (s s' : σ) :
    runWith (set s' : ExceptT RegistryError (StateM σ) PUnit) s = (.ok ⟨⟩, s') := rfl

@[simp] theorem runWith_modify (f : σ → σ) (s : σ) :
    runWith (modify f : ExceptT RegistryError (StateM σ) PUnit) s = (.ok ⟨⟩, f s) := rfl

@[simp] theorem runWith_bind (m : ExceptT RegistryError (StateM σ) α)
    (f : α → ExceptT RegistryError (StateM σ) β) (s : σ) :
    runWith (m >>= f) s =
      match runWith m s with
      | (.ok a, s') => runWith (f a) s'
      | (.error e, s') => (.error e, s') := by
  simp only [runWith, ExceptT.run_bind, StateT.run_bind]
  rcases m.run.run s with ⟨_ | a, s'⟩ <;> rfl

@[simp] theorem runWith_map (f : α → β) (m : ExceptT RegistryError (StateM σ) α) (s : σ) :
    runWith (f <$> m) s = ((runWith m s).1.map f, (runWith m s).2) := by
  simp only [runWith, ExceptT.run_map, StateT.run_map]
  rcases m.run.run s with ⟨_ | a, s'⟩ <;> rfl

theorem runWith_tryCatch (m : ExceptT RegistryError (StateM σ) α)
    (h : RegistryError → ExceptT RegistryError (StateM σ) α) (s : σ) :
    runWith (tryCatch m h) s =
      match runWith m s with
      | (.ok a, s') => (.ok a, s')
      | (.error e, s') => runWith (h e) s' := by
  unfold runWith
  show (ExceptT.tryCatch m h).run.run s = _
  simp only [ExceptT.tryCatch, ExceptT.run_mk, StateT.run_bind]
  have unfold_run : StateT.run (m := Id) m s = m.run.run s := rfl
  rw [unfold_run]
  rcases m.run.run s with ⟨_ | a, s'⟩ <;> rfl

/-- A computation that fails leaves the state `runWith` says, whatever follows it. -/
theorem runWith_bind_of_error {m : ExceptT RegistryError (StateM σ) α} {s s' : σ}
    {e : RegistryError} (h : runWith m s = (.error e, s'))
    (f : α → ExceptT RegistryError (StateM σ) β) : runWith (m >>= f) s = (.error e, s') := by
  rw [runWith_bind, h]

/-- A bound computation that succeeds is its first part succeeding, then the rest from there. -/
theorem runWith_bind_eq_ok {m : ExceptT RegistryError (StateM σ) α}
    {f : α → ExceptT RegistryError (StateM σ) β} {s s'' : σ} {b : β} :
    runWith (m >>= f) s = (.ok b, s'') ↔
      ∃ a s', runWith m s = (.ok a, s') ∧ runWith (f a) s' = (.ok b, s'') := by
  rw [runWith_bind]
  rcases runWith m s with ⟨_ | a, s'⟩ <;> simp [and_assoc]

/-- A computation followed by an answer fails exactly as the computation does. -/
theorem runWith_bind_pure_eq_error {m : ExceptT RegistryError (StateM σ) α} {b : β} {s s' : σ}
    {e : RegistryError} :
    runWith (m >>= fun _ => pure b) s = (.error e, s') ↔ runWith m s = (.error e, s') := by
  rw [runWith_bind]
  rcases runWith m s with ⟨_ | a, s₁⟩ <;> simp

theorem runWith_map_eq_ok {f : α → β} {m : ExceptT RegistryError (StateM σ) α} {s s' : σ}
    {b : β} : runWith (f <$> m) s = (.ok b, s') ↔ ∃ a, runWith m s = (.ok a, s') ∧ f a = b := by
  rw [runWith_map]
  rcases runWith m s with ⟨_ | a, s₁⟩ <;> simp [Except.map, and_assoc, and_comm]

end Run

@[simp] theorem runWith_lift {α : Type} (o : Outcome α) (w : World) :
    runWith (World.lift o) w = (o, w) := by
  cases o <;> rfl

/-! ### Planned failures -/

namespace FaultPlan

/-- A plan that fails no call. -/
def Quiet (p : FaultPlan) : Prop := p.failures = []

theorem quiet_empty : FaultPlan.empty.Quiet := rfl

@[simp] theorem tally_failures (p : FaultPlan) (c : Call) : (p.tally c).failures = p.failures := rfl

/-- A quiet plan lets a call through and stays quiet. -/
theorem next_of_quiet {p : FaultPlan} (hq : p.Quiet) (c : Call) : p.next c = (none, p) := by
  have none_planned : p.failures = [] := hq
  simp only [next, none_planned, List.find?_nil]

theorem Quiet.tally {p : FaultPlan} (hq : p.Quiet) (c : Call) : (p.tally c).Quiet := hq

end FaultPlan

namespace World

/-- The error a call meets, and the plan after the call. -/
def planned (w : World) (c : Call) : Option RegistryError × FaultPlan := (w.faults.tally c).next c

/-- The state after a call has gone through the plan. -/
def pass (w : World) (c : Call) : World := { w with faults := (w.planned c).2 }

@[simp] theorem pass_revisions (w : World) (c : Call) : (w.pass c).revisions = w.revisions := rfl
@[simp] theorem pass_catalog (w : World) (c : Call) : (w.pass c).catalog = w.catalog := rfl
@[simp] theorem pass_content (w : World) (c : Call) : (w.pass c).content = w.content := rfl

theorem planned_of_quiet {w : World} (hq : w.faults.Quiet) (c : Call) :
    w.planned c = (none, w.faults.tally c) :=
  FaultPlan.next_of_quiet (hq.tally c) c

theorem quiet_pass {w : World} (hq : w.faults.Quiet) (c : Call) : (w.pass c).faults.Quiet := by
  simp only [World.pass, planned_of_quiet hq]
  exact hq.tally c

theorem runWith_guard (c : Call) (w : World) :
    runWith (guard c) w =
      ((match (w.planned c).1 with
        | some e => .error e
        | none => .ok ()), w.pass c) := by
  simp only [guard, planned, pass, runWith_bind, runWith_get, runWith_set]
  rcases (w.faults.tally c).next c with ⟨_ | e, p⟩ <;> rfl

theorem runWith_guard_of_quiet {w : World} (hq : w.faults.Quiet) (c : Call) :
    runWith (guard c) w = (.ok (), w.pass c) := by
  rw [runWith_guard, planned_of_quiet hq]

/-- A guarded call: the body runs only when the plan lets the call through. -/
theorem runWith_guard_bind {α : Type} (c : Call) (body : Unit → Registry α) (w : World) :
    runWith (guard c >>= body) w =
      match (w.planned c).1 with
      | some e => (.error e, w.pass c)
      | none => runWith (body ()) (w.pass c) := by
  rw [runWith_bind, runWith_guard]
  rcases (w.planned c).1 with _ | e <;> rfl

/-! ### Calls of the revision store -/

theorem runWith_getRevision (e : String) (w : World) :
    runWith (getRevision e) w =
      match (w.planned (revisionCall "get_revision")).1 with
      | some err => (.error err, w.pass (revisionCall "get_revision"))
      | none => (.ok (w.revisions.get? e), w.pass (revisionCall "get_revision")) := by
  unfold getRevision
  rw [runWith_guard_bind]
  rcases (w.planned _).1 with _ | err <;> rfl

theorem runWith_createRevision (r : Revision) (w : World) :
    runWith (createRevision r) w =
      match (w.planned (revisionCall "create_revision")).1 with
      | some err => (.error err, w.pass (revisionCall "create_revision"))
      | none =>
        match w.revisions.create r with
        | .ok t => (.ok (), { w.pass (revisionCall "create_revision") with revisions := t })
        | .error err => (.error err, w.pass (revisionCall "create_revision")) := by
  unfold createRevision
  rw [runWith_guard_bind]
  rcases (w.planned _).1 with _ | err
  · simp only [runWith_bind, runWith_get, pass_revisions, runWith_lift]
    rcases w.revisions.create r with err | t <;> rfl
  · rfl

theorem runWith_putRevision (v : Nat) (r : Revision) (w : World) :
    runWith (putRevision v r) w =
      match (w.planned (revisionCall "put_revision")).1 with
      | some err => (.error err, w.pass (revisionCall "put_revision"))
      | none =>
        match w.revisions.put v r with
        | .ok t => (.ok (), { w.pass (revisionCall "put_revision") with revisions := t })
        | .error err => (.error err, w.pass (revisionCall "put_revision")) := by
  unfold putRevision
  rw [runWith_guard_bind]
  rcases (w.planned _).1 with _ | err
  · simp only [runWith_bind, runWith_get, pass_revisions, runWith_lift]
    rcases w.revisions.put v r with err | t <;> rfl
  · rfl

theorem runWith_deleteRevision (e : String) (w : World) :
    runWith (deleteRevision e) w =
      match (w.planned (revisionCall "delete_revision")).1 with
      | some err => (.error err, w.pass (revisionCall "delete_revision"))
      | none =>
        (.ok (w.revisions.delete e).2,
          { w.pass (revisionCall "delete_revision") with revisions := (w.revisions.delete e).1 }) := by
  unfold deleteRevision
  rw [runWith_guard_bind]
  rcases (w.planned _).1 with _ | err <;> rfl

end World

end FlowRegistry
