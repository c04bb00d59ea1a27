import FlowRegistry.Proofs.LockTable
import FlowRegistry.Proofs.Requests

/-!
# Races under any schedule

`Race.run` resumes the tasks of a race in one fixed order. Here the order is free: a schedule is
any list of task numbers, and `Trace.follow` resumes the tasks in that order with `Task.resume`,
so every interleaving of the tasks' steps is the run of some schedule. A trace keeps two logs
beside the race that nothing in it reads: the tasks in the order entity locks went to them
(`Trace.granted`), and in the order they began to wait for one (`Trace.waited`).

The first part says what the phases of a task do, as registry computations: once its lock is
held, a change runs its check (`Change.check`) and then its closure and write-back
(`Change.conclusion`), and made at once the phases are the manager's operation
(`Change.runWith_call`). The second part is one inversion lemma, `Trace.move_resume`: resuming a
task is one of the moves of `Trace.Move`, each of which says at once what becomes of the task's
stage, the lock table, the logs and the registry.
-/

namespace FlowRegistry

/-! ### The phases of a task -/

theorem Shared.exec_eq {α : Type} (s : Shared) (m : Registry α) :
    s.exec m = ((runWith m s.world).1, { s with world := (runWith m s.world).2 }) := rfl

theorem World.lift_bind {α β : Type} (o : Outcome α) (f : α → Outcome β) :
    World.lift (o >>= f) = World.lift o >>= fun a => World.lift (f a) := by
  cases o <;> rfl

@[simp] theorem World.lift_pure {α : Type} (a : α) : World.lift (pure a) = pure a := rfl

namespace Change

/-- A change after its check: the closure, then the write-back. -/
def conclusion (c : Change) (current : Option Revision) : Registry Reply := do
  World.lift c.verdict
  c.write current

/-- The manager's operation of a change is its checks, made before and with the lock, and its
conclusion. -/
theorem call_eq (c : Change) :
    c.call = World.lift (Task.precheck c) >>= fun _ => c.check >>= fun cur => c.conclusion cur := by
  simp only [call, Task.precheck, World.lift_bind, bind_assoc, check, conclusion, write]
  rcases c.kind with _ | _ | _
  · simp only [Manager.create, if_true, map_bind, map_pure, bind_assoc, pure_bind]
  all_goals
    simp only [Manager.update, Manager.deleteWith, reduceCtorEq, if_false, World.lift_pure, map_bind,
      map_pure, pure_bind, bind_map_left]

/-- Once the checks made before the lock pass, the manager's operation is the check and the
conclusion run one after the other. -/
theorem runWith_call {c : Change} (hpre : Task.precheck c = .ok ()) (w : World) :
    runWith c.call w = runWith (c.check >>= fun cur => c.conclusion cur) w := by
  rw [call_eq, hpre]
  simp only [runWith_bind, runWith_lift]

/-- A change that fails the checks made before the lock fails with their error and leaves the
registry as it was. -/
theorem runWith_call_of_precheck {c : Change} {e : RegistryError}
    (hpre : Task.precheck c = .error e) (w : World) : runWith c.call w = (.error e, w) := by
  rw [call_eq, hpre]
  simp only [runWith_bind, runWith_lift]

end Change

namespace Task

theorem finish_eq (s : Shared) (e : String) (a : Outcome Reply) :
    finish s e a = (.finished a, { s with locks := s.locks.release e }) := rfl

theorem conclude_eq (s : Shared) (c : Change) (cur : Option Revision) :
    conclude s c cur =
      finish { s with world := (runWith (c.conclusion cur) s.world).2 } c.entityId
        (runWith (c.conclusion cur) s.world).1 := by
  unfold conclude Change.conclusion Change.verdict
  rcases c.failure with _ | e
  · simp only [runWith_bind, runWith_lift, Shared.exec_eq]
    rfl
  · simp only [runWith_bind, runWith_lift]

theorem proceed_eq (s : Shared) (c : Change) :
    proceed s c =
      match runWith c.check s.world with
      | (.error e, w) => finish { s with world := w } c.entityId (.error e)
      | (.ok cur, w) =>
        if c.pause then (.paused cur, { s with world := w })
        else conclude { s with world := w } c cur := by
  -- the check `proceed` writes out is `Change.check`, kind by kind
  rcases hk : c.kind with _ | _ | _ <;>
    simp only [proceed, Change.check, hk, Shared.exec_eq] <;>
    generalize runWith _ s.world = p <;>
    rcases p with ⟨_ | cur, w⟩ <;> rfl

theorem forgetLocked_eq (s : Shared) (e : String) :
    forgetLocked s e =
      finish { s with world := (runWith (Request.forget e).call s.world).2 } e
        (runWith (Request.forget e).call s.world).1 := by
  simp only [forgetLocked, Shared.exec_eq, Request.call, runWith_map]

/-- A change that holds its lock and does not pause finishes as its manager's operation would,
and releases the lock. -/
theorem proceed_of_unpaused {s : Shared} {c : Change} (hpre : precheck c = .ok ())
    (hp : ∀ cur w, runWith c.check s.world = (.ok cur, w) → c.pause = false) :
    proceed s c =
      (.finished (runWith c.call s.world).1,
        { world := (runWith c.call s.world).2, locks := s.locks.release c.entityId }) := by
  rw [proceed_eq, Change.runWith_call hpre, runWith_bind]
  rcases hcheck : runWith c.check s.world with ⟨_ | cur, w⟩
  · rfl
  · simp only [hp cur w hcheck, Bool.false_eq_true, if_false, conclude_eq, finish_eq]

end Task

/-! ### Traces -/

/-- Whether a task has not started. -/
def Stage.isReady : Stage → Bool
  | .ready => true
  | _ => false

/-- A race at some point of a schedule: the requests of its tasks, numbered in order, where each
task stands, the shared state, and two logs: the tasks in the order entity locks went to them,
and in the order they began to wait for one. -/
structure Trace where
  requests : List Request
  stages : List Stage
  shared : Shared
  granted : List Nat
  waited : List Nat

namespace Trace

/-- The race of requests over a shared state, no task started. -/
def start (s : Shared) (rs : List Request) : Trace :=
  ⟨rs, rs.map fun _ => .ready, s, [], []⟩

/-- Resumes the task at position `i`. A task that asks for its entity's lock and finds it free
is logged as taking it, one that finds it held as beginning to wait; the tasks its release
passed the lock to are logged as taking it. -/
def resume (r : Trace) (i : Nat) : Trace :=
  match r.requests[i]?, r.stages[i]? with
  | some q, some st =>
    let (stage, s) := Task.resume r.shared ⟨i, q.job, st⟩
    let asks := st.isReady && q.locks
    let free := (r.shared.locks.find? q.entityId).isNone
    { r with
      stages := r.stages.set i stage
      shared := s
      granted := r.granted ++ (if asks && free then [i] else []) ++
        Locks.passed r.shared.locks s.locks i
      waited := r.waited ++ (if asks && !free then [i] else []) }
  | _, _ => r

/-- Resumes tasks in the order of a schedule. -/
def follow (r : Trace) (sched : List Nat) : Trace := sched.foldl resume r

@[simp] theorem follow_nil (r : Trace) : r.follow [] = r := rfl

@[simp] theorem follow_cons (r : Trace) (i : Nat) (sched : List Nat) :
    r.follow (i :: sched) = (r.resume i).follow sched := rfl

@[simp] theorem resume_requests (r : Trace) (i : Nat) : (r.resume i).requests = r.requests := by
  unfold resume
  split <;> rfl

/-! ### What resuming a task does -/

/-- The moves a task makes when it is resumed, given by what becomes of its stage, the lock
table, the logs and the registry. `w` is the registry and `l` the lock table before the move. -/
inductive Move (r : Trace) (i : Nat) (q : Request) : Trace → Prop
  /-- Nothing happens: the task has finished, or waits for a lock another task holds. -/
  | idle : Move r i q r
  /-- A request that takes no lock runs to its end. -/
  | alone (hl : q.locks = false) (hnot : ∀ a, r.stages[i]? ≠ some (.finished a)) :
      Move r i q { r with
        stages := r.stages.set i (.finished (runWith q.call r.shared.world).1)
        shared := { r.shared with world := (runWith q.call r.shared.world).2 } }
  /-- The task takes the free lock of its entity, runs to its end, and releases the lock. -/
  | through (hl : q.locks = true) (hready : r.stages[i]? = some .ready)
      (hfree : r.shared.locks.find? q.entityId = none) :
      Move r i q { r with
        stages := r.stages.set i (.finished (runWith q.call r.shared.world).1)
        shared := { r.shared with world := (runWith q.call r.shared.world).2 }
        granted := r.granted ++ [i] }
  /-- The change takes the free lock of its entity, passes its check and pauses in its closure. -/
  | pauses (c : Change) (cur : Option Revision) (hq : q = .change c) (hl : q.locks = true)
      (hready : r.stages[i]? = some .ready) (hfree : r.shared.locks.find? c.entityId = none)
      (hcheck : (runWith c.check r.shared.world).1 = .ok cur) :
      Move r i q { r with
        stages := r.stages.set i (.paused cur)
        shared := { world := (runWith c.check r.shared.world).2,
                    locks := ⟨r.shared.locks.entries ++ [⟨c.entityId, i, []⟩]⟩ }
        granted := r.granted ++ [i] }
  /-- The task finds the lock of its entity held, and begins to wait for it. -/
  | waits (en : LockEntry) (hl : q.locks = true) (hready : r.stages[i]? = some .ready)
      (hheld : r.shared.locks.find? q.entityId = some en) :
      Move r i q { r with
        stages := r.stages.set i .queued
        shared := { r.shared with locks := ⟨r.shared.locks.entries.map fun y =>
          if y.entityId == q.entityId then { y with waiters := y.waiters ++ [i] } else y⟩ }
        waited := r.waited ++ [i] }
  /-- The change the lock has passed to passes its check and pauses in its closure. -/
  | resumes (c : Change) (cur : Option Revision) (hq : q = .change c)
      (hqueued : r.stages[i]? = some .queued) (hholds : r.shared.locks.holds c.entityId i = true)
      (hcheck : (runWith c.check r.shared.world).1 = .ok cur) :
      Move r i q { r with
        stages := r.stages.set i (.paused cur)
        shared := { r.shared with world := (runWith c.check r.shared.world).2 } }
  /-- The task the lock has passed to runs to its end, and releases the lock. -/
  | ends (hqueued : r.stages[i]? = some .queued)
      (hholds : r.shared.locks.holds q.entityId i = true) :
      Move r i q { r with
        stages := r.stages.set i (.finished (runWith q.call r.shared.world).1)
        shared := { world := (runWith q.call r.shared.world).2,
                    locks := r.shared.locks.release q.entityId }
        granted := r.granted ++
          Locks.passed r.shared.locks (r.shared.locks.release q.entityId) i }
  /-- The paused change runs the rest of its closure and its write-back, and releases the lock. -/
  | concludes (c : Change) (cur : Option Revision) (hq : q = .change c)
      (hpaused : r.stages[i]? = some (.paused cur)) :
      Move r i q { r with
        stages := r.stages.set i (.finished (runWith (c.conclusion cur) r.shared.world).1)
        shared := { world := (runWith (c.conclusion cur) r.shared.world).2,
                    locks := r.shared.locks.release c.entityId }
        granted := r.granted ++
          Locks.passed r.shared.locks (r.shared.locks.release c.entityId) i }

/-- Resuming a task, from what `Task.resume` does with it. -/
theorem resume_of_task {r : Trace} {i : Nat} {q : Request} {st stage : Stage} {s : Shared}
    (hq : r.requests[i]? = some q) (hst : r.stages[i]? = some st)
    (ht : Task.resume r.shared ⟨i, q.job, st⟩ = (stage, s)) :
    r.resume i = { r with
      stages := r.stages.set i stage
      shared := s
      granted := r.granted ++
        (if st.isReady && q.locks && (r.shared.locks.find? q.entityId).isNone then [i] else []) ++
        Locks.passed r.shared.locks s.locks i
      waited := r.waited ++
        (if st.isReady && q.locks && !(r.shared.locks.find? q.entityId).isNone then [i] else []) } := by
  simp only [resume, hq, hst, ht]

/-- Setting a stage to the one it has changes nothing. -/
theorem set_stage {r : Trace} {i : Nat} {st : Stage} (hst : r.stages[i]? = some st) :
    r.stages.set i st = r.stages := by
  obtain ⟨hlt, heq⟩ := List.getElem?_eq_some_iff.1 hst
  rw [← heq, List.set_getElem_self]


/-- A request that takes no lock and finishes as the manager's operation would. -/
theorem move_alone {r : Trace} {i : Nat} {q : Request} {st : Stage}
    (hq : r.requests[i]? = some q) (hst : r.stages[i]? = some st) (hk : r.shared.locks.Keyed)
    (hl : q.locks = false) (hnot : ∀ a, st ≠ .finished a)
    (ht : Task.resume r.shared ⟨i, q.job, st⟩ =
      (.finished (runWith q.call r.shared.world).1,
        { r.shared with world := (runWith q.call r.shared.world).2 })) :
    Move r i q (r.resume i) := by
  rw [resume_of_task hq hst ht]
  simp only [hl, Bool.and_false, Bool.false_and, Bool.false_eq_true, if_false, List.append_nil,
    Locks.passed_self hk]
  exact .alone hl fun a h => hnot a (Option.some.inj (hst.symm.trans h))

/-- A read runs to its end whenever it is resumed before it has finished. -/
theorem move_of_direct {r : Trace} {i : Nat} {q : Request} {st : Stage}
    (hq : r.requests[i]? = some q) (hst : r.stages[i]? = some st) (hk : r.shared.locks.Keyed)
    (hdirect : ∃ work, q.job = .direct work) (hnot : ∀ a, st ≠ .finished a) :
    Move r i q (r.resume i) := by
  obtain ⟨work, hwork⟩ := hdirect
  rcases q with c | e | e | e <;> simp only [Request.job, reduceCtorEq] at hwork
  all_goals
    refine move_alone hq hst hk rfl hnot ?_
    cases st with
    | finished a => exact absurd rfl (hnot a)
    | _ => simp only [Task.resume, Request.job, Request.call, Shared.exec_eq]

theorem precheck_of_locks {c : Change} (hl : (Request.change c).locks = true) :
    Task.precheck c = .ok () := by
  simp only [Request.locks] at hl
  rcases h : Task.precheck c with _ | ⟨⟩
  · simp [h, Except.isOk, Except.toBool] at hl
  · rfl

/-- A task that takes the free lock of its entity and finishes releases it at once. -/
theorem move_through {r : Trace} {i : Nat} {q : Request}
    (hq : r.requests[i]? = some q) (hst : r.stages[i]? = some .ready) (hk : r.shared.locks.Keyed)
    (hl : q.locks = true) (hfree : r.shared.locks.find? q.entityId = none)
    (ht : Task.resume r.shared ⟨i, q.job, .ready⟩ =
      (.finished (runWith q.call r.shared.world).1,
        { r.shared with world := (runWith q.call r.shared.world).2 })) :
    Move r i q (r.resume i) := by
  rw [resume_of_task hq hst ht]
  simp only [Stage.isReady, hl, hfree, Option.isNone_none, Bool.and_true, Bool.not_true,
    Bool.and_false, Bool.false_eq_true, if_true, if_false, List.append_nil, Locks.passed_self hk]
  exact .through hl hst hfree

/-- A task that finds the lock of its entity held begins to wait for it. -/
theorem move_waits {r : Trace} {i : Nat} {q : Request} {en : LockEntry}
    (hq : r.requests[i]? = some q) (hst : r.stages[i]? = some .ready) (hk : r.shared.locks.Keyed)
    (hl : q.locks = true) (hheld : r.shared.locks.find? q.entityId = some en)
    (ht : Task.resume r.shared ⟨i, q.job, .ready⟩ =
      (.queued, { r.shared with locks := ⟨r.shared.locks.entries.map fun y =>
          if y.entityId == q.entityId then { y with waiters := y.waiters ++ [i] } else y⟩ })) :
    Move r i q (r.resume i) := by
  rw [resume_of_task hq hst ht]
  simp only [Stage.isReady, hl, hheld, Option.isNone_some, Bool.and_true, Bool.and_false,
    Bool.not_false, Bool.false_eq_true, if_true, if_false, List.append_nil,
    Locks.passed_enqueue hk hheld]
  exact .waits en hl hst hheld

theorem move_of_ready {r : Trace} {i : Nat} {q : Request}
    (hq : r.requests[i]? = some q) (hst : r.stages[i]? = some .ready) (hk : r.shared.locks.Keyed) :
    Move r i q (r.resume i) := by
  cases q with
  | get e => exact move_of_direct hq hst hk ⟨_, rfl⟩ fun a => nofun
  | probe e => exact move_of_direct hq hst hk ⟨_, rfl⟩ fun a => nofun
  | forget e =>
    rcases hfind : r.shared.locks.find? e with _ | en
    · refine move_through hq hst hk rfl hfind ?_
      simp only [Task.resume, Request.job, Locks.acquire_of_none hfind, if_true,
        Task.forgetLocked_eq, Task.finish_eq, Locks.release_take hfind]
    · refine move_waits hq hst hk rfl hfind ?_
      simp only [Task.resume, Request.job, Locks.acquire_of_some hfind, Bool.false_eq_true, if_false]
      rfl
  | change c =>
    rcases hpre : Task.precheck c with err | u
    · have hl : (Request.change c).locks = false := by simp [Request.locks, hpre, Except.isOk,
        Except.toBool]
      refine move_alone hq hst hk hl nofun ?_
      simp only [Request.call, Change.runWith_call_of_precheck hpre, Task.resume, Request.job, hpre]
    · obtain ⟨⟩ := u
      have hl : (Request.change c).locks = true := by simp [Request.locks, hpre, Except.isOk,
        Except.toBool]
      rcases hfind : r.shared.locks.find? c.entityId with _ | en
      · -- the lock is free: the change takes it and checks its claim
        have took : Task.resume r.shared ⟨i, (Request.change c).job, .ready⟩ =
            Task.proceed
              { r.shared with locks := ⟨r.shared.locks.entries ++ [⟨c.entityId, i, []⟩]⟩ } c := by
          simp only [Task.resume, Request.job, hpre, Locks.acquire_of_none hfind, if_true]
        by_cases hpause : ∃ cur w', runWith c.check r.shared.world = (.ok cur, w') ∧ c.pause = true
        · obtain ⟨cur, w', hcheck, hp⟩ := hpause
          have ht : Task.resume r.shared ⟨i, (Request.change c).job, .ready⟩ =
              (.paused cur,
                { world := w', locks := ⟨r.shared.locks.entries ++ [⟨c.entityId, i, []⟩]⟩ }) := by
            rw [took, Task.proceed_eq, hcheck]
            simp only [hp, if_true]
          rw [resume_of_task hq hst ht]
          simp only [Stage.isReady, hl, Request.entityId, hfind, Option.isNone_none,
            Bool.and_true, Bool.not_true, Bool.and_false, Bool.false_eq_true, if_true, if_false,
            List.append_nil, Locks.passed_take hk hfind]
          have hw' : w' = (runWith c.check r.shared.world).2 := by
            rw [hcheck]
          rw [hw']
          exact .pauses c cur rfl hl hst hfind (by rw [hcheck])
        · -- refused by its check, or not paused: it runs to its end and releases the lock
          have hrun : ∀ cur w', runWith c.check r.shared.world = (.ok cur, w') → c.pause = false :=
            fun cur w' h => Bool.eq_false_iff.2 fun hp => hpause ⟨cur, w', h, hp⟩
          refine move_through hq hst hk hl hfind ?_
          rw [took, Task.proceed_of_unpaused hpre fun cur w' h => by exact hrun cur w' h]
          simp only [Request.call, Locks.release_take hfind]
      · refine move_waits hq hst hk hl hfind ?_
        simp only [Task.resume, Request.job, hpre, Locks.acquire_of_some hfind, Bool.false_eq_true,
          if_false]
        rfl

/-- A task that stays where it stands changes nothing. -/
theorem resume_of_stays {r : Trace} {i : Nat} {q : Request} {st : Stage}
    (hq : r.requests[i]? = some q) (hst : r.stages[i]? = some st) (hk : r.shared.locks.Keyed)
    (hready : st.isReady = false) (ht : Task.resume r.shared ⟨i, q.job, st⟩ = (st, r.shared)) :
    r.resume i = r := by
  rw [resume_of_task hq hst ht]
  simp only [hready, Bool.false_and, Bool.false_eq_true, if_false, List.append_nil,
    Locks.passed_self hk, set_stage hst]

/-- A task the lock has passed to that runs to its end releases the lock. -/
theorem move_ends {r : Trace} {i : Nat} {q : Request}
    (hq : r.requests[i]? = some q) (hst : r.stages[i]? = some .queued)
    (hholds : r.shared.locks.holds q.entityId i = true)
    (ht : Task.resume r.shared ⟨i, q.job, .queued⟩ =
      (.finished (runWith q.call r.shared.world).1,
        { world := (runWith q.call r.shared.world).2,
          locks := r.shared.locks.release q.entityId })) :
    Move r i q (r.resume i) := by
  rw [resume_of_task hq hst ht]
  simp only [Stage.isReady, Bool.false_and, Bool.false_eq_true, if_false, List.append_nil]
  exact .ends hst hholds

theorem move_of_queued {r : Trace} {i : Nat} {q : Request}
    (hq : r.requests[i]? = some q) (hst : r.stages[i]? = some .queued) (hk : r.shared.locks.Keyed)
    (hl : q.locks = true) : Move r i q (r.resume i) := by
  cases q with
  | get e => exact move_of_direct hq hst hk ⟨_, rfl⟩ fun a => nofun
  | probe e => exact move_of_direct hq hst hk ⟨_, rfl⟩ fun a => nofun
  | forget e =>
    by_cases hh : r.shared.locks.holds e i = true
    · refine move_ends hq hst hh ?_
      simp only [Task.resume, Request.job, hh, if_true, Task.forgetLocked_eq, Task.finish_eq,
        Request.entityId]
    · rw [resume_of_stays hq hst hk rfl (by simp [Task.resume, Request.job, hh])]
      exact .idle
  | change c =>
    have hpre := precheck_of_locks hl
    by_cases hh : r.shared.locks.holds c.entityId i = true
    · have held : Task.resume r.shared ⟨i, (Request.change c).job, .queued⟩ =
          Task.proceed r.shared c := by
        simp only [Task.resume, Request.job, hh, if_true]
      by_cases hpause : ∃ cur w', runWith c.check r.shared.world = (.ok cur, w') ∧ c.pause = true
      · obtain ⟨cur, w', hcheck, hp⟩ := hpause
        have ht : Task.resume r.shared ⟨i, (Request.change c).job, .queued⟩ =
            (.paused cur, { r.shared with world := w' }) := by
          rw [held, Task.proceed_eq, hcheck]
          simp only [hp, if_true]
        rw [resume_of_task hq hst ht]
        simp only [Stage.isReady, Bool.false_and, Bool.false_eq_true, if_false, List.append_nil,
          Locks.passed_self hk]
        have hw' : w' = (runWith c.check r.shared.world).2 := by rw [hcheck]
        rw [hw']
        exact .resumes c cur rfl hst hh (by rw [hcheck])
      · -- refused by its check, or not paused: it runs to its end and releases the lock
        have hrun : ∀ cur w', runWith c.check r.shared.world = (.ok cur, w') → c.pause = false :=
          fun cur w' h => Bool.eq_false_iff.2 fun hp => hpause ⟨cur, w', h, hp⟩
        refine move_ends hq hst hh ?_
        rw [held, Task.proceed_of_unpaused hpre hrun]
        simp only [Request.call, Request.entityId]
    · rw [resume_of_stays hq hst hk rfl (by simp [Task.resume, Request.job, hh])]
      exact .idle

theorem move_of_paused {r : Trace} {i : Nat} {q : Request} {cur : Option Revision}
    (hq : r.requests[i]? = some q) (hst : r.stages[i]? = some (.paused cur))
    (hc : ∃ c, q = .change c) : Move r i q (r.resume i) := by
  obtain ⟨c, rfl⟩ := hc
  have ht : Task.resume r.shared ⟨i, (Request.change c).job, .paused cur⟩ =
      (.finished (runWith (c.conclusion cur) r.shared.world).1,
        { world := (runWith (c.conclusion cur) r.shared.world).2,
          locks := r.shared.locks.release c.entityId }) := by
    simp only [Task.resume, Request.job, Task.conclude_eq, Task.finish_eq]
  rw [resume_of_task hq hst ht]
  simp only [Stage.isReady, Bool.false_and, Bool.false_eq_true, if_false, List.append_nil]
  exact .concludes c cur rfl hst

theorem move_of_finished {r : Trace} {i : Nat} {q : Request} {a : Outcome Reply}
    (hq : r.requests[i]? = some q) (hst : r.stages[i]? = some (.finished a))
    (hk : r.shared.locks.Keyed) : Move r i q (r.resume i) := by
  rw [resume_of_stays hq hst hk rfl (by cases q <;> rfl)]
  exact .idle

/-- Resuming a task is one of its moves, once the lock table holds one entry per entity, a
task that waits asked for a lock, and only a change pauses. -/
theorem move_resume {r : Trace} {i : Nat} {q : Request} (hq : r.requests[i]? = some q)
    (hk : r.shared.locks.Keyed) (hqueued : r.stages[i]? = some .queued → q.locks = true)
    (hpaused : ∀ cur, r.stages[i]? = some (.paused cur) → ∃ c, q = .change c) :
    Move r i q (r.resume i) := by
  rcases hst : r.stages[i]? with _ | st
  · have same : r.resume i = r := by simp [resume, hq, hst]
    rw [same]
    exact .idle
  · cases st with
    | ready => exact move_of_ready hq hst hk
    | queued => exact move_of_queued hq hst hk (hqueued hst)
    | paused cur => exact move_of_paused hq hst (hpaused cur hst)
    | finished a => exact move_of_finished hq hst hk

end Trace

end FlowRegistry
