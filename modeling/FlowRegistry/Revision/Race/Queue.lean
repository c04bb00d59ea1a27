import FlowRegistry.Revision.Task

/-!
# A race run from a queue

A race of many tasks is run from a queue of woken tasks. At first every task is woken, in list
order. The queue is emptied one task at a time: the task taken from it is resumed
(`Task.resume`), and then

* if it finished, the tasks its lock passed to are woken, at the end of the queue;
* if it paused inside its change, it is set aside;
* if it must wait for a lock, it stays out of the queue until the lock passes to it.

When the queue is empty, the tasks set aside are woken, the one that paused last first, and the
queue is emptied again (`Pool.pass`). A task that panics ends the race at once.

A task is resumed at most twice in a pass before it finishes or pauses, and at most once more in
the next pass. After a pass every unfinished task is paused or waits behind a paused holder, and
the next pass finishes every paused one: as many passes as there are tasks, and one more, are
enough for `Race.fromQueue`.
-/

namespace FlowRegistry

/-- A race run from a queue: its tasks by number, the woken tasks in the order they run, the
tasks set aside by pausing (the latest first), and the shared state. -/
structure Pool where
  tasks : List Task
  woken : List Nat
  paused : List Nat
  shared : Shared

namespace Pool

/-- Runs the woken tasks in order until the queue is empty or a task panics, at most `fuel` of
them. -/
def drain (p : Pool) : Nat → Pool
  | 0 => p
  | fuel + 1 =>
    match p.woken with
    | [] => p
    | i :: rest =>
      match p.tasks[i]? with
      | none => drain { p with woken := rest } fuel
      | some t =>
        let (stage, s) := t.resume p.shared
        let p' := { p with tasks := p.tasks.set i { t with stage := stage }, woken := rest,
                           shared := s }
        match stage with
        | .finished _ =>
          if stage.panic?.isSome then p'
          else drain { p' with woken := rest ++ Locks.passed p.shared.locks s.locks i } fuel
        | .paused _ => drain { p' with paused := i :: p.paused } fuel
        | _ => drain p' fuel

/-- Wakes the tasks set aside, the one that paused last first. -/
def wakePaused (p : Pool) : Pool :=
  { p with woken := p.woken ++ p.paused, paused := [] }

/-- One pass: the queue emptied, then the paused tasks woken. -/
def pass (p : Pool) : Pool :=
  (p.drain (3 * p.tasks.length + 1)).wakePaused

/-- Passes until every task is finished or one has panicked, at most `fuel` of them. -/
def passes (p : Pool) : Nat → Pool
  | 0 => p
  | fuel + 1 =>
    if p.tasks.all (·.isFinished) || (Task.panicOf p.tasks).isSome then p
    else passes p.pass fuel

end Pool

namespace Race

/-- Runs tasks, numbered in order, from a queue until all are finished or one has panicked. -/
def fromQueue (s : Shared) (tasks : List Task) : List Task × Shared :=
  let p := Pool.passes ⟨tasks, tasks.map (·.id), [], s⟩ (tasks.length + 1)
  (p.tasks, p.shared)

end Race

end FlowRegistry
