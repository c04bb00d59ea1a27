import FlowRegistry.Revision.Race.Queue
import FlowRegistry.Revision.Race.Rounds

/-!
# Changes that race for entity locks

Jobs run side by side over one registry as tasks (`Revision.Task`). The schedule is fixed and
depends on how many there are: up to `Race.roundLimit` tasks run in rounds
(`Revision.Race.Rounds`), more run from a queue of woken tasks (`Revision.Race.Queue`). The two
differ only where tasks pause: in rounds the paused tasks go on in list order, from the queue
the one that paused last goes on first.

A task that panics ends the race: the tasks not yet finished are dropped, and the locks they held
or waited for go with them, while what the finished ones did stays.
-/

namespace FlowRegistry

namespace Race

/-- The most tasks a race runs in rounds. -/
def roundLimit : Nat := 30

/-- Runs jobs as a race, numbered in order: their answers, in order, and the state after. A
panic ends the race: the tasks not finished are dropped with the locks they held or awaited,
what was done stays, and the race fails with the panic. -/
def run (s : Shared) (jobs : List Job) : Outcome (List (Outcome Reply)) × Shared :=
  let tasks := Task.ofJobs jobs
  let (done, s') :=
    if tasks.length ≤ roundLimit then inRounds s tasks else fromQueue s tasks
  match Task.panicOf done with
  | some e => (.error e, { s' with locks := Locks.empty })
  | none => (.ok (done.map (·.answer)), s')

end Race

end FlowRegistry
