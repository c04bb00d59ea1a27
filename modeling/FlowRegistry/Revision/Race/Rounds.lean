import FlowRegistry.Revision.Task

/-!
# A race run in rounds

Rounds repeat until every task is finished. In a round each unfinished task is resumed in list
order (`Task.resume`): it runs until it finishes, pauses inside its change (it goes on in the next
round), or must wait for a lock another task holds. A lock passed to a waiting task lets it go on
when its turn in the round comes, in this round if its turn is still to come.

A task that panics ends the race at once, the rest of its round unrun.

Each round finishes at least one task of every lock that is held, and a task holds a lock for at
most two rounds, so twice as many rounds as there are tasks, and one more, are enough for
`Race.inRounds`.
-/

namespace FlowRegistry

namespace Race

/-- One round: every task resumed in order, until one panics. -/
def round (s : Shared) : List Task → List Task × Shared
  | [] => ([], s)
  | t :: ts =>
    let (stage, s1) := t.resume s
    if stage.panic?.isSome then ({ t with stage := stage } :: ts, s1)
    else
      let (rest, s2) := round s1 ts
      ({ t with stage := stage } :: rest, s2)

/-- Rounds until every task is finished or one has panicked, at most `fuel` of them. -/
def rounds (s : Shared) (tasks : List Task) : Nat → List Task × Shared
  | 0 => (tasks, s)
  | fuel + 1 =>
    if tasks.all (·.isFinished) || (Task.panicOf tasks).isSome then (tasks, s)
    else
      let (tasks', s') := round s tasks
      rounds s' tasks' fuel

/-- Runs tasks in rounds until all are finished or one has panicked. -/
def inRounds (s : Shared) (tasks : List Task) : List Task × Shared :=
  rounds s tasks (2 * tasks.length + 1)

end Race

end FlowRegistry
