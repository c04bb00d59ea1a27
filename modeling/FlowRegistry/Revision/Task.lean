import FlowRegistry.Revision.Locks
import FlowRegistry.Revision.Manager

/-!
# Tasks over one registry

A task is a job run beside others over one registry and one lock table (`Shared`). A change to an
entity holds the entity's lock from the check of its claim until its revision is written, so
changes to one entity queue behind each other while changes to others go ahead.

`Task.resume` runs a task from where it stands until it finishes, pauses inside its change (at
most once, holding its lock), or must wait for a lock another task holds. A task that waits is
resumed with the lock once it has passed to it. Which task is resumed when is the business of a
schedule (`Revision.Race`).
-/

namespace FlowRegistry

/-- The state the tasks of a race share: the registry and the lock table. -/
structure Shared where
  world : World
  locks : Locks

namespace Shared

/-- Runs a registry computation on the shared state. -/
def exec {α : Type} (s : Shared) (r : Registry α) : Outcome α × Shared :=
  let (o, w) := (r.run).run s.world
  (o, { s with world := w })

end Shared

/-- The kinds of guarded change. -/
inductive ChangeKind where
  | create
  | update
  | delete
  deriving DecidableEq, Repr

/-- A change guarded by a revision claim: the change itself only counts its run, may pause once,
and then fails with `failure` if one is given. -/
structure Change where
  kind : ChangeKind
  entityId : String
  claimed : Revision
  failure : Option RegistryError
  pause : Bool
  deriving DecidableEq, Repr

/-- What a finished task answers. -/
inductive Reply where
  /-- A change ran once and left the entity at this revision, or without one. -/
  | changed (revision : Option Revision) (runs : Nat)
  | done
  | revision (r : Revision)
  | maybe (r : Option Revision)
  | flag (b : Bool)
  | count (n : Nat)
  | revisions (rs : List Revision)
  deriving DecidableEq, Repr

/-- What a task does. -/
inductive Job where
  /-- A guarded change. -/
  | change (c : Change)
  /-- Dropping the revision of an entity, under its lock. -/
  | forget (entityId : String)
  /-- Work that takes no lock and never waits. -/
  | direct (work : Shared → Outcome Reply × Shared)

/-- Where a task stands. -/
inductive Stage where
  | ready
  | queued
  /-- Paused inside its change, holding the lock; `current` is the revision its claim matched. -/
  | paused (current : Option Revision)
  | finished (answer : Outcome Reply)

/-- A task of a race: its number, its job and where it stands. -/
structure Task where
  id : Nat
  job : Job
  stage : Stage

/-- The panic a stage ended with, if it did. -/
def Stage.panic? : Stage → Option RegistryError
  | .finished (.error e) => if e.isPanic then some e else none
  | _ => none

namespace Task

/-- Whether a task is finished. -/
def isFinished (t : Task) : Bool :=
  match t.stage with
  | .finished _ => true
  | _ => false

/-- The answer of a task, once its race is over. -/
def answer (t : Task) : Outcome Reply :=
  match t.stage with
  | .finished a => a
  | _ => .error (.internal "task did not finish")

/-- The first panic among tasks. -/
def panicOf (tasks : List Task) : Option RegistryError :=
  tasks.findSome? (·.stage.panic?)

/-- The tasks of jobs, numbered in order, none started. -/
def ofJobs (jobs : List Job) : List Task :=
  (List.range jobs.length).zip jobs |>.map fun (i, j) => ⟨i, j, .ready⟩

/-- Ends a change that holds the lock: releases it and answers. -/
def finish (s : Shared) (entityId : String) (answer : Outcome Reply) : Stage × Shared :=
  (.finished answer, { s with locks := s.locks.release entityId })

/-- The part of a change after its pause: the failure if given, else the revision is written. -/
def conclude (s : Shared) (c : Change) (current : Option Revision) : Stage × Shared :=
  match c.failure with
  | some e => finish s c.entityId (.error e)
  | none =>
    let write : Registry Reply :=
      match c.kind, current with
      | .create, _ => do return .changed (some (← Manager.register c.entityId c.claimed)) 1
      | .update, some r => do return .changed (some (← Manager.advance r c.claimed)) 1
      | .update, none => throw (.internal "update without a verified revision")
      | .delete, _ => do
        let _ ← World.deleteRevision c.entityId
        return .changed none 1
    let (o, s') := s.exec write
    finish s' c.entityId o

/-- The part of a change once its lock is held: the check against the stored revision, then the
change, which pauses or goes on. -/
def proceed (s : Shared) (c : Change) : Stage × Shared :=
  let check : Registry (Option Revision) :=
    match c.kind with
    | .create => do Manager.checkAbsent c.entityId; return none
    | _ => some <$> Manager.verifyLocked c.entityId c.claimed
  match s.exec check with
  | (.error e, s') => finish s' c.entityId (.error e)
  | (.ok current, s') =>
    if c.pause then (.paused current, s') else conclude s' c current

/-- The checks of a claim made before the lock is taken. -/
def precheck (c : Change) : Outcome Unit := do
  Manager.checkEntity c.entityId c.claimed
  if c.kind = .create then Manager.checkInitial c.entityId c.claimed

/-- Drops a revision under the lock, and releases it. -/
def forgetLocked (s : Shared) (entityId : String) : Stage × Shared :=
  let (o, s') := s.exec (Manager.delete entityId)
  finish s' entityId (o.map fun _ => .done)

/-- Resumes a task until it finishes, pauses, or waits for a lock. -/
def resume (s : Shared) (t : Task) : Stage × Shared :=
  match t.job, t.stage with
  | _, .finished a => (.finished a, s)
  | .direct work, _ =>
    let (o, s') := work s
    (.finished o, s')
  | .forget e, .queued =>
    if s.locks.holds e t.id then forgetLocked s e else (.queued, s)
  | .forget e, _ =>
    let (got, locks) := s.locks.acquire e t.id
    let s' := { s with locks := locks }
    if got then forgetLocked s' e else (.queued, s')
  | .change c, .ready =>
    match precheck c with
    | .error e => (.finished (.error e), s)
    | .ok () =>
      let (got, locks) := s.locks.acquire c.entityId t.id
      let s' := { s with locks := locks }
      if got then proceed s' c else (.queued, s')
  | .change c, .queued =>
    if s.locks.holds c.entityId t.id then proceed s c else (.queued, s)
  | .change c, .paused current => conclude s c current

end Task

end FlowRegistry
