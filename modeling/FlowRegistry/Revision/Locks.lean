/-!
# The table of entity locks

Each entity a task has asked to lock has one entry: the task that holds the lock and the tasks
waiting for it, in the order they began to wait. A free lock is taken at once; a held one is
waited for at the end of the line, and on release it passes to the first in line. The entry is
dropped when the lock is released with nobody waiting, so the table's size is the number of
entities whose lock is held or awaited.
-/

namespace FlowRegistry

/-- The lock of one entity: the task that holds it, and the tasks waiting for it in order. -/
structure LockEntry where
  entityId : String
  holder : Nat
  waiters : List Nat
  deriving DecidableEq, Repr

/-- The locks that are held, one entry per entity. -/
structure Locks where
  entries : List LockEntry
  deriving DecidableEq, Repr

namespace Locks

/-- No lock held. -/
def empty : Locks := ⟨[]⟩

/-- The number of entities whose lock is held or awaited. -/
def size (l : Locks) : Nat := l.entries.length

/-- The entry of an entity. -/
def find? (l : Locks) (entityId : String) : Option LockEntry :=
  l.entries.find? (·.entityId == entityId)

/-- Whether a task holds the lock of an entity. -/
def holds (l : Locks) (entityId : String) (task : Nat) : Bool :=
  match l.find? entityId with
  | some e => e.holder == task
  | none => false

/-- Asks for the lock of an entity: a free lock is taken at once, a held one is waited for at
the end of the queue. Answers whether the task holds the lock now. -/
def acquire (l : Locks) (entityId : String) (task : Nat) : Bool × Locks :=
  match l.find? entityId with
  | none => (true, ⟨l.entries ++ [⟨entityId, task, []⟩]⟩)
  | some _ =>
    (false, ⟨l.entries.map fun e =>
      if e.entityId == entityId then { e with waiters := e.waiters ++ [task] } else e⟩)

/-- Releases the lock of an entity: the first waiter holds it next, and with no waiter the entry
is dropped. -/
def release (l : Locks) (entityId : String) : Locks :=
  ⟨l.entries.filterMap fun e =>
    if e.entityId == entityId then
      match e.waiters with
      | [] => none
      | w :: ws => some ⟨e.entityId, w, ws⟩
    else some e⟩

/-- The tasks that hold, in `after`, a lock that `task` held in `before`: those the locks of
`task` passed to between the two tables, in the order of the entries. -/
def passed (before after : Locks) (task : Nat) : List Nat :=
  before.entries.filterMap fun e =>
    if e.holder = task then
      match after.find? e.entityId with
      | some e' => if e'.holder = task then none else some e'.holder
      | none => none
    else none

end Locks

end FlowRegistry
