/-!
# Entity mutexes shared through counted handles

The lock of an entity is a mutex reached through counted handles. The table maps each entity to
its mutex and keeps one handle on it; a call that asks for the lock takes another under the table's
lock, then takes the mutex or joins the end of its line. Letting the lock go takes two steps: the
guard is dropped, which passes the mutex to the first in line and gives up the call's handle, and
later, under the table's lock again, the entry is removed if the table's handle is the only one
left. A call dropped while in line leaves it, gives up its handle, and prunes the same way.
-/

namespace FlowRegistry

/-- A mutex and its handles: how many there are (the table's among them), the call that holds the
mutex, and the calls waiting for it in the order they came. -/
structure SharedMutex where
  strong : Nat
  holder : Option Nat
  waiters : List Nat
  deriving DecidableEq, Repr

/-- Where a call stands with the lock of its entity. A mutex is named by the number it was made
with. -/
inductive LockStage where
  /-- It has not asked for the lock. -/
  | idle
  /-- It has a handle on the mutex and has not tried it yet. -/
  | cloned (mutex : Nat)
  /-- It waits in the mutex's line. -/
  | queued (mutex : Nat)
  /-- It holds the mutex. -/
  | holding (mutex : Nat)
  /-- It let the mutex go and gave up its handle; the entry is still to be pruned. -/
  | unlocked
  /-- It is done with the lock. -/
  | returned
  deriving DecidableEq, Repr

/-- The mutex a call has a handle on. -/
def LockStage.handle : LockStage → Option Nat
  | .cloned m | .queued m | .holding m => some m
  | _ => none

/-- The entity mutexes of one manager and the calls that use them: the table from entity to
mutex, the mutexes by number, the entity of each call and where it stands, and the number the
next mutex is made with. -/
structure MutexTable where
  entries : List (String × Nat)
  mutexes : Nat → SharedMutex
  entities : List String
  stages : List LockStage
  next : Nat

/-- What a call does next: its next step with the lock, or being dropped while in line. -/
inductive LockAct where
  | advance (call : Nat)
  | abandon (call : Nat)
  deriving DecidableEq, Repr

namespace MutexTable

/-- A table with no entry, and calls on these entities that have not asked for their lock. -/
def start (entities : List String) : MutexTable :=
  ⟨[], fun _ => ⟨0, none, []⟩, entities, entities.map fun _ => .idle, 0⟩

/-- The number of entities with an entry. -/
def size (t : MutexTable) : Nat := t.entries.length

/-- The mutex of an entity. -/
def lookup (t : MutexTable) (e : String) : Option Nat :=
  (t.entries.find? (·.1 == e)).map (·.2)

/-- The table with the mutex `m` replaced. -/
def setMutex (t : MutexTable) (m : Nat) (x : SharedMutex) : MutexTable :=
  { t with mutexes := fun k => if k = m then x else t.mutexes k }

/-- The table with the call `i` moved to a stage. -/
def setStage (t : MutexTable) (i : Nat) (st : LockStage) : MutexTable :=
  { t with stages := t.stages.set i st }

/-- Asking for the lock, under the table's lock: a handle on the entity's mutex, which is made
with two handles if it has no entry. -/
def enter (t : MutexTable) (i : Nat) (e : String) : MutexTable :=
  match t.lookup e with
  | some m =>
    (t.setMutex m { t.mutexes m with strong := (t.mutexes m).strong + 1 }).setStage i (.cloned m)
  | none =>
    ({ t with entries := t.entries ++ [(e, t.next)], next := t.next + 1 }.setMutex t.next
      ⟨2, none, []⟩).setStage i (.cloned t.next)

/-- The first try of the mutex: a free one is taken, a held one waited for at the end of its
line. -/
def poll (t : MutexTable) (i m : Nat) : MutexTable :=
  let x := t.mutexes m
  match x.holder with
  | none => (t.setMutex m { x with holder := some i }).setStage i (.holding m)
  | some _ => (t.setMutex m { x with waiters := x.waiters ++ [i] }).setStage i (.queued m)

/-- Dropping the guard: the mutex passes to the first in line, and the call's handle goes. -/
def unlock (t : MutexTable) (i m : Nat) : MutexTable :=
  let x := t.mutexes m
  match x.waiters with
  | [] => (t.setMutex m ⟨x.strong - 1, none, []⟩).setStage i .unlocked
  | w :: ws =>
    ((t.setMutex m ⟨x.strong - 1, some w, ws⟩).setStage w (.holding m)).setStage i .unlocked

/-- Dropping a call in line: it leaves the line, and its handle goes. -/
def cancel (t : MutexTable) (i m : Nat) : MutexTable :=
  let x := t.mutexes m
  (t.setMutex m { x with strong := x.strong - 1, waiters := x.waiters.erase i }).setStage i
    .unlocked

/-- The end of letting go, under the table's lock: the entity's entry is removed, and its mutex
with it, if the table's handle is the only one left. -/
def prune (t : MutexTable) (i : Nat) (e : String) : MutexTable :=
  let t' := match t.lookup e with
    | some m =>
      if (t.mutexes m).strong = 1 then
        { t with entries := t.entries.filter (·.1 != e) }.setMutex m
          { t.mutexes m with strong := 0 }
      else t
    | none => t
  t'.setStage i .returned

/-- One act of one call. A call in line goes on only when the mutex passes to it, and only a call
in line can be dropped before its guard is. -/
def step (t : MutexTable) : LockAct → MutexTable
  | .advance i =>
    match t.entities[i]?, t.stages[i]? with
    | some e, some .idle => t.enter i e
    | _, some (.cloned m) => t.poll i m
    | _, some (.holding m) => t.unlock i m
    | some e, some .unlocked => t.prune i e
    | _, _ => t
  | .abandon i =>
    match t.stages[i]? with
    | some (.queued m) => t.cancel i m
    | _ => t

/-- The acts of a schedule, in order. -/
def run (t : MutexTable) (acts : List LockAct) : MutexTable := acts.foldl step t

end MutexTable

end FlowRegistry
