import FlowRegistry.Proofs.LockTable
import FlowRegistry.Proofs.MutexTable

/-!
# The atomic lock table as a view of the entity mutexes

`MutexTable.view` reads the entity mutexes as the atomic table `Locks` that the tasks of a race
use: an entity whose mutex is held has the entry naming its holder and its line, and an entity
whose mutex is free has none, whether or not its entry is still to be pruned. Seen through the
view, each act of a call is the atomic table's move of the same call (`Locks.acquire` when it
tries the mutex, `Locks.release` when it drops the guard, `Locks.withdraw` when it leaves the
line) or no move at all: taking a handle and pruning do not show (`MutexTable.view_step`).
-/

namespace FlowRegistry

/-- Drops a task from the line for an entity's lock. -/
def Locks.withdraw (l : Locks) (e : String) (task : Nat) : Locks :=
  ⟨l.entries.map fun en =>
    if en.entityId == e then { en with waiters := en.waiters.erase task } else en⟩

namespace MutexTable

/-- The atomic table the mutexes amount to: an entry for each held mutex. -/
def view (t : MutexTable) : Locks :=
  ⟨t.entries.filterMap fun p =>
    (t.mutexes p.2).holder.map fun h => ⟨p.1, h, (t.mutexes p.2).waiters⟩⟩

/-- The atomic table's move for an act of a call. -/
def atomic (t : MutexTable) : LockAct → Locks → Locks
  | .advance i =>
    match t.entities[i]?, t.stages[i]? with
    | some e, some (.cloned _) => fun l => (l.acquire e i).2
    | some e, some (.holding _) => fun l => l.release e
    | _, _ => id
  | .abandon i =>
    match t.entities[i]?, t.stages[i]? with
    | some e, some (.queued _) => fun l => l.withdraw e i
    | _, _ => id

variable {t : MutexTable} {i m : Nat} {e x : String}

theorem view_keyed (hk : (t.entries.map (·.1)).Nodup) : t.view.Keyed := by
  unfold Locks.Keyed view
  generalize t.entries = es at hk ⊢
  induction es with
  | nil => simp
  | cons p ps ih =>
    simp only [List.map_cons, List.nodup_cons, List.mem_map] at hk
    rw [List.filterMap_cons]
    rcases hh : (t.mutexes p.2).holder with _ | h
    · exact ih hk.2
    · simp only [Option.map_some, List.map_cons, List.nodup_cons, List.mem_map]
      refine ⟨?_, ih hk.2⟩
      rintro ⟨en, hen, hkey⟩
      obtain ⟨q, hq, hen'⟩ := List.mem_filterMap.1 hen
      obtain ⟨_, -, rfl⟩ := Option.map_eq_some_iff.1 hen'
      exact hk.1 ⟨q, hq, hkey⟩

/-- The view's entry of an entity: its mutex's holder and line, if it is held. -/
theorem find?_view (hk : (t.entries.map (·.1)).Nodup) (x : String) :
    t.view.find? x = (t.lookup x).bind fun m =>
      (t.mutexes m).holder.map fun h => ⟨x, h, (t.mutexes m).waiters⟩ := by
  rcases hfind : t.lookup x with _ | m
  · rw [Option.bind_none, Locks.find?_eq_none_iff]
    intro en hen
    obtain ⟨p, hp, hen'⟩ := List.mem_filterMap.1 hen
    obtain ⟨h, -, rfl⟩ := Option.map_eq_some_iff.1 hen'
    exact lookup_eq_none_iff.1 hfind p hp
  · have hmem := mem_of_lookup hfind
    rw [Option.bind_some]
    rcases hh : (t.mutexes m).holder with _ | h
    · rw [Option.map_none, Locks.find?_eq_none_iff]
      intro en hen hkey
      obtain ⟨p, hp, hen'⟩ := List.mem_filterMap.1 hen
      obtain ⟨h', hh', rfl⟩ := Option.map_eq_some_iff.1 hen'
      have same : p = (x, m) := List.inj_on_of_nodup_map hk hp hmem hkey
      rw [same, hh] at hh'
      cases hh'
    · rw [Option.map_some]
      have hin : (⟨x, h, (t.mutexes m).waiters⟩ : LockEntry) ∈ t.view.entries :=
        List.mem_filterMap.2 ⟨(x, m), hmem, by simp [hh]⟩
      exact Locks.find?_of_mem (view_keyed hk) hin

theorem find?_withdraw {l : Locks} {en : LockEntry} (hfind : l.find? e = some en) (k : Nat)
    (x : String) : (l.withdraw e k).find? x =
      if x = e then some { en with waiters := en.waiters.erase k } else l.find? x :=
  Locks.find?_modify (fun y => { y with waiters := y.waiters.erase k }) (fun _ => rfl) hfind x

section Moves

variable (h : t.Sound)
include h

/-- The entry of the call's entity in the view, while the mutex is held. -/
theorem Sound.find?_view_of_holder (he : t.entities[i]? = some e) {st : LockStage}
    (hi : t.stages[i]? = some st) (hm : st.handle = some m) {k : Nat}
    (hk : (t.mutexes m).holder = some k) :
    t.view.find? e = some ⟨e, k, (t.mutexes m).waiters⟩ := by
  rw [find?_view h.keys, h.current i e st m he hi hm]
  simp [hk]

/-- Away from the call's entity, a move that changes only the call's mutex leaves the view. -/
theorem Sound.find?_view_away {t' : MutexTable} (h' : t'.Sound)
    (he : t.entities[i]? = some e) {st : LockStage} (hi : t.stages[i]? = some st)
    (hm : st.handle = some m) (hlook : ∀ y, t'.lookup y = t.lookup y)
    (hmut : ∀ k, k ≠ m → t'.mutexes k = t.mutexes k) (hx : x ≠ e) :
    t'.view.find? x = t.view.find? x := by
  rw [find?_view h'.keys, find?_view h.keys, hlook]
  rcases hfind : t.lookup x with _ | k
  · rfl
  · -- the entity `x` has a mutex of its own
    have hkm : k ≠ m := by
      rintro rfl
      exact hx (eq_of_lookup h.ptrs hfind (h.current i e st k he hi hm))
    simp [hmut k hkm]

/-- Taking a handle does not show. -/
theorem Sound.view_enter (he : t.entities[i]? = some e) (hi : t.stages[i]? = some .idle)
    (x : String) : (t.enter i e).view.find? x = t.view.find? x := by
  have h' := h.enter he hi
  rw [find?_view h'.keys, find?_view h.keys, enter_lookup]
  split
  · -- the new mutex is free
    rename_i hnew
    obtain ⟨rfl, hnone⟩ := hnew
    have fresh_holder : (t.mutexes t.next).holder = none := by
      rcases hk : (t.mutexes t.next).holder with _ | j
      · rfl
      · exact absurd rfl (h.handle_ne_next ((h.holder _ j).1 hk))
    simp [hnone, (h.enter_mutex i x t.next).1, fresh_holder]
  · rcases t.lookup x with _ | k
    · rfl
    · simp [(h.enter_mutex i e k).1, (h.enter_mutex i e k).2]

/-- Trying the mutex is taking the lock in the atomic table. -/
theorem Sound.view_poll (he : t.entities[i]? = some e) (hi : t.stages[i]? = some (.cloned m))
    (x : String) : (t.poll i m).view.find? x = (t.view.acquire e i).2.find? x := by
  have h' := h.poll hi
  have hfind : t.lookup e = some m := h.current i e _ m he hi rfl
  have away : x ≠ e → (t.poll i m).view.find? x = t.view.find? x := fun hx =>
    h.find?_view_away h' he hi rfl (poll_lookup t i m) (fun k hk => by simp [poll_mutexes, hk]) hx
  rcases hx : (t.mutexes m).holder with _ | k
  · -- a free mutex has nobody in line, and the atomic table has no entry for it
    have hnone : t.view.find? e = none := by
      rw [find?_view h.keys, hfind]
      simp [hx]
    rw [Locks.acquire_of_none hnone, Locks.find?_take hnone]
    split
    · rename_i hxe
      subst hxe
      rw [find?_view h'.keys, poll_lookup, hfind]
      simp [poll_mutexes, hx, h.busy m hx]
    · exact away ‹_›
  · rw [Locks.acquire_of_some (h.find?_view_of_holder he hi rfl hx), Locks.find?_enqueue
      (h.find?_view_of_holder he hi rfl hx)]
    split
    · rename_i hxe
      subst hxe
      rw [find?_view h'.keys, poll_lookup, hfind]
      simp [poll_mutexes, hx]
    · exact away ‹_›

/-- Dropping the guard is releasing the lock in the atomic table. -/
theorem Sound.view_unlock (he : t.entities[i]? = some e) (hi : t.stages[i]? = some (.holding m))
    (x : String) : (t.unlock i m).view.find? x = (t.view.release e).find? x := by
  have h' := h.unlock hi
  have hfind : t.lookup e = some m := h.current i e _ m he hi rfl
  have hentry := h.find?_view_of_holder he hi rfl ((h.holder m i).2 hi)
  rw [Locks.find?_release (view_keyed h.keys), hentry]
  split
  · rename_i hxe
    subst hxe
    rw [find?_view h'.keys]
    rcases hw : (t.mutexes m).waiters with _ | ⟨w, ws⟩
    · rw [unlock_of_nil hw]
      simp [hfind, LockEntry.handoff]
    · rw [unlock_of_cons hw]
      simp [hfind, LockEntry.handoff]
  · rename_i hxe
    have hmut : ∀ k, k ≠ m → (t.unlock i m).mutexes k = t.mutexes k := by
      intro k hk
      rcases hw : (t.mutexes m).waiters with _ | ⟨w, ws⟩
      · simp [unlock_of_nil hw, hk]
      · simp [unlock_of_cons hw, hk]
    have hlook : ∀ y, (t.unlock i m).lookup y = t.lookup y := by
      intro y
      rcases hw : (t.mutexes m).waiters with _ | ⟨w, ws⟩
      · simp [unlock_of_nil hw]
      · simp [unlock_of_cons hw]
    exact h.find?_view_away h' he hi rfl hlook hmut hxe

/-- Pruning does not show: only an entry whose mutex is free goes. -/
theorem Sound.view_prune (he : t.entities[i]? = some e) (hi : t.stages[i]? = some .unlocked)
    (x : String) : (t.prune i e).view.find? x = t.view.find? x := by
  have h' := h.prune he hi
  rw [find?_view h'.keys, find?_view h.keys, prune_lookup]
  split
  · -- the mutex pruned has only the table's handle, so nobody holds it
    rename_i hpruned
    obtain ⟨rfl, m, hfind, hone⟩ := hpruned
    rw [hfind]
    rcases hx : (t.mutexes m).holder with _ | j
    · simp [hx]
    · have hsj := (h.holder m j).1 hx
      have hpos : 0 < t.handles m :=
        List.countP_pos_iff.2 ⟨_, List.mem_of_getElem? hsj, by simp⟩
      have := h.strong x m hfind
      omega
  · rcases t.lookup x with _ | k
    · rfl
    · simp [(prune_mutex t i e k).1, (prune_mutex t i e k).2]

/-- Leaving the line is leaving it in the atomic table. -/
theorem Sound.view_cancel (he : t.entities[i]? = some e) (hi : t.stages[i]? = some (.queued m))
    (x : String) : (t.cancel i m).view.find? x = (t.view.withdraw e i).find? x := by
  have h' := h.cancel hi
  have hfind : t.lookup e = some m := h.current i e _ m he hi rfl
  obtain ⟨k, hk⟩ : ∃ k, (t.mutexes m).holder = some k := by
    rcases hx : (t.mutexes m).holder with _ | k
    · have hmem := (h.line m i).2 hi
      rw [h.busy m hx] at hmem
      cases hmem
    · exact ⟨k, rfl⟩
  rw [find?_withdraw (h.find?_view_of_holder he hi rfl hk)]
  split
  · rename_i hxe
    subst hxe
    rw [find?_view h'.keys]
    simp [MutexTable.cancel, hfind, hk]
  · exact h.find?_view_away h' he hi rfl (fun _ => rfl)
      (fun k hk => by simp [MutexTable.cancel, hk]) ‹_›

end Moves

/-- Seen through the view, every act of a call is the atomic table's move of the same call, or no
move at all. -/
theorem Sound.view_step (h : t.Sound) (a : LockAct) (x : String) :
    (t.step a).view.find? x = (t.atomic a t.view).find? x := by
  cases a with
  | advance i =>
    rcases hi : t.stages[i]? with _ | st
    · have he : t.entities[i]? = none := by
        rw [List.getElem?_eq_none_iff, ← h.length]
        exact List.getElem?_eq_none_iff.1 hi
      simp [MutexTable.step, atomic, he, hi]
    · obtain ⟨e, he⟩ := h.entity_of_stage hi
      cases st with
      | idle => simpa [MutexTable.step, atomic, he, hi] using h.view_enter he hi x
      | cloned m => simpa [MutexTable.step, atomic, he, hi] using h.view_poll he hi x
      | queued m => simp [MutexTable.step, atomic, he, hi]
      | holding m => simpa [MutexTable.step, atomic, he, hi] using h.view_unlock he hi x
      | unlocked => simpa [MutexTable.step, atomic, he, hi] using h.view_prune he hi x
      | returned => simp [MutexTable.step, atomic, he, hi]
  | abandon i =>
    rcases hi : t.stages[i]? with _ | st
    · simp [MutexTable.step, atomic, hi]
    · obtain ⟨e, he⟩ := h.entity_of_stage hi
      cases st with
      | queued m => simpa [MutexTable.step, atomic, he, hi] using h.view_cancel he hi x
      | _ => simp [MutexTable.step, atomic, he, hi]

end MutexTable

end FlowRegistry
