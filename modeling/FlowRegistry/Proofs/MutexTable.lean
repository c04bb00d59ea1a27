import Mathlib.Data.List.Nodup
import FlowRegistry.Revision.EntityMutexes

/-!
# Entity mutexes under any schedule

`MutexTable.Sound` holds of the table at every point of every schedule (`MutexTable.sound_run`):
one entry per entity and one per mutex, every handle a call has is on the mutex the table has for
its entity, each mutex in the table counts its handles and names its holder and its line, and
every entry has a call that has a handle on its mutex or has still to prune it. The pruning step
reads only the count, so a call that takes a handle just before it keeps the entry, and a call
that makes the entry again just after it gets a mutex nobody else has a handle on.
-/

namespace FlowRegistry

/-- The number of calls with a handle on the mutex `m`. -/
def MutexTable.handles (t : MutexTable) (m : Nat) : Nat := t.stages.countP (·.handle == some m)

namespace MutexTable

variable {t t' : MutexTable} {i j m k n w : Nat} {ws : List Nat} {e x : String} {st st' : LockStage}
  {y : SharedMutex}

/-! ### Reading the table after an update -/

@[simp] theorem setMutex_mutexes :
    (t.setMutex m y).mutexes k = if k = m then y else t.mutexes k := rfl

@[simp] theorem setMutex_entries : (t.setMutex m y).entries = t.entries := rfl

@[simp] theorem setMutex_entities : (t.setMutex m y).entities = t.entities := rfl

@[simp] theorem setMutex_stages : (t.setMutex m y).stages = t.stages := rfl

@[simp] theorem setMutex_next : (t.setMutex m y).next = t.next := rfl

@[simp] theorem setStage_mutexes : (t.setStage i st).mutexes = t.mutexes := rfl

@[simp] theorem setStage_entries : (t.setStage i st).entries = t.entries := rfl

@[simp] theorem setStage_entities : (t.setStage i st).entities = t.entities := rfl

@[simp] theorem setStage_stages : (t.setStage i st).stages = t.stages.set i st := rfl

@[simp] theorem setStage_next : (t.setStage i st).next = t.next := rfl

@[simp] theorem lookup_setMutex : (t.setMutex m y).lookup x = t.lookup x := rfl

@[simp] theorem lookup_setStage : (t.setStage i st).lookup x = t.lookup x := rfl

@[simp] theorem handle_idle : LockStage.idle.handle = none := rfl

@[simp] theorem handle_cloned : (LockStage.cloned m).handle = some m := rfl

@[simp] theorem handle_queued : (LockStage.queued m).handle = some m := rfl

@[simp] theorem handle_holding : (LockStage.holding m).handle = some m := rfl

@[simp] theorem handle_unlocked : LockStage.unlocked.handle = none := rfl

@[simp] theorem handle_returned : LockStage.returned.handle = none := rfl

theorem stage_of (hs : t'.stages = t.stages.set i st') (hi : t.stages[i]? = some st) (j : Nat) :
    t'.stages[j]? = if j = i then some st' else t.stages[j]? := by
  have hlt : i < t.stages.length := (List.getElem?_eq_some_iff.1 hi).1
  rw [hs, List.getElem?_set]
  by_cases hj : j = i
  · simp [hj, hlt]
  · simp [hj, Ne.symm hj]

/-- Moving one call to another stage changes the count of handles on a mutex by what the two
stages say of it. -/
theorem handles_of (hs : t'.stages = t.stages.set i st') (hi : t.stages[i]? = some st) (m : Nat) :
    t'.handles m + (if st.handle = some m then 1 else 0) =
      t.handles m + (if st'.handle = some m then 1 else 0) := by
  obtain ⟨hlt, hget⟩ := List.getElem?_eq_some_iff.1 hi
  -- the moved call is counted before the move when its old stage has a handle on `m`
  have hpos : (if st.handle = some m then 1 else 0) ≤ t.handles m := by
    split
    · rename_i hm
      exact List.countP_pos_iff.2 ⟨st, List.mem_of_getElem? hi, by simp [hm]⟩
    · exact Nat.zero_le _
  simp only [handles, hs, List.countP_set hlt, hget, beq_iff_eq] at hpos ⊢
  by_cases hold : st.handle = some m <;> by_cases hnew : st'.handle = some m <;>
    simp only [hold, hnew, if_true, if_false] at hpos ⊢ <;> omega

/-- The counts of handles when the moved call keeps its handle. -/
theorem handles_keep (hs : t'.stages = t.stages.set i st') (hi : t.stages[i]? = some st)
    (hsame : st'.handle = st.handle) (k : Nat) : t'.handles k = t.handles k := by
  have hc := handles_of hs hi k
  rw [hsame] at hc
  omega

/-! ### Looking an entity up -/

theorem lookup_eq_none_iff : t.lookup x = none ↔ ∀ p ∈ t.entries, p.1 ≠ x := by
  simp [lookup]

theorem mem_of_lookup (h : t.lookup x = some m) : (x, m) ∈ t.entries := by
  unfold lookup at h
  obtain ⟨p, hp, rfl⟩ := Option.map_eq_some_iff.1 h
  have hkey : p.1 = x := by simpa using List.find?_some hp
  rw [← hkey]
  exact List.mem_of_find?_eq_some hp

theorem lookup_of_mem (hk : (t.entries.map (·.1)).Nodup) (h : (x, m) ∈ t.entries) :
    t.lookup x = some m := by
  obtain ⟨p, hp⟩ : ∃ p, t.entries.find? (·.1 == x) = some p := by
    rw [← Option.isSome_iff_exists, List.find?_isSome]
    exact ⟨(x, m), h, by simp⟩
  have hkey : p.1 = x := by simpa using List.find?_some hp
  have same : p = (x, m) :=
    List.inj_on_of_nodup_map hk (List.mem_of_find?_eq_some hp) h hkey
  simp [lookup, hp, same]

/-- The entries after a new one is appended for an entity that had none. -/
theorem lookup_append (hnone : t.lookup e = none) (h : t'.entries = t.entries ++ [(e, n)])
    (x : String) : t'.lookup x = if x = e then some n else t.lookup x := by
  have others : ∀ p ∈ t.entries, p.1 ≠ e := lookup_eq_none_iff.1 hnone
  by_cases hx : x = e
  · subst hx
    simp only [lookup, h, List.find?_append, if_true]
    rw [show t.entries.find? (·.1 == x) = none from List.find?_eq_none.2 (by simpa using others)]
    simp
  · simp only [lookup, h, List.find?_append, hx, if_false]
    rcases hfind : t.entries.find? (·.1 == x) with _ | p
    · simp [Ne.symm hx]
    · simp [hfind]

/-- The entries after those of one entity are removed. -/
theorem lookup_filter (h : t'.entries = t.entries.filter (·.1 != e)) (x : String) :
    t'.lookup x = if x = e then none else t.lookup x := by
  simp only [lookup, h, List.find?_filter]
  by_cases hx : x = e
  · subst hx
    simp only [if_true, Option.map_eq_none_iff, List.find?_eq_none]
    intro p _
    simp only [bne_iff_ne, ne_eq, beq_iff_eq, decide_eq_true_eq, not_and]
    exact fun hne hp => hne hp
  · -- away from `e`, the filter keeps exactly the entries the search looks for
    have same : (fun p : String × Nat => decide ((p.1 != e) = true ∧ (p.1 == x) = true)) =
        (·.1 == x) := by
      funext p
      by_cases hp : p.1 = x
      · simp [hp, hx]
      · simp [hp]
    simp only [hx, if_false, same]

theorem lookup_of_entries (h : t'.entries = t.entries) (x : String) : t'.lookup x = t.lookup x := by
  simp only [lookup, h]

/-- Two entries never share a mutex. -/
theorem eq_of_lookup (hp : (t.entries.map (·.2)).Nodup) (hx : t.lookup x = some m)
    (he : t.lookup e = some m) : x = e := by
  have hxm := mem_of_lookup hx
  have hem := mem_of_lookup he
  have same : (x, m) = (e, m) := List.inj_on_of_nodup_map hp hxm hem rfl
  exact (Prod.mk.inj same).1

/-! ### What holds at every point -/

/-- A call on the entity `x` has a handle on the mutex `m`, or has let its lock go and is still to
prune the entry. -/
def Pending (t : MutexTable) (x : String) (m : Nat) : Prop :=
  ∃ i : Nat, ∃ st : LockStage, t.entities[i]? = some x ∧ t.stages[i]? = some st ∧
    (st.handle = some m ∨ st = .unlocked)

/-- What holds of the table at every point of every schedule. -/
structure Sound (t : MutexTable) : Prop where
  length : t.stages.length = t.entities.length
  keys : (t.entries.map (·.1)).Nodup
  ptrs : (t.entries.map (·.2)).Nodup
  alloc : ∀ p ∈ t.entries, p.2 < t.next
  /-- Every handle a call has is on the mutex the table has for the call's entity. -/
  current : ∀ (i : Nat) (e : String) (st : LockStage) (m : Nat), t.entities[i]? = some e →
    t.stages[i]? = some st → st.handle = some m → t.lookup e = some m
  /-- A mutex in the table has one handle more than the calls that have one on it. -/
  strong : ∀ (e : String) (m : Nat), t.lookup e = some m → (t.mutexes m).strong = t.handles m + 1
  holder : ∀ (m i : Nat), (t.mutexes m).holder = some i ↔ t.stages[i]? = some (.holding m)
  line : ∀ (m i : Nat), i ∈ (t.mutexes m).waiters ↔ t.stages[i]? = some (.queued m)
  line_nodup : ∀ m : Nat, (t.mutexes m).waiters.Nodup
  /-- Nobody waits for a mutex nobody holds. -/
  busy : ∀ m : Nat, (t.mutexes m).holder = none → (t.mutexes m).waiters = []
  live : ∀ (e : String) (m : Nat), t.lookup e = some m → t.Pending e m

theorem sound_start (es : List String) : (start es).Sound where
  length := by simp [start]
  keys := by simp [start]
  ptrs := by simp [start]
  alloc := by simp [start]
  current := by
    intro i e st m _ hst hm
    simp only [start, List.getElem?_map] at hst
    obtain ⟨_, -, rfl⟩ := Option.map_eq_some_iff.1 hst
    cases hm
  strong := by simp [start, lookup]
  holder := by simp [start, List.getElem?_replicate]
  line := by simp [start, List.getElem?_replicate]
  line_nodup := by simp [start]
  busy := by simp [start]
  live := by simp [start, lookup]

section Sound

variable (h : t.Sound)
include h

theorem Sound.entity_of_stage (hi : t.stages[i]? = some st) : ∃ e, t.entities[i]? = some e := by
  have hlt : i < t.entities.length := h.length ▸ (List.getElem?_eq_some_iff.1 hi).1
  exact ⟨_, List.getElem?_eq_getElem hlt⟩

/-- Nobody has a handle on the mutex made next. -/
theorem Sound.handle_ne_next (hi : t.stages[i]? = some st) : st.handle ≠ some t.next := by
  intro hm
  obtain ⟨e, he⟩ := h.entity_of_stage hi
  exact Nat.lt_irrefl _ (h.alloc _ (mem_of_lookup (h.current i e st _ he hi hm)))

/-- A mutex that a call counted on it has a handle on is the mutex of the call's entity. -/
theorem Sound.pending_of_handles (hfind : t.lookup e = some m) (hpos : 0 < t.handles m) :
    ∃ j : Nat, ∃ sj : LockStage, t.entities[j]? = some e ∧ t.stages[j]? = some sj ∧
      sj.handle = some m := by
  obtain ⟨sj, hmem, hm⟩ := List.countP_pos_iff.1 hpos
  obtain ⟨j, hj⟩ := List.mem_iff_getElem?.1 hmem
  have hm' : sj.handle = some m := by simpa using hm
  obtain ⟨x, hx⟩ := h.entity_of_stage hj
  have same : x = e := eq_of_lookup h.ptrs (h.current j x sj m hx hj hm') hfind
  exact ⟨j, sj, same ▸ hx, hj, hm'⟩

end Sound

/-! ### What a move of one call keeps -/

section Frames

variable (hs : t'.stages = t.stages.set i st') (hi : t.stages[i]? = some st)
include hs hi

theorem current_restage (hent : t'.entities = t.entities)
    (hlook : ∀ x k, t.lookup x = some k → t'.lookup x = some k)
    (hnew : ∀ x k, t.entities[i]? = some x → st'.handle = some k → t'.lookup x = some k)
    (hold : ∀ (j : Nat) (x : String) (sj : LockStage) (k : Nat), t.entities[j]? = some x →
      t.stages[j]? = some sj → sj.handle = some k → t.lookup x = some k)
    (j : Nat) (x : String) (sj : LockStage) (k : Nat) (hx : t'.entities[j]? = some x)
    (hj : t'.stages[j]? = some sj) (hk : sj.handle = some k) : t'.lookup x = some k := by
  rw [hent] at hx
  rw [stage_of hs hi] at hj
  split at hj
  · rename_i hji
    subst hji
    cases hj
    exact hnew x k hx hk
  · exact hlook x k (hold j x sj k hx hj hk)

/-- The holders, when the moved call neither held a mutex nor comes to hold one. -/
theorem holder_restage (hholder : ∀ k, (t'.mutexes k).holder = (t.mutexes k).holder)
    (hnot : ∀ k, st ≠ .holding k) (hnot' : ∀ k, st' ≠ .holding k)
    (hold : ∀ k j, (t.mutexes k).holder = some j ↔ t.stages[j]? = some (.holding k)) (k j : Nat) :
    (t'.mutexes k).holder = some j ↔ t'.stages[j]? = some (.holding k) := by
  rw [hholder, stage_of hs hi]
  split
  · rename_i hji
    subst hji
    rw [hold, hi]
    simp [hnot k, hnot' k]
  · exact hold k j

/-- The lines, when the moved call neither waited for a mutex nor comes to wait for one. -/
theorem line_restage (hwaiters : ∀ k, (t'.mutexes k).waiters = (t.mutexes k).waiters)
    (hnot : ∀ k, st ≠ .queued k) (hnot' : ∀ k, st' ≠ .queued k)
    (hold : ∀ k j, j ∈ (t.mutexes k).waiters ↔ t.stages[j]? = some (.queued k)) (k j : Nat) :
    j ∈ (t'.mutexes k).waiters ↔ t'.stages[j]? = some (.queued k) := by
  rw [hwaiters, stage_of hs hi]
  split
  · rename_i hji
    subst hji
    rw [hold, hi]
    simp [hnot k, hnot' k]
  · exact hold k j

/-- A call that stands for an entry still does after the move, if the moved call keeps doing so
whenever it did. -/
theorem pending_restage (hent : t'.entities = t.entities)
    (hkeep : t.entities[i]? = some x → (st.handle = some k ∨ st = .unlocked) →
      (st'.handle = some k ∨ st' = .unlocked))
    (hold : t.Pending x k) : t'.Pending x k := by
  obtain ⟨j, sj, hx, hj, hw⟩ := hold
  refine ⟨j, if j = i then st' else sj, hent ▸ hx, ?_, ?_⟩
  · rw [stage_of hs hi]
    split
    · rfl
    · exact hj
  · split
    · rename_i hji
      subst hji
      rw [hi] at hj
      cases hj
      exact hkeep hx hw
    · exact hw

end Frames

/-! ### One act at a time -/

section Acts

variable (h : t.Sound)
include h

/-- Taking a handle on the mutex an entity has. -/
theorem Sound.enter_found (he : t.entities[i]? = some e) (hi : t.stages[i]? = some .idle)
    (hfind : t.lookup e = some m) (hs : t'.stages = t.stages.set i (.cloned m))
    (hent : t'.entities = t.entities) (hentries : t'.entries = t.entries) (hnext : t'.next = t.next)
    (hmut : ∀ k, t'.mutexes k =
      if k = m then { t.mutexes m with strong := (t.mutexes m).strong + 1 } else t.mutexes k) :
    t'.Sound := by
  have hlook := lookup_of_entries hentries
  have hholder : ∀ k, (t'.mutexes k).holder = (t.mutexes k).holder := by
    intro k
    rw [hmut]
    split <;> simp_all
  have hwaiters : ∀ k, (t'.mutexes k).waiters = (t.mutexes k).waiters := by
    intro k
    rw [hmut]
    split <;> simp_all
  refine ⟨by rw [hs, List.length_set, hent]; exact h.length, hentries ▸ h.keys,
    hentries ▸ h.ptrs, by rw [hentries, hnext]; exact h.alloc, ?_, ?_,
    holder_restage hs hi hholder (by simp) (by simp) h.holder,
    line_restage hs hi hwaiters (by simp) (by simp) h.line,
    fun k => hwaiters k ▸ h.line_nodup k,
    fun k hk => by rw [hwaiters]; exact h.busy k (hholder k ▸ hk), ?_⟩
  · refine current_restage hs hi hent (fun x k hk => by rw [hlook]; exact hk) ?_ h.current
    intro x k hx hk
    rw [he] at hx
    cases hx
    cases hk
    rw [hlook]
    exact hfind
  · intro x k hk
    rw [hlook] at hk
    have hc := handles_of hs hi k
    have hst := h.strong x k hk
    simp only [handle_idle, handle_cloned, reduceCtorEq, if_false, Nat.add_zero,
      Option.some.injEq] at hc
    rw [hmut]
    by_cases hkm : k = m
    · subst hkm
      simp only [if_true] at hc ⊢
      omega
    · simp only [hkm, Ne.symm hkm, if_false] at hc ⊢
      omega
  · intro x k hk
    rw [hlook] at hk
    exact pending_restage hs hi hent (by simp) (h.live x k hk)

/-- Making the mutex of an entity that has none, with a handle for the table and one for the
call. -/
theorem Sound.enter_new (he : t.entities[i]? = some e) (hi : t.stages[i]? = some .idle)
    (hnone : t.lookup e = none) (hs : t'.stages = t.stages.set i (.cloned t.next))
    (hent : t'.entities = t.entities) (hentries : t'.entries = t.entries ++ [(e, t.next)])
    (hnext : t'.next = t.next + 1)
    (hmut : ∀ k, t'.mutexes k = if k = t.next then ⟨2, none, []⟩ else t.mutexes k) :
    t'.Sound := by
  have hlook := lookup_append hnone hentries
  have fresh_holder : (t.mutexes t.next).holder = none := by
    rcases hk : (t.mutexes t.next).holder with _ | j
    · rfl
    · exact absurd rfl (h.handle_ne_next ((h.holder _ j).1 hk))
  have fresh_waiters : (t.mutexes t.next).waiters = [] := h.busy _ fresh_holder
  have hholder : ∀ k, (t'.mutexes k).holder = (t.mutexes k).holder := by
    intro k
    rw [hmut]
    split
    · rename_i hk
      rw [hk, fresh_holder]
    · rfl
  have hwaiters : ∀ k, (t'.mutexes k).waiters = (t.mutexes k).waiters := by
    intro k
    rw [hmut]
    split
    · rename_i hk
      rw [hk, fresh_waiters]
    · rfl
  have others : ∀ p ∈ t.entries, p.1 ≠ e := lookup_eq_none_iff.1 hnone
  have kept : ∀ x k, t.lookup x = some k → t'.lookup x = some k ∧ k ≠ t.next := by
    intro x k hk
    have hx : x ≠ e := by
      rintro rfl
      rw [hnone] at hk
      cases hk
    rw [hlook, if_neg hx]
    exact ⟨hk, Nat.ne_of_lt (h.alloc _ (mem_of_lookup hk))⟩
  refine ⟨by rw [hs, List.length_set, hent]; exact h.length, ?_, ?_, ?_, ?_, ?_,
    holder_restage hs hi hholder (by simp) (by simp) h.holder,
    line_restage hs hi hwaiters (by simp) (by simp) h.line,
    fun k => hwaiters k ▸ h.line_nodup k,
    fun k hk => by rw [hwaiters]; exact h.busy k (hholder k ▸ hk), ?_⟩
  · rw [hentries, List.map_append, List.nodup_append]
    refine ⟨h.keys, by simp, ?_⟩
    intro a ha b hb
    obtain ⟨p, hp, rfl⟩ := List.mem_map.1 ha
    rw [List.eq_of_mem_singleton hb]
    exact others p hp
  · rw [hentries, List.map_append, List.nodup_append]
    refine ⟨h.ptrs, by simp, ?_⟩
    intro a ha b hb
    obtain ⟨p, hp, rfl⟩ := List.mem_map.1 ha
    rw [List.eq_of_mem_singleton hb]
    exact Nat.ne_of_lt (h.alloc p hp)
  · intro p hp
    rw [hentries, List.mem_append, List.mem_singleton] at hp
    rw [hnext]
    rcases hp with hp | rfl
    · exact Nat.lt_succ_of_lt (h.alloc p hp)
    · exact Nat.lt_succ_self _
  · refine current_restage hs hi hent (fun x k hk => (kept x k hk).1) ?_ h.current
    intro x k hx hk
    rw [he] at hx
    cases hx
    cases hk
    rw [hlook, if_pos rfl]
  · intro x k hk
    have hc := handles_of hs hi k
    simp only [handle_idle, handle_cloned, reduceCtorEq, if_false, Nat.add_zero,
      Option.some.injEq] at hc
    rw [hlook] at hk
    split at hk
    · -- the new mutex: the table's handle and the call's
      cases hk
      have hnone' : t.handles t.next = 0 := by
        rw [handles, List.countP_eq_zero]
        intro sj hsj hm
        obtain ⟨j, hj⟩ := List.mem_iff_getElem?.1 hsj
        exact h.handle_ne_next hj (by simpa using hm)
      simp only [if_true, hnone'] at hc
      rw [hmut, if_pos rfl, hc]
    · obtain ⟨-, hkn⟩ := kept x k hk
      have hst := h.strong x k hk
      simp only [Ne.symm hkn, if_false] at hc
      rw [hmut, if_neg hkn]
      omega
  · intro x k hk
    rw [hlook] at hk
    split at hk
    · rename_i hx
      subst hx
      cases hk
      exact ⟨i, .cloned t.next, hent ▸ he, by rw [stage_of hs hi, if_pos rfl], .inl rfl⟩
    · exact pending_restage hs hi hent (by simp) (h.live x k hk)

/-- A handle kept by the moved call is on the mutex of its entity. -/
theorem Sound.current_keep (hi : t.stages[i]? = some st) (hsame : st'.handle = st.handle)
    (hlook : ∀ x k, t.lookup x = some k → t'.lookup x = some k) :
    ∀ x k, t.entities[i]? = some x → st'.handle = some k → t'.lookup x = some k :=
  fun x k hx hk => hlook x k (h.current i x st k hx hi (hsame ▸ hk))

/-- Taking a free mutex. -/
theorem Sound.poll_free (hi : t.stages[i]? = some (.cloned m))
    (hfree : (t.mutexes m).holder = none) (hs : t'.stages = t.stages.set i (.holding m))
    (hent : t'.entities = t.entities) (hentries : t'.entries = t.entries) (hnext : t'.next = t.next)
    (hmut : ∀ k, t'.mutexes k = if k = m then { t.mutexes m with holder := some i } else t.mutexes k) :
    t'.Sound := by
  have hlook := lookup_of_entries hentries
  have hwaiters : ∀ k, (t'.mutexes k).waiters = (t.mutexes k).waiters := by
    intro k
    rw [hmut]
    split <;> simp_all
  refine ⟨by rw [hs, List.length_set, hent]; exact h.length, hentries ▸ h.keys,
    hentries ▸ h.ptrs, by rw [hentries, hnext]; exact h.alloc,
    current_restage hs hi hent (fun x k hk => by rw [hlook]; exact hk)
      (h.current_keep hi rfl fun x k hk => by rw [hlook]; exact hk) h.current, ?_, ?_,
    line_restage hs hi hwaiters (by simp) (by simp) h.line,
    fun k => hwaiters k ▸ h.line_nodup k, ?_, ?_⟩
  · intro x k hk
    rw [hlook] at hk
    rw [handles_keep hs hi rfl, hmut]
    split
    · rename_i hkm
      subst hkm
      exact h.strong x k hk
    · exact h.strong x k hk
  · intro k j
    rw [hmut, stage_of hs hi]
    by_cases hkm : k = m
    · -- the mutex goes to the call, and nobody held it
      subst hkm
      by_cases hji : j = i
      · simp [hji]
      · simp only [if_true, hji, if_false, Option.some.injEq, Ne.symm hji, false_iff]
        rw [← h.holder, hfree]
        simp
    · rw [if_neg hkm, h.holder]
      split
      · rename_i hji
        subst hji
        simp [hi, Ne.symm hkm]
      · rfl
  · intro k hk
    rw [hmut] at hk ⊢
    split at hk
    · cases hk
    · rw [if_neg ‹_›]
      exact h.busy k hk
  · intro x k hk
    rw [hlook] at hk
    exact pending_restage hs hi hent (by simp) (h.live x k hk)

/-- Joining the line of a held mutex. -/
theorem Sound.poll_held (hi : t.stages[i]? = some (.cloned m))
    (hheld : (t.mutexes m).holder ≠ none) (hs : t'.stages = t.stages.set i (.queued m))
    (hent : t'.entities = t.entities) (hentries : t'.entries = t.entries) (hnext : t'.next = t.next)
    (hmut : ∀ k, t'.mutexes k =
      if k = m then { t.mutexes m with waiters := (t.mutexes m).waiters ++ [i] } else t.mutexes k) :
    t'.Sound := by
  have hlook := lookup_of_entries hentries
  have hholder : ∀ k, (t'.mutexes k).holder = (t.mutexes k).holder := by
    intro k
    rw [hmut]
    split <;> simp_all
  have hout : ∀ k, i ∉ (t.mutexes k).waiters := by
    intro k hk
    rw [h.line, hi] at hk
    cases hk
  refine ⟨by rw [hs, List.length_set, hent]; exact h.length, hentries ▸ h.keys,
    hentries ▸ h.ptrs, by rw [hentries, hnext]; exact h.alloc,
    current_restage hs hi hent (fun x k hk => by rw [hlook]; exact hk)
      (h.current_keep hi rfl fun x k hk => by rw [hlook]; exact hk) h.current, ?_,
    holder_restage hs hi hholder (by simp) (by simp) h.holder, ?_, ?_, ?_, ?_⟩
  · intro x k hk
    rw [hlook] at hk
    rw [handles_keep hs hi rfl, hmut]
    split
    · rename_i hkm
      subst hkm
      exact h.strong x k hk
    · exact h.strong x k hk
  · intro k j
    rw [hmut, stage_of hs hi]
    by_cases hkm : k = m
    · subst hkm
      by_cases hji : j = i
      · simp [hji]
      · simp only [if_true, hji, if_false, List.mem_append, List.mem_singleton, or_false]
        exact h.line k j
    · rw [if_neg hkm, h.line]
      split
      · rename_i hji
        subst hji
        simp [hi, Ne.symm hkm]
      · rfl
  · intro k
    rw [hmut]
    split
    · rename_i hkm
      subst hkm
      rw [List.nodup_append]
      refine ⟨h.line_nodup k, List.nodup_singleton i, ?_⟩
      intro a ha b hb
      rw [List.eq_of_mem_singleton hb]
      rintro rfl
      exact hout k ha
    · exact h.line_nodup k
  · intro k hk
    rw [hholder] at hk
    rw [hmut]
    split
    · rename_i hkm
      subst hkm
      exact absurd hk hheld
    · exact h.busy k hk
  · intro x k hk
    rw [hlook] at hk
    exact pending_restage hs hi hent (by simp) (h.live x k hk)

/-- Dropping the guard of a mutex nobody waits for. -/
theorem Sound.unlock_free (hi : t.stages[i]? = some (.holding m))
    (hempty : (t.mutexes m).waiters = []) (hs : t'.stages = t.stages.set i .unlocked)
    (hent : t'.entities = t.entities) (hentries : t'.entries = t.entries) (hnext : t'.next = t.next)
    (hmut : ∀ k, t'.mutexes k = if k = m then ⟨(t.mutexes m).strong - 1, none, []⟩ else t.mutexes k) :
    t'.Sound := by
  have hlook := lookup_of_entries hentries
  have hmine : (t.mutexes m).holder = some i := (h.holder m i).2 hi
  have hwaiters : ∀ k, (t'.mutexes k).waiters = (t.mutexes k).waiters := by
    intro k
    rw [hmut]
    split
    · rename_i hkm
      rw [hkm, hempty]
    · rfl
  refine ⟨by rw [hs, List.length_set, hent]; exact h.length, hentries ▸ h.keys,
    hentries ▸ h.ptrs, by rw [hentries, hnext]; exact h.alloc,
    current_restage hs hi hent (fun x k hk => by rw [hlook]; exact hk) (fun _ _ _ hk => by cases hk)
      h.current, ?_, ?_, line_restage hs hi hwaiters (by simp) (by simp) h.line,
    fun k => hwaiters k ▸ h.line_nodup k, ?_, ?_⟩
  · intro x k hk
    rw [hlook] at hk
    have hc := handles_of hs hi k
    have hst := h.strong x k hk
    simp only [handle_holding, handle_unlocked, reduceCtorEq, if_false, Nat.add_zero,
      Option.some.injEq] at hc
    rw [hmut]
    by_cases hkm : k = m
    · subst hkm
      simp only [if_true] at hc ⊢
      omega
    · simp only [hkm, Ne.symm hkm, if_false] at hc ⊢
      omega
  · intro k j
    rw [hmut, stage_of hs hi]
    by_cases hkm : k = m
    · -- nobody holds the mutex now: its holder was the call
      subst hkm
      simp only [if_true, reduceCtorEq, false_iff]
      split
      · simp
      · rename_i hji
        rw [← h.holder, hmine]
        simp [Ne.symm hji]
    · rw [if_neg hkm, h.holder]
      split
      · rename_i hji
        subst hji
        simp [hi, Ne.symm hkm]
      · rfl
  · intro k hk
    rw [hwaiters]
    by_cases hkm : k = m
    · rw [hkm, hempty]
    · rw [hmut, if_neg hkm] at hk
      exact h.busy k hk
  · intro x k hk
    rw [hlook] at hk
    exact pending_restage hs hi hent (fun _ _ => .inr rfl) (h.live x k hk)

/-- Dropping the guard of a mutex others wait for: it passes to the first in line. -/
theorem Sound.unlock_handoff (hi : t.stages[i]? = some (.holding m))
    (hwait : (t.mutexes m).waiters = w :: ws)
    (hs : t'.stages = (t.stages.set w (.holding m)).set i .unlocked)
    (hent : t'.entities = t.entities) (hentries : t'.entries = t.entries) (hnext : t'.next = t.next)
    (hmut : ∀ k, t'.mutexes k =
      if k = m then ⟨(t.mutexes m).strong - 1, some w, ws⟩ else t.mutexes k) :
    t'.Sound := by
  have hlook := lookup_of_entries hentries
  have hmine : (t.mutexes m).holder = some i := (h.holder m i).2 hi
  have hw : t.stages[w]? = some (.queued m) := (h.line m w).1 (by rw [hwait]; exact List.mem_cons_self)
  have hwi : w ≠ i := by
    rintro rfl
    rw [hi] at hw
    cases hw
  have hnd : w ∉ ws ∧ ws.Nodup := List.nodup_cons.1 (hwait ▸ h.line_nodup m)
  have hs₁ : (t.setStage w (.holding m)).stages = t.stages.set w (.holding m) := rfl
  have hi₁ : (t.setStage w (.holding m)).stages[i]? = some (.holding m) := by
    rw [stage_of hs₁ hw, if_neg (Ne.symm hwi), hi]
  have hs' : t'.stages = (t.setStage w (.holding m)).stages.set i .unlocked := hs
  have stage : ∀ j, t'.stages[j]? =
      if j = i then some .unlocked else if j = w then some (.holding m) else t.stages[j]? := by
    intro j
    rw [stage_of hs' hi₁, stage_of hs₁ hw]
  have hcount : ∀ k, t'.handles k + (if m = k then 1 else 0) = t.handles k := by
    intro k
    have h₁ := handles_keep hs₁ hw rfl k
    have h₂ := handles_of hs' hi₁ k
    simp only [handle_holding, handle_unlocked, reduceCtorEq, if_false, Nat.add_zero,
      Option.some.injEq] at h₂
    omega
  refine ⟨by rw [hs, List.length_set, List.length_set, hent]; exact h.length, hentries ▸ h.keys,
    hentries ▸ h.ptrs, by rw [hentries, hnext]; exact h.alloc, ?_, ?_, ?_, ?_, ?_, ?_, ?_⟩
  · refine current_restage hs' hi₁ hent (fun x k hk => by rw [hlook]; exact hk)
      (fun _ _ _ hk => by cases hk) ?_
    exact current_restage hs₁ hw rfl (fun x k hk => hk) (h.current_keep hw rfl fun x k hk => hk)
      h.current
  · intro x k hk
    rw [hlook] at hk
    have hc := hcount k
    have hst := h.strong x k hk
    rw [hmut]
    by_cases hkm : k = m
    · subst hkm
      simp only [if_true] at hc ⊢
      omega
    · simp only [hkm, Ne.symm hkm, if_false] at hc ⊢
      omega
  · intro k j
    rw [hmut, stage]
    by_cases hkm : k = m
    · subst hkm
      by_cases hji : j = i
      · subst hji
        simp [hwi]
      · by_cases hjw : j = w
        · simp [hjw, hwi]
        · -- any other holder of the mutex would be the call itself
          simp only [if_true, hji, hjw, if_false, Option.some.injEq, Ne.symm hjw, false_iff]
          rw [← h.holder, hmine]
          simp [Ne.symm hji]
    · rw [if_neg hkm, h.holder]
      split
      · rename_i hji
        subst hji
        simp [hi, Ne.symm hkm]
      · split
        · rename_i hjw
          subst hjw
          simp [hw, Ne.symm hkm]
        · rfl
  · intro k j
    rw [hmut, stage]
    by_cases hkm : k = m
    · subst hkm
      simp only [if_true]
      by_cases hji : j = i
      · subst hji
        simp only [if_true, Option.some.injEq, reduceCtorEq, iff_false]
        intro hmem
        have := (h.line k j).1 (by rw [hwait]; exact List.mem_cons_of_mem _ hmem)
        rw [hi] at this
        cases this
      · by_cases hjw : j = w
        · subst hjw
          simp [hji, hnd.1]
        · simp only [hji, hjw, if_false]
          rw [← h.line, hwait, List.mem_cons]
          simp [hjw]
    · rw [if_neg hkm, h.line]
      split
      · rename_i hji
        subst hji
        simp [hi]
      · split
        · rename_i hjw
          subst hjw
          simp [hw, Ne.symm hkm]
        · rfl
  · intro k
    rw [hmut]
    split
    · exact hnd.2
    · exact h.line_nodup k
  · intro k hk
    rw [hmut] at hk ⊢
    split at hk
    · cases hk
    · rw [if_neg ‹_›]
      exact h.busy k hk
  · intro x k hk
    rw [hlook] at hk
    refine pending_restage hs' hi₁ hent (fun _ _ => .inr rfl) ?_
    exact pending_restage hs₁ hw rfl (fun _ hw' => by simpa using hw') (h.live x k hk)

/-- Dropping a call that waits in line: it leaves the line, and its handle goes. -/
theorem Sound.leave_line (hi : t.stages[i]? = some (.queued m))
    (hs : t'.stages = t.stages.set i .unlocked)
    (hent : t'.entities = t.entities) (hentries : t'.entries = t.entries) (hnext : t'.next = t.next)
    (hmut : ∀ k, t'.mutexes k = if k = m then { t.mutexes m with
      strong := (t.mutexes m).strong - 1, waiters := (t.mutexes m).waiters.erase i } else t.mutexes k) :
    t'.Sound := by
  have hlook := lookup_of_entries hentries
  have hholder : ∀ k, (t'.mutexes k).holder = (t.mutexes k).holder := by
    intro k
    rw [hmut]
    split <;> simp_all
  refine ⟨by rw [hs, List.length_set, hent]; exact h.length, hentries ▸ h.keys,
    hentries ▸ h.ptrs, by rw [hentries, hnext]; exact h.alloc,
    current_restage hs hi hent (fun x k hk => by rw [hlook]; exact hk) (fun _ _ _ hk => by cases hk)
      h.current, ?_, holder_restage hs hi hholder (by simp) (by simp) h.holder, ?_, ?_, ?_, ?_⟩
  · intro x k hk
    rw [hlook] at hk
    have hc := handles_of hs hi k
    have hst := h.strong x k hk
    simp only [handle_queued, handle_unlocked, reduceCtorEq, if_false, Nat.add_zero,
      Option.some.injEq] at hc
    rw [hmut]
    by_cases hkm : k = m
    · subst hkm
      simp only [if_true] at hc ⊢
      omega
    · simp only [hkm, Ne.symm hkm, if_false] at hc ⊢
      omega
  · intro k j
    rw [hmut, stage_of hs hi]
    by_cases hkm : k = m
    · subst hkm
      simp only [if_true]
      by_cases hji : j = i
      · subst hji
        simp [(h.line_nodup k).not_mem_erase]
      · rw [if_neg hji, List.mem_erase_of_ne hji]
        exact h.line k j
    · rw [if_neg hkm, h.line]
      split
      · rename_i hji
        subst hji
        simp [hi, Ne.symm hkm]
      · rfl
  · intro k
    rw [hmut]
    split
    · exact (h.line_nodup m).erase i
    · exact h.line_nodup k
  · intro k hk
    rw [hholder] at hk
    rw [hmut]
    split
    · rename_i hkm
      subst hkm
      simp [h.busy k hk]
    · exact h.busy k hk
  · intro x k hk
    rw [hlook] at hk
    exact pending_restage hs hi hent (fun _ _ => .inr rfl) (h.live x k hk)

/-- Pruning the entry whose mutex only the table has a handle on. -/
theorem Sound.prune_drop (he : t.entities[i]? = some e) (hi : t.stages[i]? = some .unlocked)
    (hfind : t.lookup e = some m) (hone : (t.mutexes m).strong = 1)
    (hs : t'.stages = t.stages.set i .returned) (hent : t'.entities = t.entities)
    (hentries : t'.entries = t.entries.filter (·.1 != e)) (hnext : t'.next = t.next)
    (hmut : ∀ k, t'.mutexes k = if k = m then { t.mutexes m with strong := 0 } else t.mutexes k) :
    t'.Sound := by
  have hlook := lookup_filter hentries
  have nobody : ∀ (j : Nat) (sj : LockStage), t.stages[j]? = some sj → sj.handle ≠ some m := by
    intro j sj hj hm
    have hpos : 0 < t.handles m :=
      List.countP_pos_iff.2 ⟨sj, List.mem_of_getElem? hj, by simp [hm]⟩
    have := h.strong e m hfind
    omega
  have hholder : ∀ k, (t'.mutexes k).holder = (t.mutexes k).holder := by
    intro k
    rw [hmut]
    split <;> simp_all
  have hwaiters : ∀ k, (t'.mutexes k).waiters = (t.mutexes k).waiters := by
    intro k
    rw [hmut]
    split <;> simp_all
  have kept : ∀ x k, t'.lookup x = some k → x ≠ e ∧ t.lookup x = some k ∧ k ≠ m := by
    intro x k hk
    rw [hlook] at hk
    split at hk
    · cases hk
    · rename_i hx
      refine ⟨hx, hk, ?_⟩
      rintro rfl
      exact hx (eq_of_lookup h.ptrs hk hfind)
  refine ⟨by rw [hs, List.length_set, hent]; exact h.length, ?_, ?_, ?_, ?_, ?_,
    holder_restage hs hi hholder (by simp) (by simp) h.holder,
    line_restage hs hi hwaiters (by simp) (by simp) h.line,
    fun k => hwaiters k ▸ h.line_nodup k,
    fun k hk => by rw [hwaiters]; exact h.busy k (hholder k ▸ hk), ?_⟩
  · rw [hentries]
    exact h.keys.sublist (List.filter_sublist.map _)
  · rw [hentries]
    exact h.ptrs.sublist (List.filter_sublist.map _)
  · intro p hp
    rw [hentries] at hp
    rw [hnext]
    exact h.alloc p (List.mem_of_mem_filter hp)
  · intro j x sj k hx hj hk
    rw [hent] at hx
    rw [stage_of hs hi] at hj
    split at hj
    · cases hj
      cases hk
    · have hold := h.current j x sj k hx hj hk
      rw [hlook]
      split
      · rename_i hxe
        subst hxe
        rw [hfind] at hold
        cases hold
        exact absurd hk (nobody j sj hj)
      · exact hold
  · intro x k hk
    obtain ⟨-, hk, hkm⟩ := kept x k hk
    rw [hmut, if_neg hkm, handles_keep hs hi rfl]
    exact h.strong x k hk
  · intro x k hk
    obtain ⟨hxe, hk, -⟩ := kept x k hk
    refine pending_restage hs hi hent ?_ (h.live x k hk)
    intro hx
    rw [he] at hx
    exact absurd (Option.some.inj hx).symm hxe

/-- Leaving the entry, when a call still has a handle on its mutex or it is gone. -/
theorem Sound.prune_keep (he : t.entities[i]? = some e) (hi : t.stages[i]? = some .unlocked)
    (hheld : ∀ k, t.lookup e = some k → 0 < t.handles k)
    (hs : t'.stages = t.stages.set i .returned) (hent : t'.entities = t.entities)
    (hentries : t'.entries = t.entries) (hnext : t'.next = t.next)
    (hmut : ∀ k, t'.mutexes k = t.mutexes k) : t'.Sound := by
  have hlook := lookup_of_entries hentries
  have hholder : ∀ k, (t'.mutexes k).holder = (t.mutexes k).holder := fun k => by rw [hmut]
  have hwaiters : ∀ k, (t'.mutexes k).waiters = (t.mutexes k).waiters := fun k => by rw [hmut]
  refine ⟨by rw [hs, List.length_set, hent]; exact h.length, hentries ▸ h.keys,
    hentries ▸ h.ptrs, by rw [hentries, hnext]; exact h.alloc,
    current_restage hs hi hent (fun x k hk => by rw [hlook]; exact hk) (fun _ _ _ hk => by cases hk)
      h.current, ?_, holder_restage hs hi hholder (by simp) (by simp) h.holder,
    line_restage hs hi hwaiters (by simp) (by simp) h.line,
    fun k => hwaiters k ▸ h.line_nodup k,
    fun k hk => by rw [hwaiters]; exact h.busy k (hholder k ▸ hk), ?_⟩
  · intro x k hk
    rw [hlook] at hk
    rw [hmut, handles_keep hs hi rfl]
    exact h.strong x k hk
  · intro x k hk
    rw [hlook] at hk
    by_cases hxe : x = e
    · -- the entry stays for a call that still has a handle on its mutex
      subst hxe
      obtain ⟨j, sj, hxj, hj, hm⟩ := h.pending_of_handles hk (hheld k hk)
      have hji : j ≠ i := by
        rintro rfl
        rw [hi] at hj
        cases hj
        cases hm
      exact ⟨j, sj, hent ▸ hxj, by rw [stage_of hs hi, if_neg hji]; exact hj, .inl hm⟩
    · refine pending_restage hs hi hent ?_ (h.live x k hk)
      intro hx
      rw [he] at hx
      exact absurd (Option.some.inj hx).symm hxe

theorem Sound.enter (he : t.entities[i]? = some e) (hi : t.stages[i]? = some .idle) :
    (t.enter i e).Sound := by
  unfold MutexTable.enter
  rcases hfind : t.lookup e with _ | m
  · exact h.enter_new he hi hfind rfl rfl rfl rfl fun _ => rfl
  · exact h.enter_found he hi hfind rfl rfl rfl rfl fun _ => rfl

theorem Sound.poll (hi : t.stages[i]? = some (.cloned m)) : (t.poll i m).Sound := by
  unfold MutexTable.poll
  dsimp only
  rcases hx : (t.mutexes m).holder with _ | j
  · exact h.poll_free hi hx rfl rfl rfl rfl fun _ => rfl
  · exact h.poll_held hi (by simp [hx]) rfl rfl rfl rfl fun _ => by simp [hx]

theorem Sound.unlock (hi : t.stages[i]? = some (.holding m)) : (t.unlock i m).Sound := by
  unfold MutexTable.unlock
  dsimp only
  rcases hx : (t.mutexes m).waiters with _ | ⟨w, ws⟩
  · exact h.unlock_free hi hx rfl rfl rfl rfl fun _ => rfl
  · exact h.unlock_handoff hi hx rfl rfl rfl rfl fun _ => rfl

theorem Sound.cancel (hi : t.stages[i]? = some (.queued m)) : (t.cancel i m).Sound :=
  h.leave_line hi rfl rfl rfl rfl fun _ => rfl

theorem Sound.prune (he : t.entities[i]? = some e) (hi : t.stages[i]? = some .unlocked) :
    (t.prune i e).Sound := by
  unfold MutexTable.prune
  rcases hfind : t.lookup e with _ | m
  · exact h.prune_keep he hi (fun k hk => by rw [hfind] at hk; cases hk) rfl rfl rfl rfl
      fun _ => rfl
  · dsimp only
    by_cases hone : (t.mutexes m).strong = 1
    · rw [if_pos hone]
      exact h.prune_drop he hi hfind hone rfl rfl rfl rfl fun _ => rfl
    · -- another call has a handle on the mutex, so the count is above one
      rw [if_neg hone]
      refine h.prune_keep he hi ?_ rfl rfl rfl rfl fun _ => rfl
      intro k hk
      rw [hfind] at hk
      cases hk
      have := h.strong e m hfind
      omega

/-- Every act keeps the table sound. -/
theorem Sound.step (a : LockAct) : (t.step a).Sound := by
  cases a with
  | advance i =>
    rcases hi : t.stages[i]? with _ | st
    · have he : t.entities[i]? = none := by
        rw [List.getElem?_eq_none_iff, ← h.length]
        exact List.getElem?_eq_none_iff.1 hi
      simpa [MutexTable.step, he, hi] using h
    · obtain ⟨e, he⟩ := h.entity_of_stage hi
      cases st with
      | idle => simpa [MutexTable.step, he, hi] using h.enter he hi
      | cloned m => simpa [MutexTable.step, he, hi] using h.poll hi
      | queued m => simpa [MutexTable.step, he, hi] using h
      | holding m => simpa [MutexTable.step, he, hi] using h.unlock hi
      | unlocked => simpa [MutexTable.step, he, hi] using h.prune he hi
      | returned => simpa [MutexTable.step, he, hi] using h
  | abandon i =>
    rcases hi : t.stages[i]? with _ | st
    · simpa [MutexTable.step, hi] using h
    · cases st with
      | queued m => simpa [MutexTable.step, hi] using h.cancel hi
      | _ => simpa [MutexTable.step, hi] using h

end Acts

@[simp] theorem run_nil (t : MutexTable) : t.run [] = t := rfl

@[simp] theorem run_cons (t : MutexTable) (a : LockAct) (acts : List LockAct) :
    t.run (a :: acts) = (t.step a).run acts := rfl

theorem Sound.run (h : t.Sound) (acts : List LockAct) : (t.run acts).Sound := by
  induction acts generalizing t with
  | nil => exact h
  | cons a acts ih => exact ih (h.step a)

/-- The table is sound at every point of every schedule. -/
theorem sound_run (es : List String) (acts : List LockAct) : ((start es).run acts).Sound :=
  (sound_start es).run acts

/-! ### Each move, read off -/

theorem enter_stages (t : MutexTable) (i : Nat) (e : String) :
    (t.enter i e).stages = t.stages.set i (.cloned ((t.lookup e).getD t.next)) := by
  unfold MutexTable.enter
  rcases t.lookup e with _ | m <;> rfl

theorem enter_entities (t : MutexTable) (i : Nat) (e : String) :
    (t.enter i e).entities = t.entities := by
  unfold MutexTable.enter
  rcases t.lookup e with _ | m <;> rfl

theorem enter_lookup (t : MutexTable) (i : Nat) (e x : String) :
    (t.enter i e).lookup x = if x = e ∧ t.lookup e = none then some t.next else t.lookup x := by
  unfold MutexTable.enter
  rcases hfind : t.lookup e with _ | m
  · dsimp only
    rw [lookup_setStage, lookup_setMutex, lookup_append hfind rfl x]
    simp
  · simp

/-- A new mutex starts with no holder and no line, as the number it is made with had. -/
theorem Sound.enter_mutex (h : t.Sound) (i : Nat) (e : String) (k : Nat) :
    ((t.enter i e).mutexes k).holder = (t.mutexes k).holder ∧
      ((t.enter i e).mutexes k).waiters = (t.mutexes k).waiters := by
  have fresh_holder : (t.mutexes t.next).holder = none := by
    rcases hk : (t.mutexes t.next).holder with _ | j
    · rfl
    · exact absurd rfl (h.handle_ne_next ((h.holder _ j).1 hk))
  unfold MutexTable.enter
  rcases t.lookup e with _ | m
  · by_cases hk : k = t.next
    · subst hk
      simp [fresh_holder, h.busy _ fresh_holder]
    · simp [hk]
  · by_cases hk : k = m
    · simp [hk]
    · simp [hk]

theorem poll_stages (t : MutexTable) (i m : Nat) :
    (t.poll i m).stages =
      t.stages.set i (if (t.mutexes m).holder.isNone then .holding m else .queued m) := by
  unfold MutexTable.poll
  dsimp only
  rcases (t.mutexes m).holder with _ | j <;> rfl

theorem poll_entities (t : MutexTable) (i m : Nat) : (t.poll i m).entities = t.entities := by
  unfold MutexTable.poll
  dsimp only
  rcases (t.mutexes m).holder with _ | j <;> rfl

theorem poll_lookup (t : MutexTable) (i m : Nat) (x : String) :
    (t.poll i m).lookup x = t.lookup x := by
  unfold MutexTable.poll
  dsimp only
  rcases (t.mutexes m).holder with _ | j <;> rfl

theorem poll_mutexes (t : MutexTable) (i m k : Nat) :
    (t.poll i m).mutexes k =
      if k = m then
        if (t.mutexes m).holder.isNone then { t.mutexes m with holder := some i }
        else { t.mutexes m with waiters := (t.mutexes m).waiters ++ [i] }
      else t.mutexes k := by
  unfold MutexTable.poll
  dsimp only
  rcases (t.mutexes m).holder with _ | j <;> simp

theorem unlock_of_nil (hw : (t.mutexes m).waiters = []) :
    t.unlock i m = (t.setMutex m ⟨(t.mutexes m).strong - 1, none, []⟩).setStage i .unlocked := by
  unfold MutexTable.unlock
  dsimp only
  rw [hw]

theorem unlock_of_cons (hw : (t.mutexes m).waiters = w :: ws) :
    t.unlock i m = ((t.setMutex m ⟨(t.mutexes m).strong - 1, some w, ws⟩).setStage w
      (.holding m)).setStage i .unlocked := by
  unfold MutexTable.unlock
  dsimp only
  rw [hw]

theorem prune_stages (t : MutexTable) (i : Nat) (e : String) :
    (t.prune i e).stages = t.stages.set i .returned := by
  unfold MutexTable.prune
  rcases t.lookup e with _ | m
  · rfl
  · dsimp only
    split <;> rfl

theorem prune_entities (t : MutexTable) (i : Nat) (e : String) :
    (t.prune i e).entities = t.entities := by
  unfold MutexTable.prune
  rcases t.lookup e with _ | m
  · rfl
  · dsimp only
    split <;> rfl

theorem prune_mutex (t : MutexTable) (i : Nat) (e : String) (k : Nat) :
    ((t.prune i e).mutexes k).holder = (t.mutexes k).holder ∧
      ((t.prune i e).mutexes k).waiters = (t.mutexes k).waiters := by
  unfold MutexTable.prune
  rcases t.lookup e with _ | m
  · exact ⟨rfl, rfl⟩
  · dsimp only
    split
    · by_cases hk : k = m <;> simp [hk]
    · exact ⟨rfl, rfl⟩

theorem prune_lookup (t : MutexTable) (i : Nat) (e x : String) :
    (t.prune i e).lookup x =
      if x = e ∧ ∃ m, t.lookup e = some m ∧ (t.mutexes m).strong = 1 then none else t.lookup x := by
  unfold MutexTable.prune
  rcases hfind : t.lookup e with _ | m
  · simp
  · dsimp only
    split
    · rename_i hone
      rw [lookup_setStage, lookup_setMutex, lookup_filter rfl x]
      by_cases hx : x = e <;> simp [hx, hone]
    · rename_i hone
      simp [hone]

/-! ### What the table says of the calls -/

section Calls

variable (h : t.Sound)
include h

/-- Of the calls on one entity, at most one holds a mutex. -/
theorem Sound.holding_unique {m' : Nat} (hi : t.entities[i]? = some x)
    (hj : t.entities[j]? = some x) (hsi : t.stages[i]? = some (.holding m))
    (hsj : t.stages[j]? = some (.holding m')) : i = j := by
  have hm := h.current i x _ m hi hsi rfl
  have hm' := h.current j x _ m' hj hsj rfl
  rw [hm] at hm'
  cases hm'
  have hhold := (h.holder m i).2 hsi
  rw [(h.holder m j).2 hsj] at hhold
  exact (Option.some.inj hhold).symm

/-- A call in line waits behind a call on its own entity that holds the mutex. -/
theorem Sound.queued_behind (hj : t.entities[j]? = some x)
    (hsj : t.stages[j]? = some (.queued m)) :
    ∃ i : Nat, t.entities[i]? = some x ∧ t.stages[i]? = some (.holding m) := by
  have hmem : j ∈ (t.mutexes m).waiters := (h.line m j).2 hsj
  obtain ⟨i, hhold⟩ : ∃ i, (t.mutexes m).holder = some i := by
    rcases hx : (t.mutexes m).holder with _ | i
    · rw [h.busy m hx] at hmem
      cases hmem
    · exact ⟨i, rfl⟩
  have hsi := (h.holder m i).1 hhold
  obtain ⟨y, hy⟩ := h.entity_of_stage hsi
  have same : y = x :=
    eq_of_lookup h.ptrs (h.current i y _ m hy hsi rfl) (h.current j x _ m hj hsj rfl)
  exact ⟨i, same ▸ hy, hsi⟩

/-- Once every call is idle or done with its lock, the table is empty. -/
theorem Sound.size_eq_zero (hdone : ∀ st ∈ t.stages, st = .idle ∨ st = .returned) :
    t.size = 0 := by
  unfold size
  rw [List.length_eq_zero_iff, List.eq_nil_iff_forall_not_mem]
  intro p hp
  -- an entry would need a call between asking for its lock and pruning
  obtain ⟨j, sj, -, hj, hw⟩ := h.live p.1 p.2 (lookup_of_mem h.keys hp)
  rcases hdone sj (List.mem_of_getElem? hj) with rfl | rfl <;> simp at hw

end Calls

end MutexTable

end FlowRegistry
