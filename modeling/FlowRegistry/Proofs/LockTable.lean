import Mathlib.Data.List.Nodup
import FlowRegistry.Revision.Locks

/-!
# The lock table, entry by entry

The lock table is read through `Locks.find?`, the entry of one entity. While the table holds one
entry per entity (`Locks.Keyed`), taking a free lock adds the entity's entry and leaves the others,
waiting for a held lock appends the task to the entity's waiters, and releasing a lock hands the
entry to its first waiter or drops it (`LockEntry.handoff`), each without touching the entries of
other entities. `Locks.passed` then names the waiter a released lock went to.
-/

namespace FlowRegistry

/-- The entry of a released lock: its first waiter holds it next, and with nobody waiting there
is none. -/
def LockEntry.handoff (en : LockEntry) : Option LockEntry :=
  match en.waiters with
  | [] => none
  | w :: ws => some ⟨en.entityId, w, ws⟩

theorem LockEntry.entityId_of_handoff {en en' : LockEntry} (h : en.handoff = some en') :
    en'.entityId = en.entityId := by
  unfold handoff at h
  split at h
  · cases h
  · cases h
    rfl

/-- A `filterMap` that keeps at most one element of a list without repeats. -/
theorem List.filterMap_eq_of_unique {α β : Type} {f : α → Option β} {xs : List α} {a : α}
    (hnd : xs.Nodup) (ha : a ∈ xs) (hu : ∀ x ∈ xs, (f x).isSome → x = a) :
    xs.filterMap f = (f a).toList := by
  induction xs with
  | nil => cases ha
  | cons y ys ih =>
    rw [List.nodup_cons] at hnd
    rw [List.filterMap_cons]
    by_cases hya : y = a
    · subst hya
      have rest : ys.filterMap f = [] := by
        rw [List.filterMap_eq_nil_iff]
        intro x hx
        by_contra hfx
        have hxy := hu x (List.mem_cons_of_mem _ hx) (Option.ne_none_iff_isSome.1 hfx)
        exact hnd.1 (hxy ▸ hx)
      rcases hfy : f y with _ | b <;> simp [rest]
    · have hfy : f y = none := by
        by_contra hne
        exact hya (hu y List.mem_cons_self (Option.ne_none_iff_isSome.1 hne))
      have ha' : a ∈ ys := (List.mem_cons.1 ha).resolve_left (Ne.symm hya)
      simp only [hfy]
      exact ih hnd.2 ha' fun x hx => hu x (List.mem_cons_of_mem _ hx)

namespace Locks

variable {l : Locks} {e x : String} {i : Nat} {en : LockEntry}

/-- The table holds one entry per entity. -/
def Keyed (l : Locks) : Prop := (l.entries.map (·.entityId)).Nodup

theorem release_eq (l : Locks) (e : String) :
    l.release e = ⟨l.entries.filterMap fun en => if en.entityId == e then en.handoff else some en⟩ :=
  rfl

theorem find?_entityId (h : l.find? e = some en) : en.entityId = e := by
  have found := List.find?_some h
  simpa using found

theorem mem_of_find? (h : l.find? e = some en) : en ∈ l.entries := List.mem_of_find?_eq_some h

theorem find?_isSome_of_mem (h : en ∈ l.entries) : (l.find? en.entityId).isSome := by
  unfold find?
  rw [List.find?_isSome]
  exact ⟨en, h, by simp⟩

theorem find?_of_mem (hk : l.Keyed) (h : en ∈ l.entries) : l.find? en.entityId = some en := by
  obtain ⟨en', hen'⟩ := Option.isSome_iff_exists.1 (find?_isSome_of_mem h)
  have hkey : en'.entityId = en.entityId := find?_entityId hen'
  have hmem : en' ∈ l.entries := mem_of_find? hen'
  have same : en' = en := List.inj_on_of_nodup_map hk hmem h hkey
  rw [hen', same]

theorem find?_eq_none_iff : l.find? e = none ↔ ∀ en ∈ l.entries, en.entityId ≠ e := by
  unfold find?
  simp

theorem holds_iff : l.holds e i = true ↔ ∃ en, l.find? e = some en ∧ en.holder = i := by
  unfold holds
  rcases l.find? e with _ | en <;> simp

/-! ### Taking, waiting for and releasing a lock -/

theorem acquire_of_none (h : l.find? e = none) :
    l.acquire e i = (true, ⟨l.entries ++ [⟨e, i, []⟩]⟩) := by
  simp [acquire, h]

theorem acquire_of_some (h : l.find? e = some en) :
    l.acquire e i = (false, ⟨l.entries.map fun x =>
      if x.entityId == e then { x with waiters := x.waiters ++ [i] } else x⟩) := by
  simp [acquire, h]

theorem find?_take (h : l.find? e = none) (x : String) :
    (⟨l.entries ++ [⟨e, i, []⟩]⟩ : Locks).find? x = if x = e then some ⟨e, i, []⟩ else l.find? x := by
  unfold find?
  rw [List.find?_append]
  by_cases hx : x = e
  · subst hx
    rw [show l.entries.find? (·.entityId == x) = none from h]
    simp
  · simp only [hx, if_false]
    rcases hfind : l.entries.find? (·.entityId == x) with _ | en'
    · simp [hfind, Ne.symm hx]
    · simp [hfind]

theorem keyed_take (hk : l.Keyed) (h : l.find? e = none) :
    (⟨l.entries ++ [⟨e, i, []⟩]⟩ : Locks).Keyed := by
  unfold Keyed at hk ⊢
  rw [List.map_append, List.nodup_append]
  refine ⟨hk, by simp, ?_⟩
  intro a ha b hb
  obtain ⟨en', hen', rfl⟩ := List.mem_map.1 ha
  simp only [List.map_cons, List.map_nil, List.mem_singleton] at hb
  subst hb
  exact find?_eq_none_iff.1 h en' hen'

/-- Changing the entry of one entity, and keeping its entity, changes what the table says of
that entity only. -/
theorem find?_modify (f : LockEntry → LockEntry) (hf : ∀ y, (f y).entityId = y.entityId)
    (h : l.find? e = some en) (x : String) :
    (⟨l.entries.map fun y => if y.entityId == e then f y else y⟩ : Locks).find? x =
      if x = e then some (f en) else l.find? x := by
  unfold find?
  rw [List.find?_map]
  have same_key : ((fun y : LockEntry => y.entityId == x) ∘ fun y =>
      if y.entityId == e then f y else y) = fun y => y.entityId == x := by
    funext y
    by_cases hy : y.entityId = e <;> simp [hy, hf]
  rw [same_key]
  by_cases hx : x = e
  · subst hx
    rw [show l.entries.find? (·.entityId == x) = some en from h]
    simp [find?_entityId h]
  · simp only [hx, if_false]
    rcases hfind : l.entries.find? (·.entityId == x) with _ | en'
    · simp [hfind]
    · have hkey : en'.entityId = x := find?_entityId hfind
      simp [hfind, hkey, hx]

theorem keyed_modify (f : LockEntry → LockEntry) (hf : ∀ y, (f y).entityId = y.entityId)
    (hk : l.Keyed) :
    (⟨l.entries.map fun y => if y.entityId == e then f y else y⟩ : Locks).Keyed := by
  unfold Keyed at hk ⊢
  rw [List.map_map]
  have same_key : ((·.entityId) ∘ fun y : LockEntry =>
      if y.entityId == e then f y else y) = (·.entityId) := by
    funext y
    by_cases hy : y.entityId = e <;> simp [hy, hf]
  rwa [same_key]

theorem find?_enqueue (h : l.find? e = some en) (x : String) :
    (⟨l.entries.map fun y => if y.entityId == e then { y with waiters := y.waiters ++ [i] } else y⟩
      : Locks).find? x =
      if x = e then some { en with waiters := en.waiters ++ [i] } else l.find? x :=
  find?_modify (fun y => { y with waiters := y.waiters ++ [i] }) (fun _ => rfl) h x

theorem keyed_enqueue (hk : l.Keyed) :
    (⟨l.entries.map fun y => if y.entityId == e then { y with waiters := y.waiters ++ [i] } else y⟩
      : Locks).Keyed :=
  keyed_modify (fun y => { y with waiters := y.waiters ++ [i] }) (fun _ => rfl) hk

/-- Releasing a lock just taken, with nobody waiting, leaves the table as it was. -/
theorem release_take (h : l.find? e = none) : (⟨l.entries ++ [⟨e, i, []⟩]⟩ : Locks).release e = l := by
  have others : ∀ en ∈ l.entries, en.entityId ≠ e := find?_eq_none_iff.1 h
  have kept : l.entries.filterMap (fun en => if en.entityId == e then en.handoff else some en) =
      l.entries.filterMap some := by
    apply List.filterMap_congr
    intro en hen
    simp [others en hen]
  rw [release_eq, List.filterMap_append, kept, List.filterMap_some]
  simp [LockEntry.handoff]

theorem find?_release (hk : l.Keyed) (x : String) :
    (l.release e).find? x = if x = e then (l.find? e).bind LockEntry.handoff else l.find? x := by
  rw [release_eq]
  unfold find? Keyed at *
  rcases l with ⟨entries⟩
  simp only at hk ⊢
  induction entries with
  | nil => by_cases hx : x = e <;> simp [hx]
  | cons y ys ih =>
    simp only [List.map_cons, List.nodup_cons, List.mem_map] at hk
    obtain ⟨hy, hys⟩ := hk
    have ih := ih hys
    simp only [List.filterMap_cons, List.find?_cons]
    by_cases hye : y.entityId = e
    · simp only [hye, beq_self_eq_true, if_true]
      have rest_none : ys.find? (·.entityId == e) = none := by
        rw [List.find?_eq_none]
        intro z hz hze
        exact hy ⟨z, hz, by simpa [hye] using hze⟩
      rcases hh : y.handoff with _ | y'
      · simp only [ih, rest_none]
        by_cases hx : x = e
        · simp [hx, hh]
        · have hb : (e == x) = false := by simp [Ne.symm hx]
          simp [hx, hb]
      · have hkey : y'.entityId = e := (LockEntry.entityId_of_handoff hh).trans hye
        simp only [List.find?_cons, hkey]
        by_cases hx : x = e
        · subst hx
          simp [hh]
        · have hb : (e == x) = false := by simp [Ne.symm hx]
          rw [hb]
          simpa [hx] using ih
    · have hb : (y.entityId == e) = false := by simpa using hye
      simp only [hb, Bool.false_eq_true, if_false, List.find?_cons]
      by_cases hyx : y.entityId = x
      · have hx : x ≠ e := fun h => hye (hyx.trans h)
        simp [hyx, hx]
      · have hbx : (y.entityId == x) = false := by simpa using hyx
        simp only [hbx]
        exact ih

/-- An entry that survives a release keeps its entity. -/
theorem entityId_of_release_step {e : String} {y b : LockEntry}
    (h : (if y.entityId == e then y.handoff else some y) = some b) : b.entityId = y.entityId := by
  by_cases hye : y.entityId = e
  · simp only [hye, beq_self_eq_true, if_true] at h
    exact LockEntry.entityId_of_handoff h
  · simp only [hye, beq_iff_eq, if_false, Option.some.injEq] at h
    rw [h]

theorem keyed_release (hk : l.Keyed) : (l.release e).Keyed := by
  rw [release_eq]
  unfold Keyed at *
  rcases l with ⟨entries⟩
  simp only at hk ⊢
  induction entries with
  | nil => simp
  | cons y ys ih =>
    simp only [List.map_cons, List.nodup_cons, List.mem_map] at hk
    obtain ⟨hy, hys⟩ := hk
    rw [List.filterMap_cons]
    rcases hstep : (if y.entityId == e then y.handoff else some y) with _ | b
    · exact ih hys
    · simp only [List.map_cons, List.nodup_cons, List.mem_map]
      refine ⟨?_, ih hys⟩
      rintro ⟨z, hz, hzb⟩
      obtain ⟨z', hz', hzz⟩ := List.mem_filterMap.1 hz
      exact hy ⟨z', hz', ((entityId_of_release_step hzz).symm.trans hzb).trans
        (entityId_of_release_step hstep)⟩

/-! ### Where a released lock went -/

/-- Between two tables in which every lock keeps its holder, no lock passed. -/
theorem passed_eq_nil_of_kept {l' : Locks}
    (h : ∀ en ∈ l.entries, ∃ en', l'.find? en.entityId = some en' ∧ en'.holder = en.holder) :
    passed l l' i = [] := by
  unfold passed
  rw [List.filterMap_eq_nil_iff]
  intro en hen
  obtain ⟨en', hfind, hh⟩ := h en hen
  by_cases hi : en.holder = i <;> simp [hi, hfind, hh]

theorem passed_self (hk : l.Keyed) : passed l l i = [] :=
  passed_eq_nil_of_kept fun en hen => ⟨en, find?_of_mem hk hen, rfl⟩

theorem passed_take (hk : l.Keyed) (h : l.find? e = none) (j : Nat) :
    passed l ⟨l.entries ++ [⟨e, j, []⟩]⟩ i = [] := by
  refine passed_eq_nil_of_kept fun en hen => ⟨en, ?_, rfl⟩
  have hne : en.entityId ≠ e := find?_eq_none_iff.1 h en hen
  rw [find?_take h, if_neg hne, find?_of_mem hk hen]

theorem passed_enqueue (hk : l.Keyed) (h : l.find? e = some en) (j : Nat) :
    passed l ⟨l.entries.map fun y =>
      if y.entityId == e then { y with waiters := y.waiters ++ [j] } else y⟩ i = [] := by
  refine passed_eq_nil_of_kept fun en' hen' => ?_
  rw [find?_enqueue h]
  by_cases hx : en'.entityId = e
  · -- the entry of `e` is `en`, and keeps its holder
    have same : en' = en := by
      have h' := find?_of_mem hk hen'
      rw [hx, h] at h'
      exact (Option.some.inj h').symm
    exact ⟨{ en with waiters := en.waiters ++ [j] }, by simp [hx], by simp [same]⟩
  · exact ⟨en', by rw [if_neg hx, find?_of_mem hk hen'], rfl⟩

/-- The lock a task held and released went to the first task waiting for it, if any. -/
theorem passed_release (hk : l.Keyed) (hfind : l.find? e = some en) (hhold : en.holder = i)
    (hwait : i ∉ en.waiters) (honly : ∀ en' ∈ l.entries, en'.holder = i → en'.entityId = e) :
    passed l (l.release e) i = en.waiters.take 1 := by
  have hmem : en ∈ l.entries := mem_of_find? hfind
  have hkey : en.entityId = e := find?_entityId hfind
  have only_en : ∀ en' ∈ l.entries, en'.holder = i → en' = en := by
    intro en' hen' hh
    have same_key : en'.entityId = en.entityId := (honly en' hen' hh).trans hkey.symm
    exact List.inj_on_of_nodup_map hk hen' hmem same_key
  have hnd : l.entries.Nodup := List.Nodup.of_map _ hk
  unfold passed
  rw [List.filterMap_eq_of_unique hnd hmem (fun en' hen' hsome => only_en en' hen' (by
    by_contra hh
    simp [hh] at hsome))]
  simp only [hhold, if_true, hkey, find?_release hk, Option.bind, hfind]
  unfold LockEntry.handoff
  rcases hw : en.waiters with _ | ⟨w, ws⟩
  · rfl
  · have hwi : w ≠ i := fun h => hwait (by rw [hw, h]; exact List.mem_cons_self)
    simp [hwi]

end Locks

end FlowRegistry
