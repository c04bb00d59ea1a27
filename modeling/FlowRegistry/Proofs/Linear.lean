import FlowRegistry.Proofs.Exclusion
import FlowRegistry.Proofs.Serial
import FlowRegistry.Revision.Race

/-!
# Races are linearizable

Under every schedule, a race of revision requests does what its requests do when made one at a
time, each entity's in the order its lock went to them (`Trace.revision_races_linearizable`). A
task that took a lock answers as its request made after the requests of the tasks that took a
lock before it; a task that took none answers as its request made after some first of them; and
the registry is, entity by entity, the one the finished tasks leave, made in that order.

The invariant `Trace.Linearized` says this of every point of a schedule, entity by entity: the
revision of an entity is the one its finished tasks leave (`Trace.doneOn`), replayed over its
revision (`Trace.replayed`), and a paused change passed its check on the revision its entity
still has. One step at a time it is `Trace.Linearized.resume`, by the moves of `Trace.Move`; the
lock table's invariant `Trace.Consistent` supplies who holds which lock.
-/

namespace List

variable {α : Type} {l a b js : List α} {x j : α} {p : α → Bool} {k : Nat}

/-- In a list without repetitions, an element ends at most one prefix. -/
theorem eq_of_prefix_concat (hnd : l.Nodup) (ha : a ++ [x] <+: l) (hb : b ++ [x] <+: l) : a = b := by
  have at_length : ∀ c : List α, c ++ [x] <+: l → l[c.length]? = some x := by
    intro c hc
    have htake := prefix_iff_eq_take.1 hc
    rw [length_append, length_singleton] at htake
    rw [← getElem?_take_of_lt (Nat.lt_succ_self c.length), ← htake]
    simp
  have hlt : a.length < l.length := by
    have := ha.length_le
    simp only [length_append, length_singleton] at this
    omega
  have hlen : a.length = b.length :=
    (getElem?_inj hlt hnd).1 ((at_length a ha).trans (at_length b hb).symm)
  rw [prefix_iff_eq_take.1 (prefix_append a [x] |>.trans ha),
    prefix_iff_eq_take.1 (prefix_append b [x] |>.trans hb), hlen]

/-- Of a list without repetitions, the elements a filter keeps before the `k`-th element, when
they and it begin what the filter keeps. -/
theorem filter_take_eq_of_prefix_concat (hnd : l.Nodup) (hk : l[k]? = some j)
    (h : js ++ [j] <+: l.filter p) : (l.take k).filter p = js := by
  have hpj : p j = true := (mem_filter.1 (h.subset (by simp))).2
  have hlt : k < l.length := (getElem?_eq_some_iff.1 hk).1
  have hsplit : l.filter p = (l.take k).filter p ++ [j] ++ (l.drop (k + 1)).filter p := by
    conv_lhs => rw [← take_append_drop k l, drop_eq_getElem_cons hlt]
    rw [(getElem?_eq_some_iff.1 hk).2]
    simp [filter_append, hpj]
  refine eq_of_prefix_concat (hnd.filter p) ?_ h
  rw [hsplit]
  exact prefix_append _ _

/-- What a filter keeps of a first part of a list is what it keeps of some first part. -/
theorem exists_filter_take_eq (h : js <+: l.filter p) :
    ∃ k ≤ l.length, (l.take k).filter p = js := by
  induction l generalizing js with
  | nil =>
    rw [filter_nil, prefix_nil] at h
    exact ⟨0, Nat.le_refl _, by simp [h]⟩
  | cons y l ih =>
    by_cases hy : p y
    · rw [filter_cons_of_pos hy] at h
      rcases js with _ | ⟨z, js⟩
      · exact ⟨0, Nat.zero_le _, rfl⟩
      · obtain ⟨rfl, h'⟩ := cons_prefix_cons.1 h
        obtain ⟨k, hk, hjs⟩ := ih h'
        exact ⟨k + 1, by simpa using hk, by simp [hy, hjs]⟩
    · rw [filter_cons_of_neg hy] at h
      obtain ⟨k, hk, hjs⟩ := ih h
      exact ⟨k + 1, by simpa using hk, by simp [hy, hjs]⟩

end List

namespace FlowRegistry

namespace Trace

/-! ### Replaying the finished tasks of an entity -/

/-- The tasks that took the lock of `e` and have finished, in the order the lock went to them. -/
def doneOn (r : Trace) (e : String) : List Nat := (r.grantedOn e).filter (r.isFinished ·)

/-- The revision of `e` after the requests of the tasks `js`, made one after another over it from
the revision `e` has in `w₀`. -/
def replayed (r : Trace) (w₀ : World) (e : String) (js : List Nat) : Option Revision :=
  Request.replay (js.filterMap (r.requests[·]?)) (w₀.revisions.get? e)

section Replay

variable {r r' : Trace} {w₀ : World} {i j : Nat} {e : String} {q : Request} {st : Stage}

theorem replayed_of_requests (hreq : r'.requests = r.requests) (js : List Nat) :
    r'.replayed w₀ e js = r.replayed w₀ e js := by
  simp only [replayed, hreq]

theorem replayed_concat (hq : r.requests[i]? = some q) (js : List Nat) :
    r.replayed w₀ e (js ++ [i]) = (runWith q.slot (r.replayed w₀ e js)).2 := by
  simp [replayed, List.filterMap_append, hq, Request.replay]

theorem doneOn_of_free (hfree : ∀ j, ¬ r.Holds j e) :
    r.doneOn e = r.grantedOn e := by
  unfold doneOn
  rw [List.filter_eq_self]
  intro j hj
  obtain ⟨hmem, hent⟩ := List.mem_filter.1 hj
  by_contra hfin
  exact hfree j ⟨hmem, by simpa using hent, by simpa using hfin⟩

theorem Consistent.grantedOn_of_holds (h : r.Consistent) (hj : r.Holds j e) :
    r.grantedOn e = r.doneOn e ++ [j] := by
  obtain ⟨hne, hlast⟩ := h.eq_getLast_of_holds hj
  have split := List.dropLast_concat_getLast hne
  rw [← hlast] at split
  have hdone : r.doneOn e = (r.grantedOn e).dropLast := by
    unfold doneOn
    conv_lhs => rw [← split]
    rw [List.filter_append, List.filter_eq_self.2 (fun k hk => by simpa using h.settled e k hk)]
    simp [hj.2.2]
  rw [hdone, split]

theorem Consistent.doneOn_prefix_grantedOn (h : r.Consistent) (e : String) : r.doneOn e <+: r.grantedOn e := by
  by_cases hheld : ∃ j, r.Holds j e
  · obtain ⟨j, hj⟩ := hheld
    rw [h.grantedOn_of_holds hj]
    exact List.prefix_append _ _
  · exact (doneOn_of_free (not_exists.1 hheld)) ▸ List.prefix_refl (r.grantedOn e)

theorem filter_isFinished_set (hs : r'.stages = r.stages.set i st) (hi : r.stages[i]?.isSome)
    {l : List Nat} (hsame : i ∈ l → st.isFinished = r.isFinished i) :
    l.filter (r'.isFinished ·) = l.filter (r.isFinished ·) := by
  apply List.filter_congr
  intro j hj
  rw [isFinished_set hs hi]
  split
  · rename_i hji
    subst hji
    rw [hsame hj]
  · rfl

/-- A move that finishes no task that took a lock, and passes locks only to tasks that have not
finished, leaves the finished tasks of every entity as they were. -/
theorem doneOn_keep (hreq : r'.requests = r.requests) (hs : r'.stages = r.stages.set i st)
    (hi : r.stages[i]?.isSome) {g : List Nat} (hg : r'.granted = r.granted ++ g)
    (hnew : ∀ j ∈ g, r'.isFinished j = false)
    (hsame : i ∈ r.granted → st.isFinished = r.isFinished i) (x : String) :
    r'.doneOn x = r.doneOn x := by
  have none_new : (g.filter fun j => r.entityOf j = some x).filter (r'.isFinished ·) = [] := by
    rw [List.filter_eq_nil_iff]
    intro j hj
    simp [hnew j (List.mem_of_mem_filter hj)]
  unfold doneOn
  rw [grantedOn_grants hreq hg, List.filter_append, none_new, List.append_nil]
  exact filter_isFinished_set hs hi fun him => hsame (List.mem_of_mem_filter him)

/-- A move that finishes task `i` on `e` and passes locks only to tasks on `e` leaves the
finished tasks of every other entity as they were. -/
theorem doneOn_other (hreq : r'.requests = r.requests) (hs : r'.stages = r.stages.set i st)
    (hi : r.stages[i]?.isSome) {g : List Nat} (hg : r'.granted = r.granted ++ g)
    (hent : r.entityOf i = some e) (hgon : ∀ j ∈ g, r.entityOf j = some e) {x : String}
    (hx : x ≠ e) : r'.doneOn x = r.doneOn x := by
  have none_on_x : g.filter (fun j => r.entityOf j = some x) = [] := by
    rw [List.filter_eq_nil_iff]
    intro j hj hjx
    exact hx (Option.some.inj ((of_decide_eq_true hjx).symm.trans (hgon j hj)))
  unfold doneOn
  rw [grantedOn_grants hreq hg, none_on_x, List.append_nil]
  refine filter_isFinished_set hs hi fun him => ?_
  exact absurd (Option.some.inj ((of_decide_eq_true (List.mem_filter.1 him).2).symm.trans hent)) hx

/-- The task `i` takes the free lock of `e` and finishes: it joins the finished tasks of `e`. -/
theorem doneOn_through (hreq : r'.requests = r.requests) {a : Outcome Reply}
    (hs : r'.stages = r.stages.set i (.finished a)) (hi : r.stages[i]?.isSome)
    (hg : r'.granted = r.granted ++ [i]) (hent : r.entityOf i = some e) (hng : i ∉ r.granted) :
    r'.doneOn e = r.doneOn e ++ [i] := by
  have hfin : r'.isFinished i = true := by
    simp [isFinished_set hs hi, Stage.isFinished]
  unfold doneOn
  rw [grantedOn_grants hreq hg, List.filter_append,
    filter_isFinished_set (l := r.grantedOn e) hs hi fun him =>
      absurd (List.mem_of_mem_filter him) hng]
  simp [hent, hfin]

/-- The holder of the lock of `e` finishes, and the lock passes only to tasks that have not
finished: the holder joins the finished tasks of `e`. -/
theorem Consistent.doneOn_release (h : r.Consistent) (hhold : r.Holds i e)
    (hreq : r'.requests = r.requests) {a : Outcome Reply}
    (hs : r'.stages = r.stages.set i (.finished a)) (hi : r.stages[i]?.isSome) {g : List Nat}
    (hg : r'.granted = r.granted ++ g) (hnew : ∀ j ∈ g, r'.isFinished j = false) :
    r'.doneOn e = r.doneOn e ++ [i] := by
  have hfin : r'.isFinished i = true := by
    simp [isFinished_set hs hi, Stage.isFinished]
  have hnot : i ∉ r.doneOn e := by
    intro him
    have := (List.mem_filter.1 him).2
    simp [hhold.2.2] at this
  have old : (r.doneOn e).filter (r'.isFinished ·) = r.doneOn e := by
    rw [filter_isFinished_set hs hi fun him => absurd him hnot]
    simp only [doneOn, List.filter_filter, Bool.and_self]
  have none_new : (g.filter fun j => r.entityOf j = some e).filter (r'.isFinished ·) = [] := by
    rw [List.filter_eq_nil_iff]
    intro j hj
    simp [hnew j (List.mem_of_mem_filter hj)]
  have split : r'.grantedOn e = r.doneOn e ++ [i] ++ g.filter fun j => r.entityOf j = some e := by
    rw [grantedOn_grants hreq hg, h.grantedOn_of_holds hhold]
  show (r'.grantedOn e).filter (r'.isFinished ·) = _
  rw [split, List.filter_append, List.filter_append, none_new, old]
  simp [hfin]

end Replay

/-! ### The invariant -/

/-- What holds of a race at every point of every schedule, from a registry `w₀` with no failure
planned: what the tasks did so far is what their requests do when made one at a time, on each
entity in the order its lock went to them. -/
structure Linearized (w₀ : World) (r : Trace) : Prop where
  /-- No failure is planned. -/
  quiet : r.shared.world.faults.Quiet
  /-- Every entity has the revision that the finished tasks on it leave, made in lock order. -/
  slot : ∀ e, r.shared.world.revisions.get? e = r.replayed w₀ e (r.doneOn e)
  /-- A paused change passed its check on the revision its entity still has. -/
  paused : ∀ (j : Nat) (c : Change) (cur : Option Revision), r.requests[j]? = some (.change c) →
    r.stages[j]? = some (.paused cur) →
    (runWith c.checkSlot (r.shared.world.revisions.get? c.entityId)).1 = .ok cur
  /-- A finished task that took a lock answered as its request made after the tasks that took
  the lock before it. -/
  locked : ∀ (j : Nat) (q : Request) (a : Outcome Reply), j ∈ r.granted →
    r.requests[j]? = some q → r.stages[j]? = some (.finished a) →
    ∃ js, js ++ [j] <+: r.grantedOn q.entityId ∧
      a = (runWith q.slot (r.replayed w₀ q.entityId js)).1
  /-- A finished task that took no lock answered as its request made after some of the first
  tasks to take the lock of its entity. -/
  unlocked : ∀ (j : Nat) (q : Request) (a : Outcome Reply), j ∉ r.granted →
    r.requests[j]? = some q →
    r.stages[j]? = some (.finished a) →
    ∃ js, js <+: r.grantedOn q.entityId ∧ a = (runWith q.slot (r.replayed w₀ q.entityId js)).1

theorem linearized_start (s : Shared) (rs : List Request) (hq : s.world.faults.Quiet) :
    (start s rs).Linearized s.world where
  quiet := hq
  slot := by simp [start, doneOn, grantedOn, replayed]
  paused := by
    intro j c cur _ hst
    simp only [start, List.map_const', List.getElem?_replicate] at hst
    split at hst <;> cases hst
  locked := by simp [start]
  unlocked := by
    intro j q a _ _ hst
    simp only [start, List.map_const', List.getElem?_replicate] at hst
    split at hst <;> cases hst

section Moves

variable {r r' : Trace} {w₀ : World} {i : Nat} {q : Request} {st : Stage}

/-- After a move of task `i` to the stage `st`, which passes locks only to `i` and to tasks that
have not finished, the invariant holds once it holds of the registry, the paused changes and
the answer of `i`: the answers of the other tasks are as they were. -/
theorem Linearized.after (hl : r.Linearized w₀) (hreq : r'.requests = r.requests)
    (hs : r'.stages = r.stages.set i st) (hi : r.stages[i]?.isSome) {g : List Nat}
    (hg : r'.granted = r.granted ++ g) (hnew : ∀ j ∈ g, j ≠ i → r'.isFinished j = false)
    (quiet : r'.shared.world.faults.Quiet)
    (slot : ∀ e, r'.shared.world.revisions.get? e = r.replayed w₀ e (r'.doneOn e))
    (paused : ∀ (j : Nat) (c : Change) (cur : Option Revision), r.requests[j]? = some (.change c) →
      r'.stages[j]? = some (.paused cur) →
      (runWith c.checkSlot (r'.shared.world.revisions.get? c.entityId)).1 = .ok cur)
    (locked : ∀ (q : Request) (a : Outcome Reply), i ∈ r'.granted → r.requests[i]? = some q → st = .finished a →
      ∃ js, js ++ [i] <+: r'.grantedOn q.entityId ∧
        a = (runWith q.slot (r.replayed w₀ q.entityId js)).1)
    (unlocked : ∀ (q : Request) (a : Outcome Reply), i ∉ r'.granted → r.requests[i]? = some q → st = .finished a →
      ∃ js, js <+: r'.grantedOn q.entityId ∧
        a = (runWith q.slot (r.replayed w₀ q.entityId js)).1) :
    r'.Linearized w₀ := by
  have grows : ∀ x, r.grantedOn x <+: r'.grantedOn x := fun x => by
    rw [grantedOn_grants hreq hg]
    exact List.prefix_append _ _
  refine ⟨quiet, fun e => by rw [slot, replayed_of_requests hreq],
    fun j c cur hc hst => paused j c cur (hreq ▸ hc) hst, ?_, ?_⟩
  · intro j q a hj hq hst
    rw [hreq] at hq
    rw [stage_set hs hi] at hst
    simp only [replayed_of_requests hreq]
    by_cases hji : j = i
    · subst hji
      simp only [if_true, Option.some.injEq] at hst
      exact locked q a hj hq hst
    · rw [if_neg hji] at hst
      have hjold : j ∈ r.granted := by
        rcases List.mem_append.1 (hg ▸ hj) with hm | hm
        · exact hm
        · have hfin := hnew j hm hji
          simp [isFinished, stage_set hs hi, hji, hst, Stage.isFinished] at hfin
      obtain ⟨js, hpre, ha⟩ := hl.locked j q a hjold hq hst
      exact ⟨js, hpre.trans (grows _), ha⟩
  · intro j q a hj hq hst
    rw [hreq] at hq
    rw [stage_set hs hi] at hst
    simp only [replayed_of_requests hreq]
    by_cases hji : j = i
    · subst hji
      simp only [if_true, Option.some.injEq] at hst
      exact unlocked q a hj hq hst
    · rw [if_neg hji] at hst
      obtain ⟨js, hpre, ha⟩ := hl.unlocked j q a (fun hm => hj (by simp [hg, hm])) hq hst
      exact ⟨js, hpre.trans (grows _), ha⟩

theorem grantedOn_prefix_of_grants (hreq : r'.requests = r.requests) {g : List Nat}
    (hg : r'.granted = r.granted ++ g) (x : String) : r.grantedOn x <+: r'.grantedOn x := by
  rw [grantedOn_grants hreq hg]
  exact List.prefix_append _ _

/-- A move that changes no revision, and finishes at most a task that takes no lock. -/
theorem Linearized.keep (hl : r.Linearized w₀) (h : r.Consistent) (hq : r.requests[i]? = some q)
    (hreq : r'.requests = r.requests) (hs : r'.stages = r.stages.set i st)
    (hi : r.stages[i]?.isSome) {g : List Nat} (hg : r'.granted = r.granted ++ g)
    (hgi : ∀ j ∈ g, j = i ∧ st.isFinished = false)
    (hsame : i ∈ r.granted → st.isFinished = r.isFinished i)
    (quiet : r'.shared.world.faults.Quiet)
    (hslots : ∀ x, r'.shared.world.revisions.get? x = r.shared.world.revisions.get? x)
    (hpaused : ∀ c cur, q = .change c → st = .paused cur →
      (runWith c.checkSlot (r.shared.world.revisions.get? c.entityId)).1 = .ok cur)
    (hanswer : ∀ a, st = .finished a →
      i ∉ r'.granted ∧ a = (runWith q.slot (r.shared.world.revisions.get? q.entityId)).1) :
    r'.Linearized w₀ := by
  have hnew : ∀ j ∈ g, r'.isFinished j = false := by
    intro j hj
    obtain ⟨rfl, hst⟩ := hgi j hj
    rw [isFinished_set hs hi, if_pos rfl, hst]
  refine hl.after hreq hs hi hg (fun j hj _ => hnew j hj) quiet ?_ ?_ ?_ ?_
  · intro x
    rw [hslots, hl.slot, doneOn_keep hreq hs hi hg hnew hsame]
  · intro j c cur hc hst
    rw [stage_set hs hi] at hst
    rw [hslots]
    by_cases hji : j = i
    · subst hji
      simp only [if_true, Option.some.injEq] at hst
      rw [hq] at hc
      exact hpaused c cur (Option.some.inj hc) hst
    · rw [if_neg hji] at hst
      exact hl.paused j c cur hc hst
  · intro q' a hgi hq' hst
    rw [hq] at hq'
    cases hq'
    exact absurd hgi (hanswer a hst).1
  · intro q' a _ hq' hst
    rw [hq] at hq'
    cases hq'
    refine ⟨r.doneOn q.entityId, (h.doneOn_prefix_grantedOn _).trans (grantedOn_prefix_of_grants hreq hg _), ?_⟩
    rw [(hanswer a hst).2, hl.slot]

/-- A move that finishes task `i`, which held or took the lock of its entity, with the answer and
the registry its request gives. -/
theorem Linearized.finish (hl : r.Linearized w₀) (hq : r.requests[i]? = some q)
    (hreq : r'.requests = r.requests) {a : Outcome Reply}
    (hs : r'.stages = r.stages.set i (.finished a)) (hi : r.stages[i]?.isSome) {g : List Nat}
    (hg : r'.granted = r.granted ++ g) (hnew : ∀ j ∈ g, j ≠ i → r'.isFinished j = false)
    (hmade : q.Made r.shared.world r'.shared.world a)
    (hdone : r'.doneOn q.entityId = r.doneOn q.entityId ++ [i])
    (hother : ∀ x, x ≠ q.entityId → r'.doneOn x = r.doneOn x)
    (hlast : r.doneOn q.entityId ++ [i] <+: r'.grantedOn q.entityId)
    (hpaused : ∀ (j : Nat) (c : Change) (cur : Option Revision), j ≠ i →
      r.requests[j]? = some (.change c) → r.stages[j]? = some (.paused cur) →
      c.entityId ≠ q.entityId) :
    r'.Linearized w₀ := by
  refine hl.after hreq hs hi hg hnew hmade.quiet ?_ ?_ ?_ ?_
  · intro x
    by_cases hx : x = q.entityId
    · subst hx
      rw [hmade.slot, hl.slot, hdone, replayed_concat hq]
    · rw [hmade.frame x hx, hl.slot, hother x hx]
  · intro j c cur hc hst
    rw [stage_set hs hi] at hst
    have hji : j ≠ i := by
      rintro rfl
      simp at hst
    rw [if_neg hji] at hst
    rw [hmade.frame _ (hpaused j c cur hji hc hst)]
    exact hl.paused j c cur hc hst
  · intro q' a' _ hq' hst
    rw [hq] at hq'
    cases hq'
    cases hst
    refine ⟨r.doneOn q.entityId, hlast, ?_⟩
    rw [hmade.answer, hl.slot]
  · intro q' a' hgi _ _
    exact absurd (List.mem_of_mem_filter (hlast.subset (by simp))) hgi

/-- A task takes the free lock of its entity and finishes. -/
theorem Linearized.through (hl : r.Linearized w₀) (h : r.Consistent) (hq : r.requests[i]? = some q)
    (hready : r.stages[i]? = some .ready) (hfree : r.shared.locks.find? q.entityId = none)
    (hreq : r'.requests = r.requests) {a : Outcome Reply}
    (hs : r'.stages = r.stages.set i (.finished a)) (hg : r'.granted = r.granted ++ [i])
    (hmade : q.Made r.shared.world r'.shared.world a) : r'.Linearized w₀ := by
  have hi : r.stages[i]?.isSome := by simp [hready]
  have hent : r.entityOf i = some q.entityId := entityOf_of_request hq
  have hng : i ∉ r.granted := (h.stages i .ready hready).1
  have hnone : ∀ j, ¬ r.Holds j q.entityId := (h.free _ hfree).1
  refine hl.finish hq hreq hs hi hg (by simp) hmade (doneOn_through hreq hs hi hg hent hng)
    (fun x hx => doneOn_other hreq hs hi hg hent (by simp [hent]) hx) ?_ ?_
  · rw [grantedOn_grants hreq hg, doneOn_of_free hnone]
    simp [hent]
  · intro j c cur _ hc hst he
    exact hnone j (he ▸ h.holds_of_paused_change hc hst)

/-- The holder of a lock finishes and releases it. -/
theorem Linearized.release (hl : r.Linearized w₀) (h : r.Consistent) (hq : r.requests[i]? = some q)
    (hhold : r.Holds i q.entityId) (hreq : r'.requests = r.requests) {a : Outcome Reply}
    (hs : r'.stages = r.stages.set i (.finished a))
    (hg : r'.granted = r.granted ++
      Locks.passed r.shared.locks (r.shared.locks.release q.entityId) i)
    (hmade : q.Made r.shared.world r'.shared.world a) : r'.Linearized w₀ := by
  have hi : r.stages[i]?.isSome := by
    obtain ⟨st, hst⟩ := h.stage_of_request hq
    simp [hst]
  have hent : r.entityOf i = some q.entityId := entityOf_of_request hq
  rw [h.passed_release hhold] at hg
  have hwait : ∀ j ∈ (r.waitersOf q.entityId).take 1,
      r.entityOf j = some q.entityId ∧ r'.isFinished j = false := by
    intro j hj
    obtain ⟨hw, he, hng⟩ := mem_waitersOf.1 (List.take_subset _ _ hj)
    have hji : j ≠ i := fun hji => hng (hji ▸ hhold.1)
    rw [isFinished_set hs hi, if_neg hji]
    exact ⟨he, h.isFinished_of_waits hw hng⟩
  refine hl.finish hq hreq hs hi hg (fun j hj _ => (hwait j hj).2) hmade
    (h.doneOn_release hhold hreq hs hi hg fun j hj => (hwait j hj).2)
    (fun x hx => doneOn_other hreq hs hi hg hent (fun j hj => (hwait j hj).1) hx) ?_ ?_
  · rw [grantedOn_grants hreq hg, h.grantedOn_of_holds hhold]
    exact List.prefix_append _ _
  · intro j c cur hji hc hst he
    exact hji (h.holds_unique (he ▸ h.holds_of_paused_change hc hst) hhold)

/-- Resuming any task keeps the invariant. -/
theorem Linearized.resume (hl : r.Linearized w₀) (h : r.Consistent) (i : Nat) :
    (r.resume i).Linearized w₀ := by
  rcases hq : r.requests[i]? with _ | q
  · have same : r.resume i = r := by simp [Trace.resume, hq]
    rw [same]
    exact hl
  have hi : r.stages[i]?.isSome := by
    obtain ⟨st, hst⟩ := h.stage_of_request hq
    simp [hst]
  have hm := h.move hq
  generalize r.resume i = r' at hm
  cases hm with
  | idle => exact hl
  | alone hlk hnot =>
    have hng := (h.not_logged hq hlk).1
    refine hl.keep h hq rfl rfl hi (g := []) (by simp) (by simp) (fun hg => absurd hg hng)
      (Request.made_call q hl.quiet).quiet (Request.get?_call_of_locks hlk hl.quiet)
      (fun _ _ _ hst => by cases hst) ?_
    intro a hst
    cases hst
    exact ⟨hng, (Request.made_call q hl.quiet).answer⟩
  | through hlk hready hfree =>
    exact hl.through h hq hready hfree rfl rfl rfl (Request.made_call q hl.quiet)
  | pauses c cur hqc hlk hready hfree hcheck =>
    subst hqc
    refine hl.keep h hq rfl rfl hi (g := [i]) rfl ?_ (fun hg => absurd hg (h.stages i _ hready).1)
      (c.refines_check.quiet _ hl.quiet) (c.get?_check hl.quiet) ?_ (fun _ hst => by cases hst)
    · simp [Stage.isFinished]
    · intro c' cur' hc hst
      cases hc
      cases hst
      rw [← c.refines_check.outcome _ hl.quiet, hcheck]
  | waits en hlk hready hheld =>
    exact hl.keep h hq rfl rfl hi (g := []) (by simp) (by simp)
      (fun hg => absurd hg (h.stages i _ hready).1) hl.quiet (fun _ => rfl) (fun _ _ _ hst => by cases hst)
      (fun _ hst => by cases hst)
  | resumes c cur hqc hqueued hholds hcheck =>
    subst hqc
    refine hl.keep h hq rfl rfl hi (g := []) (by simp) (by simp) ?_ (c.refines_check.quiet _ hl.quiet)
      (c.get?_check hl.quiet) ?_ (fun _ hst => by cases hst)
    · intro _
      simp [isFinished, hqueued, Stage.isFinished]
    · intro c' cur' hc hst
      cases hc
      cases hst
      rw [← c.refines_check.outcome _ hl.quiet, hcheck]
  | ends hqueued hholds =>
    exact hl.release h hq (h.holds_of_holder hholds) rfl rfl rfl (Request.made_call q hl.quiet)
  | concludes c cur hqc hst =>
    subst hqc
    have hhold := h.holds_of_paused_change hq hst
    have hpre := precheck_of_locks (by
      obtain ⟨q', hq', hlk⟩ := h.locks i (.inl hhold.1)
      rw [hq] at hq'
      cases hq'
      exact hlk)
    exact hl.release h hq hhold rfl rfl rfl
      (Change.made_conclusion hl.quiet hpre (hl.paused i c cur hq hst))

/-- Every schedule keeps the invariant. -/
theorem Linearized.follow (hl : r.Linearized w₀) (h : r.Consistent) (sched : List Nat) :
    (r.follow sched).Linearized w₀ := by
  induction sched generalizing r with
  | nil => exact hl
  | cons i sched ih => exact ih (hl.resume h i) (h.resume i)

end Moves

/-! ### Every schedule -/

section Schedules

variable {r : Trace} {w : World} {k j : Nat} {q : Request} {a : Outcome Reply}

/-- From a race started with no lock held and no failure planned, every schedule keeps the
invariant. -/
theorem linearized_follow (w : World) (hw : w.faults.Quiet) (rs : List Request)
    (sched : List Nat) : ((start ⟨w, Locks.empty⟩ rs).follow sched).Linearized w :=
  (linearized_start ⟨w, Locks.empty⟩ rs hw).follow (consistent_start ⟨w, Locks.empty⟩ rs rfl) sched

@[simp] theorem follow_requests (r : Trace) (sched : List Nat) :
    (r.follow sched).requests = r.requests := by
  induction sched generalizing r with
  | nil => rfl
  | cons i sched ih => rw [follow_cons, ih, resume_requests]

/-- Made one at a time, the requests of the tasks `js` leave `e` with the revision that those of
them on `e` leave it. -/
theorem get?_serial_filterMap (r : Trace) (hw : w.faults.Quiet) (js : List Nat) (e : String) :
    (Request.serial (js.filterMap (r.requests[·]?)) w).revisions.get? e =
      r.replayed w e (js.filter (r.entityOf · = some e)) := by
  have on_e : ∀ o : Option Request, Option.filter (fun q => decide (q.entityId = e)) o =
      if decide (Option.map Request.entityId o = some e) = true then o else none := by
    intro o
    cases o <;> simp [Option.filter]
  rw [Request.get?_serial _ hw, replayed, List.filter_filterMap, List.filterMap_filter]
  congr 1
  apply List.filterMap_congr
  intro j _
  exact on_e _

theorem runWith_call_serial_filterMap (r : Trace) (hw : w.faults.Quiet) (js : List Nat)
    (q : Request) :
    (runWith q.call (Request.serial (js.filterMap (r.requests[·]?)) w)).1 =
      (runWith q.slot (r.replayed w q.entityId (js.filter (r.entityOf · = some q.entityId)))).1 := by
  rw [q.refines_call.outcome _ (Request.quiet_serial _ hw), get?_serial_filterMap r hw]

/-- A finished task that took a lock answered as its request made after the requests of the
tasks that took a lock before it, made one at a time in that order. -/
theorem Linearized.answer_of_granted (hl : r.Linearized w) (h : r.Consistent)
    (hw : w.faults.Quiet) (hk : r.granted[k]? = some j) (hj : r.requests[j]? = some q)
    (hst : r.stages[j]? = some (.finished a)) :
    a = (runWith q.call (Request.serial ((r.granted.take k).filterMap (r.requests[·]?)) w)).1 := by
  obtain ⟨js, hpre, ha⟩ := hl.locked j q a (List.mem_of_getElem? hk) hj hst
  rw [ha, runWith_call_serial_filterMap r hw, List.filter_take_eq_of_prefix_concat h.granted_nodup hk hpre]

/-- A finished task that took no lock answered as its request made after the requests of some
first tasks to take a lock. -/
theorem Linearized.answer_of_unlocked (hl : r.Linearized w) (h : r.Consistent)
    (hw : w.faults.Quiet) (hj : r.requests[j]? = some q) (hlk : q.locks = false)
    (hst : r.stages[j]? = some (.finished a)) :
    ∃ k ≤ r.granted.length,
      a = (runWith q.call (Request.serial ((r.granted.take k).filterMap (r.requests[·]?)) w)).1 := by
  obtain ⟨js, hpre, ha⟩ := hl.unlocked j q a (h.not_logged hj hlk).1 hj hst
  obtain ⟨k, hk, hjs⟩ := List.exists_filter_take_eq hpre
  exact ⟨k, hk, by rw [ha, runWith_call_serial_filterMap r hw, hjs]⟩

/-- The registry holds, entity by entity, what the requests of the finished tasks that took a
lock leave, made one at a time in the order they took it. -/
theorem Linearized.get?_eq_serial (hl : r.Linearized w) (hw : w.faults.Quiet) (e : String) :
    r.shared.world.revisions.get? e =
      (Request.serial ((r.granted.filter (r.isFinished ·)).filterMap (r.requests[·]?)) w).revisions.get? e := by
  rw [hl.slot, get?_serial_filterMap r hw, doneOn, grantedOn, List.filter_filter, List.filter_filter]
  congr 1
  apply List.filter_congr
  intro j _
  exact Bool.and_comm _ _

/-- A finished task took a lock exactly when its request takes one. -/
theorem Consistent.mem_granted_iff (h : r.Consistent) (hj : r.requests[j]? = some q)
    (hst : r.stages[j]? = some (.finished a)) : j ∈ r.granted ↔ q.locks = true := by
  constructor
  · intro hg
    obtain ⟨q', hq', hlk⟩ := h.locks j (.inl hg)
    rw [hj] at hq'
    cases hq'
    exact hlk
  · exact h.stages j _ hst q hj

/-- Once every task has finished, every request has its answer. -/
theorem Consistent.finished_of_done (h : r.Consistent)
    (hdone : ∀ st ∈ r.stages, st.isFinished = true) (hq : r.requests[j]? = some q) :
    ∃ a, r.stages[j]? = some (.finished a) := by
  obtain ⟨st, hst⟩ := h.stage_of_request hq
  have hfin := hdone st (List.mem_of_getElem? hst)
  cases st with
  | finished a => exact ⟨a, hst⟩
  | _ => simp [Stage.isFinished] at hfin

/-- Once every task has finished, so has every task that took a lock. -/
theorem Consistent.filter_isFinished_granted (h : r.Consistent)
    (hdone : ∀ st ∈ r.stages, st.isFinished = true) :
    r.granted.filter (r.isFinished ·) = r.granted := by
  rw [List.filter_eq_self]
  intro j hj
  obtain ⟨q', hq', -⟩ := h.locks j (.inl hj)
  obtain ⟨a, hst⟩ := h.finished_of_done hdone hq'
  simp [isFinished, hst, Stage.isFinished]

/-! ### Updates that claim one version -/

/-- Of racing updates that all claim the version `v` of an entity's revision, below the largest,
and whose changes succeed, once every task has finished: the first to take the lock moved the
revision to `v + 1` for its client, and every other was refused as stale. -/
theorem Linearized.single_winner (hl : r.Linearized w) (h : r.Consistent) (hw : w.faults.Quiet)
    {e : String} {v : Nat} (hrs : ∀ q ∈ r.requests, q.ClaimsUpdate e v) (hne : r.requests ≠ [])
    {cur : Revision} (hcur : w.revisions.get? e = some cur) (hv : cur.version = v)
    (hmax : v < maxRevisionVersion) (hdone : ∀ st ∈ r.stages, st.isFinished = true) :
    ∃ j c, r.requests[j]? = some (.change c) ∧
      r.stages[j]? = some (.finished (.ok (.changed (some ⟨e, v + 1, c.claimed.clientId⟩) 1))) ∧
      r.shared.world.revisions.get? e = some ⟨e, v + 1, c.claimed.clientId⟩ ∧
      ∀ j', j' < r.requests.length → j' ≠ j →
        r.stages[j']? = some (.finished (.error (.staleRevision e v (v + 1)))) := by
  have hcid : cur.entityId = e := RevisionTable.get?_entityId hcur
  have granted : ∀ (j : Nat) (q : Request), r.requests[j]? = some q → j ∈ r.granted := by
    intro j q hq
    obtain ⟨a, hst⟩ := h.finished_of_done hdone hq
    exact (h.mem_granted_iff hq hst).2 (hrs q (List.mem_of_getElem? hq)).locks
  -- every task answered as its request made on what the tasks before it in lock order left
  have answer : ∀ (k j : Nat) (q : Request) (a : Outcome Reply), r.granted[k]? = some j →
      r.requests[j]? = some q →
      r.stages[j]? = some (.finished a) →
      a = (runWith q.slot (Request.replay
        (((r.granted.take k).filterMap (r.requests[·]?)).filter (·.entityId = e)) (some cur))).1 := by
    intro k j q a hk hq hst
    have he := (hrs q (List.mem_of_getElem? hq)).entityId
    rw [hl.answer_of_granted h hw hk hq hst, Request.runWith_call_serial _ _ hw, he, hcur]
  obtain ⟨q₀, hq₀⟩ : ∃ q, r.requests[0]? = some q := by
    rcases hreq : r.requests with _ | ⟨q, _⟩
    · exact absurd hreq hne
    · exact ⟨q, rfl⟩
  obtain ⟨j₀, rest, hg⟩ := List.exists_cons_of_ne_nil (List.ne_nil_of_mem (granted 0 q₀ hq₀))
  obtain ⟨q, hq, -⟩ := h.locks j₀ (.inl (by simp [hg]))
  obtain ⟨c, rfl⟩ := (hrs q (List.mem_of_getElem? hq)).exists_change
  have hclaim := hrs _ (List.mem_of_getElem? hq)
  have after : ∀ k, 0 < k → Request.replay
      (((r.granted.take k).filterMap (r.requests[·]?)).filter (·.entityId = e)) (some cur) =
        some ⟨e, v + 1, c.claimed.clientId⟩ := by
    intro k hk
    obtain ⟨k', rfl⟩ : ∃ k', k = k' + 1 := ⟨k - 1, by omega⟩
    have claims : ∀ q ∈ (r.granted.take (k' + 1)).filterMap (r.requests[·]?),
        q.ClaimsUpdate e v := by
      intro q' hq'
      obtain ⟨j, -, hj⟩ := List.mem_filterMap.1 hq'
      exact hrs q' (List.mem_of_getElem? hj)
    rw [List.filter_eq_self.2 fun q' hq' => by simp [(claims q' hq').entityId]]
    rw [hg, List.take_succ_cons, List.filterMap_cons, hq] at claims ⊢
    exact Request.replay_claimsUpdate hclaim (fun q' hq' => claims q' (by simp [hq'])) hcid hv hmax
  refine ⟨j₀, c, hq, ?_, ?_, ?_⟩
  · obtain ⟨a, hst⟩ := h.finished_of_done hdone hq
    rw [hst, answer 0 j₀ _ a (by simp [hg]) hq hst, List.take_zero]
    simp [Request.slot_of_claimsUpdate hclaim hcid hv hmax]
  · rw [hl.get?_eq_serial hw, h.filter_isFinished_granted hdone, Request.get?_serial _ hw, hcur,
      ← List.take_length (l := r.granted)]
    exact after _ (by simp [hg])
  · intro j' hj' hne'
    obtain ⟨q', hq'⟩ : ∃ q', r.requests[j']? = some q' := ⟨_, List.getElem?_eq_getElem hj'⟩
    obtain ⟨k, hk⟩ := List.mem_iff_getElem?.1 (granted j' q' hq')
    have hk0 : 0 < k := by
      rcases Nat.eq_zero_or_pos k with rfl | hpos
      · simp [hg] at hk
        exact absurd hk.symm hne'
      · exact hpos
    obtain ⟨a, hst⟩ := h.finished_of_done hdone hq'
    obtain ⟨c', rfl⟩ := (hrs q' (List.mem_of_getElem? hq')).exists_change
    rw [hst, answer k j' _ a hk hq' hst, after k hk0,
      Request.slot_of_claimsUpdate_stale (hrs _ (List.mem_of_getElem? hq')) (by simp)]

end Schedules

/-! ### Races are linearizable -/

/-- Requests of the revision manager raced under any schedule, from a registry with no failure
planned and no lock held, do what they do made one at a time, in the order their tasks took the
locks of their entities:

* a finished task that took a lock answered as its request made after the requests of the tasks
  that took a lock before it, and a finished task that took none as its request made after some
  first of them; a finished task took a lock exactly when its request takes one;
* at every point the registry holds, entity by entity, what the requests of the finished tasks
  that took a lock leave, made in that order, and once every task has finished, what all of them
  leave;
* how requests on different entities are ordered does not matter;
* of updates that all claim the version `v` of an entity's revision, below the largest, and whose
  changes succeed, once all have finished, exactly one moved the revision to `v + 1` for its
  client, and every other was refused as stale. -/
theorem revision_races_linearizable (w : World) (hw : w.faults.Quiet) (rs : List Request)
    (sched : List Nat) :
    let r := (start ⟨w, Locks.empty⟩ rs).follow sched
    (∀ (k j : Nat) (q : Request) (a : Outcome Reply), r.granted[k]? = some j → rs[j]? = some q →
      r.stages[j]? = some (.finished a) →
      a = (runWith q.call (Request.serial ((r.granted.take k).filterMap (rs[·]?)) w)).1) ∧
    (∀ (j : Nat) (q : Request) (a : Outcome Reply), rs[j]? = some q → q.locks = false →
      r.stages[j]? = some (.finished a) →
      ∃ k ≤ r.granted.length,
        a = (runWith q.call (Request.serial ((r.granted.take k).filterMap (rs[·]?)) w)).1) ∧
    (∀ (j : Nat) (q : Request) (a : Outcome Reply), rs[j]? = some q →
      r.stages[j]? = some (.finished a) → (j ∈ r.granted ↔ q.locks = true)) ∧
    (∀ e : String, r.shared.world.revisions.get? e = (Request.serial
      ((r.granted.filter (r.isFinished ·)).filterMap (rs[·]?)) w).revisions.get? e) ∧
    ((∀ st ∈ r.stages, st.isFinished = true) → ∀ e : String, r.shared.world.revisions.get? e =
      (Request.serial (r.granted.filterMap (rs[·]?)) w).revisions.get? e) ∧
    (∀ qs qs' : List Request, (∀ e, qs.filter (·.entityId = e) = qs'.filter (·.entityId = e)) →
      ∀ e : String, (Request.serial qs w).revisions.get? e = (Request.serial qs' w).revisions.get? e) ∧
    (∀ (e : String) (v : Nat) (cur : Revision), w.revisions.get? e = some cur → cur.version = v →
      v < maxRevisionVersion → rs ≠ [] → (∀ q ∈ rs, q.ClaimsUpdate e v) →
      (∀ st ∈ r.stages, st.isFinished = true) →
      ∃ j c, rs[j]? = some (.change c) ∧
        r.stages[j]? = some (.finished (.ok (.changed (some ⟨e, v + 1, c.claimed.clientId⟩) 1))) ∧
        r.shared.world.revisions.get? e = some ⟨e, v + 1, c.claimed.clientId⟩ ∧
        ∀ j', j' < rs.length → j' ≠ j →
          r.stages[j']? = some (.finished (.error (.staleRevision e v (v + 1))))) := by
  intro r
  have hl : r.Linearized w := linearized_follow w hw rs sched
  have h : r.Consistent := consistent_follow _ rs rfl sched
  have hreq : r.requests = rs := by simp [r, start]
  rw [← hreq]
  refine ⟨fun k j q a hk hj hst => hl.answer_of_granted h hw hk hj hst,
    fun j q a hj hlk hst => hl.answer_of_unlocked h hw hj hlk hst,
    fun j q a hj hst => h.mem_granted_iff hj hst, hl.get?_eq_serial hw, ?_,
    fun qs qs' hsame e => Request.get?_serial_congr hw hsame e, ?_⟩
  · intro hdone e
    rw [hl.get?_eq_serial hw, h.filter_isFinished_granted hdone]
  · intro e v cur hcur hv hmax hne hrs hdone
    exact hl.single_winner h hw hrs hne hcur hv hmax hdone

/-- Two clients update an entity stored at version 0, both claiming it, the first pausing in its
change: the second is resumed while the first holds the lock and waits for it, and both finish, so
every hypothesis of the single-winner part holds. -/
theorem revision_races_linearizable_two_updates :
    let w := (runWith (World.createRevision ⟨"e", 0, "c"⟩) (World.fresh default ⟨0, 0, 0⟩)).2
    let rs := [Request.change ⟨.update, "e", ⟨"e", 0, "c1"⟩, none, true⟩,
      Request.change ⟨.update, "e", ⟨"e", 0, "c2"⟩, none, false⟩]
    let sched := [0, 1, 0, 1]
    let r := (start ⟨w, Locks.empty⟩ rs).follow sched
    w.faults.Quiet ∧ w.revisions.get? "e" = some ⟨"e", 0, "c"⟩ ∧ (∀ q ∈ rs, q.ClaimsUpdate "e" 0) ∧
    (∀ st ∈ r.stages, st.isFinished = true) ∧
    (∀ (k j : Nat) (q : Request) (a : Outcome Reply), r.granted[k]? = some j → rs[j]? = some q →
      r.stages[j]? = some (.finished a) →
      a = (runWith q.call (Request.serial ((r.granted.take k).filterMap (rs[·]?)) w)).1) ∧
    (∀ (j : Nat) (q : Request) (a : Outcome Reply), rs[j]? = some q → q.locks = false →
      r.stages[j]? = some (.finished a) →
      ∃ k ≤ r.granted.length,
        a = (runWith q.call (Request.serial ((r.granted.take k).filterMap (rs[·]?)) w)).1) ∧
    (∀ (j : Nat) (q : Request) (a : Outcome Reply), rs[j]? = some q →
      r.stages[j]? = some (.finished a) → (j ∈ r.granted ↔ q.locks = true)) ∧
    (∀ e : String, r.shared.world.revisions.get? e = (Request.serial
      ((r.granted.filter (r.isFinished ·)).filterMap (rs[·]?)) w).revisions.get? e) ∧
    ((∀ st ∈ r.stages, st.isFinished = true) → ∀ e : String, r.shared.world.revisions.get? e =
      (Request.serial (r.granted.filterMap (rs[·]?)) w).revisions.get? e) ∧
    (∀ qs qs' : List Request, (∀ e, qs.filter (·.entityId = e) = qs'.filter (·.entityId = e)) →
      ∀ e : String, (Request.serial qs w).revisions.get? e = (Request.serial qs' w).revisions.get? e) ∧
    (∀ (e : String) (v : Nat) (cur : Revision), w.revisions.get? e = some cur → cur.version = v →
      v < maxRevisionVersion → rs ≠ [] → (∀ q ∈ rs, q.ClaimsUpdate e v) →
      (∀ st ∈ r.stages, st.isFinished = true) →
      ∃ j c, rs[j]? = some (.change c) ∧
        r.stages[j]? = some (.finished (.ok (.changed (some ⟨e, v + 1, c.claimed.clientId⟩) 1))) ∧
        r.shared.world.revisions.get? e = some ⟨e, v + 1, c.claimed.clientId⟩ ∧
        ∀ j', j' < rs.length → j' ≠ j →
          r.stages[j']? = some (.finished (.error (.staleRevision e v (v + 1))))) :=
  ⟨FaultPlan.quiet_empty, by decide, by simp [Request.ClaimsUpdate], by decide,
    revision_races_linearizable _ FaultPlan.quiet_empty _ _⟩

/-- At the largest version a revision can have, an update whose claim matches it has no version
to move to: raced alone, it ends the race with an overflow instead of succeeding. -/
theorem race_update_at_largest_version_overflows :
    let w := (runWith (World.createRevision ⟨"e", maxRevisionVersion, "c"⟩)
      (World.fresh default ⟨0, 0, 0⟩)).2
    (Race.run ⟨w, Locks.empty⟩
      [.change ⟨.update, "e", ⟨"e", maxRevisionVersion, "c1"⟩, none, false⟩]).1 = .error .overflow := by
  decide

end Trace

end FlowRegistry
