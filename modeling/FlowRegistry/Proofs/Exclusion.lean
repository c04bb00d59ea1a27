import FlowRegistry.Proofs.Schedule

/-!
# Entity locks under any schedule

The lock table says exactly who holds and who waits for each entity's lock (`Trace.Consistent`):
one holder, the waiters in the order they began to wait, and no entry for an entity nobody holds
or waits for. `Trace.consistent_follow` carries this along every schedule, one move at a time.
-/

namespace FlowRegistry

/-- Whether a stage is finished. -/
def Stage.isFinished : Stage → Bool
  | .finished _ => true
  | _ => false

namespace Trace

/-- The entity of the task at position `j`. -/
def entityOf (r : Trace) (j : Nat) : Option String := r.requests[j]?.map Request.entityId

/-- Whether the task at position `j` has finished. -/
def isFinished (r : Trace) (j : Nat) : Bool :=
  match r.stages[j]? with
  | some st => st.isFinished
  | none => false

/-- The task at position `j` holds the lock of `e`: the lock went to it, and it has not
finished. -/
def Holds (r : Trace) (j : Nat) (e : String) : Prop :=
  j ∈ r.granted ∧ r.entityOf j = some e ∧ r.isFinished j = false

/-- The task at position `j` waits for the lock of `e`: it began to wait, and the lock has not
gone to it. -/
def Waits (r : Trace) (j : Nat) (e : String) : Prop :=
  j ∈ r.waited ∧ j ∉ r.granted ∧ r.entityOf j = some e

/-- The tasks waiting for the lock of `e`, in the order they began to wait. -/
def waitersOf (r : Trace) (e : String) : List Nat :=
  r.waited.filter fun j => r.entityOf j = some e ∧ j ∉ r.granted

/-- The tasks the lock of `e` went to, in order. -/
def grantedOn (r : Trace) (e : String) : List Nat :=
  r.granted.filter fun j => r.entityOf j = some e

/-- What the logs say of a task, given where it stands: a task not started is in neither log, a
waiting task began to wait, a paused change got its lock, and a task that takes a lock finishes
only once it got it. -/
def StageFits (r : Trace) (j : Nat) : Stage → Prop
  | .ready => j ∉ r.granted ∧ j ∉ r.waited
  | .queued => j ∈ r.waited
  | .paused _ => (∃ c, r.requests[j]? = some (.change c)) ∧ j ∈ r.granted
  | .finished _ => ∀ q, r.requests[j]? = some q → q.locks = true → j ∈ r.granted

/-- What holds of a race at every point of every schedule. -/
structure Consistent (r : Trace) : Prop where
  /-- Every request has a task. -/
  length : r.stages.length = r.requests.length
  /-- The table holds one entry per entity. -/
  keyed : r.shared.locks.Keyed
  /-- The entry of an entity names the task that holds its lock and those that wait for it. -/
  entry : ∀ e en, r.shared.locks.find? e = some en →
    r.Holds en.holder e ∧ en.waiters = r.waitersOf e
  /-- An entity without an entry is held and awaited by nobody. -/
  free : ∀ e, r.shared.locks.find? e = none → (∀ j, ¬ r.Holds j e) ∧ r.waitersOf e = []
  /-- Every task the lock of an entity went to before the last one has finished. -/
  settled : ∀ e j, j ∈ (r.grantedOn e).dropLast → r.isFinished j = true
  /-- The tasks that waited for an entity's lock got it in the order they began to wait, and
  those still waiting come after them. -/
  fifo : ∀ e, r.waited.filter (fun j => r.entityOf j = some e) =
    (r.grantedOn e).filter (· ∈ r.waited) ++ r.waitersOf e
  granted_nodup : r.granted.Nodup
  waited_nodup : r.waited.Nodup
  /-- Only a request that takes a lock gets one or waits for one. -/
  locks : ∀ j, j ∈ r.granted ∨ j ∈ r.waited → ∃ q, r.requests[j]? = some q ∧ q.locks = true
  stages : ∀ j st, r.stages[j]? = some st → r.StageFits j st

/-! ### Reading a trace after a move -/

section Views

variable {r r' : Trace} {i j k : Nat} {e : String} {st : Stage}

theorem stage_set (hs : r'.stages = r.stages.set i st) (hi : r.stages[i]?.isSome) (j : Nat) :
    r'.stages[j]? = if j = i then some st else r.stages[j]? := by
  have hlt : i < r.stages.length := by
    rcases h : r.stages[i]? with _ | _
    · simp [h] at hi
    · exact (List.getElem?_eq_some_iff.1 h).1
  rw [hs, List.getElem?_set]
  by_cases h : j = i
  · simp [h, hlt]
  · simp [h, Ne.symm h]

theorem isFinished_set (hs : r'.stages = r.stages.set i st) (hi : r.stages[i]?.isSome)
    (j : Nat) : r'.isFinished j = if j = i then st.isFinished else r.isFinished j := by
  unfold isFinished
  rw [stage_set hs hi]
  by_cases h : j = i <;> simp [h]

theorem entityOf_of_request {q : Request} (hq : r.requests[j]? = some q) :
    r.entityOf j = some q.entityId := by
  simp [entityOf, hq]

theorem entityOf_of_requests (hreq : r'.requests = r.requests) (j : Nat) :
    r'.entityOf j = r.entityOf j := by
  simp only [entityOf, hreq]

theorem grantedOn_eq (hreq : r'.requests = r.requests) (hg : r'.granted = r.granted)
    (e : String) : r'.grantedOn e = r.grantedOn e := by
  simp only [grantedOn, hg, entityOf_of_requests hreq]

theorem grantedOn_grants {g : List Nat} (hreq : r'.requests = r.requests)
    (hg : r'.granted = r.granted ++ g) (e : String) :
    r'.grantedOn e = r.grantedOn e ++ g.filter fun j => r.entityOf j = some e := by
  simp only [grantedOn, hg, List.filter_append, entityOf_of_requests hreq]

theorem waitersOf_eq (hreq : r'.requests = r.requests) (hg : r'.granted = r.granted)
    (hw : r'.waited = r.waited) (e : String) : r'.waitersOf e = r.waitersOf e := by
  simp only [waitersOf, hg, hw, entityOf_of_requests hreq]

/-- Once the lock went to a task, it no longer waits. -/
theorem waitersOf_grants {g : List Nat} (hreq : r'.requests = r.requests)
    (hg : r'.granted = r.granted ++ g) (hw : r'.waited = r.waited) (e : String) :
    r'.waitersOf e = (r.waitersOf e).filter (· ∉ g) := by
  simp only [waitersOf, hg, hw, List.filter_filter, entityOf_of_requests hreq]
  apply List.filter_congr
  intro j _
  by_cases hj : j ∈ g <;> simp [hj]

theorem waitersOf_wait (hreq : r'.requests = r.requests) (hg : r'.granted = r.granted)
    (hw : r'.waited = r.waited ++ [k]) (e : String) :
    r'.waitersOf e =
      r.waitersOf e ++ if r.entityOf k = some e ∧ k ∉ r.granted then [k] else [] := by
  simp only [waitersOf, hg, hw, List.filter_append, entityOf_of_requests hreq]
  by_cases hk : r.entityOf k = some e ∧ k ∉ r.granted <;> simp [hk]

theorem mem_waitersOf : j ∈ r.waitersOf e ↔ j ∈ r.waited ∧ r.entityOf j = some e ∧ j ∉ r.granted := by
  simp [waitersOf]

/-- A holder other than the moving task still holds its lock after the move. -/
theorem Holds.after (hs : r'.stages = r.stages.set i st) (hi : r.stages[i]?.isSome)
    (hreq : r'.requests = r.requests) (hsub : ∀ m ∈ r.granted, m ∈ r'.granted)
    (hj : r.Holds j e) (hji : j ≠ i) : r'.Holds j e := by
  obtain ⟨hmem, hent, hfin⟩ := hj
  refine ⟨hsub j hmem, by rw [entityOf_of_requests hreq]; exact hent, ?_⟩
  rw [isFinished_set hs hi, if_neg hji]
  exact hfin

theorem Holds.before (hs : r'.stages = r.stages.set i st) (hi : r.stages[i]?.isSome)
    (hreq : r'.requests = r.requests) (hj : r'.Holds j e) (hji : j ≠ i) (hmem : j ∈ r.granted) :
    r.Holds j e := by
  obtain ⟨_, hent, hfin⟩ := hj
  refine ⟨hmem, by rw [← entityOf_of_requests hreq]; exact hent, ?_⟩
  rw [isFinished_set hs hi, if_neg hji] at hfin
  exact hfin

/-- A move of the task `i` on `e` that gives the lock of `e` to the tasks `g` leaves who holds
the lock of every other entity as it was. -/
theorem holds_iff_of_ne (hs : r'.stages = r.stages.set i st) (hi : r.stages[i]?.isSome)
    (hreq : r'.requests = r.requests) {g : List Nat} (hg : r'.granted = r.granted ++ g)
    (hie : r.entityOf i = some e) (hge : ∀ k ∈ g, r.entityOf k = some e) {x : String}
    (hx : x ≠ e) (j : Nat) : r'.Holds j x ↔ r.Holds j x := by
  have apart : ∀ {k}, r.entityOf k = some e → r.entityOf j = some x → j ≠ k := by
    rintro k hk hj rfl
    exact hx (Option.some.inj (hj.symm.trans hk))
  constructor
  · intro hj
    have hent : r.entityOf j = some x := entityOf_of_requests hreq j ▸ hj.2.1
    have hmem : j ∈ r.granted := by
      rcases List.mem_append.1 (hg ▸ hj.1) with hm | hm
      · exact hm
      · exact absurd rfl (apart (hge j hm) hent)
    exact Holds.before hs hi hreq hj (apart hie hent) hmem
  · intro hj
    exact Holds.after hs hi hreq (fun m hm => by simp [hg, hm]) hj (apart hie hj.2.1)

/-- A task that holds the lock of an entity is the last one the lock went to: every task before
it has finished. -/
theorem Consistent.eq_getLast_of_holds (h : r.Consistent) (hj : r.Holds j e) :
    ∃ hne : r.grantedOn e ≠ [], j = (r.grantedOn e).getLast hne := by
  obtain ⟨hmem, hent, hfin⟩ := hj
  have hin : j ∈ r.grantedOn e := List.mem_filter.2 ⟨hmem, by simp [hent]⟩
  have hne : r.grantedOn e ≠ [] := List.ne_nil_of_mem hin
  refine ⟨hne, ?_⟩
  rw [← List.dropLast_concat_getLast hne, List.mem_append] at hin
  rcases hin with hin | hin
  · rw [h.settled e j hin] at hfin
    cases hfin
  · exact List.mem_singleton.1 hin

/-- The lock of an entity has at most one holder. -/
theorem Consistent.holds_unique (h : r.Consistent) (hj : r.Holds j e) (hk : r.Holds k e) :
    j = k := by
  obtain ⟨_, rfl⟩ := h.eq_getLast_of_holds hj
  obtain ⟨_, rfl⟩ := h.eq_getLast_of_holds hk
  rfl

/-- The entry of an entity whose lock a task holds names it. -/
theorem Consistent.find?_of_holds (h : r.Consistent) (hj : r.Holds j e) :
    ∃ en, r.shared.locks.find? e = some en ∧ en.holder = j := by
  rcases hfind : r.shared.locks.find? e with _ | en
  · exact absurd hj ((h.free e hfind).1 j)
  · exact ⟨en, rfl, h.holds_unique (h.entry e en hfind).1 hj⟩

theorem Consistent.holds_of_holder (h : r.Consistent) (hholds : r.shared.locks.holds e j = true) :
    r.Holds j e := by
  obtain ⟨en, hfind, hholder⟩ := Locks.holds_iff.1 hholds
  rw [← hholder]
  exact (h.entry e en hfind).1

/-- A task with a request has a stage. -/
theorem Consistent.stage_of_request (h : r.Consistent) {q : Request}
    (hq : r.requests[j]? = some q) : ∃ st, r.stages[j]? = some st := by
  have hlt : j < r.stages.length := h.length ▸ (List.getElem?_eq_some_iff.1 hq).1
  exact ⟨_, List.getElem?_eq_getElem hlt⟩

/-- A task waiting for a lock is queued. -/
theorem Consistent.queued_of_waits (h : r.Consistent) (hw : j ∈ r.waited) (hg : j ∉ r.granted) :
    r.stages[j]? = some .queued := by
  obtain ⟨q, hq, hl⟩ := h.locks j (.inr hw)
  obtain ⟨st, hst⟩ := h.stage_of_request hq
  have fits := h.stages j st hst
  cases st with
  | ready => exact absurd hw fits.2
  | queued => exact hst
  | paused _ => exact absurd fits.2 hg
  | finished _ => exact absurd (fits q hq hl) hg

theorem Consistent.isFinished_of_waits (h : r.Consistent) (hw : j ∈ r.waited)
    (hg : j ∉ r.granted) : r.isFinished j = false := by
  simp [isFinished, h.queued_of_waits hw hg, Stage.isFinished]

/-- A request that takes no lock is in neither log. -/
theorem Consistent.not_logged (h : r.Consistent) {q : Request} (hq : r.requests[i]? = some q)
    (hl : q.locks = false) : i ∉ r.granted ∧ i ∉ r.waited := by
  have never : ¬ (i ∈ r.granted ∨ i ∈ r.waited) := by
    intro hi
    obtain ⟨q', hq', hl'⟩ := h.locks i hi
    rw [hq] at hq'
    cases hq'
    rw [hl] at hl'
    cases hl'
  exact ⟨fun hg => never (.inl hg), fun hw => never (.inr hw)⟩

/-- After a move of task `i` that only adds to the logs tasks that were waiting, and `i`
itself, the logs still fit every stage but that of `i`. -/
theorem Consistent.stageFits_after (h : r.Consistent) {g v : List Nat}
    (hs : r'.stages = r.stages.set i st) (hi : r.stages[i]?.isSome)
    (hreq : r'.requests = r.requests) (hg : r'.granted = r.granted ++ g)
    (hw : r'.waited = r.waited ++ v) (hnew : ∀ k ∈ g ++ v, k = i ∨ k ∈ r.waited)
    (hfit : r'.StageFits i st) : ∀ j st', r'.stages[j]? = some st' → r'.StageFits j st' := by
  intro j st' hj
  rw [stage_set hs hi] at hj
  by_cases hji : j = i
  · subst hji
    simp only [if_true, Option.some.injEq] at hj
    rw [← hj]
    exact hfit
  · rw [if_neg hji] at hj
    have fits := h.stages j st' hj
    cases st' with
    | ready =>
      -- a task added to a log was waiting, or is `i`
      have hnot : j ∉ g ++ v := fun hmem => (hnew j hmem).elim hji fits.2
      simp only [StageFits, hg, hw, List.mem_append, not_or] at fits hnot ⊢
      exact ⟨⟨fits.1, hnot.1⟩, fits.2, hnot.2⟩
    | queued =>
      simp only [StageFits, hw, List.mem_append] at fits ⊢
      exact .inl fits
    | paused _ =>
      simp only [StageFits, hg, hreq, List.mem_append] at fits ⊢
      exact ⟨fits.1, .inl fits.2⟩
    | finished _ =>
      simp only [StageFits, hg, hreq, List.mem_append] at fits ⊢
      exact fun q hq hl => .inl (fits q hq hl)

end Views

/-! ### The start of a race -/

theorem consistent_start (s : Shared) (rs : List Request) (hfree : s.locks = Locks.empty) :
    (start s rs).Consistent where
  length := by simp [start]
  keyed := by simp [start, hfree, Locks.empty, Locks.Keyed]
  entry := by simp [start, hfree, Locks.empty, Locks.find?]
  free := by simp [start, Holds, waitersOf]
  settled := by simp [start, grantedOn]
  fifo := by simp [start, grantedOn, waitersOf]
  granted_nodup := by simp [start]
  waited_nodup := by simp [start]
  locks := by simp [start]
  stages := by
    intro j st hj
    simp only [start, List.map_const', List.getElem?_replicate] at hj
    split at hj
    · cases hj
      simp [StageFits, start]
    · cases hj

/-! ### One move at a time -/

section Moves

variable {r r' : Trace} {i : Nat} {q : Request}

/-- A move that changes only where the task stands, and not whether a task that got its lock
has finished, leaves the table and the logs as they were. -/
theorem Consistent.restage (h : r.Consistent) (hi : r.stages[i]?.isSome) {st : Stage}
    (hsame : i ∈ r.granted → st.isFinished = r.isFinished i)
    (hreq : r'.requests = r.requests) (hs : r'.stages = r.stages.set i st)
    (hlocks : r'.shared.locks = r.shared.locks) (hg : r'.granted = r.granted)
    (hw : r'.waited = r.waited) (hfit : r'.StageFits i st) : r'.Consistent := by
  have fin : ∀ j ∈ r.granted, r'.isFinished j = r.isFinished j := by
    intro j hj
    rw [isFinished_set hs hi]
    split
    · rename_i hji
      subst hji
      exact hsame hj
    · rfl
  have holds : ∀ j e, r'.Holds j e ↔ r.Holds j e := by
    intro j e
    simp only [Holds, hg, entityOf_of_requests hreq]
    constructor
    · rintro ⟨hmem, hent, hfin⟩
      exact ⟨hmem, hent, fin j hmem ▸ hfin⟩
    · rintro ⟨hmem, hent, hfin⟩
      exact ⟨hmem, hent, (fin j hmem).symm ▸ hfin⟩
  refine ⟨by rw [hs, List.length_set, hreq, h.length], hlocks ▸ h.keyed, ?_, ?_, ?_, ?_,
    hg ▸ h.granted_nodup, hw ▸ h.waited_nodup, ?_,
    h.stageFits_after (g := []) (v := []) hs hi hreq (by simp [hg]) (by simp [hw]) (by simp) hfit⟩
  · intro e en hen
    rw [hlocks] at hen
    rw [holds, waitersOf_eq hreq hg hw]
    exact h.entry e en hen
  · intro e hen
    rw [hlocks] at hen
    simp only [holds, waitersOf_eq hreq hg hw]
    exact h.free e hen
  · intro e j hj
    rw [grantedOn_eq hreq hg] at hj
    rw [fin j (List.mem_of_mem_filter (List.dropLast_subset _ hj))]
    exact h.settled e j hj
  · intro e
    simp only [grantedOn_eq hreq hg, waitersOf_eq hreq hg hw, hw, entityOf_of_requests hreq]
    exact h.fifo e
  · intro j hj
    rw [hg, hw] at hj
    rw [hreq]
    exact h.locks j hj

/-- After the task `i` on `e` took the free lock of `e`, every task the lock of an entity went
to before the last one has finished. -/
theorem Consistent.settled_take (h : r.Consistent) {e : String} {st : Stage}
    (hent : r.entityOf i = some e) (hnone : ∀ j, ¬ r.Holds j e) (hng : i ∉ r.granted)
    (hi : r.stages[i]?.isSome) (hreq : r'.requests = r.requests)
    (hs : r'.stages = r.stages.set i st) (hg : r'.granted = r.granted ++ [i]) :
    ∀ x j, j ∈ (r'.grantedOn x).dropLast → r'.isFinished j = true := by
  intro x j hj
  rw [grantedOn_grants hreq hg] at hj
  simp only [List.filter_cons, List.filter_nil, hent] at hj
  by_cases hx : e = x
  · -- the earlier tasks on `e` have all finished, for none of them holds the lock
    subst hx
    simp only [decide_true, if_true, List.dropLast_concat] at hj
    have hmem : j ∈ r.granted := List.mem_of_mem_filter hj
    have hji : j ≠ i := fun (hji : j = i) => hng (hji ▸ hmem)
    rw [isFinished_set hs hi, if_neg hji]
    by_contra hfin
    exact hnone j ⟨hmem, by simpa using (List.mem_filter.1 hj).2, by simpa using hfin⟩
  · simp only [Option.some.injEq, hx, decide_false, Bool.false_eq_true, if_false,
      List.append_nil] at hj
    have hmem : j ∈ r.granted := List.mem_of_mem_filter (List.dropLast_subset _ hj)
    rw [isFinished_set hs hi, if_neg (fun (hji : j = i) => hng (hji ▸ hmem))]
    exact h.settled x j hj

/-- The task takes the free lock of its entity, and finishes or pauses holding it. -/
theorem Consistent.take (h : r.Consistent) (hq : r.requests[i]? = some q) (hl : q.locks = true)
    (hready : r.stages[i]? = some .ready) (hfree : r.shared.locks.find? q.entityId = none)
    {st : Stage} (hfit : st.isFinished = false →
      r'.shared.locks = ⟨r.shared.locks.entries ++ [⟨q.entityId, i, []⟩]⟩ ∧
        ∃ c cur, q = .change c ∧ st = .paused cur)
    (hdone : st.isFinished = true → r'.shared.locks = r.shared.locks)
    (hreq : r'.requests = r.requests) (hs : r'.stages = r.stages.set i st)
    (hg : r'.granted = r.granted ++ [i]) (hw : r'.waited = r.waited) : r'.Consistent := by
  have hi : r.stages[i]?.isSome := by simp [hready]
  have hent : r.entityOf i = some q.entityId := entityOf_of_request hq
  obtain ⟨hng, hnw⟩ := h.stages i .ready hready
  obtain ⟨hnone, hwe⟩ := h.free _ hfree
  have ne_of_mem : ∀ j ∈ r.granted, j ≠ i := fun j hj hji => hng (hji ▸ hj)
  have waiters : ∀ x, r'.waitersOf x = r.waitersOf x := by
    intro x
    rw [waitersOf_grants hreq hg hw, List.filter_eq_self]
    intro j hj
    have hj' := (mem_waitersOf.1 hj).1
    simpa using fun (hji : j = i) => hnw (hji ▸ hj')
  have other : ∀ x, x ≠ q.entityId → ∀ j, r'.Holds j x ↔ r.Holds j x := fun x hx =>
    holds_iff_of_ne hs hi hreq hg hent (by simpa using hent) hx
  have table : ∀ x, r'.shared.locks.find? x =
      if x = q.entityId ∧ st.isFinished = false then some ⟨q.entityId, i, []⟩
      else r.shared.locks.find? x := by
    intro x
    cases hst : st.isFinished
    · rw [(hfit hst).1, Locks.find?_take hfree]
      by_cases hx : x = q.entityId <;> simp [hx]
    · simp [hdone hst]
  have keyed : r'.shared.locks.Keyed := by
    cases hst : st.isFinished
    · rw [(hfit hst).1]
      exact Locks.keyed_take h.keyed hfree
    · rw [hdone hst]
      exact h.keyed
  refine ⟨by rw [hs, List.length_set, hreq, h.length], keyed, ?_, ?_,
    h.settled_take hent hnone hng hi hreq hs hg, ?_, ?_, hw ▸ h.waited_nodup, ?_, ?_⟩
  · intro x en hen
    rw [table] at hen
    split at hen
    · -- the new entry: `i` holds the lock, and nobody waits for it
      rename_i hx
      cases hen
      obtain ⟨rfl, hfin⟩ := hx
      refine ⟨⟨by simp [hg], by rw [entityOf_of_requests hreq]; exact hent, ?_⟩, ?_⟩
      · rw [isFinished_set hs hi, if_pos rfl]
        exact hfin
      · rw [waiters, hwe]
    · have hx : x ≠ q.entityId := by
        rintro rfl
        rw [hfree] at hen
        cases hen
      obtain ⟨hholds, hwait⟩ := h.entry x en hen
      exact ⟨(other x hx _).2 hholds, by rw [waiters]; exact hwait⟩
  · intro x hen
    rw [table] at hen
    split at hen
    · cases hen
    · rename_i hx
      rw [waiters]
      by_cases hxe : x = q.entityId
      · subst hxe
        have hfin : st.isFinished = true := by simpa using hx
        refine ⟨?_, hwe⟩
        intro j hj
        by_cases hji : j = i
        · subst hji
          have := hj.2.2
          rw [isFinished_set hs hi, if_pos rfl, hfin] at this
          cases this
        · have hmem : j ∈ r.granted := by
            rcases List.mem_append.1 (hg ▸ hj.1) with hm | hm
            · exact hm
            · exact absurd (List.mem_singleton.1 hm) hji
          exact hnone j (Holds.before hs hi hreq hj hji hmem)
      · exact ⟨fun j hj => (h.free x hen).1 j ((other x hxe j).1 hj), (h.free x hen).2⟩
  · intro x
    rw [grantedOn_grants hreq hg, waiters, hw]
    simp only [entityOf_of_requests hreq, List.filter_append]
    have hnot : (([i].filter fun j => r.entityOf j = some x).filter (· ∈ r.waited)) = [] := by
      simp only [List.filter_cons, List.filter_nil]
      split <;> simp [hnw]
    rw [hnot, List.append_nil]
    exact h.fifo x
  · rw [hg]
    exact List.nodup_append.2 ⟨h.granted_nodup, List.nodup_singleton i,
      fun a ha b hb => by rw [List.mem_singleton.1 hb]; exact ne_of_mem a ha⟩
  · intro j hj
    rw [hg, hw, List.mem_append, List.mem_singleton] at hj
    rw [hreq]
    rcases hj with (hj | rfl) | hj
    · exact h.locks j (.inl hj)
    · exact ⟨q, hq, hl⟩
    · exact h.locks j (.inr hj)
  · refine h.stageFits_after (g := [i]) (v := []) hs hi hreq hg (by simp [hw]) (by simp) ?_
    cases hst : st with
    | ready => simp [hst, Stage.isFinished] at hfit hdone
    | queued => simp [hst, Stage.isFinished] at hfit
    | paused cur =>
      obtain ⟨-, c, cur', rfl, -⟩ := hfit (by simp [hst, Stage.isFinished])
      exact ⟨⟨c, by rw [hreq]; exact hq⟩, by simp [hg]⟩
    | finished _ => exact fun _ _ _ => by simp [hg]

/-- The task finds the lock of its entity held, and queues behind the last waiter. -/
theorem Consistent.waits (h : r.Consistent) (hq : r.requests[i]? = some q) (hl : q.locks = true)
    (hready : r.stages[i]? = some .ready) {en : LockEntry}
    (hheld : r.shared.locks.find? q.entityId = some en)
    (hreq : r'.requests = r.requests) (hs : r'.stages = r.stages.set i .queued)
    (hlocks : r'.shared.locks = ⟨r.shared.locks.entries.map fun y =>
      if y.entityId == q.entityId then { y with waiters := y.waiters ++ [i] } else y⟩)
    (hg : r'.granted = r.granted) (hw : r'.waited = r.waited ++ [i]) : r'.Consistent := by
  have hi : r.stages[i]?.isSome := by simp [hready]
  have hent : r.entityOf i = some q.entityId := entityOf_of_request hq
  obtain ⟨hng, hnw⟩ := h.stages i .ready hready
  have ne_of_mem : ∀ j ∈ r.granted, j ≠ i := fun j hj (hji : j = i) => hng (hji ▸ hj)
  have holds : ∀ j x, r'.Holds j x ↔ r.Holds j x := by
    intro j x
    constructor
    · intro hj
      have hmem : j ∈ r.granted := hg ▸ hj.1
      exact Holds.before hs hi hreq hj (ne_of_mem j hmem) hmem
    · intro hj
      exact Holds.after hs hi hreq (fun m hm => hg ▸ hm) hj (ne_of_mem j hj.1)
  have waiters : ∀ x, r'.waitersOf x = r.waitersOf x ++ if q.entityId = x then [i] else [] := by
    intro x
    rw [waitersOf_wait hreq hg hw, hent]
    by_cases hx : q.entityId = x <;> simp [hx, hng]
  refine ⟨by rw [hs, List.length_set, hreq, h.length], ?_, ?_, ?_, ?_, ?_,
    hg ▸ h.granted_nodup, ?_, ?_, ?_⟩
  · rw [hlocks]
    exact Locks.keyed_enqueue h.keyed
  · intro x en' hen'
    rw [hlocks, Locks.find?_enqueue hheld] at hen'
    obtain ⟨hholds, hwait⟩ := h.entry q.entityId en hheld
    split at hen'
    · rename_i hx
      subst hx
      cases hen'
      refine ⟨(holds _ _).2 hholds, ?_⟩
      rw [waiters, if_pos rfl, ← hwait]
    · rename_i hx
      obtain ⟨hholds', hwait'⟩ := h.entry x en' hen'
      refine ⟨(holds _ _).2 hholds', ?_⟩
      rw [waiters, if_neg (Ne.symm hx), List.append_nil, hwait']
  · intro x hen'
    rw [hlocks, Locks.find?_enqueue hheld] at hen'
    split at hen'
    · cases hen'
    · rename_i hx
      obtain ⟨hnone, hwx⟩ := h.free x hen'
      refine ⟨fun j hj => hnone j ((holds j x).1 hj), ?_⟩
      rw [waiters, if_neg (Ne.symm hx), List.append_nil, hwx]
  · intro x j hj
    rw [grantedOn_eq hreq hg] at hj
    have hmem : j ∈ r.granted := List.mem_of_mem_filter (List.dropLast_subset _ hj)
    rw [isFinished_set hs hi, if_neg (ne_of_mem j hmem)]
    exact h.settled x j hj
  · intro x
    rw [grantedOn_eq hreq hg, waiters, hw]
    simp only [entityOf_of_requests hreq, List.filter_append]
    have same : (r.grantedOn x).filter (· ∈ r.waited ++ [i]) = (r.grantedOn x).filter (· ∈ r.waited) := by
      apply List.filter_congr
      intro j hj
      have hji := ne_of_mem j (List.mem_of_mem_filter hj)
      simp [hji]
    rw [same, h.fifo x]
    simp only [List.filter_cons, List.filter_nil, hent]
    by_cases hx : q.entityId = x <;> simp [hx]
  · rw [hw]
    exact List.nodup_append.2 ⟨h.waited_nodup, List.nodup_singleton i,
      fun a ha b hb => by rw [List.mem_singleton.1 hb]; exact fun hai => hnw (hai ▸ ha)⟩
  · intro j hj
    rw [hg, hw, List.mem_append, List.mem_singleton] at hj
    rw [hreq]
    rcases hj with hj | hj | rfl
    · exact h.locks j (.inl hj)
    · exact h.locks j (.inr hj)
    · exact ⟨q, hq, hl⟩
  · exact h.stageFits_after (g := []) (v := [i]) hs hi hreq (by simp [hg]) hw (by simp)
      (by simp [StageFits, hw])

theorem List.filter_not_mem_take_one {l : List Nat} (hnd : l.Nodup) :
    l.filter (· ∉ l.take 1) = l.drop 1 := by
  cases l with
  | nil => rfl
  | cons a t =>
    rw [List.nodup_cons] at hnd
    simp only [List.take_succ_cons, List.take_zero, List.drop_succ_cons, List.drop_zero,
      List.filter_cons, List.mem_singleton, not_true_eq_false, decide_false, Bool.false_eq_true,
      if_false]
    rw [List.filter_eq_self]
    intro j hj
    simpa using fun (hja : j = a) => hnd.1 (hja ▸ hj)

/-- When the holder of an entity's lock releases it, the lock goes to the first task in line,
if any. -/
theorem Consistent.passed_release (h : r.Consistent) {e : String} (hhold : r.Holds i e) :
    Locks.passed r.shared.locks (r.shared.locks.release e) i = (r.waitersOf e).take 1 := by
  obtain ⟨en, hfind, hholder⟩ := h.find?_of_holds hhold
  obtain ⟨-, hwaiters⟩ := h.entry e en hfind
  rw [← hwaiters]
  refine Locks.passed_release h.keyed hfind hholder ?_ ?_
  · intro hmem
    rw [hwaiters, mem_waitersOf] at hmem
    exact hmem.2.2 hhold.1
  · intro en' hen' hh
    have hown := (h.entry _ en' (Locks.find?_of_mem h.keyed hen')).1
    rw [hh] at hown
    exact Option.some.inj (hown.2.1.symm.trans hhold.2.1)

/-- The holder of an entity's lock finishes and releases it: the lock goes to the first task in
line, or the entry is dropped. -/
theorem Consistent.release (h : r.Consistent) {e : String} (hhold : r.Holds i e)
    (hi : r.stages[i]?.isSome) {a : Outcome Reply}
    (hreq : r'.requests = r.requests) (hs : r'.stages = r.stages.set i (.finished a))
    (hlocks : r'.shared.locks = r.shared.locks.release e)
    (hg : r'.granted = r.granted ++ Locks.passed r.shared.locks (r.shared.locks.release e) i)
    (hw : r'.waited = r.waited) : r'.Consistent := by
  obtain ⟨en, hfind, hholder⟩ := h.find?_of_holds hhold
  obtain ⟨-, hwaiters⟩ := h.entry e en hfind
  rw [h.passed_release hhold] at hg
  set g := (r.waitersOf e).take 1 with hgdef
  have hgw : ∀ k ∈ g, k ∈ r.waited ∧ r.entityOf k = some e ∧ k ∉ r.granted := fun k hk =>
    mem_waitersOf.1 (List.take_subset _ _ hk)
  have hnd : (r.waitersOf e).Nodup := h.waited_nodup.filter _
  have hgi : ∀ k ∈ g, k ≠ i := fun k hk (hki : k = i) => (hgw k hk).2.2 (hki ▸ hhold.1)
  have fin : ∀ j, r'.isFinished j = if j = i then true else r.isFinished j := by
    intro j
    rw [isFinished_set hs hi]
    rfl
  have done_e : ∀ j ∈ r.grantedOn e, r'.isFinished j = true := by
    intro j hj
    rw [fin]
    split
    · rfl
    · rename_i hji
      by_contra hfin
      have hfin' : r.isFinished j = false := by simpa using hfin
      exact hji (h.holds_unique ⟨List.mem_of_mem_filter hj, by simpa using (List.mem_filter.1 hj).2,
        hfin'⟩ hhold)
  have table : ∀ x, r'.shared.locks.find? x =
      if x = e then en.handoff else r.shared.locks.find? x := by
    intro x
    rw [hlocks, Locks.find?_release h.keyed, hfind]
    rfl
  have other : ∀ x, x ≠ e → ∀ j, r'.Holds j x ↔ r.Holds j x := fun x hx =>
    holds_iff_of_ne hs hi hreq hg hhold.2.1 (fun k hk => (hgw k hk).2.1) hx
  have waiters_other : ∀ x, x ≠ e → r'.waitersOf x = r.waitersOf x := by
    intro x hx
    rw [waitersOf_grants hreq hg hw, List.filter_eq_self]
    intro j hj
    simp only [decide_eq_true_eq]
    intro hjg
    exact hx (Option.some.inj ((mem_waitersOf.1 hj).2.1.symm.trans (hgw j hjg).2.1))
  have grantedOn_other : ∀ x, x ≠ e → r'.grantedOn x = r.grantedOn x := by
    intro x hx
    rw [grantedOn_grants hreq hg, List.filter_eq_nil_iff.2, List.append_nil]
    intro k hk hkx
    exact hx (Option.some.inj ((of_decide_eq_true hkx).symm.trans (hgw k hk).2.1))
  have g_on_e : g.filter (fun j => r.entityOf j = some e) = g :=
    List.filter_eq_self.2 fun k hk => by simp [(hgw k hk).2.1]
  refine ⟨by rw [hs, List.length_set, hreq, h.length], hlocks ▸ Locks.keyed_release h.keyed,
    ?_, ?_, ?_, ?_, ?_, hw ▸ h.waited_nodup, ?_, ?_⟩
  · intro x en' hen
    rw [table] at hen
    split at hen
    · -- the lock of `e` went to the first in line
      rename_i hx
      subst hx
      unfold LockEntry.handoff at hen
      rw [hwaiters] at hen
      rcases hwe : r.waitersOf x with _ | ⟨k, ks⟩
      · rw [hwe] at hen
        cases hen
      · rw [hwe] at hen
        cases hen
        have hk : k ∈ g := by simp [hgdef, hwe]
        obtain ⟨hkw, hke, hkg⟩ := hgw k hk
        refine ⟨⟨by simp [hg, hk], by rw [entityOf_of_requests hreq]; exact hke, ?_⟩, ?_⟩
        · rw [fin, if_neg (hgi k hk)]
          exact h.isFinished_of_waits hkw hkg
        · rw [waitersOf_grants hreq hg hw, hgdef, List.filter_not_mem_take_one hnd, hwe]
          rfl
    · rename_i hx
      obtain ⟨hholds, hwait⟩ := h.entry x en' hen
      exact ⟨(other x hx _).2 hholds, by rw [waiters_other x hx]; exact hwait⟩
  · intro x hen
    rw [table] at hen
    split at hen
    · -- nobody waited: the entry of `e` is dropped
      rename_i hx
      subst hx
      have hwe : r.waitersOf x = [] := by
        unfold LockEntry.handoff at hen
        rw [hwaiters] at hen
        split at hen
        · assumption
        · cases hen
      have hg0 : g = [] := by simp [hgdef, hwe]
      refine ⟨?_, by rw [waitersOf_grants hreq hg hw, hwe]; rfl⟩
      intro j hj
      have hmem : j ∈ r.granted := by simpa [hg, hg0] using hj.1
      have hji : j ≠ i := by
        rintro rfl
        have := hj.2.2
        rw [fin, if_pos rfl] at this
        cases this
      exact hji (h.holds_unique (Holds.before hs hi hreq hj hji hmem) hhold)
    · rename_i hx
      obtain ⟨hnone, hwx⟩ := h.free x hen
      exact ⟨fun j hj => hnone j ((other x hx j).1 hj), by rw [waiters_other x hx]; exact hwx⟩
  · intro x j hj
    by_cases hx : x = e
    · subst hx
      rw [grantedOn_grants hreq hg, g_on_e] at hj
      have hgl : g.dropLast = [] := List.eq_nil_of_length_eq_zero (by
        rw [List.length_dropLast, hgdef, List.length_take]
        omega)
      rw [List.dropLast_append, hgl] at hj
      have hmem : j ∈ r.grantedOn x := by
        split at hj
        · exact List.dropLast_subset _ hj
        · simpa using hj
      exact done_e j hmem
    · rw [grantedOn_other x hx] at hj
      rw [fin]
      split
      · rfl
      · exact h.settled x j hj
  · intro x
    rw [hw]
    simp only [entityOf_of_requests hreq]
    by_cases hx : x = e
    · subst hx
      rw [grantedOn_grants hreq hg, g_on_e, waitersOf_grants hreq hg hw, hgdef,
        List.filter_not_mem_take_one hnd, List.filter_append, h.fifo x, List.append_assoc]
      have in_waited : ((r.waitersOf x).take 1).filter (· ∈ r.waited) = (r.waitersOf x).take 1 :=
        List.filter_eq_self.2 fun k hk => by simp [(hgw k hk).1]
      rw [in_waited, List.take_append_drop]
    · rw [grantedOn_other x hx, waiters_other x hx]
      exact h.fifo x
  · rw [hg]
    exact List.nodup_append.2 ⟨h.granted_nodup, (List.take_sublist _ _).nodup hnd,
      fun a ha b hb (hab : a = b) => (hgw b hb).2.2 (hab ▸ ha)⟩
  · intro j hj
    rw [hg, hw, List.mem_append] at hj
    rw [hreq]
    rcases hj with (hj | hj) | hj
    · exact h.locks j (.inl hj)
    · exact h.locks j (.inr (hgw j hj).1)
    · exact h.locks j (.inr hj)
  · refine h.stageFits_after (g := g) (v := []) hs hi hreq hg (by simp [hw]) ?_ ?_
    · intro k hk
      rw [List.append_nil] at hk
      exact .inr (hgw k hk).1
    · exact fun _ _ _ => by simp [hg, hhold.1]

end Moves

/-! ### Every schedule -/

/-- In a consistent race, resuming a task is one of its moves. -/
theorem Consistent.move {r : Trace} {i : Nat} {q : Request} (h : r.Consistent)
    (hq : r.requests[i]? = some q) : Move r i q (r.resume i) := by
  refine move_resume hq h.keyed ?_ ?_
  · intro hst
    obtain ⟨q', hq', hl⟩ := h.locks i (.inr (h.stages i .queued hst))
    rw [hq] at hq'
    cases hq'
    exact hl
  · intro cur hst
    obtain ⟨⟨c, hc⟩, -⟩ := h.stages i _ hst
    rw [hq] at hc
    cases hc
    exact ⟨c, rfl⟩

/-- Resuming any task keeps a race consistent. -/
theorem Consistent.resume {r : Trace} (h : r.Consistent) (i : Nat) : (r.resume i).Consistent := by
  rcases hq : r.requests[i]? with _ | q
  · have same : r.resume i = r := by simp [Trace.resume, hq]
    rw [same]
    exact h
  have hi : r.stages[i]?.isSome := by
    obtain ⟨st, hst⟩ := h.stage_of_request hq
    simp [hst]
  have hm := h.move hq
  generalize r.resume i = r' at hm
  cases hm with
  | idle => exact h
  | alone hl hnot =>
    refine h.restage hi (fun hg => absurd hg (h.not_logged hq hl).1) rfl rfl rfl rfl rfl ?_
    intro q' hq' hl'
    rw [hq] at hq'
    cases hq'
    rw [hl] at hl'
    cases hl'
  | through hl hready hfree =>
    exact h.take hq hl hready hfree (by simp [Stage.isFinished]) (fun _ => rfl) rfl rfl rfl rfl
  | pauses c cur hqc hl hready hfree hcheck =>
    subst hqc
    exact h.take hq hl hready hfree (fun _ => ⟨rfl, c, cur, rfl, rfl⟩)
      (by simp [Stage.isFinished]) rfl rfl rfl rfl
  | waits en hl hready hheld => exact h.waits hq hl hready hheld rfl rfl rfl rfl rfl
  | resumes c cur hqc hst hholds hcheck =>
    subst hqc
    refine h.restage hi (fun _ => by simp [isFinished, hst, Stage.isFinished]) rfl rfl rfl rfl rfl
      ⟨⟨c, hq⟩, (h.holds_of_holder hholds).1⟩
  | ends hst hholds => exact h.release (h.holds_of_holder hholds) hi rfl rfl rfl rfl rfl
  | concludes c cur hqc hst =>
    subst hqc
    have hhold : r.Holds i c.entityId :=
      ⟨(h.stages i _ hst).2, entityOf_of_request hq, by simp [isFinished, hst, Stage.isFinished]⟩
    exact h.release hhold hi rfl rfl rfl rfl rfl

/-- Every schedule keeps a race consistent. -/
theorem Consistent.follow {r : Trace} (h : r.Consistent) (sched : List Nat) :
    (r.follow sched).Consistent := by
  induction sched generalizing r with
  | nil => exact h
  | cons i sched ih => exact ih (h.resume i)

/-- A race started with no lock held is consistent under every schedule. -/
theorem consistent_follow (s : Shared) (rs : List Request) (hfree : s.locks = Locks.empty)
    (sched : List Nat) : ((start s rs).follow sched).Consistent :=
  (consistent_start s rs hfree).follow sched

/-! ### What the invariant says of the lock table -/

section Table

variable {r : Trace} {e : String} {j : Nat}

/-- The table names as the holder of an entity's lock exactly the task that took it and has not
finished. -/
theorem Consistent.holds_iff (h : r.Consistent) : r.shared.locks.holds e j = true ↔ r.Holds j e := by
  refine ⟨h.holds_of_holder, fun hj => ?_⟩
  obtain ⟨en, hfind, hholder⟩ := h.find?_of_holds hj
  exact Locks.holds_iff.2 ⟨en, hfind, hholder⟩

/-- A change paused in its closure holds the lock of its entity. -/
theorem Consistent.holds_of_paused_change (h : r.Consistent) {c : Change} {cur : Option Revision}
    (hc : r.requests[j]? = some (.change c)) (hst : r.stages[j]? = some (.paused cur)) :
    r.Holds j c.entityId :=
  ⟨(h.stages j _ hst).2, entityOf_of_request hc, by simp [isFinished, hst, Stage.isFinished]⟩

theorem Consistent.holds_of_paused (h : r.Consistent) {cur : Option Revision}
    (hst : r.stages[j]? = some (.paused cur)) : ∃ e, r.Holds j e := by
  obtain ⟨⟨c, hc⟩, -⟩ := h.stages j _ hst
  exact ⟨c.entityId, h.holds_of_paused_change hc hst⟩

theorem waits_iff : r.Waits j e ↔ j ∈ r.waitersOf e := by
  rw [mem_waitersOf]
  exact ⟨fun ⟨hw, hg, he⟩ => ⟨hw, he, hg⟩, fun ⟨hw, he, hg⟩ => ⟨hw, hg, he⟩⟩

/-- A waiting task waits in the line of its own entity's lock, behind the task that holds it. -/
theorem Consistent.waits_behind (h : r.Consistent) (hj : r.Waits j e) :
    ∃ en, r.shared.locks.find? e = some en ∧ j ∈ en.waiters ∧ r.Holds en.holder e := by
  rw [waits_iff] at hj
  rcases hfind : r.shared.locks.find? e with _ | en
  · rw [(h.free e hfind).2] at hj
    cases hj
  · obtain ⟨hholds, hwait⟩ := h.entry e en hfind
    exact ⟨en, rfl, hwait ▸ hj, hholds⟩

theorem Consistent.find?_isSome_iff (h : r.Consistent) :
    (r.shared.locks.find? e).isSome ↔ (∃ j, r.Holds j e) ∨ (∃ j, r.Waits j e) := by
  constructor
  · intro hsome
    obtain ⟨en, hfind⟩ := Option.isSome_iff_exists.1 hsome
    exact .inl ⟨en.holder, (h.entry e en hfind).1⟩
  · rintro (⟨j, hj⟩ | ⟨j, hj⟩)
    · obtain ⟨en, hfind, -⟩ := h.find?_of_holds hj
      simp [hfind]
    · obtain ⟨en, hfind, -⟩ := h.waits_behind hj
      simp [hfind]

/-- Once every task has finished, the table is empty. -/
theorem Consistent.size_eq_zero (h : r.Consistent) (hdone : ∀ st ∈ r.stages, st.isFinished = true) :
    r.shared.locks.size = 0 := by
  unfold Locks.size
  rw [List.length_eq_zero_iff, List.eq_nil_iff_forall_not_mem]
  intro en hen
  obtain ⟨_, -, hfin⟩ := (h.entry _ en (Locks.find?_of_mem h.keyed hen)).1
  obtain ⟨q, hq, -⟩ := h.locks en.holder (.inl (h.entry _ en (Locks.find?_of_mem h.keyed hen)).1.1)
  obtain ⟨st, hst⟩ := h.stage_of_request hq
  have := hdone st (List.mem_of_getElem? hst)
  simp [isFinished, hst, this] at hfin

end Table

/-- For every race of revision requests started with no lock held and every schedule of its
tasks: the lock of an entity is held by at most one task, the one the table names, and a change
paused in its closure holds the lock of its entity; a waiting task
waits in the line of its own entity's lock, behind the task that holds it; the table has an
entry for an entity exactly while a task holds or waits for its lock; the tasks that waited got
the lock in the order they began to wait; and once every task has finished the table is empty. -/
theorem entity_locks_exclusive_fifo (s : Shared) (rs : List Request)
    (hfree : s.locks = Locks.empty) (sched : List Nat) :
    let r := (start s rs).follow sched
    (∀ e j k, r.Holds j e → r.Holds k e → j = k) ∧
    (∀ e j, r.shared.locks.holds e j = true ↔ r.Holds j e) ∧
    (∀ j cur, r.stages[j]? = some (.paused cur) → ∃ e, r.Holds j e) ∧
    (∀ e j, r.Waits j e →
      ∃ en, r.shared.locks.find? e = some en ∧ j ∈ en.waiters ∧ r.Holds en.holder e) ∧
    (∀ e, (r.shared.locks.find? e).isSome ↔ (∃ j, r.Holds j e) ∨ (∃ j, r.Waits j e)) ∧
    (∀ e, (r.grantedOn e).filter (· ∈ r.waited) <+:
      r.waited.filter fun j => r.entityOf j = some e) ∧
    ((∀ st ∈ r.stages, st.isFinished = true) → r.shared.locks.size = 0) := by
  intro r
  have h : r.Consistent := consistent_follow s rs hfree sched
  exact ⟨fun _ _ _ hj hk => h.holds_unique hj hk, fun _ _ => h.holds_iff,
    fun _ _ hst => h.holds_of_paused hst, fun _ _ hj => h.waits_behind hj, fun _ => h.find?_isSome_iff,
    fun e => ⟨r.waitersOf e, (h.fifo e).symm⟩, h.size_eq_zero⟩

end Trace

end FlowRegistry
