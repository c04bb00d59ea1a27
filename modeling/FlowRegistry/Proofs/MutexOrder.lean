import FlowRegistry.Proofs.MutexTable

/-!
# Entity mutexes pass in the order they were waited for

Beside a table, a `LockHistory` logs the calls a mutex went to, the calls that joined a line and
the calls that left one unserved. `LockHistory.Fair` ties the logs to the table: every line is in
the order its calls joined it, so a released mutex goes to the call that has waited longest, and
the calls that waited for an entity's lock and stayed got it in the order they began to wait.
-/

namespace FlowRegistry

/-- A table with three logs beside it that nothing in it reads: the calls in the order a mutex
went to them, in the order they joined a line, and in the order they left a line unserved. -/
structure LockHistory where
  table : MutexTable
  granted : List Nat
  waited : List Nat
  left : List Nat

namespace LockHistory

/-- A new table, with empty logs. -/
def start (es : List String) : LockHistory := ⟨MutexTable.start es, [], [], []⟩

/-- The call an act gives a mutex to: one that finds it free, or the first in line when it is
released. -/
def grants (t : MutexTable) : LockAct → List Nat
  | .advance i =>
    match t.stages[i]? with
    | some (.cloned m) => if (t.mutexes m).holder.isNone then [i] else []
    | some (.holding m) => (t.mutexes m).waiters.take 1
    | _ => []
  | .abandon _ => []

/-- The call an act puts in a line. -/
def joins (t : MutexTable) : LockAct → List Nat
  | .advance i =>
    match t.stages[i]? with
    | some (.cloned m) => if (t.mutexes m).holder.isNone then [] else [i]
    | _ => []
  | .abandon _ => []

/-- The call an act takes out of a line unserved. -/
def leaves (t : MutexTable) : LockAct → List Nat
  | .advance _ => []
  | .abandon i =>
    match t.stages[i]? with
    | some (.queued _) => [i]
    | _ => []

/-- One act, logged. -/
def step (r : LockHistory) (a : LockAct) : LockHistory :=
  ⟨r.table.step a, r.granted ++ grants r.table a, r.waited ++ joins r.table a,
    r.left ++ leaves r.table a⟩

/-- The acts of a schedule, logged. -/
def run (r : LockHistory) (acts : List LockAct) : LockHistory := acts.foldl step r

@[simp] theorem run_nil (r : LockHistory) : r.run [] = r := rfl

@[simp] theorem run_cons (r : LockHistory) (a : LockAct) (acts : List LockAct) :
    r.run (a :: acts) = (r.step a).run acts := rfl

theorem table_run (r : LockHistory) (acts : List LockAct) :
    (r.run acts).table = r.table.run acts := by
  induction acts generalizing r with
  | nil => rfl
  | cons a acts ih => exact ih (r.step a)

/-- What the logs say of the table at every point of every schedule. -/
structure Fair (r : LockHistory) : Prop where
  waited_nodup : r.waited.Nodup
  /-- A call that has not tried its mutex is in no log. -/
  unlogged : ∀ i : Nat, (r.table.stages[i]? = some .idle ∨
    ∃ m, r.table.stages[i]? = some (.cloned m)) → i ∉ r.granted ∧ i ∉ r.waited ∧ i ∉ r.left
  /-- The calls in a line are those that joined one and neither got the mutex nor left. -/
  queued : ∀ i : Nat, (∃ m, r.table.stages[i]? = some (.queued m)) ↔
    i ∈ r.waited ∧ i ∉ r.granted ∧ i ∉ r.left
  /-- Each line is in the order its calls joined it. -/
  order : ∀ m : Nat, (r.table.mutexes m).waiters =
    r.waited.filter fun j => r.table.stages[j]? = some (.queued m)
  /-- The calls that waited for an entity's lock and stayed are those it went to, in the order
  it went to them, and then those still in line. -/
  fifo : ∀ e : String, r.waited.filter (fun j => r.table.entities[j]? = some e ∧ j ∉ r.left) =
    r.granted.filter (fun j => r.table.entities[j]? = some e ∧ j ∈ r.waited) ++
      r.waited.filter fun j => r.table.entities[j]? = some e ∧ j ∉ r.granted ∧ j ∉ r.left

theorem fair_start (es : List String) : (start es).Fair where
  waited_nodup := by simp [start]
  unlogged := by simp [start]
  queued := by
    intro i
    simp only [start, MutexTable.start, List.getElem?_map, List.not_mem_nil, false_and,
      iff_false, not_exists]
    intro m hm
    obtain ⟨_, -, hst⟩ := Option.map_eq_some_iff.1 hm
    cases hst
  order := by simp [start, MutexTable.start]
  fifo := by simp [start]

variable {r r' : LockHistory} {i j w m : Nat} {ws : List Nat} {e : String} {st st' : LockStage}

/-- A filter that agrees with another except at `x`, which it drops, is the other without `x`:
the shape of every log or line that loses one call. -/
theorem filter_eq_filter_ne {xs : List Nat} {p q : Nat → Bool} {x : Nat} (hx : p x = false)
    (h : ∀ j, j ≠ x → p j = q j) : xs.filter p = (xs.filter q).filter (· ≠ x) := by
  rw [List.filter_filter]
  apply List.filter_congr
  intro j _
  by_cases hj : j = x
  · subst hj
    simp [hx]
  · simp [h j hj, hj]

/-- The calls on an entity still in line are the line of its mutex. -/
theorem Fair.line_eq (hf : r.Fair) (h : r.table.Sound) (hfind : r.table.lookup e = some m) :
    r.waited.filter (fun j => r.table.entities[j]? = some e ∧ j ∉ r.granted ∧ j ∉ r.left) =
      (r.table.mutexes m).waiters := by
  rw [hf.order]
  apply List.filter_congr
  intro j hj
  simp only [decide_eq_decide]
  constructor
  · rintro ⟨he, hg, hl⟩
    obtain ⟨k, hk⟩ := (hf.queued j).2 ⟨hj, hg, hl⟩
    have hcur := h.current j e _ k he hk rfl
    rw [hfind] at hcur
    cases hcur
    exact hk
  · intro hq
    obtain ⟨-, hg, hl⟩ := (hf.queued j).1 ⟨m, hq⟩
    obtain ⟨x, hx⟩ := h.entity_of_stage hq
    have same := MutexTable.eq_of_lookup h.ptrs (h.current j x _ m hx hq rfl) hfind
    exact ⟨same ▸ hx, hg, hl⟩

/-- A move of one call that neither joins nor leaves a line, nor gives a mutex to anyone. -/
theorem Fair.quiet (hf : r.Fair) (hi : r.table.stages[i]? = some st)
    (hs : r'.table.stages = r.table.stages.set i st') (hent : r'.table.entities = r.table.entities)
    (hwaiters : ∀ k, (r'.table.mutexes k).waiters = (r.table.mutexes k).waiters)
    (hg : r'.granted = r.granted) (hw : r'.waited = r.waited) (hl : r'.left = r.left)
    (hnot : ∀ k, st ≠ .queued k) (hnot' : ∀ k, st' ≠ .queued k)
    (hfresh : (st' = .idle ∨ ∃ m, st' = .cloned m) → i ∉ r.granted ∧ i ∉ r.waited ∧ i ∉ r.left) :
    r'.Fair := by
  have stage := MutexTable.stage_of hs hi
  refine ⟨hw ▸ hf.waited_nodup, ?_, ?_, ?_, ?_⟩
  · intro j hj
    rw [hg, hw, hl]
    by_cases hji : j = i
    · subst hji
      simp only [stage, if_true, Option.some.injEq] at hj
      exact hfresh hj
    · simp only [stage, hji, if_false] at hj
      exact hf.unlogged j hj
  · intro j
    rw [hg, hw, hl, stage]
    by_cases hji : j = i
    · -- the call was not in line, and is not now
      subst hji
      rw [← hf.queued]
      simp [hi, hnot, hnot']
    · simp only [hji, if_false]
      exact hf.queued j
  · intro k
    rw [hwaiters, hf.order, hw]
    apply List.filter_congr
    intro j _
    rw [stage]
    by_cases hji : j = i
    · subst hji
      simp [hi, hnot, hnot']
    · simp [hji]
  · intro x
    simp only [hent, hg, hw, hl]
    exact hf.fifo x

/-- Taking a free mutex: the call is logged as getting it. -/
theorem Fair.take (hf : r.Fair) (hi : r.table.stages[i]? = some (.cloned m))
    (hs : r'.table.stages = r.table.stages.set i (.holding m))
    (hent : r'.table.entities = r.table.entities)
    (hwaiters : ∀ k, (r'.table.mutexes k).waiters = (r.table.mutexes k).waiters)
    (hg : r'.granted = r.granted ++ [i]) (hw : r'.waited = r.waited) (hl : r'.left = r.left) :
    r'.Fair := by
  have stage := MutexTable.stage_of hs hi
  obtain ⟨hng, hnw, hnl⟩ := hf.unlogged i (.inr ⟨m, hi⟩)
  have ne_of_waited : ∀ j ∈ r.waited, j ≠ i := fun j hj hji => hnw (hji ▸ hj)
  refine ⟨hw ▸ hf.waited_nodup, ?_, ?_, ?_, ?_⟩
  · intro j hj
    rw [hg, hw, hl]
    by_cases hji : j = i
    · subst hji
      simp [stage] at hj
    · simp only [stage, hji, if_false] at hj
      simpa [hji] using hf.unlogged j hj
  · intro j
    rw [hg, hw, hl, stage]
    by_cases hji : j = i
    · subst hji
      simp [hnw]
    · simpa [hji] using hf.queued j
  · intro k
    rw [hwaiters, hf.order, hw]
    apply List.filter_congr
    intro j hj
    rw [stage, if_neg (ne_of_waited j hj)]
  · intro x
    simp only [hent, hg, hw, hl, List.filter_append]
    rw [hf.fifo x]
    have gone : ([i].filter fun j => r.table.entities[j]? = some x ∧ j ∈ r.waited) = [] := by
      simp [hnw]
    have still : (r.waited.filter fun j =>
        r.table.entities[j]? = some x ∧ j ∉ r.granted ++ [i] ∧ j ∉ r.left) =
        r.waited.filter fun j => r.table.entities[j]? = some x ∧ j ∉ r.granted ∧ j ∉ r.left := by
      apply List.filter_congr
      intro j hj
      simp [ne_of_waited j hj]
    rw [gone, still, List.append_nil]

/-- Joining the line of a held mutex: the call is logged at the end of the waiters. -/
theorem Fair.join (hf : r.Fair) (hi : r.table.stages[i]? = some (.cloned m))
    (hs : r'.table.stages = r.table.stages.set i (.queued m))
    (hent : r'.table.entities = r.table.entities)
    (hwaiters : ∀ k, (r'.table.mutexes k).waiters =
      if k = m then (r.table.mutexes m).waiters ++ [i] else (r.table.mutexes k).waiters)
    (hg : r'.granted = r.granted) (hw : r'.waited = r.waited ++ [i]) (hl : r'.left = r.left) :
    r'.Fair := by
  have stage := MutexTable.stage_of hs hi
  obtain ⟨hng, hnw, hnl⟩ := hf.unlogged i (.inr ⟨m, hi⟩)
  have ne_of_waited : ∀ j ∈ r.waited, j ≠ i := fun j hj hji => hnw (hji ▸ hj)
  have ne_of_granted : ∀ j ∈ r.granted, j ≠ i := fun j hj hji => hng (hji ▸ hj)
  refine ⟨?_, ?_, ?_, ?_, ?_⟩
  · rw [hw, List.nodup_append]
    refine ⟨hf.waited_nodup, List.nodup_singleton i, ?_⟩
    intro a ha b hb
    rw [List.eq_of_mem_singleton hb]
    exact ne_of_waited a ha
  · intro j hj
    rw [hg, hw, hl]
    by_cases hji : j = i
    · subst hji
      simp [stage] at hj
    · simp only [stage, hji, if_false] at hj
      simpa [hji] using hf.unlogged j hj
  · intro j
    rw [hg, hw, hl, stage]
    by_cases hji : j = i
    · subst hji
      simp [hng, hnl]
    · simpa [hji] using hf.queued j
  · intro k
    rw [hwaiters, hw, List.filter_append]
    have before : (r.waited.filter fun j => r'.table.stages[j]? = some (.queued k)) =
        r.waited.filter fun j => r.table.stages[j]? = some (.queued k) := by
      apply List.filter_congr
      intro j hj
      rw [stage, if_neg (ne_of_waited j hj)]
    rw [before, ← hf.order]
    by_cases hkm : k = m
    · subst hkm
      simp [stage]
    · simp [stage, hkm, Ne.symm hkm]
  · intro x
    simp only [hent, hg, hw, hl, List.filter_append]
    rw [hf.fifo x]
    have granted_same : (r.granted.filter fun j =>
        r.table.entities[j]? = some x ∧ j ∈ r.waited ++ [i]) =
        r.granted.filter fun j => r.table.entities[j]? = some x ∧ j ∈ r.waited := by
      apply List.filter_congr
      intro j hj
      simp [ne_of_granted j hj]
    rw [granted_same, List.append_assoc]
    congr 2
    simp [List.filter_cons, hng]

/-- Releasing a mutex to the first in line: that call is logged as getting it. -/
theorem Fair.handoff (hf : r.Fair) (h : r.table.Sound) (hi : r.table.stages[i]? = some (.holding m))
    (hwait : (r.table.mutexes m).waiters = w :: ws)
    (hs : r'.table.stages = (r.table.stages.set w (.holding m)).set i .unlocked)
    (hent : r'.table.entities = r.table.entities)
    (hwaiters : ∀ k, (r'.table.mutexes k).waiters =
      if k = m then ws else (r.table.mutexes k).waiters)
    (hg : r'.granted = r.granted ++ [w]) (hw : r'.waited = r.waited) (hl : r'.left = r.left) :
    r'.Fair := by
  have hqw : r.table.stages[w]? = some (.queued m) :=
    (h.line m w).1 (by rw [hwait]; exact List.mem_cons_self)
  have hwi : w ≠ i := by
    rintro rfl
    rw [hi] at hqw
    cases hqw
  have stage : ∀ j, r'.table.stages[j]? =
      if j = i then some .unlocked else if j = w then some (.holding m) else r.table.stages[j]? := by
    intro j
    have hs₁ : (r.table.setStage w (.holding m)).stages = r.table.stages.set w (.holding m) := rfl
    have hi₁ : (r.table.setStage w (.holding m)).stages[i]? = some (.holding m) := by
      rw [MutexTable.stage_of hs₁ hqw, if_neg (Ne.symm hwi), hi]
    rw [MutexTable.stage_of (t := r.table.setStage w (.holding m)) hs hi₁,
      MutexTable.stage_of hs₁ hqw]
  obtain ⟨hwl, hng, hnl⟩ := (hf.queued w).1 ⟨m, hqw⟩
  have hnd : w ∉ ws := (List.nodup_cons.1 (hwait ▸ h.line_nodup m)).1
  have hiq : ∀ k, r.table.stages[i]? ≠ some (.queued k) := by
    intro k hk
    rw [hi] at hk
    cases hk
  refine ⟨hw ▸ hf.waited_nodup, ?_, ?_, ?_, ?_⟩
  · intro j hj
    rw [hg, hw, hl]
    by_cases hji : j = i
    · subst hji
      simp [stage] at hj
    · by_cases hjw : j = w
      · subst hjw
        simp [stage, hji] at hj
      · simp only [stage, hji, hjw, if_false] at hj
        simpa [hjw] using hf.unlogged j hj
  · intro j
    rw [hg, hw, hl, stage]
    by_cases hji : j = i
    · subst hji
      simp only [if_true, Option.some.injEq, reduceCtorEq, exists_false, false_iff]
      intro hq
      obtain ⟨k, hk⟩ := (hf.queued j).2 ⟨hq.1, fun hg => hq.2.1 (List.mem_append_left _ hg), hq.2.2⟩
      exact hiq k hk
    · by_cases hjw : j = w
      · subst hjw
        simp [hji]
      · simpa [hji, hjw] using hf.queued j
  · intro k
    rw [hwaiters, hw]
    have moved : (r.waited.filter fun j => r'.table.stages[j]? = some (.queued k)) =
        (r.waited.filter fun j => r.table.stages[j]? = some (.queued k)).filter (· ≠ w) := by
      refine filter_eq_filter_ne (by simp [stage, hwi]) fun j hjw => ?_
      by_cases hji : j = i
      · subst hji
        simp [stage, hi]
      · simp [stage, hji, hjw]
    rw [moved, ← hf.order]
    by_cases hkm : k = m
    · subst hkm
      rw [hwait, if_pos rfl, List.filter_cons_of_neg (by simp)]
      exact (List.filter_eq_self.2 fun j hj => by simpa using fun hjw : j = w => hnd (hjw ▸ hj)).symm
    · rw [if_neg hkm, List.filter_eq_self.2]
      intro j hj
      have hq := (h.line k j).1 hj
      simpa using fun hjw : j = w => by rw [hjw, hqw] at hq; exact hkm (by cases hq; rfl)
  · intro x
    simp only [hent, hg, hw, hl, List.filter_append]
    rw [hf.fifo x, List.append_assoc]
    congr 1
    obtain ⟨y, hy⟩ := h.entity_of_stage hqw
    by_cases hxy : x = y
    · -- the first in line on `x` moves from the waiting calls to those served
      subst hxy
      have hfind := h.current w x _ m hy hqw rfl
      have served : ([w].filter fun j => r.table.entities[j]? = some x ∧ j ∈ r.waited) = [w] := by
        simp [hy, hwl]
      have rest : ws.filter (· ≠ w) = ws :=
        List.filter_eq_self.2 fun j hj => by simpa using fun hjw : j = w => hnd (hjw ▸ hj)
      have still : (r.waited.filter fun j =>
          r.table.entities[j]? = some x ∧ j ∉ r.granted ++ [w] ∧ j ∉ r.left) =
          (r.waited.filter fun j =>
            r.table.entities[j]? = some x ∧ j ∉ r.granted ∧ j ∉ r.left).filter (· ≠ w) :=
        filter_eq_filter_ne (by simp) fun j hjw => by simp [hjw]
      rw [hf.line_eq h hfind, hwait, still, hf.line_eq h hfind, hwait, served,
        List.filter_cons_of_neg (by simp), rest]
      rfl
    · have still : (r.waited.filter fun j =>
          r.table.entities[j]? = some x ∧ j ∉ r.granted ++ [w] ∧ j ∉ r.left) =
          r.waited.filter fun j => r.table.entities[j]? = some x ∧ j ∉ r.granted ∧ j ∉ r.left := by
        apply List.filter_congr
        intro j _
        by_cases hjw : j = w
        · subst hjw
          simp [hy, Ne.symm hxy]
        · simp [hjw]
      rw [still]
      simp [hy, Ne.symm hxy]

/-- Dropping a call in line: it is logged as leaving. -/
theorem Fair.leave (hf : r.Fair) (h : r.table.Sound) (hi : r.table.stages[i]? = some (.queued m))
    (hs : r'.table.stages = r.table.stages.set i .unlocked)
    (hent : r'.table.entities = r.table.entities)
    (hwaiters : ∀ k, (r'.table.mutexes k).waiters =
      if k = m then (r.table.mutexes m).waiters.erase i else (r.table.mutexes k).waiters)
    (hg : r'.granted = r.granted) (hw : r'.waited = r.waited) (hl : r'.left = r.left ++ [i]) :
    r'.Fair := by
  have stage := MutexTable.stage_of hs hi
  obtain ⟨hiw, hng, hnl⟩ := (hf.queued i).1 ⟨m, hi⟩
  have ne_of_granted : ∀ j ∈ r.granted, j ≠ i := fun j hj hji => hng (hji ▸ hj)
  refine ⟨hw ▸ hf.waited_nodup, ?_, ?_, ?_, ?_⟩
  · intro j hj
    rw [hg, hw, hl]
    by_cases hji : j = i
    · subst hji
      simp [stage] at hj
    · simp only [stage, hji, if_false] at hj
      simpa [hji] using hf.unlogged j hj
  · intro j
    rw [hg, hw, hl, stage]
    by_cases hji : j = i
    · subst hji
      simp
    · simpa [hji] using hf.queued j
  · intro k
    rw [hwaiters, hw]
    have moved : (r.waited.filter fun j => r'.table.stages[j]? = some (.queued k)) =
        (r.waited.filter fun j => r.table.stages[j]? = some (.queued k)).filter (· ≠ i) :=
      filter_eq_filter_ne (by simp [stage]) fun j hji => by simp [stage, hji]
    rw [moved, ← hf.order]
    by_cases hkm : k = m
    · subst hkm
      rw [if_pos rfl, (h.line_nodup k).erase_eq_filter]
      exact List.filter_congr fun j _ => Bool.eq_iff_iff.2 (by simp)
    · -- the call waited in another line
      rw [if_neg hkm, List.filter_eq_self.2]
      intro j hj
      have hq := (h.line k j).1 hj
      simpa using fun hji : j = i => by rw [hji, hi] at hq; exact hkm (by cases hq; rfl)
  · intro x
    simp only [hent, hg, hw, hl]
    have waited_out : (r.waited.filter fun j =>
        r.table.entities[j]? = some x ∧ j ∉ r.left ++ [i]) =
        (r.waited.filter fun j => r.table.entities[j]? = some x ∧ j ∉ r.left).filter (· ≠ i) :=
      filter_eq_filter_ne (by simp) fun j hji => by simp [hji]
    have line_out : (r.waited.filter fun j =>
        r.table.entities[j]? = some x ∧ j ∉ r.granted ∧ j ∉ r.left ++ [i]) =
        (r.waited.filter fun j =>
          r.table.entities[j]? = some x ∧ j ∉ r.granted ∧ j ∉ r.left).filter (· ≠ i) :=
      filter_eq_filter_ne (by simp) fun j hji => by simp [hji]
    have served : ((r.granted.filter fun j => r.table.entities[j]? = some x ∧ j ∈ r.waited).filter
        (· ≠ i)) = r.granted.filter fun j => r.table.entities[j]? = some x ∧ j ∈ r.waited :=
      List.filter_eq_self.2 fun j hj => by simpa using ne_of_granted j (List.mem_of_mem_filter hj)
    rw [waited_out, line_out, hf.fifo x, List.filter_append, served]

theorem step_table (r : LockHistory) (a : LockAct) : (r.step a).table = r.table.step a := rfl

/-- Every act keeps the logs fair to the table. -/
theorem Fair.step (hf : r.Fair) (h : r.table.Sound) (a : LockAct) : (r.step a).Fair := by
  have still : ∀ a, r.table.step a = r.table → grants r.table a = [] → joins r.table a = [] →
      leaves r.table a = [] → (r.step a).Fair := by
    intro a ht hg hw hl
    have same : r.step a = r := by
      cases r
      simp_all [LockHistory.step]
    rw [same]
    exact hf
  cases a with
  | advance i =>
    rcases hi : r.table.stages[i]? with _ | st
    · have he : r.table.entities[i]? = none := by
        rw [List.getElem?_eq_none_iff, ← h.length]
        exact List.getElem?_eq_none_iff.1 hi
      exact still _ (by simp [MutexTable.step, he, hi]) (by simp [grants, hi])
        (by simp [joins, hi]) rfl
    · obtain ⟨e, he⟩ := h.entity_of_stage hi
      cases st with
      | idle =>
        have ht : (r.step (.advance i)).table = r.table.enter i e := by
          simp [step_table, MutexTable.step, he, hi]
        exact hf.quiet hi (by rw [ht, MutexTable.enter_stages]) (by rw [ht, MutexTable.enter_entities])
          (fun k => by rw [ht, (h.enter_mutex i e k).2]) (by simp [LockHistory.step, grants, hi])
          (by simp [LockHistory.step, joins, hi]) (by simp [LockHistory.step, leaves])
          (by simp) (by simp) fun _ => hf.unlogged i (.inl hi)
      | cloned m =>
        have ht : (r.step (.advance i)).table = r.table.poll i m := by
          simp [step_table, MutexTable.step, hi]
        by_cases hx : (r.table.mutexes m).holder = none
        · refine hf.take hi (by rw [ht, MutexTable.poll_stages, hx]; rfl)
            (by rw [ht, MutexTable.poll_entities]) (fun k => ?_)
            (by simp [LockHistory.step, grants, hi, hx]) (by simp [LockHistory.step, joins, hi, hx])
            (by simp [LockHistory.step, leaves])
          rw [ht, MutexTable.poll_mutexes, hx]
          split <;> simp_all
        · refine hf.join hi (by rw [ht, MutexTable.poll_stages]; simp [hx])
            (by rw [ht, MutexTable.poll_entities]) (fun k => ?_)
            (by simp [LockHistory.step, grants, hi, hx]) (by simp [LockHistory.step, joins, hi, hx])
            (by simp [LockHistory.step, leaves])
          rw [ht, MutexTable.poll_mutexes]
          split <;> simp_all
      | queued m =>
        exact still _ (by simp [MutexTable.step, hi]) (by simp [grants, hi]) (by simp [joins, hi]) rfl
      | holding m =>
        have ht : (r.step (.advance i)).table = r.table.unlock i m := by
          simp [step_table, MutexTable.step, hi]
        rcases hx : (r.table.mutexes m).waiters with _ | ⟨w, ws⟩
        · rw [MutexTable.unlock_of_nil hx] at ht
          refine hf.quiet hi (by rw [ht]; rfl) (by rw [ht]; rfl) (fun k => ?_)
            (by simp [LockHistory.step, grants, hi, hx]) (by simp [LockHistory.step, joins, hi])
            (by simp [LockHistory.step, leaves]) (by simp) (by simp) (by simp)
          rw [ht]
          by_cases hk : k = m
          · subst hk
            simp [hx]
          · simp [hk]
        · rw [MutexTable.unlock_of_cons hx] at ht
          refine hf.handoff h hi hx (by rw [ht]; rfl) (by rw [ht]; rfl) (fun k => ?_)
            (by simp [LockHistory.step, grants, hi, hx]) (by simp [LockHistory.step, joins, hi])
            (by simp [LockHistory.step, leaves])
          rw [ht]
          by_cases hk : k = m <;> simp [hk]
      | unlocked =>
        have ht : (r.step (.advance i)).table = r.table.prune i e := by
          simp [step_table, MutexTable.step, he, hi]
        exact hf.quiet hi (by rw [ht, MutexTable.prune_stages]) (by rw [ht, MutexTable.prune_entities])
          (fun k => by rw [ht, (MutexTable.prune_mutex _ i e k).2])
          (by simp [LockHistory.step, grants, hi]) (by simp [LockHistory.step, joins, hi])
          (by simp [LockHistory.step, leaves]) (by simp) (by simp) (by simp)
      | returned =>
        exact still _ (by simp [MutexTable.step, he, hi]) (by simp [grants, hi])
          (by simp [joins, hi]) rfl
  | abandon i =>
    rcases hi : r.table.stages[i]? with _ | st
    · exact still _ (by simp [MutexTable.step, hi]) rfl rfl (by simp [leaves, hi])
    · cases st with
      | queued m =>
        have ht : (r.step (.abandon i)).table = r.table.cancel i m := by
          simp [step_table, MutexTable.step, hi]
        refine hf.leave h hi (by rw [ht]; rfl) (by rw [ht]; rfl) (fun k => ?_)
          (by simp [LockHistory.step, grants]) (by simp [LockHistory.step, joins])
          (by simp [LockHistory.step, leaves, hi])
        rw [ht]
        unfold MutexTable.cancel
        by_cases hk : k = m <;> simp [hk]
      | _ => exact still _ (by simp [MutexTable.step, hi]) rfl rfl (by simp [leaves, hi])

theorem Fair.run (hf : r.Fair) (h : r.table.Sound) (acts : List LockAct) : (r.run acts).Fair := by
  induction acts generalizing r with
  | nil => exact hf
  | cons a acts ih => exact ih (hf.step h a) (h.step a)

/-- The logs are fair to the table at every point of every schedule. -/
theorem fair_run (es : List String) (acts : List LockAct) : ((start es).run acts).Fair :=
  (fair_start es).run (MutexTable.sound_start es) acts

end LockHistory

/-- For every schedule of calls on the entity mutexes, from a table with no entry: every handle a
call has is on the mutex the table has for the call's entity, so no entity has two live mutexes;
of the calls on one entity at most one holds its mutex; a call in line waits behind a call on its
own entity; an entity has an entry while a call on it has a handle, and only while such a call or
one that let its lock go and has still to prune is there; the calls that waited for an entity's
lock and stayed in line got it in the order they began to wait; and once every call is idle or
done, the table is empty. -/
theorem entity_locks_exclusive_fifo_pruned (es : List String) (acts : List LockAct) :
    let r := (LockHistory.start es).run acts
    let t := (MutexTable.start es).run acts
    (∀ (i : Nat) (e : String) (st : LockStage) (m : Nat), t.entities[i]? = some e →
      t.stages[i]? = some st → st.handle = some m → t.lookup e = some m) ∧
    (∀ (i j : Nat) (e : String) (m m' : Nat), t.entities[i]? = some e → t.entities[j]? = some e →
      t.stages[i]? = some (.holding m) → t.stages[j]? = some (.holding m') → i = j) ∧
    (∀ (j : Nat) (e : String) (m : Nat), t.entities[j]? = some e →
      t.stages[j]? = some (.queued m) →
      ∃ i : Nat, t.entities[i]? = some e ∧ t.stages[i]? = some (.holding m)) ∧
    (∀ (e : String) (m : Nat), t.lookup e = some m → t.Pending e m) ∧
    (∀ e : String, (r.granted.filter fun j => t.entities[j]? = some e ∧ j ∈ r.waited) <+:
      r.waited.filter fun j => t.entities[j]? = some e ∧ j ∉ r.left) ∧
    ((∀ st ∈ t.stages, st = .idle ∨ st = .returned) → t.size = 0) := by
  intro r t
  have h : t.Sound := MutexTable.sound_run es acts
  have hf : r.Fair := LockHistory.fair_run es acts
  have ht : r.table = t := LockHistory.table_run _ acts
  refine ⟨h.current, fun _ _ _ _ _ => h.holding_unique, fun _ _ _ => h.queued_behind, h.live, ?_,
    h.size_eq_zero⟩
  intro e
  rw [← ht]
  exact ⟨_, (hf.fifo e).symm⟩

/- Two calls on one entity. The first drops its guard; the second takes a handle before the first
prunes, so the entry stays until the second is done with it. Once both are done, a new call on the
entity makes a new mutex. -/
example :
    let acts : List LockAct := [.advance 0, .advance 0, .advance 0, .advance 1, .advance 0]
    ((MutexTable.start ["e", "e", "e"]).run acts).size = 1 ∧
    ((MutexTable.start ["e", "e", "e"]).run (acts ++ [.advance 1, .advance 1, .advance 1])).size = 0 ∧
    ((MutexTable.start ["e", "e", "e"]).run
      (acts ++ [.advance 1, .advance 1, .advance 1, .advance 2])).lookup "e" = some 1 := by
  decide

end FlowRegistry
