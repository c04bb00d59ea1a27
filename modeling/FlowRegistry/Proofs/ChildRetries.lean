import FlowRegistry.Proofs.Retry
import FlowRegistry.Proofs.Guards
import FlowRegistry.Proofs.Keys

/-!
# A child's delete retries on every stale revision

The delete of a child of a bucket tries again whenever it fails with a stale revision, which calls
made one at a time meet only as a planned failure. A computation `Spends` when it fails with a
stale revision only by using up one of those the plan has left (`FaultPlan.staleLeft`), so the
delete settles once they end, and never does when one is planned on every purge.
-/

namespace FlowRegistry

/-! ### The stale failures of a plan -/

namespace Failure

/-- How many more calls a planned failure fails with a stale revision. -/
def staleCalls (f : Failure) : Nat := if f.error.retryable then f.left.getD 0 else 0

theorem staleCalls_le_left (f : Failure) : f.staleCalls ≤ f.left.getD 0 := by
  unfold staleCalls
  split <;> omega

/-- A failure that has failed one more call has one stale call fewer, when it is stale. -/
theorem staleCalls_of_left_succ {f : Failure} {n : Nat} (hleft : f.left = some (n + 1)) :
    staleCalls { f with left := some n } + (if f.error.retryable then 1 else 0) = f.staleCalls := by
  simp only [staleCalls, hleft, Option.getD_some]
  split <;> omega

end Failure

namespace FaultPlan

/-- How many more calls the failures of a list fail with a stale revision. -/
def staleCallsOf : List (Call × Failure) → Nat
  | [] => 0
  | cf :: rest => cf.2.staleCalls + staleCallsOf rest

/-- How many more calls the plan fails with a stale revision. -/
def staleLeft (p : FaultPlan) : Nat := staleCallsOf p.failures

/-- Every failure planned with a stale revision ends after some calls. -/
def StaleEnds (p : FaultPlan) : Prop :=
  ∀ cf ∈ p.failures, cf.2.error.retryable = true → cf.2.left ≠ none

instance : DecidablePred StaleEnds := fun p =>
  inferInstanceAs (Decidable (∀ cf ∈ p.failures, cf.2.error.retryable = true → cf.2.left ≠ none))

theorem staleCallsOf_filter_le (P : Call × Failure → Bool) :
    ∀ l : List (Call × Failure), staleCallsOf (l.filter P) ≤ staleCallsOf l
  | [] => le_refl _
  | cf :: rest => by
    have ih := staleCallsOf_filter_le P rest
    by_cases hP : P cf = true
    · simp only [List.filter_cons_of_pos hP, staleCallsOf]
      omega
    · simp only [List.filter_cons_of_neg hP, staleCallsOf]
      omega

/-- Dropping a failure and the others the filter drops takes at least its stale calls away. -/
theorem staleCallsOf_filter_add_le {P : Call × Failure → Bool} {x : Call × Failure}
    (hx : P x = false) : ∀ {l : List (Call × Failure)}, x ∈ l →
      x.2.staleCalls + staleCallsOf (l.filter P) ≤ staleCallsOf l
  | cf :: rest, hmem => by
    rcases List.mem_cons.1 hmem with rfl | hrest
    · have hle := staleCallsOf_filter_le P rest
      simp only [List.filter_cons_of_neg (by simp [hx] : ¬P x = true), staleCallsOf]
      omega
    · have ih := staleCallsOf_filter_add_le hx hrest
      by_cases hP : P cf = true
      · simp only [List.filter_cons_of_pos hP, staleCallsOf]
        omega
      · simp only [List.filter_cons_of_neg hP, staleCallsOf]
        omega

theorem staleLeft_le_pending (p : FaultPlan) : p.staleLeft ≤ p.pending := by
  unfold staleLeft pending
  induction p.failures with
  | nil => exact le_refl _
  | cons cf rest ih =>
    have hcf := cf.2.staleCalls_le_left
    simp only [staleCallsOf, List.map_cons, List.foldr_cons] at ih ⊢
    omega

/-- A call through the plan keeps its stale failures ending, adds none, and meets a stale
revision only by using one up. -/
theorem next_spends {p : FaultPlan} (h : p.StaleEnds) (c : Call) :
    (p.next c).2.StaleEnds ∧ (p.next c).2.staleLeft ≤ p.staleLeft ∧
      ∀ e, (p.next c).1 = some e → e.retryable = true → (p.next c).2.staleLeft < p.staleLeft := by
  unfold next
  split
  · exact ⟨h, le_refl _, fun _ he => by cases he⟩
  · next c' f hfind =>
    have hmem := List.mem_of_find?_eq_some hfind
    have hc : (c' != c) = false := by simpa using List.find?_some hfind
    have hdrop := staleCallsOf_filter_add_le (P := (·.1 != c)) hc hmem
    have hkept : ∀ cf ∈ p.failures.filter (·.1 != c), cf ∈ p.failures := fun _ h' =>
      (List.mem_filter.1 h').1
    split
    · next hleft =>
      refine ⟨h, le_refl _, fun e he hr => ?_⟩
      cases he
      exact absurd hleft (h _ hmem hr)
    · refine ⟨fun cf hcf => h cf (hkept cf hcf), ?_, fun _ he => by cases he⟩
      exact staleCallsOf_filter_le _ _
    · next n hleft =>
      have hlower := Failure.staleCalls_of_left_succ hleft
      refine ⟨?_, ?_, fun e he hr => ?_⟩
      · intro cf hcf
        rcases List.mem_cons.1 hcf with rfl | hother
        · simp
        · exact h cf (hkept cf hother)
      · simp only [staleLeft, staleCallsOf] at hdrop ⊢
        split at hlower <;> omega
      · cases he
        simp only [staleLeft, staleCallsOf] at hdrop ⊢
        simp only [hr, if_true] at hlower
        omega

@[simp] theorem staleLeft_tally (p : FaultPlan) (c : Call) : (p.tally c).staleLeft = p.staleLeft :=
  rfl

@[simp] theorem staleEnds_tally (p : FaultPlan) (c : Call) : (p.tally c).StaleEnds ↔ p.StaleEnds :=
  Iff.rfl

theorem dequeue_failures (p : FaultPlan) (m : String) : (p.dequeue m).2.failures = p.failures := by
  unfold dequeue
  split <;> rfl

end FaultPlan

/-! ### Computations that spend the stale failures -/

section Spends

variable {α β : Type} {w : World}

/-- What a run from `w` did to the stale failures of the plan: they still end, none were added,
and a stale outcome used one up. -/
structure Spent (w : World) (r : Outcome α × World) : Prop where
  ends : r.2.faults.StaleEnds
  le : r.2.faults.staleLeft ≤ w.faults.staleLeft
  lt : ∀ e, r.1 = .error e → e.retryable = true → r.2.faults.staleLeft < w.faults.staleLeft

/-- Run from a plan whose stale failures end, `m` spends them. -/
def Spends (m : Registry α) : Prop := ∀ w : World, w.faults.StaleEnds → Spent w (runWith m w)

namespace Spent

/-- A run that leaves the planned failures as they were and fails with no stale revision. -/
theorem of_failures (h : w.faults.StaleEnds) {o : Outcome α} {w' : World}
    (hf : w'.faults.failures = w.faults.failures) (ho : ∀ e, o = .error e → e.retryable = false) :
    Spent w (o, w') where
  ends := by
    unfold FaultPlan.StaleEnds
    rw [hf]
    exact h
  le := by
    unfold FaultPlan.staleLeft
    rw [hf]
  lt := fun e he hr => by simp [ho e he] at hr

/-- Only whether a run failed, and with what, matters. -/
theorem of_error {e : RegistryError} {w₁ : World} (h : Spent w ((.error e : Outcome α), w₁)) :
    Spent w ((.error e : Outcome β), w₁) :=
  ⟨h.ends, h.le, fun e' he hr => h.lt e' (by cases he; rfl) hr⟩

theorem after {o : Outcome α} {w₁ : World} {r : Outcome β × World} (h₁ : Spent w (o, w₁))
    (h₂ : Spent w₁ r) : Spent w r :=
  ⟨h₂.ends, h₂.le.trans h₁.le, fun e he hr => (h₂.lt e he hr).trans_le h₁.le⟩

theorem bind {m : Registry α} {f : α → Registry β} (hm : Spent w (runWith m w))
    (hf : ∀ a w₁, runWith m w = (.ok a, w₁) → w₁.faults.StaleEnds → Spent w₁ (runWith (f a) w₁)) :
    Spent w (runWith (m >>= f) w) := by
  rw [runWith_bind]
  rcases hr : runWith m w with ⟨err | a, w₁⟩
  · rw [hr] at hm
    exact hm.of_error
  · rw [hr] at hm
    exact hm.after (hf a w₁ hr hm.ends)

/-- A handler either spends or throws the error it was given again. -/
theorem tryCatch {m : Registry α} {h : RegistryError → Registry α} (hm : Spent w (runWith m w))
    (hh : ∀ e w₁, runWith m w = (.error e, w₁) → w₁.faults.StaleEnds →
      Spent w₁ (runWith (h e) w₁) ∨ runWith (h e) w₁ = (.error e, w₁)) :
    Spent w (runWith (tryCatch m h) w) := by
  rw [runWith_tryCatch]
  rcases hr : runWith m w with ⟨err | a, w₁⟩
  · rw [hr] at hm
    show Spent w (runWith (h err) w₁)
    rcases hh err w₁ hr hm.ends with hspent | hrethrow
    · exact hm.after hspent
    · rw [hrethrow]
      exact hm
  · rw [hr] at hm
    exact hm

end Spent

/-- A call through the plan answering `o` from a registry with the plan after the call spends,
when a stale answer is the planned failure. -/
theorem World.spent_planned (h : w.faults.StaleEnds) (c : Call) {o : Outcome α} {w' : World}
    (hw' : w'.faults = (w.planned c).2)
    (ho : ∀ e, o = .error e → e.retryable = true → (w.planned c).1 = some e) : Spent w (o, w') := by
  obtain ⟨hends, hle, hlt⟩ := FaultPlan.next_spends ((FaultPlan.staleEnds_tally _ c).2 h) c
  refine ⟨?_, ?_, fun e he hr => ?_⟩
  · rw [hw']
    exact hends
  · rw [hw']
    exact hle
  · rw [hw']
    exact hlt e (ho e he hr) hr

namespace Spends

theorem pure' (a : α) : Spends (pure a : Registry α) := fun _ h =>
  Spent.of_failures h rfl fun _ he => by cases he

/-- A computation that keeps the planned failures and fails with no stale revision spends. -/
theorem of_failures {m : Registry α} (hf : ∀ w, (runWith m w).2.faults.failures = w.faults.failures)
    (ho : ∀ w e, (runWith m w).1 = .error e → e.retryable = false) : Spends m := fun w h =>
  Spent.of_failures h (hf w) (ho w)

theorem bind {m : Registry α} {f : α → Registry β} (hm : Spends m) (hf : ∀ a, Spends (f a)) :
    Spends (m >>= f) := fun w h =>
  (hm w h).bind fun a w₁ _ hends => hf a w₁ hends

theorem map {m : Registry α} (hm : Spends m) (f : α → β) : Spends (f <$> m) := fun w h => by
  rw [runWith_map]
  obtain ⟨hends, hle, hlt⟩ := hm w h
  refine ⟨hends, hle, fun e he => hlt e ?_⟩
  rcases hr : (runWith m w).1 with err | a <;> rw [hr] at he
  · simpa [Except.map] using he
  · cases he

end Spends

end Spends

/-! ### The calls of the stores spend -/

namespace World

theorem spends_guard (c : Call) : Spends (guard c) := fun w h => by
  rw [runWith_guard]
  refine spent_planned h c rfl fun e he _ => ?_
  rcases hp : (w.planned c).1 with _ | err <;> rw [hp] at he
  · cases he
  · cases he
    rfl

theorem spends_enterMetadata (m : String) : Spends (enterMetadata m) := fun w h => by
  have hdq : Spent w ((Except.ok () : Outcome Unit), { w with faults := (w.faults.dequeue m).2 }) :=
    Spent.of_failures h (FaultPlan.dequeue_failures _ _) fun _ he => by cases he
  rw [runWith_enterMetadata_eq]
  split
  · exact hdq.after (spends_guard _ _ hdq.ends)
  · next f _ =>
    split
    · next c _ =>
      have hins : Spent w ((Except.ok () : Outcome Unit),
          { w with faults := (w.faults.dequeue m).2, catalog := c }) :=
        Spent.of_failures h (FaultPlan.dequeue_failures _ _) fun _ he => by cases he
      exact hins.after (spends_guard _ _ hins.ends)
    · next err hinsert =>
      refine Spent.of_failures h (FaultPlan.dequeue_failures _ _) fun e he => ?_
      cases he
      unfold Catalog.insertFlow at hinsert
      split at hinsert
      · cases hinsert
        rfl
      · split at hinsert
        · cases hinsert
          rfl
        · cases hinsert

theorem spends_changeCatalog {α : Type} (m : String) (f : Catalog → α × Catalog) :
    Spends (changeCatalog m f) :=
  (spends_enterMetadata m).bind fun _ =>
    Spends.of_failures (fun _ => rfl) fun _ _ he => by cases he

theorem spends_getRevision (e : String) : Spends (getRevision e) :=
  (spends_guard _).bind fun _ => Spends.of_failures (fun _ => rfl) fun _ _ he => by cases he

theorem spends_deleteRevision (e : String) : Spends (deleteRevision e) :=
  (spends_guard _).bind fun _ => Spends.of_failures (fun _ => rfl) fun _ _ he => by cases he

/-- The content of an entity named by a UUID is deleted whatever the store, so only the plan can
fail the call. -/
theorem spends_deleteAllContent (u : Uuid) : Spends (deleteAllContent u.text) :=
  (spends_guard _).bind fun _ => Spends.of_failures
    (fun w => by simp only [runWith_bind, runWith_get, ContentStore.deleteAll_text, runWith_lift,
      runWith_modify])
    fun w e he => by
      simp only [runWith_bind, runWith_get, ContentStore.deleteAll_text, runWith_lift,
        runWith_modify, reduceCtorEq] at he

end World

namespace Manager

theorem spends_getRevision (e : String) : Spends (getRevision e) :=
  (World.spends_getRevision e).bind fun o => by
    cases o with
    | none => exact fun w h => Spent.of_failures h rfl fun _ he => by cases he; rfl
    | some r => exact Spends.pure' r

/-- A delete under the stored revision spends: the comparison of the claim passes, so a stale
revision can only come from a planned failure. -/
theorem spent_deleteWith {α : Type} {e : String} {claimed : Revision} {deletion : Registry α}
    (hd : Spends deletion) {w : World} (hends : w.faults.StaleEnds)
    (hcur : w.revisions.get? e = some claimed) :
    Spent w (runWith (deleteWith e claimed deletion) w) := by
  rw [deleteWith_eq, runWith_checked, hcur]
  by_cases hentity : claimed.entityId = e
  · rw [if_pos hentity]
    rcases hplanned : (w.planned (World.revisionCall "get_revision")).1 with _ | err
    · have hread : Spent w ((Except.ok () : Outcome Unit), w.pass (World.revisionCall "get_revision")) :=
        World.spent_planned hends _ rfl fun _ he => by cases he
      have hrest := (hd.bind fun a => (World.spends_deleteRevision e).bind fun _ => Spends.pure' a)
        _ hread.ends
      simpa using hread.after hrest
    · exact World.spent_planned hends _ rfl fun _ he _ => by
        cases he
        exact hplanned
  · rw [if_neg hentity]
    exact Spent.of_failures hends rfl fun _ he => by
      cases he
      rfl

end Manager

namespace Coordinator

theorem spends_purgeFlowContent (id : Uuid) : Spends (purgeFlowContent id) :=
  (World.spends_deleteAllContent id).bind fun _ =>
    (World.spends_changeCatalog _ _).bind fun _ => Spends.pure' ()

theorem spends_purgeBundleContent (id : Uuid) : Spends (purgeBundleContent id) :=
  (World.spends_deleteAllContent id).bind fun _ =>
    (World.spends_changeCatalog _ _).bind fun _ => Spends.pure' ()

theorem spends_currentRevision (e : String) : Spends (currentRevision? e) := fun w h =>
  Spent.tryCatch ((Manager.spends_getRevision e).map some w h) fun err w₁ _ hends => by
    split
    · exact .inl (Spends.pure' none w₁ hends)
    · exact .inr rfl

/-- The revision `currentRevision?` answers with is the one stored when it returns. -/
theorem stored_of_currentRevision {e : String} {w w₁ : World} {cur : Revision}
    (h : runWith (currentRevision? e) w = (.ok (some cur), w₁)) : w₁.revisions.get? e = some cur := by
  unfold currentRevision? at h
  rw [runWith_tryCatch, runWith_map] at h
  rcases hget : runWith (Manager.getRevision e) w with ⟨err | r, w'⟩ <;> rw [hget] at h
  · -- the handler answers with no revision or fails
    simp only [Except.map] at h
    split at h <;> simp at h
  · obtain ⟨hstored, hkeep⟩ := Manager.getRevision_ok hget
    simp only [Except.map, Prod.mk.injEq, Except.ok.injEq, Option.some.injEq] at h
    obtain ⟨rfl, rfl⟩ := h
    rw [hkeep]
    exact hstored

/-! ### The loop of a child's delete -/

/-- One try of a child's delete: read the revision; with none, purge, take the lock and drop
the revision; with one, take the lock, delete under the revision, and on a stale revision try
again. The lock of the bucket's own id never comes. -/
theorem runWith_deleteChildWithin_succ (held e : String) (purge : Registry Unit) (fuel : Nat)
    (w : World) :
    runWith (deleteChildWithin held e purge (fuel + 1)) w =
      match runWith (currentRevision? e) w with
      | (.error err, w₁) => (.error err, w₁)
      | (.ok none, w₁) => runWith (do purge; lockChild held e; Manager.delete e) w₁
      | (.ok (some cur), w₁) =>
        if e = held then (.error (.deadlock e), w₁) else
        match runWith (Manager.deleteWith e cur purge) w₁ with
        | (.ok u, w₂) => (.ok u, w₂)
        | (.error err, w₂) =>
          if err.retryable then runWith (deleteChildWithin held e purge fuel) w₂
          else (.error err, w₂) := by
  simp only [deleteChildWithin]
  rw [runWith_bind]
  rcases runWith (currentRevision? e) w with ⟨err | _ | cur, w₁⟩
  · rfl
  · rfl
  · dsimp only
    rw [runWith_bind]
    by_cases hheld : e = held
    · simp only [lockChild, if_pos hheld, runWith_throw]
    · simp only [lockChild, if_neg hheld, runWith_pure]
      rw [runWith_tryCatch]
      rcases runWith (Manager.deleteWith e cur purge) w₁ with ⟨err | u, w₂⟩
      · cases err <;> rfl
      · rfl

theorem runWith_deleteChild (held e : String) (purge : Registry Unit) (w : World) :
    runWith (deleteChild held e purge) w =
      runWith (deleteChildWithin held e purge (w.faults.pending + w.faults.queuedFlows + 1)) w :=
  rfl

/-- Tries beyond the stale failures left change nothing. The induction is on the tries allowed: a
try that fails with a stale revision has used one up, so the stale failures left stay below the
tries left. -/
theorem deleteChildWithin_add {held e : String} {purge : Registry Unit} (hp : Spends purge) :
    ∀ n k (w : World), w.faults.StaleEnds → w.faults.staleLeft < n →
      runWith (deleteChildWithin held e purge (n + k)) w =
        runWith (deleteChildWithin held e purge n) w
  | 0, _, _, _, hn => absurd hn (Nat.not_lt_zero _)
  | n + 1, k, w, hends, hn => by
    rw [Nat.add_right_comm, runWith_deleteChildWithin_succ, runWith_deleteChildWithin_succ]
    rcases hcur : runWith (currentRevision? e) w with ⟨err | _ | cur, w₁⟩
    · rfl
    · rfl
    · dsimp only
      by_cases hheld : e = held
      · simp only [if_pos hheld]
      simp only [if_neg hheld]
      have hread := spends_currentRevision e w hends
      rw [hcur] at hread
      have hstored := stored_of_currentRevision hcur
      rcases hdel : runWith (Manager.deleteWith e cur purge) w₁ with ⟨err | u, w₂⟩
      · dsimp only
        by_cases hr : err.retryable
        · -- the try used up a stale failure, so the next one starts with fewer than `n` left
          have htry := Manager.spent_deleteWith hp hread.ends hstored
          rw [hdel] at htry
          have hfewer : w₂.faults.staleLeft < w₁.faults.staleLeft := htry.lt err rfl hr
          have hle : w₁.faults.staleLeft ≤ w.faults.staleLeft := hread.le
          rw [if_pos hr, if_pos hr]
          exact deleteChildWithin_add hp n k w₂ htry.ends (by omega)
        · rw [if_neg hr, if_neg hr]
      · rfl

/-- A child's delete retries on a stale revision whichever call gave it, and with every stale
failure planned to end it ends: every number of tries beyond the stale failures left gives the
answer `deleteChild` gives. The purges of a flow's and of a bundle's content spend
(`spends_purgeFlowContent`, `spends_purgeBundleContent`). -/
theorem deleteChild_settles_after_stale_failures (held e : String) {purge : Registry Unit}
    (hp : Spends purge) (w : World) (hends : w.faults.StaleEnds) (n : Nat)
    (hn : w.faults.staleLeft < n) :
    runWith (deleteChildWithin held e purge n) w = runWith (deleteChild held e purge) w := by
  have hpending := w.faults.staleLeft_le_pending
  obtain ⟨k, rfl⟩ : ∃ k, n = w.faults.staleLeft + 1 + k := ⟨n - (w.faults.staleLeft + 1), by omega⟩
  obtain ⟨j, hj⟩ : ∃ j, w.faults.pending + w.faults.queuedFlows + 1 = w.faults.staleLeft + 1 + j :=
    ⟨w.faults.pending + w.faults.queuedFlows - w.faults.staleLeft, by omega⟩
  calc runWith (deleteChildWithin held e purge (w.faults.staleLeft + 1 + k)) w
      = runWith (deleteChildWithin held e purge (w.faults.staleLeft + 1)) w :=
        deleteChildWithin_add hp _ k w hends (Nat.lt_succ_self _)
    _ = runWith (deleteChild held e purge) w := by
        rw [runWith_deleteChild, hj, deleteChildWithin_add hp _ j w hends (Nat.lt_succ_self _)]

theorem deleteChild_settles_after_one_stale_purge :
    let t : Time.Instant := ⟨0, 0, 0⟩
    let b : Uuid := ⟨⟨0xb1, by decide⟩⟩
    let f : Uuid := ⟨⟨0xf1, by decide⟩⟩
    let w₁ := (runWith (createBucket ⟨b, "Team", none, false, false⟩ ⟨"", 0, "client"⟩ "user")
      (World.fresh default t)).2
    let w₂ := (runWith (createFlow ⟨f, b, "Flow", none⟩ ⟨"", 0, "client"⟩ "user") w₁).2
    let purgeCall := World.contentCall "delete_all_content"
    let w := { w₂ with faults := w₂.faults.plan purgeCall ⟨some 1, .staleRevision f.text 0 1⟩ }
    Spends (purgeFlowContent f) ∧ w.faults.StaleEnds ∧ w.faults.staleLeft < 2 ∧
      runWith (deleteChildWithin b.text f.text (purgeFlowContent f) 2) w =
        runWith (deleteChild b.text f.text (purgeFlowContent f)) w := by
  intro t b f w₁ w₂ purgeCall w
  have hends : w.faults.StaleEnds := by decide +kernel
  have hleft : w.faults.staleLeft < 2 := by decide +kernel
  exact ⟨spends_purgeFlowContent f, hends, hleft,
    deleteChild_settles_after_stale_failures b.text f.text (spends_purgeFlowContent f) w hends 2
      hleft⟩

/-- A stale revision met once by the purge of a flow's content makes the delete of the flow's
bucket read the flow's revision again and purge the flow a second time; the bucket's delete then
succeeds. -/
theorem bucket_delete_retries_after_stale_purge :
    let t : Time.Instant := ⟨0, 0, 0⟩
    let b : Uuid := ⟨⟨0xb1, by decide⟩⟩
    let f : Uuid := ⟨⟨0xf1, by decide⟩⟩
    let w₁ := (runWith (createBucket ⟨b, "Team", none, false, false⟩ ⟨"", 0, "client"⟩ "user")
      (World.fresh default t)).2
    let w₂ := (runWith (createFlow ⟨f, b, "Flow", none⟩ ⟨"", 0, "client"⟩ "user") w₁).2
    let purgeCall := World.contentCall "delete_all_content"
    let w := { w₂ with faults := w₂.faults.plan purgeCall ⟨some 1, .staleRevision f.text 0 1⟩ }
    (runWith (deleteBucket b ⟨b.text, 0, "c1"⟩) w).1 = .ok (some ⟨b, "Team", none, t, false, false⟩) ∧
      (runWith (deleteBucket b ⟨b.text, 0, "c1"⟩) w).2.faults.count purgeCall = 2 := by
  intro t b f w₁ w₂ purgeCall w
  exact ⟨by decide +kernel, by decide +kernel⟩

/-! ### A stale failure that never ends -/

section Endless

variable {w : World} {id : Uuid} {cur : Revision} {stale : RegistryError} {held : String}

/-- Every call of the content store's `delete_all_content` fails with the stale revision `stale`,
the reads of revisions go through, and the flow `id` is at a revision of its own. -/
structure PurgeStuck (w : World) (id : Uuid) (cur : Revision) (stale : RegistryError) : Prop where
  retryable : stale.retryable = true
  endless : w.failureFor (World.contentCall "delete_all_content") = some ⟨none, stale⟩
  reads : w.Lets (World.revisionCall "get_revision")
  stored : w.revisions.get? id.text = some cur
  own : cur.entityId = id.text

theorem runWith_currentRevision_of_lets {e : String} (hlets : w.Lets (World.revisionCall "get_revision"))
    (hcur : w.revisions.get? e = some cur) :
    runWith (currentRevision? e) w = (.ok (some cur), w.pass (World.revisionCall "get_revision")) := by
  unfold currentRevision?
  rw [runWith_tryCatch, runWith_map, Manager.runWith_getRevision, hlets, hcur]
  rfl

/-- The registry after one try: two reads of the revision and the purge's failed call. -/
def PurgeStuck.next (w : World) : World :=
  ((w.pass (World.revisionCall "get_revision")).pass (World.revisionCall "get_revision")).pass
    (World.contentCall "delete_all_content")

theorem PurgeStuck.planned (h : PurgeStuck w id cur stale) :
    (((w.pass (World.revisionCall "get_revision")).pass (World.revisionCall "get_revision")).planned
      (World.contentCall "delete_all_content")).1 = some stale := by
  have hne : World.revisionCall "get_revision" ≠ World.contentCall "delete_all_content" := by decide
  rw [World.planned_fst, World.failureFor_pass_of_ne hne, World.failureFor_pass_of_ne hne, h.endless]
  rfl

/-- A try leaves the purge stuck as it found it. -/
theorem PurgeStuck.pass (h : PurgeStuck w id cur stale) : PurgeStuck (PurgeStuck.next w) id cur stale where
  retryable := h.retryable
  endless := by
    have hne : World.revisionCall "get_revision" ≠ World.contentCall "delete_all_content" := by decide
    rw [PurgeStuck.next, World.failureFor_pass_self, World.failureFor_pass_of_ne hne,
      World.failureFor_pass_of_ne hne, h.endless]
  reads := (World.lets_pass_of_ne (by decide) _).2 (World.lets_pass_self (World.lets_pass_self h.reads))
  stored := h.stored
  own := h.own

/-- A try whose purge fails with the stale revision starts the next try. -/
theorem runWith_deleteChildWithin_of_stuck (h : PurgeStuck w id cur stale) (hheld : id.text ≠ held)
    (fuel : Nat) :
    runWith (deleteChildWithin held id.text (purgeFlowContent id) (fuel + 1)) w =
      runWith (deleteChildWithin held id.text (purgeFlowContent id) fuel) (PurgeStuck.next w) := by
  have hstored : (w.pass (World.revisionCall "get_revision")).revisions.get? id.text = some cur :=
    h.stored
  have hchecks : Manager.ChecksPass (w.pass (World.revisionCall "get_revision")) id.text cur :=
    ⟨h.own, World.lets_pass_self h.reads, cur, hstored, rfl⟩
  have hpurge : runWith (purgeFlowContent id)
      ((w.pass (World.revisionCall "get_revision")).pass (World.revisionCall "get_revision")) =
      (.error stale, PurgeStuck.next w) := by
    unfold purgeFlowContent World.deleteAllContent
    rw [runWith_bind, World.runWith_guard_bind, h.planned]
    rfl
  rw [runWith_deleteChildWithin_succ, runWith_currentRevision_of_lets h.reads h.stored]
  dsimp only
  rw [if_neg hheld, Manager.deleteWith_eq, Manager.runWith_checked_of_pass _ hstored hchecks,
    runWith_bind_of_error hpurge]
  exact if_pos h.retryable

/-- With a stale failure planned on every call of `delete_all_content`, every try of a flow's delete
fails on its purge and leads to the next: no number of tries lets the delete answer. -/
theorem deleteChildWithin_runs_out_of_tries (h : PurgeStuck w id cur stale)
    (hheld : id.text ≠ held) (n : Nat) :
    (runWith (deleteChildWithin held id.text (purgeFlowContent id) n) w).1 =
      .error (.internal s!"the revision of {id.text} kept moving while it was deleted") := by
  induction n generalizing w with
  | zero => rfl
  | succ n ih =>
    rw [runWith_deleteChildWithin_of_stuck h hheld]
    exact ih h.pass

theorem deleteChildWithin_runs_out_of_tries_of_endless_stale_purge :
    let t : Time.Instant := ⟨0, 0, 0⟩
    let b : Uuid := ⟨⟨0xb1, by decide⟩⟩
    let f : Uuid := ⟨⟨0xf1, by decide⟩⟩
    let w₁ := (runWith (createBucket ⟨b, "Team", none, false, false⟩ ⟨"", 0, "client"⟩ "user")
      (World.fresh default t)).2
    let w₂ := (runWith (createFlow ⟨f, b, "Flow", none⟩ ⟨"", 0, "client"⟩ "user") w₁).2
    let stale : RegistryError := .staleRevision f.text 0 1
    let purgeCall := World.contentCall "delete_all_content"
    let w := { w₂ with faults := w₂.faults.plan purgeCall ⟨none, stale⟩ }
    PurgeStuck w f ⟨f.text, 0, "client"⟩ stale ∧ f.text ≠ b.text ∧
      ∀ n, (runWith (deleteChildWithin b.text f.text (purgeFlowContent f) n) w).1 =
        .error (.internal s!"the revision of {f.text} kept moving while it was deleted") := by
  intro t b f w₁ w₂ stale purgeCall w
  have h : PurgeStuck w f ⟨f.text, 0, "client"⟩ stale :=
    ⟨rfl, by decide +kernel, by decide +kernel, by decide +kernel, rfl⟩
  have hheld : f.text ≠ b.text := by decide +kernel
  exact ⟨h, hheld, deleteChildWithin_runs_out_of_tries h hheld⟩

end Endless

end Coordinator

end FlowRegistry
