import FlowRegistry.Proofs.Effects

/-!
# The history of the revision table

`Request.history` makes requests one after another and keeps each with the answer it got. What a
call does to the revision under one id depends only on the call, its answer and what was stored
there (`Answered.apply`, `Request.get?_call`). From that, over every run that starts from an
empty table:

* every stored revision is accounted for by the log (`Accounts`): it goes back to the last
  successful creation of its entity, no drop of the entity follows, its version is the number of
  successful updates made since, and its client the one claimed by the last of those calls;
* a revision disappears only through a successful drop of its entity (`Request.drops_of_vanish`);
* a call that fails leaves the table exactly as it was, whatever failed (`Request.atomic_call`).
-/

namespace FlowRegistry

/-- A request together with the answer it got. -/
structure Answered where
  request : Request
  answer : Outcome Reply

namespace Answered

/-- The call created the revision of `e`. -/
def creates (e : String) : Answered → Bool
  | ⟨.change c, .ok _⟩ => decide (c.kind = .create ∧ c.entityId = e)
  | _ => false

/-- The call moved the revision of `e` forward. -/
def updates (e : String) : Answered → Bool
  | ⟨.change c, .ok _⟩ => decide (c.kind = .update ∧ c.entityId = e)
  | _ => false

/-- The call dropped the revision of `e`, by a guarded deletion or by `delete_revision`. -/
def drops (e : String) : Answered → Bool
  | ⟨.change c, .ok _⟩ => decide (c.kind = .delete ∧ c.entityId = e)
  | ⟨.forget e', .ok _⟩ => decide (e' = e)
  | _ => false

/-- The client a change claims to act for. -/
def claimant? : Answered → Option String
  | ⟨.change c, _⟩ => some c.claimed.clientId
  | _ => none

/-- The call neither created, moved nor dropped the revision of `e`. -/
def Inert (e : String) (y : Answered) : Prop :=
  y.creates e = false ∧ y.updates e = false ∧ y.drops e = false

/-- What the table holds under `e` after the call, where it held `o` before. -/
def apply (y : Answered) (e : String) (o : Option Revision) : Option Revision :=
  match y with
  | ⟨.change c, .ok _⟩ => if e = c.entityId then c.after o else o
  | ⟨.forget e', .ok _⟩ => if e = e' then none else o
  | _ => o

variable {y : Answered} {e : String} {o : Option Revision}

theorem apply_of_inert (hy : y.Inert e) : y.apply e o = o := by
  obtain ⟨hc, hu, hd⟩ := hy
  rcases y with ⟨_ | e' | _ | _, _ | b⟩ <;> try rfl
  case change.ok c =>
    by_cases hx : e = c.entityId
    · subst hx
      simp only [apply, if_true, Change.after]
      rcases hk : c.kind <;> simp_all [creates, updates, drops]
    · simp [apply, hx]
  case forget.ok =>
    have hx : e ≠ e' := fun hx => by simp [drops, hx] at hd
    simp [apply, hx]

theorem apply_of_drops (hy : y.drops e = true) : y.apply e o = none := by
  rcases y with ⟨_ | e' | _ | _, _ | b⟩ <;> simp only [drops, Bool.false_eq_true] at hy
  case change.ok c =>
    simp only [decide_eq_true_eq] at hy
    simp [apply, Change.after, hy.1, hy.2]
  case forget.ok =>
    simp only [decide_eq_true_eq] at hy
    simp [apply, hy]

theorem apply_of_creates (hy : y.creates e = true) :
    ∃ k, y.claimant? = some k ∧ y.apply e o = some ⟨e, 0, k⟩ := by
  rcases y with ⟨_ | e' | _ | _, _ | b⟩ <;> simp only [creates, Bool.false_eq_true] at hy
  case change.ok c =>
    simp only [decide_eq_true_eq] at hy
    obtain ⟨hk, rfl⟩ := hy
    exact ⟨c.claimed.clientId, rfl, by simp [apply, Change.after, hk, Revision.initial]⟩

theorem apply_of_updates (hy : y.updates e = true) :
    ∃ k, y.claimant? = some k ∧ y.apply e o = o.map fun r => ⟨e, r.version + 1, k⟩ := by
  rcases y with ⟨_ | e' | _ | _, _ | b⟩ <;> simp only [updates, Bool.false_eq_true] at hy
  case change.ok c =>
    simp only [decide_eq_true_eq] at hy
    obtain ⟨hk, rfl⟩ := hy
    exact ⟨c.claimed.clientId, rfl, by simp [apply, Change.after, hk]⟩

/-- An update is neither a creation nor a drop. -/
theorem creates_drops_of_updates (hy : y.updates e = true) :
    y.creates e = false ∧ y.drops e = false := by
  rcases y with ⟨_ | e' | _ | _, _ | b⟩ <;> simp only [updates, Bool.false_eq_true] at hy
  case change.ok c =>
    simp only [decide_eq_true_eq] at hy
    simp [creates, drops, hy.1]

theorem inert_of_error (q : Request) (err : RegistryError) (e : String) :
    (⟨q, .error err⟩ : Answered).Inert e := by
  cases q <;> exact ⟨rfl, rfl, rfl⟩

end Answered

namespace Request

/-- The call's effect on the revision under any id is `Answered.apply` of the call and its
answer, whatever failures the store meets. -/
theorem get?_call (q : Request) (w : World) (e : String) :
    (runWith q.call w).2.revisions.get? e =
      (⟨q, (runWith q.call w).1⟩ : Answered).apply e (w.revisions.get? e) := by
  have hatomic := q.atomic_call w
  rcases hrun : runWith q.call w with ⟨_ | b, w'⟩
  · -- a failed call leaves the table as it was
    rw [hrun] at hatomic
    rw [hatomic _ rfl, Answered.apply_of_inert (Answered.inert_of_error q _ e)]
  · cases q with
    | change c =>
      have hset := (Change.call_ok hrun).2.2
      by_cases hx : e = c.entityId
      · subst hx
        simp [hset.get?_self, Answered.apply]
      · simp [hset.get?_ne hx, Answered.apply, hx]
    | forget e' =>
      have hset := forget_ok hrun
      by_cases hx : e = e'
      · subst hx
        simp [hset.get?_self, Answered.apply]
      · simp [hset.get?_ne hx, Answered.apply, hx]
    | get e' => simpa [hrun, Answered.apply] using congrArg (·.get? e) (keeps_get e' w)
    | probe e' => simpa [hrun, Answered.apply] using congrArg (·.get? e) (keeps_probe e' w)

/-- A stored revision disappears only through a call that succeeds in dropping it. -/
theorem drops_of_vanish {q : Request} {w : World} {e : String}
    (hsome : (w.revisions.get? e).isSome) (hnone : (runWith q.call w).2.revisions.get? e = none) :
    (⟨q, (runWith q.call w).1⟩ : Answered).drops e = true := by
  obtain ⟨r, hr⟩ := Option.isSome_iff_exists.1 hsome
  rw [get?_call, hr] at hnone
  generalize (⟨q, (runWith q.call w).1⟩ : Answered) = y at hnone ⊢
  cases hd : y.drops e
  · -- otherwise the call leaves some revision there
    cases hc : y.creates e
    · cases hu : y.updates e
      · rw [Answered.apply_of_inert ⟨hc, hu, hd⟩] at hnone
        cases hnone
      · obtain ⟨k, -, happly⟩ := Answered.apply_of_updates (o := some r) hu
        rw [happly] at hnone
        cases hnone
    · obtain ⟨k, -, happly⟩ := Answered.apply_of_creates (o := some r) hc
      rw [happly] at hnone
      cases hnone
  · rfl

/-- Makes the requests one after another from `w`: each with the answer it got, in order, and the
registry after the last. -/
def history : List Request → World → List Answered × World
  | [], w => ([], w)
  | q :: qs, w =>
    let rest := history qs (runWith q.call w).2
    (⟨q, (runWith q.call w).1⟩ :: rest.1, rest.2)

end Request

/-! ### Accounting for every stored revision -/

/-- The log accounts for the revision `r` stored under `e`: it has a last successful creation of
`e`, which no drop of `e` follows; `r` is at the number of successful updates of `e` made since,
and names the client claimed by the last of the creation and those updates. -/
def Accounts (log : List Answered) (e : String) (r : Revision) : Prop :=
  ∃ pre x post, log = pre ++ x :: post ∧ x.creates e = true ∧
    (∀ y ∈ post, y.creates e = false ∧ y.drops e = false) ∧
    r.version = (post.filter (·.updates e)).length ∧
    ((x :: post.filter (·.updates e)).getLast (List.cons_ne_nil _ _)).claimant? = some r.clientId

namespace Accounts

variable {log : List Answered} {e : String} {r : Revision} {y : Answered}

theorem created (log : List Answered) (hy : y.creates e = true) (hv : r.version = 0)
    (hk : y.claimant? = some r.clientId) : Accounts (log ++ [y]) e r :=
  ⟨log, y, [], rfl, hy, by simp, by simp [hv], by simpa using hk⟩

/-- A call that leaves `e` alone keeps its revision accounted for. -/
theorem other (h : Accounts log e r) (hy : y.Inert e) : Accounts (log ++ [y]) e r := by
  obtain ⟨pre, x, post, rfl, hx, hpost, hv, hk⟩ := h
  have hskip : (post ++ [y]).filter (·.updates e) = post.filter (·.updates e) := by
    simp [hy.2.1]
  refine ⟨pre, x, post ++ [y], by simp, hx, ?_, by rw [hskip]; exact hv, by simpa [hskip] using hk⟩
  intro z hz
  rcases List.mem_append.1 hz with hz | hz
  · exact hpost z hz
  · rw [List.mem_singleton.1 hz]
    exact ⟨hy.1, hy.2.2⟩

/-- An update of `e` moves its accounted revision forward by one, to the update's client. -/
theorem updated {r' : Revision} (h : Accounts log e r) (hy : y.updates e = true)
    (hv : r'.version = r.version + 1) (hk : y.claimant? = some r'.clientId) :
    Accounts (log ++ [y]) e r' := by
  obtain ⟨pre, x, post, rfl, hx, hpost, hv₀, hk₀⟩ := h
  have hgrow : (post ++ [y]).filter (·.updates e) = post.filter (·.updates e) ++ [y] := by
    simp [hy]
  refine ⟨pre, x, post ++ [y], by simp, hx, ?_, by simp [hgrow, hv, hv₀], ?_⟩
  · intro z hz
    rcases List.mem_append.1 hz with hz | hz
    · exact hpost z hz
    · rw [List.mem_singleton.1 hz]
      exact Answered.creates_drops_of_updates hy
  · have hlast : (x :: (post ++ [y]).filter (·.updates e)).getLast (List.cons_ne_nil _ _) = y := by
      rw [List.getLast_cons (by simp [hgrow])]
      simp [hgrow]
    rw [hlast]
    exact hk

end Accounts

/-- Every revision the table holds is accounted for by the log. -/
def Accounted (log : List Answered) (t : RevisionTable) : Prop :=
  ∀ e r, t.get? e = some r → Accounts log e r

theorem accounted_empty : Accounted [] RevisionTable.empty := by
  intro e r hr
  simp [RevisionTable.empty, RevisionTable.get?] at hr

/-- One call keeps every stored revision accounted for. -/
theorem Accounted.step {log : List Answered} {w : World} (h : Accounted log w.revisions)
    (q : Request) :
    Accounted (log ++ [⟨q, (runWith q.call w).1⟩]) (runWith q.call w).2.revisions := by
  intro e r hr
  rw [Request.get?_call] at hr
  generalize (⟨q, (runWith q.call w).1⟩ : Answered) = y at hr ⊢
  cases hc : y.creates e
  · cases hu : y.updates e
    · cases hd : y.drops e
      · rw [Answered.apply_of_inert ⟨hc, hu, hd⟩] at hr
        exact (h e r hr).other ⟨hc, hu, hd⟩
      · rw [Answered.apply_of_drops hd] at hr
        cases hr
    · obtain ⟨k, hk, happly⟩ := Answered.apply_of_updates (o := w.revisions.get? e) hu
      rw [happly] at hr
      obtain ⟨current, hcurrent, rfl⟩ := Option.map_eq_some_iff.1 hr
      exact (h e current hcurrent).updated hu rfl hk
  · obtain ⟨k, hk, happly⟩ := Answered.apply_of_creates (o := w.revisions.get? e) hc
    rw [happly] at hr
    cases hr
    exact Accounts.created log hc rfl hk

/-- A run keeps every stored revision accounted for, by the log before it and the run's own. -/
theorem Accounted.history {log : List Answered} {w : World} (h : Accounted log w.revisions)
    (qs : List Request) :
    Accounted (log ++ (Request.history qs w).1) (Request.history qs w).2.revisions := by
  induction qs generalizing log w with
  | nil => simpa [Request.history] using h
  | cons q qs ih =>
    have hrest := ih (h.step q)
    simpa [Request.history] using hrest

/-- How the revision table evolves over every run of the manager's calls from an empty table:
every stored revision is its own entity's and is accounted for by the log of calls; a creation
answers with the initial revision of its client and an update with the revision it stores; a
revision disappears only through a successful drop of its entity; and every call that fails
leaves the table exactly as it was. -/
theorem revision_store_evolution :
    (∀ (qs : List Request) (w : World), w.revisions = RevisionTable.empty → ∀ e r,
      (Request.history qs w).2.revisions.get? e = some r →
        r.entityId = e ∧ Accounts (Request.history qs w).1 e r) ∧
    (∀ (c : Change) (w w' : World) (b : Reply), c.kind = .create →
      runWith c.call w = (.ok b, w') →
        b = .changed (some ⟨c.entityId, 0, c.claimed.clientId⟩) 1 ∧
        w'.revisions.get? c.entityId = some ⟨c.entityId, 0, c.claimed.clientId⟩) ∧
    (∀ (c : Change) (w w' : World) (b : Reply), c.kind = .update →
      runWith c.call w = (.ok b, w') →
        ∃ r, b = .changed (some r) 1 ∧ w'.revisions.get? c.entityId = some r) ∧
    (∀ (q : Request) (w : World) (e : String), (w.revisions.get? e).isSome →
      (runWith q.call w).2.revisions.get? e = none →
        (⟨q, (runWith q.call w).1⟩ : Answered).drops e = true) ∧
    (∀ q : Request, Atomic World.revisions q.call) := by
  refine ⟨?_, ?_, ?_, fun _ _ _ => Request.drops_of_vanish, Request.atomic_call⟩
  · intro qs w hw e r hr
    have hstart : Accounted [] w.revisions := hw ▸ accounted_empty
    exact ⟨RevisionTable.get?_entityId hr, by simpa using hstart.history qs e r hr⟩
  · intro c w w' b hk hrun
    obtain ⟨-, rfl, hset⟩ := Change.call_ok hrun
    simp only [Change.after, hk] at hset ⊢
    exact ⟨rfl, hset.get?_self⟩
  · intro c w w' b hk hrun
    obtain ⟨⟨-, hfound⟩, rfl, hset⟩ := Change.call_ok hrun
    simp only [hk] at hfound
    obtain ⟨current, hstored, -⟩ := hfound
    simp only [Change.after, hk, hstored, Option.map_some] at hset ⊢
    exact ⟨_, rfl, hset.get?_self⟩

/-- A creation, an update whose closure fails, and an update by another client that claims the
same version: the table ends at version 1 of the last client, accounted for by the log. -/
theorem revision_store_evolution_create_then_updates :
    let w := World.fresh default ⟨0, 0, 0⟩
    let qs := [Request.change ⟨.create, "e", ⟨"e", 0, "a"⟩, none, false⟩,
      .change ⟨.update, "e", ⟨"e", 0, "b"⟩, some (.internal "closure failed"), false⟩,
      .change ⟨.update, "e", ⟨"e", 0, "c"⟩, none, false⟩]
    w.revisions = RevisionTable.empty ∧
      (Request.history qs w).2.revisions.get? "e" = some ⟨"e", 1, "c"⟩ ∧
      Accounts (Request.history qs w).1 "e" ⟨"e", 1, "c"⟩ := by
  intro w qs
  have hend : (Request.history qs w).2.revisions.get? "e" = some ⟨"e", 1, "c"⟩ := by decide
  exact ⟨rfl, hend, (revision_store_evolution.1 qs w rfl "e" _ hend).2⟩

end FlowRegistry
