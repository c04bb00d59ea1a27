import FlowRegistry.Proofs.Stores
import FlowRegistry.Proofs.Run

/-!
# Frames of store calls, and failures that leave no trace

A change of the registry is a sequence of store calls, each of which may meet a planned failure.
Whether a failed change can be taken back depends on a few calls only: the write of the revision
store after the change, the clean-up calls, and the read of the content to put back. This module
follows the plan of those calls through the ones in between.

* A calm registry has no flow queued to appear on a metadata call (`World.Calm`); every call of
  the catalog is then its own operation behind the plan, as the run equations of the first part
  say. `World.failureFor` is the failure planned for one call, and what the next call of it meets
  depends on that alone (`World.planned_fst`); a call of another method leaves it as it was.
* `Frame cs v w w'` says that from `w` to `w'` the view `v`, the queued flows and the failures
  planned for the calls `cs` stayed as they were, and `Within cs v m` that every run of `m` from a
  calm registry keeps such a frame. Reads keep the stores (`World.stores`), writes the revisions.
* `AtomicAt m w` says that `m`, run at `w`, fails only by a panic or with the stores as it found
  them. It passes through reads (`AtomicAt.bind_within`) and through a step that can only panic
  (`AtomicAt.bind_of_panics`).
-/

namespace FlowRegistry

/-- Whether an outcome is the failure `e`. -/
def Outcome.failsWith {α : Type} (o : Outcome α) (e : RegistryError) : Bool :=
  match o with
  | .error e' => e' == e
  | .ok _ => false

theorem Outcome.eq_error_of_failsWith {α : Type} {o : Outcome α} {e : RegistryError}
    (h : o.failsWith e = true) : o = .error e := by
  rcases o with e' | a
  · rw [beq_iff_eq.1 h]
  · cases h

namespace World

/-! ### The plan of a calm registry -/

/-- No flow waits to appear in the catalog on a metadata call. -/
def Calm (w : World) : Prop := ∀ q ∈ w.faults.queued, q.2 = []

/-- The failure planned for a call, if any. -/
def failureFor (w : World) (c : Call) : Option Failure :=
  (w.faults.failures.find? (·.1 == c)).map (·.2)

/-- The plan lets the next call of `c` through. -/
def Lets (w : World) (c : Call) : Prop := (w.planned c).1 = none

instance (w : World) (c : Call) : Decidable (w.Lets c) :=
  inferInstanceAs (Decidable ((w.planned c).1 = none))

@[simp] theorem pass_queued (w : World) (c : Call) : (w.pass c).faults.queued = w.faults.queued := by
  simp only [pass, planned, FaultPlan.next]
  split
  · rfl
  · split <;> rfl

theorem dequeue_of_calm {w : World} (h : w.Calm) (m : String) :
    w.faults.dequeue m = (none, w.faults) := by
  unfold FaultPlan.dequeue
  split
  · rename_i f rest hfind
    have := h _ (List.mem_of_find?_eq_some hfind)
    simp at this
  · rfl

/-! ### Calls of the catalog and the content store -/

theorem runWith_enterMetadata {w : World} (h : w.Calm) (m : String) :
    runWith (enterMetadata m) w = runWith (guard ⟨.metadata, m⟩) w := by
  simp only [enterMetadata, runWith_bind, runWith_get, dequeue_of_calm h, runWith_set]

theorem runWith_readCatalog {α : Type} {w : World} (h : w.Calm) (m : String) (f : Catalog → α) :
    runWith (readCatalog m f) w =
      match (w.planned ⟨.metadata, m⟩).1 with
      | some err => (.error err, w.pass ⟨.metadata, m⟩)
      | none => (.ok (f w.catalog), w.pass ⟨.metadata, m⟩) := by
  simp only [readCatalog, runWith_bind, runWith_enterMetadata h, runWith_guard]
  rcases (w.planned _).1 with _ | err <;> rfl

theorem runWith_writeCatalog {w : World} (h : w.Calm) (m : String) (f : Catalog → Outcome Catalog) :
    runWith (writeCatalog m f) w =
      match (w.planned ⟨.metadata, m⟩).1 with
      | some err => (.error err, w.pass ⟨.metadata, m⟩)
      | none =>
        match f w.catalog with
        | .ok c => (.ok (), { w.pass ⟨.metadata, m⟩ with catalog := c })
        | .error err => (.error err, w.pass ⟨.metadata, m⟩) := by
  simp only [writeCatalog, runWith_bind, runWith_enterMetadata h, runWith_guard]
  rcases (w.planned _).1 with _ | err
  · simp only [runWith_get, pass_catalog, runWith_lift]
    rcases f w.catalog with err | c <;> rfl
  · rfl

theorem runWith_changeCatalog {α : Type} {w : World} (h : w.Calm) (m : String)
    (f : Catalog → α × Catalog) :
    runWith (changeCatalog m f) w =
      match (w.planned ⟨.metadata, m⟩).1 with
      | some err => (.error err, w.pass ⟨.metadata, m⟩)
      | none => (.ok (f w.catalog).1, { w.pass ⟨.metadata, m⟩ with catalog := (f w.catalog).2 }) := by
  simp only [changeCatalog, runWith_bind, runWith_enterMetadata h, runWith_guard]
  rcases (w.planned _).1 with _ | err <;> rfl

/-- A write of the catalog either fails, having only gone through the plan, or writes what its
operation gives. -/
theorem writeCatalog_cases {w : World} (hcalm : w.Calm) (m : String) (f : Catalog → Outcome Catalog) :
    (∃ err, runWith (writeCatalog m f) w = (.error err, w.pass ⟨.metadata, m⟩)) ∨
    (∃ c, f w.catalog = .ok c ∧
      runWith (writeCatalog m f) w = (.ok (), { w.pass ⟨.metadata, m⟩ with catalog := c })) := by
  rw [runWith_writeCatalog hcalm]
  split
  · exact .inl ⟨_, rfl⟩
  · split
    · next c hc => exact .inr ⟨c, hc, rfl⟩
    · exact .inl ⟨_, rfl⟩

/-- A read of the catalog that succeeds answers what its function gives of the catalog. -/
theorem readCatalog_result {α : Type} {w w' : World} (hcalm : w.Calm) {m : String}
    {f : Catalog → α} {a : α} (h : runWith (readCatalog m f) w = (.ok a, w')) : f w.catalog = a := by
  rw [runWith_readCatalog hcalm] at h
  split at h
  · cases h
  · cases h
    rfl

theorem runWith_saveContent (w : World) (e v : String) (data : Bytes) :
    runWith (saveContent e v data) w =
      match (w.planned (contentCall "save_content")).1 with
      | some err => (.error err, w.pass (contentCall "save_content"))
      | none => ((w.content.save e v data).1,
          { w.pass (contentCall "save_content") with content := (w.content.save e v data).2 }) := by
  unfold saveContent
  rw [runWith_guard_bind]
  rcases (w.planned _).1 with _ | err
  · simp only [runWith_bind, runWith_get, pass_content, runWith_modify, runWith_lift]
  · rfl

theorem runWith_getContent (w : World) (e v : String) :
    runWith (getContent e v) w =
      match (w.planned (contentCall "get_content")).1 with
      | some err => (.error err, w.pass (contentCall "get_content"))
      | none => (w.content.get e v, w.pass (contentCall "get_content")) := by
  unfold getContent
  rw [runWith_guard_bind]
  rcases (w.planned _).1 with _ | err
  · simp only [runWith_bind, runWith_get, pass_content, runWith_lift]
  · rfl

theorem runWith_deleteContent (w : World) (e v : String) :
    runWith (deleteContent e v) w =
      match (w.planned (contentCall "delete_content")).1 with
      | some err => (.error err, w.pass (contentCall "delete_content"))
      | none =>
        match w.content.delete e v with
        | .ok s => (.ok (), { w.pass (contentCall "delete_content") with content := s })
        | .error err => (.error err, w.pass (contentCall "delete_content")) := by
  unfold deleteContent
  rw [runWith_guard_bind]
  rcases (w.planned _).1 with _ | err
  · simp only [runWith_bind, runWith_get, pass_content, runWith_lift]
    rcases w.content.delete e v with err | s <;> rfl
  · rfl

@[simp] theorem runWith_now (w : World) : runWith now w = (.ok w.clock, w) := rfl

/-! ### The failure planned for a call -/

theorem find?_filter_ne {c c' : Call} (h : c' ≠ c) (failures : List (Call × Failure)) :
    (failures.filter (·.1 != c')).find? (·.1 == c) = failures.find? (·.1 == c) := by
  rw [List.find?_filter]
  congr 1
  funext x
  by_cases hx : x.1 = c
  · simp [hx, Ne.symm h]
  · simp [hx]

/-- The error the next call of `c` meets depends only on the failure planned for `c`. -/
theorem planned_fst (w : World) (c : Call) :
    (w.planned c).1 =
      match w.failureFor c with
      | none => none
      | some f => if f.left = some 0 then none else some f.error := by
  simp only [planned, FaultPlan.next, failureFor, FaultPlan.tally_failures]
  split
  · next hfind => simp [hfind]
  · next f hfind =>
    simp only [hfind, Option.map_some]
    split <;> simp_all

/-- A call of `c'` leaves the failure planned for any other call as it was. -/
theorem failureFor_pass_of_ne {c c' : Call} (h : c' ≠ c) (w : World) :
    (w.pass c').failureFor c = w.failureFor c := by
  simp only [pass, planned, FaultPlan.next, failureFor, FaultPlan.tally_failures]
  split
  · rfl
  · split
    · rfl
    · simp only [find?_filter_ne h]
    · simp [beq_false_of_ne h, find?_filter_ne h]

/-- After a call of `c`, the failure planned for it depends only on the one planned before. -/
theorem failureFor_pass_self (w : World) (c : Call) :
    (w.pass c).failureFor c =
      match w.failureFor c with
      | none => none
      | some f =>
        match f.left with
        | none => some f
        | some 0 => none
        | some (n + 1) => some { f with left := some n } := by
  simp only [pass, planned, FaultPlan.next, failureFor, FaultPlan.tally_failures]
  split
  · next hfind => simp [hfind]
  · next c'' f hfind =>
    have hc : c'' = c := by simpa using List.find?_some hfind
    subst hc
    split
    · next hleft => simp [hfind, hleft]
    · next hleft => simp [hfind, hleft, List.find?_filter]
    · next n hleft => simp [hfind, hleft]

/-- A call that the plan lets through leaves the plan letting the next one through. -/
theorem lets_pass_self {w : World} {c : Call} (h : w.Lets c) : (w.pass c).Lets c := by
  unfold Lets at h ⊢
  rw [planned_fst] at h ⊢
  rw [failureFor_pass_self]
  rcases hf : w.failureFor c with _ | f
  · rfl
  · rw [hf] at h
    rcases hleft : f.left with _ | _ | n <;> simp_all

/-- A call of one method leaves whether the plan lets another one through. -/
theorem lets_pass_of_ne {c c' : Call} (h : c' ≠ c) (w : World) : (w.pass c').Lets c ↔ w.Lets c := by
  unfold Lets
  rw [planned_fst, planned_fst, failureFor_pass_of_ne h]

theorem calm_pass {w : World} (h : w.Calm) (c : Call) : (w.pass c).Calm := by
  intro q hq
  rw [pass_queued] at hq
  exact h q hq

/-- What a caller sees of the registry's stores: the revisions, the catalog, and the blob under
each key. -/
def stores (w : World) : RevisionTable × Catalog × (String → String → Option Bytes) :=
  (w.revisions, w.catalog, w.content.blob?)

@[simp] theorem stores_pass (w : World) (c : Call) : (w.pass c).stores = w.stores := rfl

theorem stores_eq {w w' : World} (hrev : w'.revisions = w.revisions) (hcat : w'.catalog = w.catalog)
    (hblob : w'.content.blob? = w.content.blob?) : w'.stores = w.stores := by
  simp [stores, hrev, hcat, hblob]

end World

/-! ### Frames -/

section Frames

variable {γ α β : Type} {cs : List Call} {v : World → γ} {w w' : World}

/-- From `w` to `w'`, the view `v`, the queued flows and the failures planned for the calls `cs`
stay as they were. -/
structure Frame (cs : List Call) (v : World → γ) (w w' : World) : Prop where
  view : v w' = v w
  queued : w'.faults.queued = w.faults.queued
  failures : ∀ c ∈ cs, w'.failureFor c = w.failureFor c

namespace Frame

theorem refl (cs : List Call) (v : World → γ) (w : World) : Frame cs v w w :=
  ⟨rfl, rfl, fun _ _ => rfl⟩

theorem trans {w₁ w₂ w₃ : World} (h₁ : Frame cs v w₁ w₂) (h₂ : Frame cs v w₂ w₃) :
    Frame cs v w₁ w₃ :=
  ⟨h₂.view.trans h₁.view, h₂.queued.trans h₁.queued,
    fun c hc => (h₂.failures c hc).trans (h₁.failures c hc)⟩

theorem calm (h : Frame cs v w w') (hcalm : w.Calm) : w'.Calm :=
  fun q hq => hcalm q (h.queued ▸ hq)

theorem planned (h : Frame cs v w w') {c : Call} (hc : c ∈ cs) :
    (w'.planned c).1 = (w.planned c).1 := by
  rw [World.planned_fst, World.planned_fst, h.failures c hc]

theorem lets (h : Frame cs v w w') {c : Call} (hc : c ∈ cs) : w'.Lets c ↔ w.Lets c := by
  unfold World.Lets
  rw [h.planned hc]

theorem mono {cs' : List Call} (h : Frame cs v w w') (hsub : ∀ c ∈ cs', c ∈ cs) :
    Frame cs' v w w' :=
  ⟨h.view, h.queued, fun c hc => h.failures c (hsub c hc)⟩

theorem revisions (h : Frame cs World.stores w w') : Frame cs World.revisions w w' :=
  ⟨congrArg Prod.fst h.view, h.queued, h.failures⟩

/-- After one more call, two registries in one frame plan the same for the calls of the frame. -/
theorem failureFor_pass (h : Frame cs v w w') {c c' : Call} (hc : c ∈ cs) (hc' : c' ∈ cs) :
    (w'.pass c).failureFor c' = (w.pass c).failureFor c' := by
  by_cases hcc : c = c'
  · subst hcc
    rw [World.failureFor_pass_self, World.failureFor_pass_self, h.failures c hc]
  · rw [World.failureFor_pass_of_ne hcc, World.failureFor_pass_of_ne hcc, h.failures c' hc']

theorem lets_pass (h : Frame cs v w w') {c c' : Call} (hc : c ∈ cs) (hc' : c' ∈ cs) :
    (w'.pass c).Lets c' ↔ (w.pass c).Lets c' := by
  unfold World.Lets
  rw [World.planned_fst, World.planned_fst, h.failureFor_pass hc hc']

end Frame

/-- A call of `c` outside `cs` keeps the frame of `cs` and the stores. -/
theorem frame_pass {c : Call} (hc : c ∉ cs) (w : World) : Frame cs World.stores w (w.pass c) :=
  ⟨rfl, World.pass_queued w c,
    fun c' hc' => World.failureFor_pass_of_ne (fun (e : c = c') => hc (e ▸ hc')) w⟩

/-- Started on any calm world, `m` keeps the frame of `cs` and `v`, whatever it answers. -/
def Within (cs : List Call) (v : World → γ) (m : Registry α) : Prop :=
  ∀ w, w.Calm → Frame cs v w (runWith m w).2

namespace Within

theorem pure' (a : α) : Within cs v (pure a : Registry α) := fun w _ => Frame.refl cs v w

theorem throw' (err : RegistryError) : Within cs v (throw err : Registry α) :=
  fun w _ => Frame.refl cs v w

theorem throw_bind (err : RegistryError) (f : α → Registry β) : Within cs v (throw err >>= f) :=
  fun w _ => Frame.refl cs v w

theorem lift (o : Outcome α) : Within cs v (World.lift o) := fun w _ => by
  simpa using Frame.refl cs v w

theorem bind {m : Registry α} {f : α → Registry β} (hm : Within cs v m)
    (hf : ∀ a, Within cs v (f a)) : Within cs v (m >>= f) := by
  intro w hcalm
  have first := hm w hcalm
  rw [runWith_bind]
  generalize runWith m w = p at first ⊢
  rcases p with ⟨_ | a, w₁⟩
  · exact first
  · exact first.trans (hf a w₁ (first.calm hcalm))

theorem map {m : Registry α} (hm : Within cs v m) (f : α → β) : Within cs v (f <$> m) :=
  fun w hcalm => by
    rw [runWith_map]
    exact hm w hcalm

theorem tryCatch {m : Registry α} {h : RegistryError → Registry α} (hm : Within cs v m)
    (hh : ∀ e, Within cs v (h e)) : Within cs v (tryCatch m h) := by
  intro w hcalm
  have first := hm w hcalm
  rw [runWith_tryCatch]
  generalize runWith m w = p at first ⊢
  rcases p with ⟨e | a, w₁⟩
  · exact first.trans (hh e w₁ (first.calm hcalm))
  · exact first

theorem revisions {m : Registry α} (hm : Within cs World.stores m) : Within cs World.revisions m :=
  fun w hcalm => (hm w hcalm).revisions

end Within

theorem within_getRevision (hc : World.revisionCall "get_revision" ∉ cs) (e : String) :
    Within cs World.stores (World.getRevision e) := fun w _ => by
  rw [World.runWith_getRevision]
  split <;> exact frame_pass hc w

theorem within_now : Within cs World.stores World.now := fun w _ => by
  simpa using Frame.refl cs World.stores w

theorem within_readCatalog {m : String} (hc : ⟨.metadata, m⟩ ∉ cs) (f : Catalog → α) :
    Within cs World.stores (World.readCatalog m f) := fun w hcalm => by
  rw [World.runWith_readCatalog hcalm]
  split <;> exact frame_pass hc w

theorem within_writeCatalog {m : String} (hc : ⟨.metadata, m⟩ ∉ cs) (f : Catalog → Outcome Catalog) :
    Within cs World.revisions (World.writeCatalog m f) := fun w hcalm => by
  have pass := (frame_pass hc w).revisions
  rw [World.runWith_writeCatalog hcalm]
  split
  · exact pass
  · split
    · exact ⟨rfl, pass.queued, pass.failures⟩
    · exact pass

theorem within_changeCatalog {m : String} (hc : ⟨.metadata, m⟩ ∉ cs) (f : Catalog → α × Catalog) :
    Within cs World.revisions (World.changeCatalog m f) := fun w hcalm => by
  have pass := (frame_pass hc w).revisions
  rw [World.runWith_changeCatalog hcalm]
  split
  · exact pass
  · exact ⟨rfl, pass.queued, pass.failures⟩

theorem within_saveContent (hc : World.contentCall "save_content" ∉ cs) (e v : String)
    (data : Bytes) : Within cs World.revisions (World.saveContent e v data) := fun w _ => by
  have pass := (frame_pass hc w).revisions
  rw [World.runWith_saveContent]
  split
  · exact pass
  · exact ⟨rfl, pass.queued, pass.failures⟩

theorem within_getContent (hc : World.contentCall "get_content" ∉ cs) (e v : String) :
    Within cs World.stores (World.getContent e v) := fun w _ => by
  rw [World.runWith_getContent]
  split <;> exact frame_pass hc w

theorem within_deleteContent (hc : World.contentCall "delete_content" ∉ cs) (e v : String) :
    Within cs World.revisions (World.deleteContent e v) := fun w _ => by
  have pass := (frame_pass hc w).revisions
  rw [World.runWith_deleteContent]
  split
  · exact pass
  · split
    · exact ⟨rfl, pass.queued, pass.failures⟩
    · exact pass

/-! ### Atomicity at a world -/

/-- Run at `w`, `m` fails only by a panic or with the stores as it found them. -/
def AtomicAt (m : Registry α) (w : World) : Prop :=
  ∀ err, (runWith m w).1 = .error err → err.isPanic = false → (runWith m w).2.stores = w.stores

namespace AtomicAt

/-- Reads first, then a step that is atomic wherever the reads may leave the registry. -/
theorem bind_within (cs : List Call) {m : Registry α} {f : α → Registry β} (hcalm : w.Calm)
    (hm : Within cs World.stores m)
    (hf : ∀ a w', runWith m w = (.ok a, w') → Frame cs World.stores w w' → AtomicAt (f a) w') :
    AtomicAt (m >>= f) w := by
  intro err herr hpanic
  have first := hm w hcalm
  rw [runWith_bind] at herr ⊢
  generalize hrun : runWith m w = p at first herr ⊢
  rcases p with ⟨_ | a, w₁⟩
  · exact first.view
  · exact (hf a w₁ hrun first err herr hpanic).trans first.view

theorem bind_pure {m : Registry α} (hm : AtomicAt m w) (g : α → β) :
    AtomicAt (m >>= fun a => pure (g a)) w := by
  intro err herr hpanic
  rw [runWith_bind] at herr ⊢
  have first : ∀ e, (runWith m w).1 = .error e → e.isPanic = false →
      (runWith m w).2.stores = w.stores := hm
  generalize hrun : runWith m w = p at first herr ⊢
  rcases p with ⟨e | a, w₁⟩
  · cases herr
    exact first err rfl hpanic
  · cases herr

/-- An atomic step, then one that can fail only by a panic. -/
theorem bind_of_panics {m : Registry α} {f : α → Registry β} (hm : AtomicAt m w)
    (hf : ∀ a w', runWith m w = (.ok a, w') →
      ∀ err, (runWith (f a) w').1 = .error err → err.isPanic = true) :
    AtomicAt (m >>= f) w := by
  intro err herr hpanic
  rw [runWith_bind] at herr ⊢
  have first : ∀ e, (runWith m w).1 = .error e → e.isPanic = false →
      (runWith m w).2.stores = w.stores := hm
  generalize hrun : runWith m w = p at first herr ⊢
  rcases p with ⟨e | a, w₁⟩
  · cases herr
    exact first err rfl hpanic
  · rw [hf a w₁ hrun err herr] at hpanic
    cases hpanic

theorem throw' (err : RegistryError) (w : World) : AtomicAt (throw err : Registry α) w :=
  fun _ _ _ => rfl

theorem throw_bind (err : RegistryError) (f : α → Registry β) (w : World) :
    AtomicAt (throw err >>= f) w :=
  fun _ _ _ => rfl

theorem lift_bind {o : Outcome α} {f : α → Registry β} (h : ∀ a, o = .ok a → AtomicAt (f a) w) :
    AtomicAt (World.lift o >>= f) w := by
  intro err herr hpanic
  rw [runWith_bind, runWith_lift] at herr ⊢
  rcases o with e | a
  · rfl
  · exact h a rfl err herr hpanic

theorem now_bind {f : Time.Instant → Registry β} (h : AtomicAt (f w.clock) w) :
    AtomicAt (World.now >>= f) w := by
  intro err herr hpanic
  rw [runWith_bind, World.runWith_now] at herr ⊢
  exact h err herr hpanic

theorem map {m : Registry α} (hm : AtomicAt m w) (f : α → β) : AtomicAt (f <$> m) w := by
  intro err herr hpanic
  have first : ∀ e, (runWith m w).1 = .error e → e.isPanic = false →
      (runWith m w).2.stores = w.stores := hm
  rw [runWith_map] at herr ⊢
  generalize runWith m w = p at first herr ⊢
  rcases p with ⟨e | a, w₁⟩
  · cases herr
    exact first err rfl hpanic
  · cases herr

end AtomicAt

theorem atomicAt_writeCatalog {m : String} (hcalm : w.Calm) (f : Catalog → Outcome Catalog) :
    AtomicAt (World.writeCatalog m f) w := by
  intro err herr _
  rw [World.runWith_writeCatalog hcalm] at herr ⊢
  split at herr
  · rfl
  · split at herr
    · cases herr
    · rfl

end Frames

end FlowRegistry
