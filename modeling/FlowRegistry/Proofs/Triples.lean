import FlowRegistry.Proofs.Retry

/-!
# Pre- and postconditions of registry computations

`Triple P m Q E` says that `m`, started in a registry where `P` holds, either succeeds in one where
`Q` holds of its answer, or fails in one where `E` holds. The first part takes a triple through
the operations of the monad, `bind`, `tryCatch`, `forM` and `mapM` among them.

The properties that the coordinator keeps of its catalog are read through `World.records`: the
catalog, and the flows queued to appear in it. Every call of the revision and content stores
leaves both as they were (`World.keeps_records_createRevision` and its kin). A metadata call may
first insert a queued flow; `Admits P` says that `P` is a property of the records that survives
this, and then each metadata call is one step of its catalog operation behind the plan
(`Triple.readCatalog`, `Triple.writeCatalog`, `Triple.changeCatalog`). Two kinds of property are
admitted: any property of the catalog of a registry with no flow queued (`Admits.calm`), and a
property of the catalog that every insert of a flow keeps (`Admits.catalog`).

The last part lifts the operations of the revision manager: their checks and their writes of the
revision store keep the records, so a creation, a change or a delete ends where its closure does.
-/

namespace FlowRegistry

/-- The catalog, and the flows queued to appear in it. -/
def World.records (w : World) : Catalog × List (String × List Flow) := (w.catalog, w.faults.queued)

@[simp] theorem World.records_pass (w : World) (c : Call) : (w.pass c).records = w.records := by
  simp [World.records]

section Triple

variable {α β : Type}

/-- `Q` of the answer and the registry that a success leaves, or `E` of the registry that a
failure leaves. -/
def Triple.Post (Q : α → World → Prop) (E : World → Prop) : Outcome α × World → Prop
  | (.ok a, w) => Q a w
  | (.error _, w) => E w

/-- Started where `P` holds, `m` succeeds where `Q` holds of its answer, or fails where `E`
holds. -/
structure Triple (P : World → Prop) (m : Registry α) (Q : α → World → Prop) (E : World → Prop) :
    Prop where
  holds : ∀ w, P w → Triple.Post Q E (runWith m w)

/-- `P` depends only on the records of a registry. -/
def Records (P : World → Prop) : Prop := ∀ {w w' : World}, w'.records = w.records → P w → P w'

variable {P P' I : World → Prop} {Q Q' : α → World → Prop} {R : β → World → Prop}
  {E E' : World → Prop}

namespace Triple

theorem mono {m : Registry α} (h : Triple P m Q E) (hP : ∀ w, P' w → P w)
    (hQ : ∀ a w, Q a w → Q' a w) (hE : ∀ w, E w → E' w) : Triple P' m Q' E' := by
  refine ⟨fun w hw => ?_⟩
  have first := h.holds w (hP w hw)
  generalize runWith m w = p at first ⊢
  rcases p with ⟨_ | a, w₁⟩
  · exact hE w₁ first
  · exact hQ a w₁ first

/-- What keeps `P` ends where `P` holds, whatever it answers. -/
theorem of_keeps {m : Registry α} (h : ∀ w, P w → P (runWith m w).2) (hQ : ∀ a w, P w → Q a w)
    (hE : ∀ w, P w → E w) : Triple P m Q E := by
  refine ⟨fun w hw => ?_⟩
  have after := h w hw
  generalize runWith m w = p at after ⊢
  rcases p with ⟨_ | a, w₁⟩
  · exact hE w₁ after
  · exact hQ a w₁ after

/-- What keeps the records keeps every property of them. -/
theorem of_records {m : Registry α} (hm : Keeps World.records m) (hP : Records P)
    (hQ : ∀ a w, P w → Q a w) (hE : ∀ w, P w → E w) : Triple P m Q E :=
  of_keeps (fun w hw => hP (hm w) hw) hQ hE

theorem pure' (a : α) (h : ∀ w, P w → Q a w) : Triple P (pure a : Registry α) Q E :=
  ⟨h⟩

theorem throw' (err : RegistryError) (h : ∀ w, P w → E w) : Triple P (throw err : Registry α) Q E :=
  ⟨h⟩

theorem lift (o : Outcome α) (hok : ∀ a, o = .ok a → ∀ w, P w → Q a w) (herr : ∀ w, P w → E w) :
    Triple P (World.lift o) Q E := by
  refine ⟨fun w hw => ?_⟩
  rw [runWith_lift]
  rcases o with _ | a
  · exact herr w hw
  · exact hok a rfl w hw

theorem bind {m : Registry α} {f : α → Registry β} (hm : Triple P m Q E)
    (hf : ∀ a, Triple (Q a) (f a) R E) : Triple P (m >>= f) R E := by
  refine ⟨fun w hw => ?_⟩
  have first := hm.holds w hw
  rw [runWith_bind]
  generalize runWith m w = p at first ⊢
  rcases p with ⟨_ | a, w₁⟩
  · exact first
  · exact (hf a).holds w₁ first

theorem map {m : Registry α} {g : α → β} (hm : Triple P m (fun a => R (g a)) E) :
    Triple P (g <$> m) R E := by
  refine ⟨fun w hw => ?_⟩
  have first := hm.holds w hw
  rw [runWith_map]
  generalize runWith m w = p at first ⊢
  rcases p with ⟨_ | a, w₁⟩ <;> exact first

theorem tryCatch {m : Registry α} {h : RegistryError → Registry α} (hm : Triple P m Q E')
    (hh : ∀ e, Triple E' (h e) Q E) : Triple P (tryCatch m h) Q E := by
  refine ⟨fun w hw => ?_⟩
  have first := hm.holds w hw
  rw [runWith_tryCatch]
  generalize runWith m w = p at first ⊢
  rcases p with ⟨e | a, w₁⟩
  · exact (hh e).holds w₁ first
  · exact first

/-- A check that fails, or lets what follows run from where it started. -/
theorem lift_bind {o : Outcome α} {f : α → Registry β} (hE : ∀ w, P w → E w)
    (hf : ∀ a, o = .ok a → Triple P (f a) R E) : Triple P (World.lift o >>= f) R E := by
  refine ⟨fun w hw => ?_⟩
  rw [runWith_bind, runWith_lift]
  rcases o with _ | a
  · exact hE w hw
  · exact (hf a rfl).holds w hw

/-- What a success answers, from where `P` holds. -/
theorem answers {m : Registry α} (h : Triple P m Q E) {w : World} (hw : P w) {a : α}
    (ha : (runWith m w).1 = .ok a) : Q a (runWith m w).2 := by
  have after := h.holds w hw
  generalize runWith m w = p at after ha ⊢
  rcases p with ⟨_ | _, w₁⟩
  · cases ha
  · cases ha
    exact after

/-- A fact that does not depend on the registry may be assumed. -/
theorem of_fact {p : Prop} {m : Registry α} (h : p → Triple P m Q E) :
    Triple (fun w => P w ∧ p) m Q E :=
  ⟨fun w hw => (h hw.2).holds w hw.1⟩

/-- Where a triple ends in `Q` either way, the registry it leaves satisfies `Q`. -/
theorem holds_after {m : Registry α} {Q : World → Prop} (h : Triple P m (fun _ => Q) Q) {w : World}
    (hw : P w) : Q (runWith m w).2 := by
  have after := h.holds w hw
  generalize runWith m w = p at after ⊢
  rcases p with ⟨_ | _, w₁⟩ <;> exact after

/-- A step whose failure is ignored, from where it leaves `P` either way. -/
theorem ignoring {m : Registry Unit} (hm : Triple P m (fun _ => P) P) :
    Triple P (MonadExcept.tryCatch m fun _ => pure ()) (fun _ => P) E :=
  tryCatch hm fun _ => pure' () fun _ hw => hw

/-- A failure skips what follows. -/
theorem throw_bind (err : RegistryError) {f : α → Registry β} (h : ∀ w, P w → E w) :
    Triple P (throw err >>= f) R E :=
  ⟨fun w hw => by
    rw [runWith_bind, runWith_throw]
    exact h w hw⟩

/-- A step that keeps the records, then what follows from where it leaves them. -/
theorem records_bind {m : Registry α} {f : α → Registry β} (hm : Keeps World.records m)
    (hP : Records P) (hE : ∀ w, P w → E w) (hf : ∀ a, Triple P (f a) R E) :
    Triple P (m >>= f) R E :=
  (of_records hm hP (fun _ _ hw => hw) hE).bind hf

/-- A loop whose every round keeps `I` keeps it. -/
theorem forM {γ : Type} {body : γ → Registry Unit} :
    ∀ (xs : List γ), (∀ x ∈ xs, Triple I (body x) (fun _ => I) E) →
      Triple I (xs.forM body) (fun _ => I) E
  | [], _ => pure' () fun _ hw => hw
  | x :: xs, h => by
    show Triple I (body x >>= fun _ => xs.forM body) _ _
    exact (h x List.mem_cons_self).bind fun _ => forM xs fun y hy => h y (List.mem_cons_of_mem x hy)

/-- A map whose every item keeps `I` keeps it. -/
theorem mapM {γ δ : Type} {f : γ → Registry δ} (h : ∀ x, Triple I (f x) (fun _ => I) E) :
    ∀ xs : List γ, Triple I (xs.mapM f) (fun _ => I) E
  | [] => pure' _ fun _ hw => hw
  | x :: xs => by
    rw [List.mapM_cons]
    exact (h x).bind fun _ => (mapM h xs).bind fun _ => pure' _ fun _ hw => hw

/-- A map whose every item answers something that `k` takes back to the item answers a list
that `k` takes back to the list. -/
theorem mapM_answers {γ δ : Type} {f : γ → Registry δ} {k : δ → γ}
    (h : ∀ x, Triple I (f x) (fun r w => I w ∧ k r = x) E) :
    ∀ xs : List γ, Triple I (xs.mapM f) (fun rs w => I w ∧ rs.map k = xs) E
  | [] => pure' _ fun _ hw => ⟨hw, rfl⟩
  | x :: xs => by
    rw [List.mapM_cons]
    refine (h x).bind fun r => of_fact fun hr => ?_
    exact (mapM_answers h xs).bind fun rs => of_fact fun hrs =>
      pure' _ fun _ hw => ⟨hw, by rw [List.map_cons, hr, hrs]⟩

end Triple

end Triple

/-! ### Calls that leave the records alone -/

namespace World

variable {α : Type}

theorem keeps_records_guard (c : Call) : Keeps records (guard c) := fun w => by
  rw [runWith_guard]
  exact records_pass w c

/-- A guarded call whose body only reads the registry, or writes its revisions or content. -/
theorem keeps_records_guard_bind {body : Registry α} (hbody : Keeps records body) (c : Call) :
    Keeps records (guard c >>= fun _ => body) :=
  (keeps_records_guard c).bind fun _ => hbody

theorem keeps_records_getRevision (e : String) : Keeps records (getRevision e) := fun w => by
  rw [runWith_getRevision]
  split <;> exact records_pass w _

theorem keeps_records_createRevision (r : Revision) : Keeps records (createRevision r) := fun w => by
  rw [runWith_createRevision]
  split
  · exact records_pass w _
  · split <;> exact records_pass w _

theorem keeps_records_putRevision (v : Nat) (r : Revision) : Keeps records (putRevision v r) :=
  fun w => by
    rw [runWith_putRevision]
    split
    · exact records_pass w _
    · split <;> exact records_pass w _

theorem keeps_records_deleteRevision (e : String) : Keeps records (deleteRevision e) := fun w => by
  rw [runWith_deleteRevision]
  split <;> exact records_pass w _

theorem keeps_records_saveContent (e v : String) (data : Bytes) :
    Keeps records (saveContent e v data) := fun w => by
  rw [runWith_saveContent]
  split <;> exact records_pass w _

theorem keeps_records_getContent (e v : String) : Keeps records (getContent e v) := fun w => by
  rw [runWith_getContent]
  split <;> exact records_pass w _

theorem keeps_records_deleteContent (e v : String) : Keeps records (deleteContent e v) := fun w => by
  rw [runWith_deleteContent]
  split
  · exact records_pass w _
  · split <;> exact records_pass w _

theorem keeps_records_deleteAllContent (e : String) : Keeps records (deleteAllContent e) :=
  keeps_records_guard_bind (fun w => by
    rcases h : w.content.deleteAll e with err | s <;>
      simp [runWith_bind, runWith_get, runWith_lift, h, records]) _

theorem keeps_records_now : Keeps records now := fun _ => rfl

theorem keeps_records_pendingFailures : Keeps records pendingFailures := fun _ => rfl

theorem keeps_records_queuedFlows : Keeps records queuedFlows := fun _ => rfl

end World

namespace Manager

variable {α : Type} {e : String} {claimed : Revision}

theorem keeps_records_getRevision (e : String) : Keeps World.records (getRevision e) :=
  (World.keeps_records_getRevision e).bind fun o => by
    cases o
    · exact .throw' _
    · exact .pure' _

theorem keeps_records_checkAbsent (e : String) : Keeps World.records (checkAbsent e) :=
  (World.keeps_records_getRevision e).bind fun o => by
    by_cases h : o.isSome
    · simpa [h] using Keeps.throw' _
    · simpa [h] using Keeps.pure' ()

theorem keeps_records_verifyLocked (e : String) (claimed : Revision) :
    Keeps World.records (verifyLocked e claimed) :=
  (keeps_records_getRevision e).bind fun current => by
    by_cases h : current.version = claimed.version
    · simpa [h] using Keeps.pure' current
    · simpa [h] using Keeps.throw' _

theorem keeps_records_register (e : String) (claimed : Revision) :
    Keeps World.records (register e claimed) :=
  (World.keeps_records_createRevision _).bind fun _ => .pure' _

theorem keeps_records_advance (current claimed : Revision) :
    Keeps World.records (advance current claimed) :=
  (Keeps.lift _).bind fun next => (World.keeps_records_putRevision _ next).bind fun _ => .pure' _

theorem keeps_records_delete (e : String) : Keeps World.records (delete e) :=
  (World.keeps_records_deleteRevision e).bind fun _ => .pure' ()

end Manager

/-! ### Properties that a metadata call admits -/

/-- A property of the records that a metadata call keeps before it reaches the store: the next
queued flow is taken off the plan, and appears in the catalog when its insert succeeds. -/
structure Admits (P : World → Prop) : Prop where
  records : Records P
  dequeue : ∀ {w : World} (m : String), P w → P { w with faults := (w.faults.dequeue m).2 }
  appear : ∀ {w : World} (m : String) (f : Flow) (c : Catalog), P w →
    (w.faults.dequeue m).1 = some f → w.catalog.insertFlow f = .ok c →
      P { w with faults := (w.faults.dequeue m).2, catalog := c }

namespace Admits

variable {P P' : World → Prop}

theorem and (h : Admits P) (h' : Admits P') : Admits fun w => P w ∧ P' w where
  records hr hw := ⟨h.records hr hw.1, h'.records hr hw.2⟩
  dequeue m hw := ⟨h.dequeue m hw.1, h'.dequeue m hw.2⟩
  appear m f c hw hf hc := ⟨h.appear m f c hw.1 hf hc, h'.appear m f c hw.2 hf hc⟩

/-- With no flow queued, every property of the catalog is admitted. -/
theorem calm (P : Catalog → Prop) : Admits fun w => w.Calm ∧ P w.catalog where
  records {w w'} hr hw := by
    have hcat : w'.catalog = w.catalog := congrArg Prod.fst hr
    have hqueued : w'.faults.queued = w.faults.queued := congrArg Prod.snd hr
    refine ⟨fun q hq => hw.1 q ?_, hcat ▸ hw.2⟩
    rw [← hqueued]
    exact hq
  dequeue {w} m hw := by
    rw [World.dequeue_of_calm hw.1 m]
    exact hw
  appear {w} m f c hw hf _ := by
    rw [World.dequeue_of_calm hw.1 m] at hf
    cases hf

/-- A property of the catalog that every insert of a flow keeps is admitted. -/
theorem catalog (P : Catalog → Prop) (h : ∀ c c' f, P c → c.insertFlow f = .ok c' → P c') :
    Admits fun w => P w.catalog where
  records {w w'} hr hw := by
    have hcat : w'.catalog = w.catalog := congrArg Prod.fst hr
    show P w'.catalog
    rw [hcat]
    exact hw
  dequeue _ hw := hw
  appear _ f _ hw _ hc := h _ _ f hw hc

/-- A fact that holds of nothing in the registry is admitted. -/
theorem const (φ : Prop) : Admits fun _ => φ where
  records _ hw := hw
  dequeue _ hw := hw
  appear _ _ _ hw _ _ := hw

/-- Entering a metadata call keeps an admitted property. -/
theorem enterMetadata (h : Admits P) (m : String) {w : World} (hw : P w) :
    P (runWith (World.enterMetadata m) w).2 := by
  rw [World.runWith_enterMetadata_eq]
  split
  · exact h.records (World.keeps_records_guard _ _) (h.dequeue m hw)
  · next f hf =>
    split
    · next c hc => exact h.records (World.keeps_records_guard _ _) (h.appear m f c hw hf hc)
    · exact h.dequeue m hw

end Admits

namespace Triple

variable {α : Type} {P : World → Prop} {Q : α → World → Prop} {E : World → Prop} {m : String}

/-- A read of the catalog answers what its function gives of the catalog it ends with. -/
theorem readCatalog {f : Catalog → α} (hP : Admits P) (hQ : ∀ w, P w → Q (f w.catalog) w)
    (hE : ∀ w, P w → E w) : Triple P (World.readCatalog m f) Q E := by
  refine ⟨fun w hw => ?_⟩
  have entered := hP.enterMetadata m hw
  unfold World.readCatalog
  rw [runWith_bind]
  generalize runWith (World.enterMetadata m) w = p at entered ⊢
  rcases p with ⟨_ | _, w₁⟩
  · exact hE w₁ entered
  · exact hQ w₁ entered

/-- A write of the catalog ends with what its operation gives of the catalog it found. -/
theorem writeCatalog {f : Catalog → Outcome Catalog} {Q : Unit → World → Prop} (hP : Admits P)
    (hQ : ∀ w c, P w → f w.catalog = .ok c → Q () { w with catalog := c }) (hE : ∀ w, P w → E w) :
    Triple P (World.writeCatalog m f) Q E := by
  refine ⟨fun w hw => ?_⟩
  have entered := hP.enterMetadata m hw
  unfold World.writeCatalog
  rw [runWith_bind]
  generalize runWith (World.enterMetadata m) w = p at entered ⊢
  rcases p with ⟨_ | _, w₁⟩
  · exact hE w₁ entered
  · simp only [runWith_bind, runWith_get, runWith_lift]
    rcases hc : f w₁.catalog with err | c
    · exact hE w₁ entered
    · exact hQ w₁ c entered hc

/-- A write of the catalog that answers ends with what its operation gives. -/
theorem changeCatalog {f : Catalog → α × Catalog} (hP : Admits P)
    (hQ : ∀ w, P w → Q (f w.catalog).1 { w with catalog := (f w.catalog).2 }) (hE : ∀ w, P w → E w) :
    Triple P (World.changeCatalog m f) Q E := by
  refine ⟨fun w hw => ?_⟩
  have entered := hP.enterMetadata m hw
  unfold World.changeCatalog
  rw [runWith_bind]
  generalize runWith (World.enterMetadata m) w = p at entered ⊢
  rcases p with ⟨_ | _, w₁⟩
  · exact hE w₁ entered
  · exact hQ w₁ entered

/-- A read of the catalog, then what follows knowing what it answered. -/
theorem readCatalog_bind {f : Catalog → α} {g : α → Registry β} {R : β → World → Prop}
    (hP : Admits P) (hE : ∀ w, P w → E w)
    (hg : ∀ a, Triple (fun w => P w ∧ a = f w.catalog) (g a) R E) :
    Triple P (World.readCatalog m f >>= g) R E :=
  (readCatalog hP (fun _ hw => ⟨hw, rfl⟩) hE :
    Triple P (World.readCatalog m f) (fun a w => P w ∧ a = f w.catalog) E).bind hg

/-- A delete of a bucket ends with what the catalog's delete gives. -/
theorem deleteBucket {id : Uuid} {Q : Bool → World → Prop} (hP : Admits P)
    (hQ : ∀ w existed c, P w → w.catalog.deleteBucket id = .ok (existed, c) →
      Q existed { w with catalog := c })
    (hE : ∀ w, P w → E w) : Triple P (World.deleteBucket id) Q E := by
  refine ⟨fun w hw => ?_⟩
  have entered := hP.enterMetadata "delete_bucket" hw
  unfold World.deleteBucket
  rw [runWith_bind]
  generalize runWith (World.enterMetadata "delete_bucket") w = p at entered ⊢
  rcases p with ⟨_ | _, w₁⟩
  · exact hE w₁ entered
  · simp only [runWith_bind, runWith_get, runWith_lift]
    rcases hc : w₁.catalog.deleteBucket id with err | ⟨existed, c⟩
    · exact hE w₁ entered
    · exact hQ w₁ existed c entered hc

end Triple

/-! ### The operations of the revision manager -/

namespace Manager

variable {α : Type} {e : String} {claimed : Revision} {P Q E : World → Prop}
  {Q' : α → World → Prop}

/-- A creation ends where its closure does, when what holds before and after the closure is a
property of the records. -/
theorem triple_create {creation : Registry α} (hP : Records P) (hQ : Records Q)
    (hPE : ∀ w, P w → E w) (hQE : ∀ w, Q w → E w) (hc : Triple P creation (fun _ => Q) E) :
    Triple P (create e claimed creation) (fun _ => Q) E :=
  (Triple.lift _ (fun _ _ _ hw => hw) hPE).bind fun _ =>
    (Triple.lift _ (fun _ _ _ hw => hw) hPE).bind fun _ =>
    (Triple.of_records (keeps_records_checkAbsent e) hP (fun _ _ hw => hw) hPE).bind fun _ =>
    hc.bind fun _ =>
    (Triple.of_records (keeps_records_register e claimed) hQ (fun _ _ hw => hw) hQE).bind fun _ =>
    Triple.pure' _ fun _ hw => hw

/-- A change ends where its closure does. -/
theorem triple_update {mutation : Registry α} (hP : Records P) (hQ : Records Q)
    (hPE : ∀ w, P w → E w) (hQE : ∀ w, Q w → E w) (hc : Triple P mutation (fun _ => Q) E) :
    Triple P (update e claimed mutation) (fun _ => Q) E :=
  (Triple.lift _ (fun _ _ _ hw => hw) hPE).bind fun _ =>
    (Triple.of_records (keeps_records_verifyLocked e claimed) hP (fun _ _ hw => hw) hPE).bind
    fun current => hc.bind fun _ =>
    (Triple.of_records (keeps_records_advance current claimed) hQ (fun _ _ hw => hw) hQE).bind
    fun _ => Triple.pure' _ fun _ hw => hw

/-- A delete ends where its closure does. -/
theorem triple_deleteWith {deletion : Registry α} (hP : Records P) (hQ : ∀ a, Records (Q' a))
    (hPE : ∀ w, P w → E w) (hQE : ∀ a w, Q' a w → E w) (hc : Triple P deletion Q' E) :
    Triple P (deleteWith e claimed deletion) Q' E :=
  (Triple.lift _ (fun _ _ _ hw => hw) hPE).bind fun _ =>
    (Triple.of_records (keeps_records_verifyLocked e claimed) hP (fun _ _ hw => hw) hPE).bind
    fun _ => hc.bind fun a =>
    (Triple.of_records (World.keeps_records_deleteRevision e) (hQ a) (fun _ _ hw => hw)
      (hQE a)).bind fun _ => Triple.pure' _ fun _ hw => hw

end Manager

/-! ### The reads of the coordinator -/

namespace Triple

variable {α : Type} {P : World → Prop} {m : String}

/-- A read of the catalog keeps an admitted property. -/
theorem read {f : Catalog → α} {E : World → Prop} (hP : Admits P) (hE : ∀ w, P w → E w) :
    Triple P (World.readCatalog m f) (fun _ => P) E :=
  readCatalog hP (fun _ hw => hw) hE

/-- An entity read with its revision keeps an admitted property. -/
theorem revisioned {β : Type} (hP : Admits P) (x : β) (e : String) :
    Triple P (do pure (⟨x, ← Manager.getRevision e⟩ : Revisioned β)) (fun _ => P) P :=
  records_bind (Manager.keeps_records_getRevision e) hP.records (fun _ hw => hw) fun _ =>
    pure' _ fun _ hw => hw

end Triple

namespace Coordinator

variable {P : World → Prop}

theorem triple_requireBucket (hP : Admits P) (id : Uuid) :
    Triple P (requireBucket id) (fun b w => P w ∧ w.catalog.fetchBucket id = some b) P := by
  unfold requireBucket World.fetchBucket
  refine Triple.readCatalog_bind hP (fun _ hw => hw) fun found => ?_
  cases found with
  | some b => exact Triple.pure' _ fun _ hw => ⟨hw.1, hw.2.symm⟩
  | none => exact Triple.throw' _ fun _ hw => hw.1

theorem triple_requireFlow (hP : Admits P) (id : Uuid) :
    Triple P (requireFlow id) (fun f w => P w ∧ w.catalog.fetchFlow id = some f) P := by
  unfold requireFlow World.fetchFlow
  refine Triple.readCatalog_bind hP (fun _ hw => hw) fun found => ?_
  cases found with
  | some f => exact Triple.pure' _ fun _ hw => ⟨hw.1, hw.2.symm⟩
  | none => exact Triple.throw' _ fun _ hw => hw.1

theorem triple_requireBundle (hP : Admits P) (id : Uuid) :
    Triple P (requireBundle id) (fun b w => P w ∧ w.catalog.fetchBundle id = some b) P := by
  unfold requireBundle World.fetchBundle
  refine Triple.readCatalog_bind hP (fun _ hw => hw) fun found => ?_
  cases found with
  | some b => exact Triple.pure' _ fun _ hw => ⟨hw.1, hw.2.symm⟩
  | none => exact Triple.throw' _ fun _ hw => hw.1

theorem triple_currentRevision (hP : Records P) (e : String) :
    Triple P (currentRevision? e) (fun _ => P) P := by
  unfold currentRevision?
  refine Triple.tryCatch (Triple.map (Triple.of_records (Manager.keeps_records_getRevision e) hP
    (fun _ _ hw => hw) fun _ hw => hw)) fun err => ?_
  split
  · exact Triple.pure' _ fun _ hw => hw
  · exact Triple.throw' _ fun _ hw => hw

section DeleteChild

variable {purge : Registry Unit} {Q : World → Prop}

/-- The wait for a child's lock keeps where the delete stands, and a deadlock ends it there. -/
theorem triple_lockChild (hQP : ∀ w, Q w → P w) (held e : String) :
    Triple Q (lockChild held e) (fun _ => Q) P := by
  unfold lockChild
  split
  · exact Triple.throw' _ hQP
  · exact Triple.pure' _ fun _ hw => hw

/-- A child deleted under its current revision, tried again while the revision moves, ends where
its purge does. -/
theorem triple_deleteChildWithin (hP : Records P) (hQ : Records Q) (hQP : ∀ w, Q w → P w)
    (hpurge : Triple P purge (fun _ => Q) P) (held e : String) :
    ∀ fuel, Triple P (deleteChildWithin held e purge fuel) (fun _ => Q) P
  | 0 => Triple.throw' _ fun _ hw => hw
  | fuel + 1 => by
    rw [deleteChildWithin]
    refine (triple_currentRevision hP e).bind fun current => ?_
    split
    · exact hpurge.bind fun _ => (triple_lockChild hQP held e).bind fun _ =>
        Triple.of_records (Manager.keeps_records_delete e) hQ (fun _ _ hw => hw) hQP
    · refine (triple_lockChild (fun _ hw => hw) held e).bind fun _ =>
        Triple.tryCatch (Manager.triple_deleteWith hP (fun _ => hQ) (fun _ hw => hw)
          (fun _ => hQP) hpurge) fun err => ?_
      split
      · exact triple_deleteChildWithin hP hQ hQP hpurge held e fuel
      · exact Triple.throw' _ fun _ hw => hw

theorem triple_deleteChild (hP : Records P) (hQ : Records Q) (hQP : ∀ w, Q w → P w)
    (hpurge : Triple P purge (fun _ => Q) P) (held e : String) :
    Triple P (deleteChild held e purge) (fun _ => Q) P :=
  (Triple.of_records World.keeps_records_pendingFailures hP (fun _ _ hw => hw) fun _ hw => hw).bind
    fun n => (Triple.of_records World.keeps_records_queuedFlows hP (fun _ _ hw => hw) fun _ hw => hw).bind
      fun q => triple_deleteChildWithin hP hQ hQP hpurge held e (n + q + 1)

end DeleteChild

/-- A read of a stored snapshot keeps the records. -/
theorem keeps_records_loadSnapshot (flowId : Uuid) (version : Nat) :
    Keeps World.records (loadSnapshot flowId version) :=
  (World.keeps_records_getContent _ _).bind fun _ => (Keeps.lift _).bind fun _ => Keeps.lift _

end Coordinator

/-- Every read of the coordinator keeps an admitted property, whatever it answers. -/
theorem Query.triple_run {P : World → Prop} (hP : Admits P) (q : Query) :
    Triple P q.run (fun _ => P) P := by
  have keep : ∀ {α : Type} {f : Catalog → α} {m : String},
      Triple P (World.readCatalog m f) (fun _ => P) P := Triple.read hP fun _ hw => hw
  cases q <;> refine Triple.map ?_
  case getBucket id =>
    exact (Coordinator.triple_requireBucket hP id).bind fun b =>
      (Triple.revisioned hP b _).mono (fun _ hw => hw.1) (fun _ _ hw => hw) fun _ hw => hw
  case listBuckets =>
    exact keep.bind fun bs => Triple.mapM (fun b => Triple.revisioned hP b _) bs
  case getFlow id =>
    exact (Coordinator.triple_requireFlow hP id).bind fun f =>
      (Triple.revisioned hP f _).mono (fun _ hw => hw.1) (fun _ _ hw => hw) fun _ hw => hw
  case listFlows bucketId =>
    exact ((Coordinator.triple_requireBucket hP bucketId).mono (fun _ hw => hw) (fun _ _ hw => hw.1)
      fun _ hw => hw).bind fun _ => keep.bind fun fs => Triple.mapM (fun f => Triple.revisioned hP f _) fs
  case getBundle id =>
    exact (Coordinator.triple_requireBundle hP id).bind fun b =>
      (Triple.revisioned hP b _).mono (fun _ hw => hw.1) (fun _ _ hw => hw) fun _ hw => hw
  case listBundles bucketId =>
    exact ((Coordinator.triple_requireBucket hP bucketId).mono (fun _ hw => hw) (fun _ _ hw => hw.1)
      fun _ hw => hw).bind fun _ => keep.bind fun bs => Triple.mapM (fun b => Triple.revisioned hP b _) bs
  case getSnapshot flowId version =>
    unfold Coordinator.getSnapshot
    refine ((Coordinator.triple_requireFlow hP flowId).mono (fun _ hw => hw) (fun _ _ hw => hw.1)
      fun _ hw => hw).bind fun _ => keep.bind fun found => ?_
    have load := Triple.of_records (Coordinator.keeps_records_loadSnapshot flowId version) hP.records
      (Q := fun _ => P) (fun _ _ hw => hw) (fun _ hw => hw)
    split
    · exact Triple.throw' _ (fun _ hw => hw) |>.bind fun _ => load
    · exact load
  case getLatestSnapshot flowId =>
    unfold Coordinator.getLatestSnapshot
    refine ((Coordinator.triple_requireFlow hP flowId).mono (fun _ hw => hw) (fun _ _ hw => hw.1)
      fun _ hw => hw).bind fun _ => keep.bind fun found => ?_
    cases found with
    | some latest =>
      exact Triple.of_records (Coordinator.keeps_records_loadSnapshot flowId latest.version) hP.records
        (fun _ _ hw => hw) (fun _ hw => hw)
    | none => exact Triple.throw' _ fun _ hw => hw
  case listSnapshots flowId =>
    exact ((Coordinator.triple_requireFlow hP flowId).mono (fun _ hw => hw) (fun _ _ hw => hw.1)
      fun _ hw => hw).bind fun _ => keep
  case listBundleVersions bundleId =>
    exact ((Coordinator.triple_requireBundle hP bundleId).mono (fun _ hw => hw) (fun _ _ hw => hw.1)
      fun _ hw => hw).bind fun _ => keep
  case getBundleVersionContent bundleId version =>
    unfold Coordinator.getBundleVersionContent
    refine keep.bind fun found => ?_
    cases found with
    | some record =>
      refine Triple.records_bind (World.keeps_records_getContent _ _) hP.records (fun _ hw => hw)
        fun data => ?_
      split
      · exact Triple.throw' _ (fun _ hw => hw) |>.bind fun _ => Triple.pure' _ fun _ hw => hw
      · exact Triple.pure' _ fun _ hw => hw
    | none => exact Triple.throw' _ fun _ hw => hw

end FlowRegistry
