import FlowRegistry.Proofs.Integrity
import Mathlib.Data.List.Pairwise

/-!
# Names stay unique and listings stay in order

The coordinator trims a name before it checks it, refuses a blank one or one longer than
`maxNameLength`, and looks the trimmed name up before it writes it: a bucket name must not be any
other bucket's without regard to case, a flow name any other flow's of its bucket, the group and
artifact ids of a bundle any other bundle's of its bucket. `Catalog.Named` says that the catalog
holds no two such records and that every name it holds is stored as the coordinator validated it
(`StoredName`).

The lookup and the write are two calls of the metadata store. A flow queued to appear between them
could take the name, so the names stay unique only when no flow is queued; failures of any call
are harmless, since a failed call writes nothing. Every operation then keeps the catalog named
(`Operation.triple_named`), and so does every run from empty stores in which no flow is queued.

The listings sort by the lowercase name (by the coordinates for bundles), and the catalog keeps its
tables sorted by identifier (`Catalog.Ordered`), so that a write replaces the one record with its
identifier. With the names unique, each listing is strictly sorted and depends on nothing but the
set of records listed (`Catalog.ListsInOrder`); what the coordinator's listings answer, when they
answer, is the catalog's listing (`World.Lists`). All together: `names_unique_and_listed_in_order`.
-/

namespace FlowRegistry

open Coordinator

/-! ### Stored names -/

namespace Text

theorem dropBlank_of_head {cs : List Char} (h : ∀ c, cs.head? = some c → isBlank c = false) :
    dropBlank cs = cs := by
  cases cs with
  | nil => rfl
  | cons c rest => simp [dropBlank, List.dropWhile, h c rfl]

theorem toList_trim (s : String) :
    (trim s).toList = (dropBlank (dropBlank s.toList).reverse).reverse := by
  simp only [trim, trimEnd, trimStart, String.toList_ofList]

/-- Trimming twice is trimming once. -/
theorem trim_trim (s : String) : trim (trim s) = trim s := by
  apply String.toList_inj.1
  rw [toList_trim, toList_trim]
  generalize hb : dropBlank (dropBlank s.toList).reverse = b
  have hstart : b.reverse <+: dropBlank s.toList := by
    have hsuffix : b <:+ (dropBlank s.toList).reverse := hb ▸ List.dropWhile_suffix _
    simpa using List.reverse_prefix.2 hsuffix
  have hhead : ∀ c, b.reverse.head? = some c → isBlank c = false := by
    intro c hc
    have hne : b.reverse ≠ [] := by
      intro hnil
      rw [hnil] at hc
      cases hc
    apply dropBlank_head s.toList c
    rw [List.head?_eq_some_head (hstart.ne_nil hne), ← hstart.head hne,
      ← List.head?_eq_some_head hne]
    exact hc
  rw [dropBlank_of_head hhead, List.reverse_reverse,
    dropBlank_of_head fun c hc => dropBlank_head _ c (by rw [hb]; exact hc)]

end Text

/-- A name as the coordinator stores it: trimmed, not blank, and at most `maxNameLength`
characters long. -/
def StoredName (n : String) : Prop := Text.trim n = n ∧ n ≠ "" ∧ n.length ≤ maxNameLength

instance (n : String) : Decidable (StoredName n) :=
  inferInstanceAs (Decidable (_ ∧ _ ∧ _))

/-- A name that passes the check is stored trimmed. -/
theorem storedName_of_validateName {kind name : String} (h : validateName kind name = .ok ()) :
    StoredName (Text.trim name) := by
  unfold validateName at h
  dsimp only at h
  split at h
  · cases h
  · next hblank =>
    split at h
    · cases h
    · next hlong => exact ⟨Text.trim_trim name, hblank, Nat.le_of_not_lt hlong⟩

example : StoredName "Team" := by decide

/-! ### Tables sorted by identifier -/

/-- In a list whose keys are distinct, an element is the one found under its key. -/
theorem find?_key_of_nodup {α β : Type} [BEq β] [LawfulBEq β] {key : α → β} {l : List α} {x : α}
    (hnd : (l.map key).Nodup) (hx : x ∈ l) : l.find? (key · == key x) = some x := by
  induction l with
  | nil => cases hx
  | cons y ys ih =>
    rw [List.map_cons, List.nodup_cons] at hnd
    rcases List.mem_cons.1 hx with rfl | hx
    · simp
    · have hne : key y ≠ key x := fun h => hnd.1 (h ▸ List.mem_map_of_mem hx)
      simp [hne, ih hnd.2 hx]

theorem Uuid.val_ne {a b : Uuid} (h : a ≠ b) : a.value.val ≠ b.value.val := fun hv =>
  h (by cases a; cases b; cases Fin.ext hv; rfl)

/-- A table sorted by the identifiers of its records, so holding each identifier once. -/
def IdSorted {α : Type} (key : α → Uuid) (xs : List α) : Prop :=
  xs.Pairwise fun a b => (key a).value.val < (key b).value.val

namespace IdSorted

variable {α : Type} {key : α → Uuid} {x z : α} {xs : List α}

theorem key_ne_of_lt {a b : α} (h : (key a).value.val < (key b).value.val) : key a ≠ key b :=
  fun he => by rw [he] at h; exact Nat.lt_irrefl _ h

/-- An insert by identifier keeps the table sorted. -/
theorem insert (h : IdSorted key xs) (x : α) : IdSorted key (insertById key x xs) := by
  induction xs with
  | nil => exact List.pairwise_singleton _ _
  | cons y ys ih =>
    obtain ⟨hy, hys⟩ := List.pairwise_cons.1 h
    unfold insertById
    split
    · next heq => exact List.pairwise_cons.2 ⟨fun z hz => heq ▸ hy z hz, hys⟩
    · split
      · next hlt =>
        have hxy : (key x).value.val < (key y).value.val := by
          simpa only [Uuid.lt, decide_eq_true_eq, Fin.lt_def] using hlt
        exact List.pairwise_cons.2 ⟨fun z hz => (List.mem_cons.1 hz).elim (· ▸ hxy)
          fun hz => Nat.lt_trans hxy (hy z hz), h⟩
      · next hne hnlt =>
        have hyx : (key y).value.val < (key x).value.val := by
          have := Uuid.val_ne hne
          simp only [Uuid.lt, decide_eq_true_eq, Fin.lt_def] at hnlt
          omega
        refine List.pairwise_cons.2 ⟨fun z hz => ?_, ih hys⟩
        rcases mem_of_mem_insertById hz with rfl | hz
        · exact hyx
        · exact hy z hz

/-- After an insert by identifier, every other record is one with another identifier. -/
theorem mem_insert (h : IdSorted key xs) (hz : z ∈ insertById key x xs) :
    z = x ∨ z ∈ xs ∧ key z ≠ key x := by
  induction xs with
  | nil => exact .inl (List.mem_singleton.1 hz)
  | cons y ys ih =>
    obtain ⟨hy, hys⟩ := List.pairwise_cons.1 h
    unfold insertById at hz
    split at hz
    · next heq =>
      rcases List.mem_cons.1 hz with rfl | hz
      · exact .inl rfl
      · exact .inr ⟨List.mem_cons_of_mem y hz, heq ▸ (key_ne_of_lt (hy z hz)).symm⟩
    · split at hz
      · next hne hlt =>
        have hxy : (key x).value.val < (key y).value.val := by
          simpa only [Uuid.lt, decide_eq_true_eq, Fin.lt_def] using hlt
        rcases List.mem_cons.1 hz with rfl | hz
        · exact .inl rfl
        · rcases List.mem_cons.1 hz with rfl | hz
          · exact .inr ⟨List.mem_cons_self, fun hk => hne hk.symm⟩
          · exact .inr ⟨List.mem_cons_of_mem y hz,
              (key_ne_of_lt (Nat.lt_trans hxy (hy z hz))).symm⟩
      · next hne _ =>
        rcases List.mem_cons.1 hz with rfl | hz
        · exact .inr ⟨List.mem_cons_self, fun hk => hne hk.symm⟩
        · exact (ih hys hz).imp_right fun h => ⟨List.mem_cons_of_mem y h.1, h.2⟩

/-- An insert by identifier keeps a relation among the records when the new record stands in it
with every record of another identifier. -/
theorem pairwise_insert {R : α → α → Prop} (h : IdSorted key xs) (hR : xs.Pairwise R)
    (hx : ∀ y ∈ xs, key y ≠ key x → R x y ∧ R y x) : (insertById key x xs).Pairwise R := by
  induction xs with
  | nil => exact List.pairwise_singleton _ _
  | cons y ys ih =>
    obtain ⟨hy, hys⟩ := List.pairwise_cons.1 h
    obtain ⟨hRy, hRys⟩ := List.pairwise_cons.1 hR
    unfold insertById
    split
    · next heq =>
      refine List.pairwise_cons.2 ⟨fun z hz => (hx z (List.mem_cons_of_mem y hz) ?_).1, hRys⟩
      exact heq ▸ (key_ne_of_lt (hy z hz)).symm
    · split
      · next hne hlt =>
        have hxy : (key x).value.val < (key y).value.val := by
          simpa only [Uuid.lt, decide_eq_true_eq, Fin.lt_def] using hlt
        refine List.pairwise_cons.2 ⟨fun z hz => (hx z hz ?_).1, hR⟩
        rcases List.mem_cons.1 hz with rfl | hz
        · exact fun hk => hne hk.symm
        · exact (key_ne_of_lt (Nat.lt_trans hxy (hy z hz))).symm
      · next hne _ =>
        refine List.pairwise_cons.2 ⟨fun z hz => ?_,
          ih hys hRys fun z hz => hx z (List.mem_cons_of_mem y hz)⟩
        rcases mem_of_mem_insertById hz with rfl | hz
        · exact (hx y List.mem_cons_self fun hk => hne hk.symm).2
        · exact hRy z hz

theorem filter (h : IdSorted key xs) (p : α → Bool) : IdSorted key (xs.filter p) :=
  List.Pairwise.filter p h

/-- A record of the table is the one found under its identifier. -/
theorem find?_of_mem (h : IdSorted key xs) (hx : x ∈ xs) :
    xs.find? (key · == key x) = some x := by
  induction xs with
  | nil => cases hx
  | cons y ys ih =>
    rcases List.mem_cons.1 hx with rfl | hx
    · simp
    · -- the identifiers rise strictly, so the head's is not the record's
      have hne := key_ne_of_lt (List.rel_of_pairwise_cons h hx)
      simp [hne, ih (List.Pairwise.of_cons h) hx]

end IdSorted

/-! ### The invariant -/

/-- Two buckets whose names differ without regard to case. -/
def Bucket.Apart (a b : Bucket) : Prop := Text.toLower a.name ≠ Text.toLower b.name

/-- Two flows of different buckets, or whose names differ without regard to case. -/
def Flow.Apart (f g : Flow) : Prop :=
  f.bucketIdentifier = g.bucketIdentifier → Text.toLower f.name ≠ Text.toLower g.name

/-- Two bundles of different buckets, or with different group or artifact ids. -/
def Bundle.Apart (a b : Bundle) : Prop :=
  a.bucketIdentifier = b.bucketIdentifier → (a.groupId, a.artifactId) ≠ (b.groupId, b.artifactId)

instance : Std.Symm Bucket.Apart where
  symm _ _ h := Ne.symm h

instance : Std.Symm Flow.Apart where
  symm _ _ h hb := Ne.symm (h hb.symm)

instance : Std.Symm Bundle.Apart where
  symm _ _ h hb := Ne.symm (h hb.symm)

namespace Catalog

/-- The tables of entities, which the writes of snapshot records and bundle versions leave alone. -/
def tables (c : Catalog) : List Bucket × List Flow × List Bundle := (c.buckets, c.flows, c.bundles)

/-- Every table of entities is sorted by identifier. -/
structure Ordered (c : Catalog) : Prop where
  buckets : IdSorted (·.identifier) c.buckets
  flows : IdSorted (·.identifier) c.flows
  bundles : IdSorted (·.identifier) c.bundles

/-- No two buckets share a name without regard to case, no two flows of a bucket, no two bundles of
a bucket their coordinates; and every name is stored as the coordinator validated it. -/
structure Named (c : Catalog) : Prop where
  bucketNames : c.buckets.Pairwise Bucket.Apart
  flowNames : c.flows.Pairwise Flow.Apart
  bundleCoordinates : c.bundles.Pairwise Bundle.Apart
  bucketsStored : ∀ b ∈ c.buckets, StoredName b.name
  flowsStored : ∀ f ∈ c.flows, StoredName f.name
  bundlesStored : ∀ b ∈ c.bundles, StoredName b.groupId ∧ StoredName b.artifactId

theorem ordered_empty : Catalog.empty.Ordered := ⟨.nil, .nil, .nil⟩

theorem named_empty : Catalog.empty.Named := ⟨.nil, .nil, .nil, nofun, nofun, nofun⟩

variable {c c' : Catalog}

theorem tables_eq (h : c'.tables = c.tables) :
    c'.buckets = c.buckets ∧ c'.flows = c.flows ∧ c'.bundles = c.bundles := by
  simpa [tables] using h

/-! The catalog's writes of entities, and of the records under them. -/

theorem insertBucket_eq {b : Bucket} (h : c.insertBucket b = .ok c') :
    c' = { c with buckets := insertById (·.identifier) b c.buckets } := by
  unfold insertBucket at h
  split at h
  · cases h
  · cases h
    rfl

theorem updateBucket_eq {b : Bucket} (h : c.updateBucket b = .ok c') :
    c' = { c with buckets := insertById (·.identifier) b c.buckets } := by
  unfold updateBucket at h
  split at h
  · cases h
  · cases h
    rfl

theorem insertFlow_eq {f : Flow} (h : c.insertFlow f = .ok c') :
    c' = { c with flows := insertById (·.identifier) f c.flows } := by
  unfold insertFlow at h
  split at h
  · cases h
  · split at h
    · cases h
    · cases h
      rfl

theorem updateFlow_eq {f : Flow} (h : c.updateFlow f = .ok c') :
    c' = { c with flows := insertById (·.identifier) f c.flows } := by
  unfold updateFlow at h
  split at h
  · cases h
  · cases h
    rfl

theorem insertBundle_eq {b : Bundle} (h : c.insertBundle b = .ok c') :
    c' = { c with bundles := insertById (·.identifier) b c.bundles } := by
  unfold insertBundle at h
  split at h
  · cases h
  · split at h
    · cases h
    · cases h
      rfl

theorem updateBundle_eq {b : Bundle} (h : c.updateBundle b = .ok c') :
    c' = { c with bundles := insertById (·.identifier) b c.bundles } := by
  unfold updateBundle at h
  split at h
  · cases h
  · cases h
    rfl

theorem deleteBucket_eq {id : Uuid} {existed : Bool} (h : c.deleteBucket id = .ok (existed, c')) :
    c' = { c with buckets := c.buckets.filter (·.identifier != id) } := by
  unfold deleteBucket at h
  dsimp only at h
  split at h
  · cases h
  · cases h
    rfl

theorem tables_insertSnapshot {m : SnapshotMeta} (h : c.insertSnapshot m = .ok c') :
    c'.tables = c.tables := by
  unfold insertSnapshot at h
  split at h
  · cases h
  · split at h
    · cases h
    · cases h
      rfl

theorem tables_putBundleVersion {v : BundleVersion} (h : c.putBundleVersion v = .ok c') :
    c'.tables = c.tables := by
  unfold putBundleVersion at h
  split at h
  · cases h
  · cases h
    rfl

namespace Ordered

theorem of_tables (h : c.Ordered) (ht : c'.tables = c.tables) : c'.Ordered := by
  obtain ⟨hb, hf, hx⟩ := tables_eq ht
  exact ⟨hb ▸ h.buckets, hf ▸ h.flows, hx ▸ h.bundles⟩

theorem writeBucket (h : c.Ordered) (b : Bucket) :
    ({ c with buckets := insertById (·.identifier) b c.buckets } : Catalog).Ordered :=
  ⟨h.buckets.insert b, h.flows, h.bundles⟩

theorem writeFlow (h : c.Ordered) (f : Flow) :
    ({ c with flows := insertById (·.identifier) f c.flows } : Catalog).Ordered :=
  ⟨h.buckets, h.flows.insert f, h.bundles⟩

theorem writeBundle (h : c.Ordered) (b : Bundle) :
    ({ c with bundles := insertById (·.identifier) b c.bundles } : Catalog).Ordered :=
  ⟨h.buckets, h.flows, h.bundles.insert b⟩

theorem deleteBucket (h : c.Ordered) (id : Uuid) :
    ({ c with buckets := c.buckets.filter (·.identifier != id) } : Catalog).Ordered :=
  ⟨h.buckets.filter _, h.flows, h.bundles⟩

theorem deleteFlow (h : c.Ordered) (id : Uuid) : (c.deleteFlow id).2.Ordered :=
  ⟨h.buckets, h.flows.filter _, h.bundles⟩

theorem deleteBundle (h : c.Ordered) (id : Uuid) : (c.deleteBundle id).2.Ordered :=
  ⟨h.buckets, h.flows, h.bundles.filter _⟩

end Ordered

namespace Named

theorem of_tables (h : c.Named) (ht : c'.tables = c.tables) : c'.Named := by
  obtain ⟨hb, hf, hx⟩ := tables_eq ht
  exact ⟨hb ▸ h.bucketNames, hf ▸ h.flowNames, hx ▸ h.bundleCoordinates,
    hb ▸ h.bucketsStored, hf ▸ h.flowsStored, hx ▸ h.bundlesStored⟩

/-- A bucket written under its identifier, with a name apart from every other bucket's. -/
theorem writeBucket (h : c.Named) (ho : c.Ordered) {b : Bucket}
    (hapart : ∀ y ∈ c.buckets, y.identifier ≠ b.identifier → y.Apart b) (hs : StoredName b.name) :
    ({ c with buckets := insertById (·.identifier) b c.buckets } : Catalog).Named where
  bucketNames := ho.buckets.pairwise_insert h.bucketNames fun y hy hne =>
    ⟨Std.Symm.symm _ _ (hapart y hy hne), hapart y hy hne⟩
  flowNames := h.flowNames
  bundleCoordinates := h.bundleCoordinates
  bucketsStored y hy := (mem_of_mem_insertById hy).elim (fun hyb => hyb ▸ hs) (h.bucketsStored y)
  flowsStored := h.flowsStored
  bundlesStored := h.bundlesStored

/-- A flow written under its identifier, with a name apart from every other flow's of its
bucket. -/
theorem writeFlow (h : c.Named) (ho : c.Ordered) {f : Flow}
    (hapart : ∀ g ∈ c.flows, g.identifier ≠ f.identifier → g.Apart f) (hs : StoredName f.name) :
    ({ c with flows := insertById (·.identifier) f c.flows } : Catalog).Named where
  bucketNames := h.bucketNames
  flowNames := ho.flows.pairwise_insert h.flowNames fun g hg hne =>
    ⟨Std.Symm.symm _ _ (hapart g hg hne), hapart g hg hne⟩
  bundleCoordinates := h.bundleCoordinates
  bucketsStored := h.bucketsStored
  flowsStored g hg := (mem_of_mem_insertById hg).elim (fun hgf => hgf ▸ hs) (h.flowsStored g)
  bundlesStored := h.bundlesStored

/-- A bundle written under its identifier, with coordinates apart from every other bundle's of
its bucket. -/
theorem writeBundle (h : c.Named) (ho : c.Ordered) {b : Bundle}
    (hapart : ∀ y ∈ c.bundles, y.identifier ≠ b.identifier → y.Apart b)
    (hs : StoredName b.groupId ∧ StoredName b.artifactId) :
    ({ c with bundles := insertById (·.identifier) b c.bundles } : Catalog).Named where
  bucketNames := h.bucketNames
  flowNames := h.flowNames
  bundleCoordinates := ho.bundles.pairwise_insert h.bundleCoordinates fun y hy hne =>
    ⟨Std.Symm.symm _ _ (hapart y hy hne), hapart y hy hne⟩
  bucketsStored := h.bucketsStored
  flowsStored := h.flowsStored
  bundlesStored y hy := (mem_of_mem_insertById hy).elim (fun hyb => hyb ▸ hs) (h.bundlesStored y)

theorem deleteBucket (h : c.Named) (id : Uuid) :
    ({ c with buckets := c.buckets.filter (·.identifier != id) } : Catalog).Named :=
  { h with
    bucketNames := h.bucketNames.filter _
    bucketsStored := fun b hb => h.bucketsStored b (List.mem_filter.1 hb).1 }

theorem deleteFlow (h : c.Named) (id : Uuid) : (c.deleteFlow id).2.Named :=
  { h with
    flowNames := h.flowNames.filter _
    flowsStored := fun f hf => h.flowsStored f (List.mem_filter.1 hf).1 }

theorem deleteBundle (h : c.Named) (id : Uuid) : (c.deleteBundle id).2.Named :=
  { h with
    bundleCoordinates := h.bundleCoordinates.filter _
    bundlesStored := fun b hb => h.bundlesStored b (List.mem_filter.1 hb).1 }

/-! What the coordinator's lookups tell about the name it is about to write. -/

/-- A record written back under its identifier with its name apart from every other. -/
theorem bucket_apart_of_mem (h : c.Named) {b : Bucket} (hb : b ∈ c.buckets) :
    ∀ y ∈ c.buckets, y.identifier ≠ b.identifier → y.Apart b :=
  fun _ hy hne => h.bucketNames.forall hy hb fun hyb => hne (hyb ▸ rfl)

theorem flow_apart_of_mem (h : c.Named) {f : Flow} (hf : f ∈ c.flows) :
    ∀ g ∈ c.flows, g.identifier ≠ f.identifier → g.Apart f :=
  fun _ hg hne => h.flowNames.forall hg hf fun hgf => hne (hgf ▸ rfl)

theorem bundle_apart_of_mem (h : c.Named) {b : Bundle} (hb : b ∈ c.bundles) :
    ∀ y ∈ c.bundles, y.identifier ≠ b.identifier → y.Apart b :=
  fun _ hy hne => h.bundleCoordinates.forall hy hb fun hyb => hne (hyb ▸ rfl)

/-- A name that the lookup finds only on the bucket itself is apart from every other bucket's. -/
theorem bucket_apart_of_fetchBucketByName (h : c.Named) {b other : Bucket}
    (hf : c.fetchBucketByName b.name = some other) (hid : other.identifier = b.identifier) :
    ∀ y ∈ c.buckets, y.identifier ≠ b.identifier → y.Apart b := by
  intro y hy hne hsame
  have hother : other ∈ c.buckets := List.mem_of_find?_eq_some hf
  have hname : Text.toLower other.name = Text.toLower b.name := by
    simpa [sameName] using List.find?_some hf
  exact h.bucketNames.forall hy hother (fun hyo => hne (hyo ▸ hid)) (hsame.trans hname.symm)

theorem flow_apart_of_fetchFlowByName (h : c.Named) {f other : Flow}
    (hf : c.fetchFlowByName f.bucketIdentifier f.name = some other)
    (hid : other.identifier = f.identifier) :
    ∀ g ∈ c.flows, g.identifier ≠ f.identifier → g.Apart f := by
  intro g hg hne hbucket hsame
  have hother : other ∈ c.flows := List.mem_of_find?_eq_some hf
  have hfound : other.bucketIdentifier = f.bucketIdentifier ∧
      Text.toLower other.name = Text.toLower f.name := by
    simpa [sameName] using List.find?_some hf
  exact h.flowNames.forall hg hother (fun hgo => hne (hgo ▸ hid)) (hbucket.trans hfound.1.symm)
    (hsame.trans hfound.2.symm)

/-- A bucket read from the catalog and written back under its own name keeps it named. -/
theorem rewriteBucket (h : c.Named) (ho : c.Ordered) {id : Uuid} {b b' : Bucket}
    (hb : c.fetchBucket id = some b) (hc : c.updateBucket b' = .ok c')
    (hid : b'.identifier = b.identifier) (hname : b'.name = b.name) : c'.Ordered ∧ c'.Named := by
  have hmem : b ∈ c.buckets := List.mem_of_find?_eq_some hb
  rw [updateBucket_eq hc]
  refine ⟨ho.writeBucket b', h.writeBucket ho (fun y hy hne => ?_) (hname ▸ h.bucketsStored b hmem)⟩
  show Text.toLower y.name ≠ Text.toLower b'.name
  rw [hname]
  exact h.bucket_apart_of_mem hmem y hy (hid ▸ hne)

/-- A flow read from the catalog and written back in its bucket under its own name keeps it
named. -/
theorem rewriteFlow (h : c.Named) (ho : c.Ordered) {id : Uuid} {f f' : Flow}
    (hf : c.fetchFlow id = some f) (hc : c.updateFlow f' = .ok c')
    (hid : f'.identifier = f.identifier) (hbucket : f'.bucketIdentifier = f.bucketIdentifier)
    (hname : f'.name = f.name) : c'.Ordered ∧ c'.Named := by
  have hmem : f ∈ c.flows := List.mem_of_find?_eq_some hf
  rw [updateFlow_eq hc]
  refine ⟨ho.writeFlow f', h.writeFlow ho (fun g hg hne hb => ?_) (hname ▸ h.flowsStored f hmem)⟩
  rw [hname]
  exact h.flow_apart_of_mem hmem g hg (hid ▸ hne) (hb.trans hbucket)

/-- A bundle read from the catalog and written back at its own coordinate keeps it named. -/
theorem rewriteBundle (h : c.Named) (ho : c.Ordered) {id : Uuid} {b b' : Bundle}
    (hb : c.fetchBundle id = some b) (hc : c.updateBundle b' = .ok c')
    (hid : b'.identifier = b.identifier) (hbucket : b'.bucketIdentifier = b.bucketIdentifier)
    (hgroup : b'.groupId = b.groupId) (hartifact : b'.artifactId = b.artifactId) :
    c'.Ordered ∧ c'.Named := by
  have hmem : b ∈ c.bundles := List.mem_of_find?_eq_some hb
  rw [updateBundle_eq hc]
  refine ⟨ho.writeBundle b', h.writeBundle ho (fun y hy hne hy' => ?_) ?_⟩
  · rw [hgroup, hartifact]
    exact h.bundle_apart_of_mem hmem y hy (hid ▸ hne) (hy'.trans hbucket)
  · rw [hgroup, hartifact]
    exact h.bundlesStored b hmem

end Named

theorem bucket_apart_of_fetchBucketByName_none {b : Bucket}
    (h : c.fetchBucketByName b.name = none) : ∀ y ∈ c.buckets, y.Apart b := by
  intro y hy hsame
  have := List.find?_eq_none.1 h y hy
  simp [sameName, hsame] at this

theorem flow_apart_of_fetchFlowByName_none {f : Flow}
    (h : c.fetchFlowByName f.bucketIdentifier f.name = none) : ∀ g ∈ c.flows, g.Apart f := by
  intro g hg hbucket hsame
  have := List.find?_eq_none.1 h g hg
  simp [sameName, hbucket, hsame] at this

theorem fetchBucket_identifier {id : Uuid} {b : Bucket} (h : c.fetchBucket id = some b) :
    b.identifier = id := by
  simpa using List.find?_some h

theorem fetchFlow_identifier {id : Uuid} {f : Flow} (h : c.fetchFlow id = some f) :
    f.identifier = id := by
  simpa using List.find?_some h

theorem fetchFlow_of_tables (ht : c'.tables = c.tables) (id : Uuid) :
    c'.fetchFlow id = c.fetchFlow id := by
  rw [fetchFlow, fetchFlow, (tables_eq ht).2.1]

theorem fetchBundle_of_tables (ht : c'.tables = c.tables) (id : Uuid) :
    c'.fetchBundle id = c.fetchBundle id := by
  rw [fetchBundle, fetchBundle, (tables_eq ht).2.2]

theorem bundle_apart_of_fetchBundleByCoordinate_none {b : Bundle}
    (h : c.fetchBundleByCoordinate b.bucketIdentifier b.groupId b.artifactId = none) :
    ∀ y ∈ c.bundles, y.Apart b := by
  intro y hy hbucket hsame
  have := List.find?_eq_none.1 h y hy
  simp only [Prod.mk.injEq] at hsame
  simp [hbucket, hsame] at this

end Catalog

/-! ### Listings in order -/

section Sorting

variable {α : Type} {le : α → α → Bool} {lt R : α → α → Prop}

/-- A sort by a total order on keys that no two records share puts the records in strictly
increasing order, whatever order they came in. -/
theorem pairwise_mergeSort_of_apart (trans : ∀ a b c, le a b → le b c → le a c)
    (total : ∀ a b, le a b || le b a) (strict : ∀ a b, le a b → R a b → lt a b)
    (hsymm : ∀ {a b}, R a b → R b a) {l : List α} (hl : l.Pairwise R) :
    (l.mergeSort le).Pairwise lt :=
  (List.pairwise_mergeSort trans total l).imp₂ strict (hl.perm (List.mergeSort_perm l le).symm hsymm)

/-- Records that no two share a key sort alike whatever order they came in. -/
theorem mergeSort_eq_of_perm (trans : ∀ a b c, le a b → le b c → le a c)
    (total : ∀ a b, le a b || le b a) (strict : ∀ a b, le a b → R a b → lt a b)
    (asymm : ∀ a b, lt a b → ¬lt b a) (hsymm : ∀ {a b}, R a b → R b a) {l l' : List α}
    (hl : l.Pairwise R) (hp : l'.Perm l) : l'.mergeSort le = l.mergeSort le :=
  List.Perm.eq_of_pairwise (fun a b _ _ hab hba => absurd hba (asymm a b hab))
    (pairwise_mergeSort_of_apart trans total strict hsymm (hl.perm hp.symm hsymm))
    (pairwise_mergeSort_of_apart trans total strict hsymm hl)
    (((List.mergeSort_perm _ _).trans hp).trans (List.mergeSort_perm _ _).symm)

end Sorting

section Keys

variable {α : Type} (key : α → String)

theorem le_trans_key : ∀ a b c : α, decide (key a ≤ key b) → decide (key b ≤ key c) →
    decide (key a ≤ key c) := by
  simp only [decide_eq_true_eq]
  exact fun _ _ _ => String.le_trans

theorem le_total_key : ∀ a b : α, (decide (key a ≤ key b) || decide (key b ≤ key a)) := by
  intro a b
  simpa using String.le_total (key a) (key b)

theorem lt_of_le_of_ne_key : ∀ a b : α, decide (key a ≤ key b) → key a ≠ key b → key a < key b := by
  intro a b hle hne
  simp only [decide_eq_true_eq] at hle
  exact Decidable.byContradiction fun hlt => hne (String.le_antisymm hle (String.not_lt.1 hlt))

end Keys

/-- The order of bundles in a listing: by group id, then by artifact id. -/
def Bundle.CoordinateLt (a b : Bundle) : Prop :=
  a.groupId < b.groupId ∨ a.groupId = b.groupId ∧ a.artifactId < b.artifactId

/-- The order in which the catalog lists the bundles of a bucket. -/
theorem Bundle.coordinate_le_trans : ∀ a b c : Bundle,
    (a.groupId < b.groupId || (a.groupId == b.groupId && a.artifactId ≤ b.artifactId)) →
    (b.groupId < c.groupId || (b.groupId == c.groupId && b.artifactId ≤ c.artifactId)) →
    (a.groupId < c.groupId || (a.groupId == c.groupId && a.artifactId ≤ c.artifactId)) := by
  intro a b c hab hbc
  simp only [Bool.or_eq_true, decide_eq_true_eq, Bool.and_eq_true, beq_iff_eq] at hab hbc ⊢
  rcases hab with hab | ⟨hab, hab'⟩ <;> rcases hbc with hbc | ⟨hbc, hbc'⟩
  · exact .inl (String.lt_trans hab hbc)
  · exact .inl (hbc ▸ hab)
  · exact .inl (hab ▸ hbc)
  · exact .inr ⟨hab.trans hbc, String.le_trans hab' hbc'⟩

theorem Bundle.coordinate_le_total : ∀ a b : Bundle,
    ((a.groupId < b.groupId || (a.groupId == b.groupId && a.artifactId ≤ b.artifactId)) ||
      (b.groupId < a.groupId || (b.groupId == a.groupId && b.artifactId ≤ a.artifactId))) := by
  intro a b
  simp only [Bool.or_eq_true, decide_eq_true_eq, Bool.and_eq_true, beq_iff_eq]
  by_cases hlt : a.groupId < b.groupId
  · exact .inl (.inl hlt)
  by_cases hgt : b.groupId < a.groupId
  · exact .inr (.inl hgt)
  have heq : a.groupId = b.groupId := String.le_antisymm (String.not_lt.1 hgt) (String.not_lt.1 hlt)
  rcases String.le_total a.artifactId b.artifactId with hle | hle
  · exact .inl (.inr ⟨heq, hle⟩)
  · exact .inr (.inr ⟨heq.symm, hle⟩)

theorem Bundle.coordinateLt_of_le : ∀ a b : Bundle,
    (a.groupId < b.groupId || (a.groupId == b.groupId && a.artifactId ≤ b.artifactId)) →
    (a.groupId, a.artifactId) ≠ (b.groupId, b.artifactId) → a.CoordinateLt b := by
  intro a b hle hne
  simp only [Bool.or_eq_true, decide_eq_true_eq, Bool.and_eq_true, beq_iff_eq] at hle
  rcases hle with hlt | ⟨heq, hle⟩
  · exact .inl hlt
  · refine .inr ⟨heq, lt_of_le_of_ne_key id _ _ (by simpa using hle) fun ha => hne ?_⟩
    rw [heq, show a.artifactId = b.artifactId from ha]

theorem Bundle.coordinateLt_asymm : ∀ a b : Bundle, a.CoordinateLt b → ¬b.CoordinateLt a := by
  intro a b hab hba
  rcases hab with hab | ⟨hab, hab'⟩ <;> rcases hba with hba | ⟨hba, hba'⟩
  · exact String.lt_asymm hab hba
  · exact String.lt_irrefl _ (hba ▸ hab)
  · exact String.lt_irrefl _ (hab ▸ hba)
  · exact String.lt_asymm hab' hba'

namespace Catalog

/-- Each listing of the catalog is strictly sorted by its key, and comes out the same for every
order in which the catalog might hold its records. -/
structure ListsInOrder (c : Catalog) : Prop where
  buckets : (c.listBuckets.map fun b => Text.toLower b.name).Pairwise (· < ·)
  flows : ∀ bucket, ((c.listFlows bucket).map fun f => Text.toLower f.name).Pairwise (· < ·)
  bundles : ∀ bucket, (c.listBundles bucket).Pairwise Bundle.CoordinateLt
  bucketsAnyOrder : ∀ c' : Catalog, c'.buckets.Perm c.buckets → c'.listBuckets = c.listBuckets
  flowsAnyOrder : ∀ c' : Catalog, c'.flows.Perm c.flows →
    ∀ bucket, c'.listFlows bucket = c.listFlows bucket
  bundlesAnyOrder : ∀ c' : Catalog, c'.bundles.Perm c.bundles →
    ∀ bucket, c'.listBundles bucket = c.listBundles bucket

variable {c : Catalog}

/-- The flows of one bucket have names apart. -/
theorem Named.flowNames_of (h : c.Named) (bucket : Uuid) :
    (c.flows.filter (·.bucketIdentifier == bucket)).Pairwise fun f g =>
      Text.toLower f.name ≠ Text.toLower g.name :=
  (h.flowNames.filter _).imp_of_mem fun hf hg happart => by
    simp only [List.mem_filter, beq_iff_eq] at hf hg
    exact happart (hf.2.trans hg.2.symm)

/-- The bundles of one bucket have coordinates apart. -/
theorem Named.bundleCoordinates_of (h : c.Named) (bucket : Uuid) :
    (c.bundles.filter (·.bucketIdentifier == bucket)).Pairwise fun a b =>
      (a.groupId, a.artifactId) ≠ (b.groupId, b.artifactId) :=
  (h.bundleCoordinates.filter _).imp_of_mem fun ha hb happart => by
    simp only [List.mem_filter, beq_iff_eq] at ha hb
    exact happart (ha.2.trans hb.2.symm)

/-- With the names unique, every listing is in strict order and depends only on the records. -/
theorem Named.listsInOrder (h : c.Named) : c.ListsInOrder where
  buckets := List.pairwise_map.2 <| pairwise_mergeSort_of_apart (le_trans_key _)
    (le_total_key _) (lt_of_le_of_ne_key _) (fun hab => Std.Symm.symm _ _ hab) h.bucketNames
  flows bucket := List.pairwise_map.2 <| pairwise_mergeSort_of_apart (le_trans_key _)
    (le_total_key _) (lt_of_le_of_ne_key _) Ne.symm (h.flowNames_of bucket)
  bundles bucket := pairwise_mergeSort_of_apart Bundle.coordinate_le_trans
    Bundle.coordinate_le_total Bundle.coordinateLt_of_le Ne.symm (h.bundleCoordinates_of bucket)
  bucketsAnyOrder _ hp := mergeSort_eq_of_perm (le_trans_key _) (le_total_key _)
    (lt_of_le_of_ne_key _) (fun _ _ => String.lt_asymm) (fun hab => Std.Symm.symm _ _ hab)
    h.bucketNames hp
  flowsAnyOrder _ hp bucket := mergeSort_eq_of_perm (le_trans_key _) (le_total_key _)
    (lt_of_le_of_ne_key _) (fun _ _ => String.lt_asymm) Ne.symm (h.flowNames_of bucket)
    (hp.filter _)
  bundlesAnyOrder _ hp bucket := mergeSort_eq_of_perm Bundle.coordinate_le_trans
    Bundle.coordinate_le_total Bundle.coordinateLt_of_le Bundle.coordinateLt_asymm Ne.symm
    (h.bundleCoordinates_of bucket) (hp.filter _)

end Catalog

/-! ### The registry keeps its catalog named -/

/-- No flow is queued to appear, the catalog is ordered and named, and `φ` holds of it. -/
def World.NamedWith (φ : Catalog → Prop) (w : World) : Prop :=
  w.Calm ∧ w.catalog.Ordered ∧ w.catalog.Named ∧ φ w.catalog

/-- No flow is queued to appear, and the catalog is ordered and named. -/
abbrev World.Named : World → Prop := World.NamedWith fun _ => True

theorem admits_namedWith (φ : Catalog → Prop) : Admits (World.NamedWith φ) :=
  Admits.calm fun c => c.Ordered ∧ c.Named ∧ φ c

theorem World.NamedWith.named {φ : Catalog → Prop} {w : World} (h : w.NamedWith φ) : w.Named :=
  ⟨h.1, h.2.1, h.2.2.1, trivial⟩

namespace Triple

variable {α : Type} {m : String} {φ : Catalog → Prop}

theorem keep_named {m : Registry α} (hm : Keeps World.records m) :
    Triple (World.NamedWith φ) m (fun _ => World.NamedWith φ) World.Named :=
  of_records hm (admits_namedWith φ).records (fun _ _ hw => hw) fun _ hw => hw.named

/-- A read of the catalog, remembering what it answered. -/
theorem read_named {f : Catalog → α} :
    Triple (World.NamedWith φ) (World.readCatalog m f)
      (fun a => World.NamedWith fun c => φ c ∧ a = f c) World.Named :=
  readCatalog (admits_namedWith φ) (fun _ hw => ⟨hw.1, hw.2.1, hw.2.2.1, hw.2.2.2, rfl⟩)
    fun _ hw => hw.named

/-- A write of the catalog that keeps it ordered and named, given what holds before it. -/
theorem write_named {f : Catalog → Outcome Catalog}
    (hf : ∀ c c', c.Ordered → c.Named → φ c → f c = .ok c' → c'.Ordered ∧ c'.Named) :
    Triple (World.NamedWith φ) (World.writeCatalog m f) (fun _ => World.Named) World.Named :=
  writeCatalog (admits_namedWith φ)
    (fun _ _ hw hc => ⟨hw.1, (hf _ _ hw.2.1 hw.2.2.1 hw.2.2.2 hc).1,
      (hf _ _ hw.2.1 hw.2.2.1 hw.2.2.2 hc).2, trivial⟩) fun _ hw => hw.named

/-- A write of the catalog that leaves its tables of entities as they were. -/
theorem write_tables {f : Catalog → Outcome Catalog}
    (hf : ∀ c c', f c = .ok c' → c'.tables = c.tables) (hφ : ∀ c c', φ c → c'.tables = c.tables → φ c') :
    Triple (World.NamedWith φ) (World.writeCatalog m f) (fun _ => World.NamedWith φ) World.Named :=
  writeCatalog (admits_namedWith φ)
    (fun _ _ hw hc => ⟨hw.1, hw.2.1.of_tables (hf _ _ hc), hw.2.2.1.of_tables (hf _ _ hc),
      hφ _ _ hw.2.2.2 (hf _ _ hc)⟩) fun _ hw => hw.named

/-- A read of the catalog whose answer does not matter here. -/
theorem read_keep {f : Catalog → α} :
    Triple (World.NamedWith φ) (World.readCatalog m f) (fun _ => World.NamedWith φ) World.Named :=
  readCatalog (admits_namedWith φ) (fun _ hw => hw) fun _ hw => hw.named

/-- A change of the catalog that keeps it ordered and named. -/
theorem change_named {f : Catalog → α × Catalog}
    (hf : ∀ c, c.Ordered → c.Named → (f c).2.Ordered ∧ (f c).2.Named) :
    Triple World.Named (World.changeCatalog m f) (fun _ => World.Named) World.Named :=
  changeCatalog (admits_namedWith _)
    (fun _ hw => ⟨hw.1, (hf _ hw.2.1 hw.2.2.1).1, (hf _ hw.2.1 hw.2.2.1).2, trivial⟩)
    fun _ hw => hw

/-- A change of the catalog that leaves its tables of entities as they were. -/
theorem change_tables {f : Catalog → α × Catalog} (hf : ∀ c, (f c).2.tables = c.tables) :
    Triple World.Named (World.changeCatalog m f) (fun _ => World.Named) World.Named :=
  change_named fun _ ho hn => ⟨ho.of_tables (hf _), hn.of_tables (hf _)⟩

end Triple

namespace Coordinator

open Triple

theorem triple_createBucket_named (r : BucketRequest) (claimed : Revision) (user : String) :
    Triple World.Named (createBucket r claimed user) (fun _ => World.Named) World.Named := by
  unfold createBucket
  dsimp only
  refine lift_bind (fun _ hw => hw) fun _ hvalid => lift_bind (fun _ hw => hw) fun _ _ =>
    lift_bind (fun _ hw => hw) fun claimed _ => (keep_named World.keeps_records_now).bind fun t => ?_
  refine (Manager.triple_create (admits_namedWith _).records (admits_namedWith _).records
    (fun _ hw => hw) (fun _ hw => hw) ?_).bind fun ⟨⟨⟩, _⟩ => pure' _ fun _ hw => hw
  refine read_named.bind fun found => ?_
  split
  · exact throw_bind _ fun _ hw => hw.named
  · next hfree =>
    refine write_named fun c c' ho hn ⟨_, hfound⟩ hc => ?_
    rw [Catalog.insertBucket_eq hc]
    refine ⟨ho.writeBucket _, hn.writeBucket ho (fun y hy _ => ?_) (storedName_of_validateName hvalid)⟩
    refine Catalog.bucket_apart_of_fetchBucketByName_none ?_ y hy
    rw [← hfound]
    simpa using hfree

theorem triple_requireBucket_named (id : Uuid) :
    Triple (World.NamedWith φ) (requireBucket id)
      (fun b => World.NamedWith fun c => φ c ∧ c.fetchBucket id = some b) World.Named :=
  (triple_requireBucket (admits_namedWith φ) id).mono (fun _ hw => hw)
    (fun _ _ hw => ⟨hw.1.1, hw.1.2.1, hw.1.2.2.1, hw.1.2.2.2, hw.2⟩) fun _ hw => hw.named

theorem triple_requireFlow_named (id : Uuid) :
    Triple (World.NamedWith φ) (requireFlow id)
      (fun f => World.NamedWith fun c => φ c ∧ c.fetchFlow id = some f) World.Named :=
  (triple_requireFlow (admits_namedWith φ) id).mono (fun _ hw => hw)
    (fun _ _ hw => ⟨hw.1.1, hw.1.2.1, hw.1.2.2.1, hw.1.2.2.2, hw.2⟩) fun _ hw => hw.named

theorem triple_requireBundle_named (id : Uuid) :
    Triple (World.NamedWith φ) (requireBundle id)
      (fun b => World.NamedWith fun c => φ c ∧ c.fetchBundle id = some b) World.Named :=
  (triple_requireBundle (admits_namedWith φ) id).mono (fun _ hw => hw)
    (fun _ _ hw => ⟨hw.1.1, hw.1.2.1, hw.1.2.2.1, hw.1.2.2.2, hw.2⟩) fun _ hw => hw.named

theorem triple_updateBucket_named (id : Uuid) (claimed : Revision) (c : BucketChange)
    (user : String) :
    Triple World.Named (updateBucket id claimed c user) (fun _ => World.Named) World.Named := by
  unfold updateBucket
  rcases c with ⟨_ | n, description, redeploy, publicRead⟩
  all_goals dsimp only
  case none =>
    refine lift_bind (fun _ hw => hw) fun _ _ => ?_
    refine (Manager.triple_update (admits_namedWith _).records (admits_namedWith _).records
      (fun _ hw => hw) (fun _ hw => hw) ?_).bind fun _ => pure' _ fun _ hw => hw
    refine (triple_requireBucket_named id).bind fun b => ?_
    simp only [pure_bind]
    exact (write_named fun _ _ ho hn ⟨_, hb⟩ hc => hn.rewriteBucket ho hb hc rfl rfl).bind fun _ =>
      pure' _ fun _ hw => hw
  case some =>
    refine lift_bind (fun _ hw => hw) fun _ hvalid => lift_bind (fun _ hw => hw) fun _ _ => ?_
    refine (Manager.triple_update (admits_namedWith _).records (admits_namedWith _).records
      (fun _ hw => hw) (fun _ hw => hw) ?_).bind fun _ => pure' _ fun _ hw => hw
    refine (triple_requireBucket_named id).bind fun b => read_named.bind fun namesake => ?_
    split
    · split
      · exact throw_bind _ fun _ hw => hw.named
      · next other hsame =>
        simp only [pure_bind]
        refine (write_named fun c c' ho hn ⟨⟨_, hb⟩, hfound⟩ hc => ?_).bind fun _ =>
          pure' _ fun _ hw => hw
        have hid : other.identifier = b.identifier :=
          (Decidable.of_not_not hsame).trans (Catalog.fetchBucket_identifier hb).symm
        rw [Catalog.updateBucket_eq hc]
        exact ⟨ho.writeBucket _, hn.writeBucket ho (hn.bucket_apart_of_fetchBucketByName hfound.symm hid)
          (storedName_of_validateName hvalid)⟩
    · next hnone =>
      have hfree : namesake = none := Option.eq_none_iff_forall_ne_some.2 hnone
      simp only [pure_bind]
      refine (write_named fun c c' ho hn ⟨_, hfound⟩ hc => ?_).bind fun _ => pure' _ fun _ hw => hw
      rw [Catalog.updateBucket_eq hc]
      refine ⟨ho.writeBucket _, hn.writeBucket ho (fun y hy _ => ?_) (storedName_of_validateName hvalid)⟩
      refine Catalog.bucket_apart_of_fetchBucketByName_none ?_ y hy
      exact hfound.symm.trans hfree

theorem triple_createFlow_named (r : FlowRequest) (claimed : Revision) (user : String) :
    Triple World.Named (createFlow r claimed user) (fun _ => World.Named) World.Named := by
  unfold createFlow
  dsimp only
  refine lift_bind (fun _ hw => hw) fun _ hvalid => lift_bind (fun _ hw => hw) fun _ _ =>
    lift_bind (fun _ hw => hw) fun claimed _ => (keep_named World.keeps_records_now).bind fun t => ?_
  refine (Manager.triple_create (admits_namedWith _).records (admits_namedWith _).records
    (fun _ hw => hw) (fun _ hw => hw) ?_).bind fun ⟨⟨⟩, _⟩ => pure' _ fun _ hw => hw
  refine read_keep.bind fun bucket => ?_
  split
  · exact throw_bind _ fun _ hw => hw.named
  refine read_named.bind fun namesake => ?_
  split
  · exact throw_bind _ fun _ hw => hw.named
  next hfree =>
  refine write_named fun c c' ho hn ⟨_, hfound⟩ hc => ?_
  rw [Catalog.insertFlow_eq hc]
  refine ⟨ho.writeFlow _, hn.writeFlow ho (fun g hg _ => ?_) (storedName_of_validateName hvalid)⟩
  refine Catalog.flow_apart_of_fetchFlowByName_none ?_ g hg
  rw [← hfound]
  simpa using hfree

theorem triple_createBundle_named (r : BundleRequest) (claimed : Revision) (user : String) :
    Triple World.Named (createBundle r claimed user) (fun _ => World.Named) World.Named := by
  unfold createBundle
  dsimp only
  refine lift_bind (fun _ hw => hw) fun _ hgroup => lift_bind (fun _ hw => hw) fun _ hartifact =>
    lift_bind (fun _ hw => hw) fun _ _ => lift_bind (fun _ hw => hw) fun claimed _ =>
    (keep_named World.keeps_records_now).bind fun t => ?_
  refine (Manager.triple_create (admits_namedWith _).records (admits_namedWith _).records
    (fun _ hw => hw) (fun _ hw => hw) ?_).bind fun ⟨⟨⟩, _⟩ => pure' _ fun _ hw => hw
  refine read_keep.bind fun bucket => ?_
  split
  · exact throw_bind _ fun _ hw => hw.named
  refine read_named.bind fun namesake => ?_
  split
  · exact throw_bind _ fun _ hw => hw.named
  next hfree =>
  refine write_named fun c c' ho hn ⟨_, hfound⟩ hc => ?_
  rw [Catalog.insertBundle_eq hc]
  refine ⟨ho.writeBundle _, hn.writeBundle ho (fun y hy _ => ?_)
    ⟨storedName_of_validateName hgroup, storedName_of_validateName hartifact⟩⟩
  refine Catalog.bundle_apart_of_fetchBundleByCoordinate_none ?_ y hy
  rw [← hfound]
  simpa using hfree

theorem triple_updateFlow_named (id : Uuid) (claimed : Revision) (c : FlowChange) (user : String) :
    Triple World.Named (updateFlow id claimed c user) (fun _ => World.Named) World.Named := by
  unfold updateFlow
  rcases c with ⟨name, description⟩
  have write : ∀ {φ : Catalog → Prop} (f : Flow),
      (∀ c, c.Named → φ c → ∀ g ∈ c.flows, g.identifier ≠ f.identifier → g.Apart f) →
      (∀ c, φ c → StoredName f.name) →
      Triple (World.NamedWith φ)
        (World.now >>= fun t =>
          let g := { f with
            description := description.orElse fun _ => f.description
            modifiedTimestamp := t }
          World.updateFlow g >>= fun _ => pure g)
        (fun _ => World.Named) World.Named := by
    intro φ f hapart hs
    refine (keep_named World.keeps_records_now).bind fun t => ?_
    dsimp only
    refine (write_named fun c c' ho hn hφ hc => ?_).bind fun _ => pure' _ fun _ hw => hw
    rw [Catalog.updateFlow_eq hc]
    exact ⟨ho.writeFlow _, hn.writeFlow ho (hapart c hn hφ) (hs c hφ)⟩
  rcases name with _ | n
  all_goals simp only [pure_bind]
  case none =>
    refine lift_bind (fun _ hw => hw) fun _ _ => ?_
    refine (Manager.triple_update (admits_namedWith _).records (admits_namedWith _).records
      (fun _ hw => hw) (fun _ hw => hw) ?_).bind fun _ => pure' _ fun _ hw => hw
    refine (triple_requireFlow_named id).bind fun f => (keep_named World.keeps_records_now).bind
      fun t => ?_
    exact (write_named fun _ _ ho hn ⟨_, hf⟩ hc => hn.rewriteFlow ho hf hc rfl rfl rfl).bind fun _ =>
      pure' _ fun _ hw => hw
  case some =>
    refine lift_bind (fun _ hw => hw) fun _ hvalid => lift_bind (fun _ hw => hw) fun _ _ => ?_
    refine (Manager.triple_update (admits_namedWith _).records (admits_namedWith _).records
      (fun _ hw => hw) (fun _ hw => hw) ?_).bind fun _ => pure' _ fun _ hw => hw
    refine (triple_requireFlow_named id).bind fun f => read_named.bind fun namesake => ?_
    split
    · split
      · exact throw_bind _ fun _ hw => hw.named
      · next other hsame =>
        refine write { f with name := Text.trim n } (fun c hn ⟨⟨_, hf⟩, hfound⟩ => ?_)
          fun _ _ => storedName_of_validateName hvalid
        have hid : other.identifier = f.identifier :=
          (Decidable.of_not_not hsame).trans (Catalog.fetchFlow_identifier hf).symm
        exact hn.flow_apart_of_fetchFlowByName hfound.symm hid
    · next hnone =>
      have hfree : namesake = none := Option.eq_none_iff_forall_ne_some.2 hnone
      refine write { f with name := Text.trim n } (fun c _ ⟨_, hfound⟩ g hg _ => ?_)
        fun _ _ => storedName_of_validateName hvalid
      refine Catalog.flow_apart_of_fetchFlowByName_none ?_ g hg
      exact hfound.symm.trans hfree

theorem triple_updateBundle_named (id : Uuid) (claimed : Revision) (description : Option String)
    (user : String) :
    Triple World.Named (updateBundle id claimed description user) (fun _ => World.Named)
      World.Named := by
  unfold updateBundle
  dsimp only
  refine lift_bind (fun _ hw => hw) fun _ _ => ?_
  refine (Manager.triple_update (admits_namedWith _).records (admits_namedWith _).records
    (fun _ hw => hw) (fun _ hw => hw) ?_).bind fun _ => pure' _ fun _ hw => hw
  refine (triple_requireBundle_named id).bind fun b => (keep_named World.keeps_records_now).bind
    fun t => ?_
  exact (write_named fun _ _ ho hn ⟨_, hb⟩ hc => hn.rewriteBundle ho hb hc rfl rfl rfl rfl).bind
    fun _ => pure' _ fun _ hw => hw

theorem triple_discardSnapshot_named (flowId : Uuid) (version : Nat) (recorded : Bool) :
    Triple World.Named (discardSnapshot flowId version recorded) (fun _ => World.Named)
      World.Named := by
  unfold discardSnapshot
  split
  · refine (ignoring ?_).bind fun _ => ignoring (keep_named (World.keeps_records_deleteContent _ _))
    exact (change_tables fun _ => rfl).bind fun _ => pure' () fun _ hw => hw
  · exact (pure' () fun _ hw => hw).bind fun _ =>
      ignoring (keep_named (World.keeps_records_deleteContent _ _))

theorem triple_createSnapshot_named (flowId : Uuid) (claimed : Revision) (r : SnapshotRequest)
    (user : String) :
    Triple World.Named (createSnapshot flowId claimed r user) (fun _ => World.Named)
      World.Named := by
  unfold createSnapshot
  rcases r with ⟨version, _ | comments, contents, contexts⟩
  all_goals dsimp only
  rotate_left
  refine lift_bind (fun _ hw => hw) fun _ _ => ?_
  all_goals
    refine (Manager.triple_update (admits_namedWith _).records (admits_namedWith _).records
      (fun _ hw => hw) (fun _ hw => hw) ?_).bind fun _ => pure' _ fun _ hw => hw
    refine (triple_requireFlow_named flowId).bind fun flow => read_keep.bind fun latest => ?_
    refine lift_bind (fun _ hw => hw.named) fun expected _ => ?_
    split
    · exact throw_bind _ fun _ hw => hw.named
    refine (keep_named World.keeps_records_now).bind fun t => ?_
    refine lift_bind (fun _ hw => hw.named) fun bytes _ => ?_
    refine (keep_named (World.keeps_records_saveContent _ _ _)).bind fun _ => ?_
    refine (Triple.tryCatch (write_tables (fun _ _ hc => Catalog.tables_insertSnapshot hc)
      fun _ _ hφ ht => ⟨trivial, (Catalog.fetchFlow_of_tables ht _).trans hφ.2⟩) fun e =>
      (triple_discardSnapshot_named _ _ _).bind fun _ => throw' e fun _ hw => hw).bind fun _ => ?_
    refine (Triple.tryCatch (write_named fun _ _ ho hn ⟨_, hf⟩ hc => hn.rewriteFlow ho hf hc rfl rfl rfl)
      fun e => (triple_discardSnapshot_named _ _ _).bind fun _ => throw' e fun _ hw => hw).bind
      fun _ => ?_
    exact pure' _ fun _ hw => hw

theorem triple_restoreBundleVersion_named (bundleId : Uuid) (version : String)
    (previous : Option BundleVersion) (previousBytes : Option Bytes) :
    Triple World.Named (restoreBundleVersion bundleId version previous previousBytes)
      (fun _ => World.Named) World.Named := by
  unfold restoreBundleVersion
  dsimp only
  refine (ignoring ?_).bind fun _ => ignoring ?_
  · split
    · exact write_tables (fun _ _ hc => Catalog.tables_putBundleVersion hc) fun _ _ h _ => h
    · exact (change_tables fun _ => rfl).bind fun _ => pure' () fun _ hw => hw
  · split
    · exact keep_named (World.keeps_records_saveContent _ _ _)
    · exact keep_named (World.keeps_records_deleteContent _ _)

/-- The record of an upload leaves the tables alone, so the bundle read first is still there to be
written back under its coordinates; a failed write is put back. -/
theorem triple_recordBundleVersion_named {bundleId : Uuid} (bundle : Bundle)
    (record : BundleVersion) (existing : Option BundleVersion) (previousBytes : Option Bytes) :
    Triple (World.NamedWith fun c => True ∧ c.fetchBundle bundleId = some bundle)
      (recordBundleVersion bundle record existing previousBytes) (fun _ => World.Named)
      World.Named := by
  have undo : ∀ {Q : Unit → World → Prop} e, Triple World.Named (do
      restoreBundleVersion record.bundleIdentifier record.version existing previousBytes
      throw e : Registry Unit) Q World.Named := fun e =>
    (triple_restoreBundleVersion_named _ _ _ _).bind fun _ => throw' e fun _ hw => hw
  exact (Triple.tryCatch (write_tables (fun _ _ hc => Catalog.tables_putBundleVersion hc)
      fun _ _ hφ ht => ⟨trivial, (Catalog.fetchBundle_of_tables ht _).trans hφ.2⟩) fun e => undo e).bind
    fun _ => lift_bind (fun _ hw => hw.named) fun _ _ => Triple.tryCatch
      (write_named fun _ _ ho hn ⟨_, hb⟩ hc => hn.rewriteBundle ho hb hc rfl rfl rfl rfl) fun e => undo e

theorem triple_addBundleVersion_named (bundleId : Uuid) (claimed : Revision) (version : String)
    (data : Bytes) (user : String) :
    Triple World.Named (addBundleVersion bundleId claimed version data user)
      (fun _ => World.Named) World.Named := by
  unfold addBundleVersion
  simp only [pure_bind]
  split
  · exact throw_bind _ fun _ hw => hw
  refine (Manager.triple_update (admits_namedWith _).records (admits_namedWith _).records
    (fun _ hw => hw) (fun _ hw => hw) ?_).bind fun _ => pure' _ fun _ hw => hw
  refine (triple_requireBundle_named bundleId).bind fun bundle => read_keep.bind fun found => ?_
  split
  · refine read_keep.bind fun existing => ?_
    split
    · exact throw_bind _ fun _ hw => hw.named
    refine (keep_named World.keeps_records_now).bind fun t => ?_
    split
    refine (triple_previousContent (admits_namedWith _).records (fun _ hw => hw.named) _ _).bind
      fun previousBytes => ?_
    all_goals
      refine (keep_named (World.keeps_records_saveContent _ _ _)).bind fun _ => ?_
      exact (triple_recordBundleVersion_named _ _ _ _).bind fun _ => pure' _ fun _ hw => hw
  · exact throw_bind _ fun _ hw => hw.named

theorem triple_purgeFlowContent_named (id : Uuid) :
    Triple World.Named (purgeFlowContent id) (fun _ => World.Named) World.Named :=
  (keep_named (World.keeps_records_deleteAllContent _)).bind fun _ =>
    (change_tables fun _ => rfl).bind fun _ => pure' () fun _ hw => hw

theorem triple_purgeBundleContent_named (id : Uuid) :
    Triple World.Named (purgeBundleContent id) (fun _ => World.Named) World.Named :=
  (keep_named (World.keeps_records_deleteAllContent _)).bind fun _ =>
    (change_tables fun _ => rfl).bind fun _ => pure' () fun _ hw => hw

theorem triple_deleteFlow_named (id : Uuid) (claimed : Revision) :
    Triple World.Named (deleteFlow id claimed) (fun _ => World.Named) World.Named :=
  Manager.triple_deleteWith (admits_namedWith _).records (fun _ => (admits_namedWith _).records)
    (fun _ hw => hw) (fun _ _ hw => hw) <| read_keep.bind fun f =>
      (triple_purgeFlowContent_named id).bind fun _ =>
      (change_named fun _ ho hn => ⟨ho.deleteFlow id, hn.deleteFlow id⟩).bind fun _ =>
      pure' f fun _ hw => hw

theorem triple_deleteBundle_named (id : Uuid) (claimed : Revision) :
    Triple World.Named (deleteBundle id claimed) (fun _ => World.Named) World.Named :=
  Manager.triple_deleteWith (admits_namedWith _).records (fun _ => (admits_namedWith _).records)
    (fun _ hw => hw) (fun _ _ hw => hw) <| read_keep.bind fun b =>
      (triple_purgeBundleContent_named id).bind fun _ =>
      (change_named fun _ ho hn => ⟨ho.deleteBundle id, hn.deleteBundle id⟩).bind fun _ =>
      pure' b fun _ hw => hw

theorem triple_purgeChildren_named (id : Uuid) :
    Triple World.Named (purgeChildren id) (fun _ => World.Named) World.Named := by
  unfold purgeChildren
  refine read_keep.bind fun flows => (Triple.forM flows fun f _ => ?_).bind fun _ =>
    read_keep.bind fun bundles => Triple.forM bundles fun b _ => ?_
  · exact (triple_deleteChild (admits_namedWith _).records (admits_namedWith _).records
      (fun _ hw => hw) (triple_purgeFlowContent_named _) _ _).bind fun _ =>
      (change_named fun _ ho hn => ⟨ho.deleteFlow _, hn.deleteFlow _⟩).bind fun _ =>
      pure' () fun _ hw => hw
  · exact (triple_deleteChild (admits_namedWith _).records (admits_namedWith _).records
      (fun _ hw => hw) (triple_purgeBundleContent_named _) _ _).bind fun _ =>
      (change_named fun _ ho hn => ⟨ho.deleteBundle _, hn.deleteBundle _⟩).bind fun _ =>
      pure' () fun _ hw => hw

theorem triple_purgeBucketWithin_named (id : Uuid) :
    ∀ passes, Triple World.Named (purgeBucketWithin id passes) (fun _ => World.Named) World.Named
  | 0 => pure' () fun _ hw => hw
  | left + 1 => by
    rw [purgeBucketWithin]
    refine (triple_purgeChildren_named id).bind fun _ => Triple.tryCatch
      ((Triple.deleteBucket (admits_namedWith _) (fun _ _ _ hw hc => ?_) fun _ hw => hw).bind
        fun _ => pure' () fun _ hw => hw) fun err => ?_
    · rw [Catalog.deleteBucket_eq hc]
      exact ⟨hw.1, hw.2.1.deleteBucket id, hw.2.2.1.deleteBucket id, trivial⟩
    split
    · split
      · exact triple_purgeBucketWithin_named id left
      · exact throw' _ fun _ hw => hw
    · exact throw' _ fun _ hw => hw

theorem triple_deleteBucket_named (id : Uuid) (claimed : Revision) :
    Triple World.Named (deleteBucket id claimed) (fun _ => World.Named) World.Named :=
  Manager.triple_deleteWith (admits_namedWith _).records (fun _ => (admits_namedWith _).records)
    (fun _ hw => hw) (fun _ _ hw => hw) <| read_keep.bind fun b =>
      (triple_purgeBucketWithin_named id bucketDeletePasses).bind fun _ => pure' b fun _ hw => hw

end Coordinator

theorem Coordinator.Mutation.triple_named (m : Coordinator.Mutation) :
    Triple World.Named m.run (fun _ => World.Named) World.Named := by
  cases m with
  | createBucket r claimed user =>
    exact Triple.map (Coordinator.triple_createBucket_named r claimed user)
  | updateBucket id claimed change user =>
    exact Triple.map (Coordinator.triple_updateBucket_named id claimed change user)
  | createFlow r claimed user => exact Triple.map (Coordinator.triple_createFlow_named r claimed user)
  | updateFlow id claimed change user =>
    exact Triple.map (Coordinator.triple_updateFlow_named id claimed change user)
  | createSnapshot flowId claimed r user =>
    exact Triple.map (Coordinator.triple_createSnapshot_named flowId claimed r user)
  | createBundle r claimed user =>
    exact Triple.map (Coordinator.triple_createBundle_named r claimed user)
  | updateBundle id claimed description user =>
    exact Triple.map (Coordinator.triple_updateBundle_named id claimed description user)
  | addBundleVersion bundleId claimed version data user =>
    exact Triple.map (Coordinator.triple_addBundleVersion_named bundleId claimed version data user)

/-- Every operation keeps the catalog ordered and named, whatever the plan fails, as long as no
flow is queued to appear. -/
theorem Operation.triple_named (op : Operation) :
    Triple World.Named op.run (fun _ => World.Named) World.Named := by
  cases op with
  | change m => exact m.triple_named
  | deleteBucket id claimed => exact Triple.map (Coordinator.triple_deleteBucket_named id claimed)
  | deleteFlow id claimed => exact Triple.map (Coordinator.triple_deleteFlow_named id claimed)
  | deleteBundle id claimed => exact Triple.map (Coordinator.triple_deleteBundle_named id claimed)
  | read q => exact Query.triple_run (admits_namedWith _) q

/-! ### What the listings answer -/

/-- The listings answer, when they answer, the catalog's own listings, each entity with a
revision. -/
structure World.ListsCatalog (w : World) : Prop where
  buckets : ∀ rs, (runWith Coordinator.listBuckets w).1 = .ok rs →
    rs.map (·.entity) = w.catalog.listBuckets
  flows : ∀ b rs, (runWith (Coordinator.listFlows b) w).1 = .ok rs →
    rs.map (·.entity) = w.catalog.listFlows b
  bundles : ∀ b rs, (runWith (Coordinator.listBundles b) w).1 = .ok rs →
    rs.map (·.entity) = w.catalog.listBundles b

namespace Coordinator

open Triple

variable {c : Catalog}

theorem triple_revisioned {α : Type} (x : α) (e : String) :
    Triple (fun _ => True) (do pure (⟨x, ← Manager.getRevision e⟩ : Revisioned α))
      (fun r _ => True ∧ r.entity = x) fun _ => True :=
  (of_keeps (fun _ _ => trivial) (fun _ _ _ => trivial) fun _ _ => trivial).bind fun _ =>
    pure' _ fun _ _ => ⟨trivial, rfl⟩

/-- A listing answers, when it answers, the entities it read from a catalog that no queued flow
changes, whatever revisions it reads with them. -/
theorem triple_listed {α : Type} {m : String} {f : Catalog → List α} (key : α → String) :
    Triple (fun w => w.Calm ∧ w.catalog = c)
      (World.readCatalog m f >>= fun xs =>
        xs.mapM fun x => do pure (⟨x, ← Manager.getRevision (key x)⟩ : Revisioned α))
      (fun rs _ => rs.map (·.entity) = f c) fun _ => True := by
  refine readCatalog_bind (Admits.calm (· = c)) (fun _ _ => trivial) fun xs => ⟨fun w hw => ?_⟩
  have hxs : xs = f c := hw.2.trans (congrArg f hw.1.2)
  have listed : Triple (fun _ => True)
      (xs.mapM fun x => do pure (⟨x, ← Manager.getRevision (key x)⟩ : Revisioned α))
      (fun rs _ => rs.map (·.entity) = f c) fun _ => True :=
    (mapM_answers (fun x => triple_revisioned x (key x)) xs).mono (fun _ hw => hw)
      (fun _ _ hr => hr.2.trans hxs) fun _ hw => hw
  exact listed.holds w trivial

theorem triple_listBuckets :
    Triple (fun w => w.Calm ∧ w.catalog = c) listBuckets
      (fun rs _ => rs.map (·.entity) = c.listBuckets) fun _ => True := by
  unfold listBuckets World.listBuckets
  exact triple_listed _

theorem triple_listFlows (b : Uuid) :
    Triple (fun w => w.Calm ∧ w.catalog = c) (listFlows b)
      (fun rs _ => rs.map (·.entity) = c.listFlows b) fun _ => True := by
  unfold listFlows World.listFlows
  refine ((triple_requireBucket (Admits.calm (· = c)) b).mono (fun _ hw => hw) (fun _ _ hw => hw.1)
    fun _ _ => trivial).bind fun _ => ?_
  exact triple_listed _

theorem triple_listBundles (b : Uuid) :
    Triple (fun w => w.Calm ∧ w.catalog = c) (listBundles b)
      (fun rs _ => rs.map (·.entity) = c.listBundles b) fun _ => True := by
  unfold listBundles World.listBundles
  refine ((triple_requireBucket (Admits.calm (· = c)) b).mono (fun _ hw => hw) (fun _ _ hw => hw.1)
    fun _ _ => trivial).bind fun _ => ?_
  exact triple_listed _

end Coordinator

/-- With no flow queued to appear, the listings answer the catalog's own, whatever else the plan
fails. -/
theorem World.listsCatalog_of_calm {w : World} (h : w.Calm) : w.ListsCatalog where
  buckets _ hrs := Coordinator.triple_listBuckets.answers ⟨h, rfl⟩ hrs
  flows b _ hrs := (Coordinator.triple_listFlows b).answers ⟨h, rfl⟩ hrs
  bundles b _ hrs := (Coordinator.triple_listBundles b).answers ⟨h, rfl⟩ hrs

/-! ### Runs without queued flows -/

/-- A step whose plan queues no flow to appear, whatever it fails. -/
def Operation.Calm (_ : World) (p : FaultPlan) (_ : Operation) : Prop := ∀ q ∈ p.queued, q.2 = []

theorem World.named_fresh (content : ContentStore) (clock : Time.Instant) :
    (World.fresh content clock).Named :=
  ⟨nofun, Catalog.ordered_empty, Catalog.named_empty, trivial⟩

/-- In every registry that runs from empty stores reach under plans that fail anything but queue
no flow, the names of buckets, of the flows of a bucket and the coordinates of the bundles of a
bucket are unique without regard to case, every name is stored trimmed, non-empty and within
bounds, the catalog lists each table strictly in order whatever order it holds it in, and the
listings of the registry answer those of the catalog. -/
theorem names_unique_and_listed_in_order {w : World} (hw : Reaches Operation.Calm w) :
    w.catalog.Named ∧ w.catalog.ListsInOrder ∧
      ∀ (p : FaultPlan) (t : Time.Instant), (∀ q ∈ p.queued, q.2 = []) →
        ({ w with faults := p, clock := t } : World).ListsCatalog := by
  have named : w.Named := by
    induction hw with
    | fresh content clock => exact World.named_fresh content clock
    | step _ t op hop ih =>
      exact (Operation.triple_named op).holds_after ⟨hop, ih.2.1, ih.2.2.1, trivial⟩
  exact ⟨named.2.2.1, named.2.2.1.listsInOrder, fun _ _ hp => World.listsCatalog_of_calm hp⟩

/-- Three buckets and three flows asked for under the empty plan: the second bucket's name is
stored trimmed, and the third flow and the third bucket, whose names clash with earlier ones in
another case, are refused. -/
theorem names_unique_and_listed_in_order_of_refused_clashes :
    let t : Time.Instant := ⟨0, 0, 0⟩
    let b : Uuid := ⟨⟨0xb1, by decide⟩⟩
    let w := (World.fresh default t).runOps FaultPlan.empty t
      [.change (.createBucket ⟨b, "Team", none, false, false⟩ ⟨"", 0, "c"⟩ "user"),
        .change (.createBucket ⟨⟨⟨0xb2, by decide⟩⟩, " Ops ", none, false, false⟩ ⟨"", 0, "c"⟩ "user"),
        .change (.createFlow ⟨⟨⟨0xf1, by decide⟩⟩, b, "ingest", none⟩ ⟨"", 0, "c"⟩ "user"),
        .change (.createFlow ⟨⟨⟨0xf2, by decide⟩⟩, b, "Export", none⟩ ⟨"", 0, "c"⟩ "user"),
        .change (.createFlow ⟨⟨⟨0xf3, by decide⟩⟩, b, "INGEST", none⟩ ⟨"", 0, "c"⟩ "user"),
        .change (.createBucket ⟨⟨⟨0xb3, by decide⟩⟩, "team", none, false, false⟩ ⟨"", 0, "c"⟩ "user")]
    Reaches Operation.Calm w ∧ w.catalog.buckets.map (·.name) = ["Team", "Ops"] ∧
      w.catalog.flows.map (·.name) = ["ingest", "Export"] ∧ w.catalog.Named ∧
      w.catalog.ListsInOrder := by
  intro t b w
  have hw : Reaches Operation.Calm w :=
    (Reaches.fresh default t).runOps _ t _ fun _ _ _ _ hq => nomatch hq
  have ⟨named, ordered, _⟩ := names_unique_and_listed_in_order hw
  exact ⟨hw, by decide +kernel, by decide +kernel, named, ordered⟩

end FlowRegistry
