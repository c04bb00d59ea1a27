import FlowRegistry.Proofs.FaultedRuns
import FlowRegistry.Proofs.Names

/-!
# What one step does to the versions of a bundle

A bundle's versions are recorded in the catalog, one record each, and their content is kept in
the content store under the bundle and the version. This module says, step by step, how a run
moves the two.

* `World.VersionsKept`: what a registry keeps of a live bundle. The count of versions is the
  number of records, the versions are distinct, and the content under each has the record's
  checksum and size.
* `BundleStep`: a step leaves each bundle as it was, makes it new without a version, or is the
  upload to it, which replaces the record of its version in place or appends one.
  `BundleStep.versionsKept` shows that each of these keeps `VersionsKept`.
* `Operation.Tolerated`: a plan that lets registrations through and lets an upload put back what
  it wrote, for a step whose upload of a new version finds room in the bundle's count. Under it
  `Operation.bundlesAfter` shows that every step is a `BundleStep` for every bundle.
-/

namespace FlowRegistry

namespace Catalog

section Versions

variable {v m : BundleVersion} {x : Uuid}

/-- A record lands in its bundle's listing as it lands in the whole table. -/
theorem filter_replaceOrAppend_self (hv : v.bundleIdentifier = x) (l : List BundleVersion) :
    (replaceOrAppend v l).filter (·.bundleIdentifier == x) =
      replaceOrAppend v (l.filter (·.bundleIdentifier == x)) := by
  induction l with
  | nil => simp [replaceOrAppend, hv]
  | cons y ys ih =>
    by_cases hy : y.bundleIdentifier = x
    · by_cases hver : y.version = v.version
      · simp [replaceOrAppend, hy, hv, hver]
      · simp [replaceOrAppend, hy, hv, hver, ih]
    · have hne : y.bundleIdentifier ≠ v.bundleIdentifier := hv ▸ hy
      simp [replaceOrAppend, hy, hne, ih]

/-- The listing of another bundle does not see the record. -/
theorem filter_replaceOrAppend_of_ne (hv : v.bundleIdentifier ≠ x) (l : List BundleVersion) :
    (replaceOrAppend v l).filter (·.bundleIdentifier == x) = l.filter (·.bundleIdentifier == x) := by
  induction l with
  | nil => simp [replaceOrAppend, hv]
  | cons y ys ih =>
    by_cases hmatch : y.bundleIdentifier = v.bundleIdentifier ∧ y.version = v.version
    · obtain ⟨hb, hver⟩ := hmatch
      simp [replaceOrAppend, hb, hver, hv]
    · have hif : (y.bundleIdentifier == v.bundleIdentifier && y.version == v.version) = false := by
        simpa using hmatch
      simp only [replaceOrAppend, hif, Bool.false_eq_true, if_false, List.filter_cons, ih]

variable {l : List BundleVersion}

/-- Within one bundle's records, a record replaces the one with its version, in place, or is
appended: the versions stay as they were or gain the new one last. -/
theorem versions_replaceOrAppend (hl : ∀ y ∈ l, y.bundleIdentifier = v.bundleIdentifier) :
    (replaceOrAppend v l).map (·.version) =
      if v.version ∈ l.map (·.version) then l.map (·.version)
      else l.map (·.version) ++ [v.version] := by
  induction l with
  | nil => simp [replaceOrAppend]
  | cons y ys ih =>
    have hys : ∀ z ∈ ys, z.bundleIdentifier = v.bundleIdentifier :=
      fun z hz => hl z (List.mem_cons_of_mem y hz)
    have hb : y.bundleIdentifier = v.bundleIdentifier := hl y List.mem_cons_self
    by_cases hver : y.version = v.version
    · simp [replaceOrAppend, hb, hver]
    · have hstep : replaceOrAppend v (y :: ys) = y :: replaceOrAppend v ys := by
        simp [replaceOrAppend, hver]
      rw [hstep, List.map_cons, ih hys]
      by_cases hin : v.version ∈ ys.map (·.version) <;> simp [hin, Ne.symm hver]

/-- A record of a version the records do not have is appended. -/
theorem replaceOrAppend_of_not_mem (hl : v.version ∉ l.map (·.version)) :
    replaceOrAppend v l = l ++ [v] := by
  induction l with
  | nil => rfl
  | cons y ys ih =>
    rw [List.map_cons, List.mem_cons, not_or] at hl
    have hother : (y.bundleIdentifier == v.bundleIdentifier && y.version == v.version) = false := by
      simp [Ne.symm hl.1]
    rw [replaceOrAppend, hother, if_neg Bool.false_ne_true, ih hl.2, List.cons_append]

/-- With distinct versions, a record after the write is the new one, or one of before with another
version. -/
theorem mem_replaceOrAppend (hl : ∀ y ∈ l, y.bundleIdentifier = v.bundleIdentifier)
    (hnd : (l.map (·.version)).Nodup) (hm : m ∈ replaceOrAppend v l) :
    m = v ∨ m ∈ l ∧ m.version ≠ v.version := by
  induction l with
  | nil => simpa [replaceOrAppend] using hm
  | cons y ys ih =>
    have hb : y.bundleIdentifier = v.bundleIdentifier := hl y List.mem_cons_self
    rw [List.map_cons, List.nodup_cons] at hnd
    by_cases hver : y.version = v.version
    · simp only [replaceOrAppend, hb, hver, beq_self_eq_true, Bool.and_self, if_true,
        List.mem_cons] at hm
      rcases hm with rfl | hm
      · exact .inl rfl
      · -- the version was the head's, which no later record has
        refine .inr ⟨List.mem_cons_of_mem y hm, fun hmv => hnd.1 ?_⟩
        exact hver ▸ hmv ▸ List.mem_map_of_mem hm
    · simp only [replaceOrAppend, hb, hver, beq_self_eq_true, Bool.true_and, beq_iff_eq,
        if_false, List.mem_cons] at hm
      rcases hm with rfl | hm
      · exact .inr ⟨List.mem_cons_self, hver⟩
      · exact (ih (fun z hz => hl z (List.mem_cons_of_mem y hz)) hnd.2 hm).imp_right
          fun h => ⟨List.mem_cons_of_mem y h.1, h.2⟩

end Versions

end Catalog

/-! ### The versions of a bundle -/

namespace World

/-- The records of a bundle's versions, in upload order, each with the blob the content store
holds under the bundle and the version. -/
def versionsOf (w : World) (x : Uuid) : List (BundleVersion × Option Bytes) :=
  (w.catalog.listBundleVersions x).map fun m => (m, w.content.blob? x.text m.version)

/-- What a registry keeps of a live bundle: its count of versions is the number of its records,
their versions are distinct, and under each record's key the content store holds content with the
record's checksum and size, and takes a save. -/
structure VersionsKept (w : World) (b : Bundle) : Prop where
  counted : b.versionCount = (w.catalog.listBundleVersions b.identifier).length
  distinct : ((w.catalog.listBundleVersions b.identifier).map (·.version)).Nodup
  backed : ∀ m ∈ w.catalog.listBundleVersions b.identifier, ∃ data,
    w.content.blob? b.identifier.text m.version = some data ∧
      Digest.sha256Hex data = m.sha256 ∧ data.length = m.contentSize
  taken : ∀ m ∈ w.catalog.listBundleVersions b.identifier,
    w.content.Takes b.identifier.text m.version

variable {w w' : World} {x : Uuid}

theorem listBundleVersions_of_versionsOf (h : w'.versionsOf x = w.versionsOf x) :
    w'.catalog.listBundleVersions x = w.catalog.listBundleVersions x := by
  simpa [versionsOf, List.map_map, Function.comp_def] using congrArg (List.map Prod.fst) h

theorem blob?_of_versionsOf (h : w'.versionsOf x = w.versionsOf x) {m : BundleVersion}
    (hm : m ∈ w'.catalog.listBundleVersions x) :
    w'.content.blob? x.text m.version = w.content.blob? x.text m.version := by
  have hpair : (m, w'.content.blob? x.text m.version) ∈ w.versionsOf x :=
    h ▸ List.mem_map_of_mem hm
  obtain ⟨m', -, heq⟩ := List.mem_map.1 hpair
  simp only [Prod.mk.injEq] at heq
  obtain ⟨rfl, hblob⟩ := heq
  exact hblob.symm

/-- The versions of a bundle are as they were when its records are, and so is the blob under each. -/
theorem versionsOf_eq (hlist : w'.catalog.listBundleVersions x = w.catalog.listBundleVersions x)
    (hblob : ∀ m ∈ w.catalog.listBundleVersions x,
      w'.content.blob? x.text m.version = w.content.blob? x.text m.version) :
    w'.versionsOf x = w.versionsOf x := by
  unfold versionsOf
  rw [hlist]
  exact List.map_congr_left fun m hm => by rw [hblob m hm]

end World

theorem Catalog.fetchBundle_eq_some {c : Catalog} {id : Uuid} {b : Bundle}
    (h : c.fetchBundle id = some b) : b ∈ c.bundles ∧ b.identifier = id :=
  ⟨List.mem_of_find?_eq_some h, by simpa using List.find?_some h⟩

theorem Catalog.mem_listBundleVersions {c : Catalog} {x : Uuid} {m : BundleVersion} :
    m ∈ c.listBundleVersions x ↔ m ∈ c.bundleVersions ∧ m.bundleIdentifier = x := by
  simp [listBundleVersions]

/-- A bundle's record of a version is found exactly when one of its records has the version. -/
theorem Catalog.fetchBundleVersion_isSome {c : Catalog} {x : Uuid} {ver : String} :
    (c.fetchBundleVersion x ver).isSome ↔ ver ∈ (c.listBundleVersions x).map (·.version) := by
  unfold fetchBundleVersion
  rw [List.find?_isSome, List.mem_map]
  simp only [beq_iff_eq]

/-- How one step of a run can leave a bundle `b'` of the registry `w'` it reaches from `w`. -/
inductive BundleStep (w w' : World) (op : Operation) (b' : Bundle) : Prop
  /-- The bundle was there, with its count, its versions and their content as they were. -/
  | kept (b : Bundle) (hb : b ∈ w.catalog.bundles) (hid : b.identifier = b'.identifier)
      (hcount : b'.versionCount = b.versionCount)
      (hversions : w'.versionsOf b'.identifier = w.versionsOf b'.identifier)
  /-- The bundle is new, without a version. -/
  | created (hnew : ¬w.catalog.Live .bundle b'.identifier) (hcount : b'.versionCount = 0)
      (hversions : w'.catalog.listBundleVersions b'.identifier = [])
  /-- The step uploaded a version of the bundle, in a bucket that allows a version to be replaced
  when it has one. The version's record is replaced in place or appended, the count gains one for
  a new version, and the content store holds and takes the uploaded data under the version, every
  other blob of the bundle as it was. -/
  | uploaded (b : Bundle) (bucket : Bucket) (claimed : Revision) (version : String) (data : Bytes)
      (user : String) (t : Time.Instant)
      (hop : op = .change (.addBundleVersion b'.identifier claimed version data user))
      (hb : w.catalog.fetchBundle b'.identifier = some b)
      (hbucket : w.catalog.fetchBucket b.bucketIdentifier = some bucket)
      (hallowed : (w.catalog.fetchBundleVersion b'.identifier (Text.trim version)).isSome →
        bucket.allowBundleRedeploy = true)
      (hcount : b'.versionCount =
        if (w.catalog.fetchBundleVersion b'.identifier (Text.trim version)).isNone then
          b.versionCount + 1 else b.versionCount)
      (hlist : w'.catalog.listBundleVersions b'.identifier =
        Catalog.replaceOrAppend ⟨b'.identifier, Text.trim version, Digest.sha256Hex data,
          data.length, user, t⟩ (w.catalog.listBundleVersions b'.identifier))
      (hblob : ∀ v, w'.content.blob? b'.identifier.text v =
        if v = Text.trim version then some data else w.content.blob? b'.identifier.text v)
      (htakes : w'.content.Takes b'.identifier.text (Text.trim version))

namespace BundleStep

variable {w w' : World} {op : Operation} {b' : Bundle}

/-- A step keeps what the registry keeps of every bundle, when it keeps the kind of content
store. -/
theorem versionsKept (h : BundleStep w w' op b') (hkind : w'.contentKind = w.contentKind)
    (hkept : ∀ b ∈ w.catalog.bundles, w.VersionsKept b) : w'.VersionsKept b' := by
  cases h with
  | kept b hb hid hcount hversions =>
    obtain ⟨hcounted, hdistinct, hbacked, htaken⟩ := hkept b hb
    rw [hid] at hcounted hdistinct hbacked htaken
    have hlist := World.listBundleVersions_of_versionsOf hversions
    refine ⟨by rw [hcount, hcounted, hlist], by rw [hlist]; exact hdistinct,
      fun m hm => ?_, fun m hm => ?_⟩
    · rw [World.blob?_of_versionsOf hversions hm]
      exact hbacked m (hlist ▸ hm)
    · exact (htaken m (hlist ▸ hm)).of_name hkind
  | created hnew hcount hversions =>
    refine ⟨by rw [hcount, hversions]; rfl, by rw [hversions]; exact List.nodup_nil,
      fun m hm => ?_, fun m hm => ?_⟩ <;>
    · rw [hversions] at hm
      cases hm
  | uploaded b bucket claimed version data user t hop hb hbucket hallowed hcount hlist hblob htakes =>
    obtain ⟨hmem, hid⟩ := Catalog.fetchBundle_eq_some hb
    obtain ⟨hcounted, hdistinct, hbacked, htaken⟩ := hkept b hmem
    rw [hid] at hcounted hdistinct hbacked htaken
    have hsame : ∀ y ∈ w.catalog.listBundleVersions b'.identifier,
        y.bundleIdentifier = b'.identifier := fun y hy => (Catalog.mem_listBundleVersions.1 hy).2
    have hversions := Catalog.versions_replaceOrAppend (v := ⟨b'.identifier, Text.trim version,
      Digest.sha256Hex data, data.length, user, t⟩) hsame
    have hnew : (w.catalog.fetchBundleVersion b'.identifier (Text.trim version)).isNone = true ↔
        Text.trim version ∉ (w.catalog.listBundleVersions b'.identifier).map (·.version) := by
      rw [← Catalog.fetchBundleVersion_isSome]
      cases w.catalog.fetchBundleVersion b'.identifier (Text.trim version) <;> simp
    refine ⟨?_, ?_, fun m hm => ?_, fun m hm => ?_⟩
    · rw [hcount, hlist, ← List.length_map (f := (·.version)), hversions, hcounted]
      by_cases hin : Text.trim version ∈ (w.catalog.listBundleVersions b'.identifier).map (·.version)
      · rw [if_pos hin, if_neg fun h => hnew.1 h hin, List.length_map]
      · rw [if_neg hin, if_pos (hnew.2 hin), List.length_append, List.length_map]
        rfl
    · rw [hlist, hversions]
      split
      · exact hdistinct
      · next hin =>
        refine List.nodup_append.2 ⟨hdistinct, by simp, fun a ha b hb => ?_⟩
        rw [List.mem_singleton] at hb
        exact fun hab => hin (hb ▸ hab ▸ ha)
    · rw [hlist] at hm
      rcases Catalog.mem_replaceOrAppend hsame hdistinct hm with rfl | ⟨hm, hne⟩
      · exact ⟨data, by rw [hblob]; simp, rfl, rfl⟩
      · rw [hblob, if_neg hne]
        exact hbacked m hm
    · rw [hlist] at hm
      rcases Catalog.mem_replaceOrAppend hsame hdistinct hm with rfl | ⟨hm, -⟩
      · exact htakes
      · exact (htaken m hm).of_name hkind

end BundleStep

/-! ### The catalog writes, as far as bundles go -/

namespace Catalog

variable {c c' : Catalog}

theorem versions_insertBucket {b : Bucket} (h : c.insertBucket b = .ok c') :
    c'.bundles = c.bundles ∧ c'.bundleVersions = c.bundleVersions := by
  unfold insertBucket at h
  split at h
  · cases h
  cases h
  exact ⟨rfl, rfl⟩

theorem versions_updateBucket {b : Bucket} (h : c.updateBucket b = .ok c') :
    c'.bundles = c.bundles ∧ c'.bundleVersions = c.bundleVersions := by
  unfold updateBucket at h
  split at h
  · cases h
  cases h
  exact ⟨rfl, rfl⟩

theorem versions_insertFlow {f : Flow} (h : c.insertFlow f = .ok c') :
    c'.bundles = c.bundles ∧ c'.bundleVersions = c.bundleVersions := by
  unfold insertFlow at h
  split at h
  · cases h
  split at h
  · cases h
  cases h
  exact ⟨rfl, rfl⟩

theorem insertBundle_eq_ok {b : Bundle} (h : c.insertBundle b = .ok c') :
    c.fetchBundle b.identifier = none ∧ c'.bundles = insertById (·.identifier) b c.bundles ∧
      c'.bundleVersions = c.bundleVersions := by
  unfold insertBundle at h
  split at h
  · cases h
  split at h
  · cases h
  next hnew =>
  cases h
  exact ⟨by simpa using hnew, rfl, rfl⟩

theorem updateBundle_eq_ok {b : Bundle} (h : c.updateBundle b = .ok c') :
    c'.bundles = insertById (·.identifier) b c.bundles ∧ c'.bundleVersions = c.bundleVersions := by
  unfold updateBundle at h
  split at h
  · cases h
  cases h
  exact ⟨rfl, rfl⟩

theorem putBundleVersion_eq_ok {v : BundleVersion} (h : c.putBundleVersion v = .ok c') :
    c'.bundles = c.bundles ∧ c'.bundleVersions = replaceOrAppend v c.bundleVersions := by
  unfold putBundleVersion at h
  split at h
  · cases h
  cases h
  exact ⟨rfl, rfl⟩

theorem not_live_of_fetchBundle {id : Uuid} (h : c.fetchBundle id = none) : ¬c.Live .bundle id := by
  intro hlive
  obtain ⟨b, hb, rfl⟩ := List.mem_map.1 hlive
  have hnot := List.find?_eq_none.1 h b hb
  simp at hnot

/-- A bundle that is not live has no version records, in a linked catalog. -/
theorem listBundleVersions_eq_nil (hl : c.Linked) {id : Uuid} (h : ¬c.Live .bundle id) :
    c.listBundleVersions id = [] :=
  List.eq_nil_iff_forall_not_mem.2 fun m hm => by
    obtain ⟨hmem, rfl⟩ := mem_listBundleVersions.1 hm
    exact h (hl.versions m hmem)

end Catalog

/-! ### Dropping entities, as far as bundles go -/

namespace World

variable {w : World} {u x : Uuid}

theorem versionsOf_dropFlow (w : World) (hne : x ≠ u) :
    (w.dropFlow u).versionsOf x = w.versionsOf x := by
  have htext : x.text ≠ u.text := fun h => hne (Uuid.text_injective h)
  simp [versionsOf, dropFlow, Catalog.listBundleVersions, Catalog.deleteFlow,
    Catalog.deleteSnapshots, ContentStore.blob?_without, htext]

theorem versionsOf_dropBundle (w : World) (hne : x ≠ u) :
    (w.dropBundle u).versionsOf x = w.versionsOf x := by
  have htext : x.text ≠ u.text := fun h => hne (Uuid.text_injective h)
  unfold versionsOf dropBundle
  simp only [Catalog.listBundleVersions, Catalog.deleteBundle, Catalog.deleteBundleVersions,
    List.filter_filter, ContentStore.blob?_without, htext, if_false]
  congr 2
  funext m
  by_cases hm : m.bundleIdentifier = x <;> simp [hm, hne]

theorem mem_bundles_dropBundle {b : Bundle} :
    b ∈ (w.dropBundle u).catalog.bundles ↔ b ∈ w.catalog.bundles ∧ b.identifier ≠ u := by
  simp [dropBundle, Catalog.deleteBundle, Catalog.deleteBundleVersions]

theorem bundles_foldl_dropFlow (fs : List Flow) (w : World) :
    (fs.foldl (fun y f => y.dropFlow f.identifier) w).catalog.bundles = w.catalog.bundles := by
  induction fs generalizing w with
  | nil => rfl
  | cons f fs ih => exact ih _

theorem versionsOf_foldl_dropFlow (fs : List Flow) (w : World) (hx : ∀ f ∈ fs, x ≠ f.identifier) :
    (fs.foldl (fun y f => y.dropFlow f.identifier) w).versionsOf x = w.versionsOf x := by
  induction fs generalizing w with
  | nil => rfl
  | cons f fs ih =>
    rw [List.foldl_cons, ih _ fun g hg => hx g (List.mem_cons_of_mem f hg)]
    exact versionsOf_dropFlow w (hx f List.mem_cons_self)

theorem mem_bundles_foldl_dropBundle (bs : List Bundle) (w : World) {b : Bundle}
    (hb : b ∈ (bs.foldl (fun y b => y.dropBundle b.identifier) w).catalog.bundles) :
    b ∈ w.catalog.bundles ∧ ∀ b'' ∈ bs, b.identifier ≠ b''.identifier := by
  induction bs generalizing w with
  | nil => exact ⟨hb, fun _ h => nomatch h⟩
  | cons b₁ bs ih =>
    obtain ⟨hmem, hne⟩ := ih _ hb
    obtain ⟨hmem, hne₁⟩ := mem_bundles_dropBundle.1 hmem
    exact ⟨hmem, fun b'' hb'' => (List.mem_cons.1 hb'').elim (· ▸ hne₁) (hne b'')⟩

theorem versionsOf_foldl_dropBundle (bs : List Bundle) (w : World)
    (hx : ∀ b ∈ bs, x ≠ b.identifier) :
    (bs.foldl (fun y b => y.dropBundle b.identifier) w).versionsOf x = w.versionsOf x := by
  induction bs generalizing w with
  | nil => rfl
  | cons b bs ih =>
    rw [List.foldl_cons, ih _ fun g hg => hx g (List.mem_cons_of_mem b hg)]
    exact versionsOf_dropBundle w (hx b List.mem_cons_self)

end World

theorem World.versionsOf_of_eq {w w' : World}
    (hversions : w'.catalog.bundleVersions = w.catalog.bundleVersions)
    (hblob : w'.content.blob? = w.content.blob?) (x : Uuid) : w'.versionsOf x = w.versionsOf x := by
  simp only [World.versionsOf, Catalog.listBundleVersions, hversions, hblob]

/-! ### Each step, bundle by bundle -/

namespace BundleStep

variable {v w w' u : World} {op : Operation} {b' : Bundle} {c : Catalog}

/-- A step is a matter of the catalogs and content stores it goes between. -/
theorem congr (h : BundleStep v u op b') (hcat : v.catalog = w.catalog)
    (hcontent : v.content = w.content) (hcat' : u.catalog = w'.catalog)
    (hcontent' : u.content = w'.content) : BundleStep w w' op b' := by
  have hversions : ∀ x, u.versionsOf x = v.versionsOf x → w'.versionsOf x = w.versionsOf x :=
    fun x hx => by simpa only [World.versionsOf, hcat, hcontent, hcat', hcontent'] using hx
  cases h with
  | kept b hb hid hcount hv => exact .kept b (hcat ▸ hb) hid hcount (hversions _ hv)
  | created hnew hcount hv => exact .created (hcat ▸ hnew) hcount (hcat' ▸ hv)
  | uploaded b bucket claimed version data user t hop hb hbucket hallowed hcount hlist hblob htakes =>
    refine .uploaded b bucket claimed version data user t hop (hcat ▸ hb) (hcat ▸ hbucket)
      (hcat ▸ hallowed) (hcat ▸ hcount) ?_ (fun v' => ?_) (hcontent' ▸ htakes)
    · rw [← hcat', ← hcat, hlist]
    · rw [← hcontent', ← hcontent, hblob]

/-- A bundle that was there, with its versions and their content as they were. -/
theorem same (hb : b' ∈ w.catalog.bundles)
    (hversions : w'.versionsOf b'.identifier = w.versionsOf b'.identifier) : BundleStep w w' op b' :=
  .kept b' hb rfl rfl hversions

/-- A step that leaves a catalog with the bundles and version records it found, and every blob,
keeps every bundle as it was. -/
theorem of_catalog (hcat : w'.catalog = c) (hblob : w'.content.blob? = w.content.blob?)
    (hbundles : c.bundles = w.catalog.bundles) (hversions : c.bundleVersions = w.catalog.bundleVersions)
    (hb' : b' ∈ w'.catalog.bundles) : BundleStep w w' op b' := by
  rw [hcat, hbundles] at hb'
  exact same hb' (World.versionsOf_of_eq (by rw [hcat, hversions]) hblob _)

theorem of_stores (h : w'.stores = w.stores) (hb' : b' ∈ w'.catalog.bundles) : BundleStep w w' op b' :=
  of_catalog (congrArg (fun s => s.2.1) h) (congrArg (fun s => s.2.2) h) rfl rfl hb'

/-! The changes, from a registry where no flow is queued. -/

theorem createBucket (hcalm : v.Calm) (hlets : v.Lets (World.revisionCall "create_revision"))
    (r : Coordinator.BucketRequest) (claimed : Revision) (user : String)
    (hb' : b' ∈ (runWith (Coordinator.createBucket r claimed user) v).2.catalog.bundles) :
    BundleStep v (runWith (Coordinator.createBucket r claimed user) v).2 op b' := by
  have hcases := Coordinator.createBucket_cases r claimed user hcalm hlets
  generalize (runWith (Coordinator.createBucket r claimed user) v).2 = w' at hcases hb' ⊢
  rcases hcases with
    hsame | ⟨-, c, ⟨b, -, hc⟩, hstores⟩
  · exact of_stores hsame hb'
  · obtain ⟨hbundles, hversions⟩ := Catalog.versions_insertBucket hc
    exact of_catalog (congrArg (fun s => s.2.1) hstores) (congrArg (fun s => s.2.2) hstores)
      hbundles hversions hb'

theorem createFlow (hcalm : v.Calm) (hlets : v.Lets (World.revisionCall "create_revision"))
    (r : Coordinator.FlowRequest) (claimed : Revision) (user : String)
    (hb' : b' ∈ (runWith (Coordinator.createFlow r claimed user) v).2.catalog.bundles) :
    BundleStep v (runWith (Coordinator.createFlow r claimed user) v).2 op b' := by
  have hcases := Coordinator.createFlow_cases r claimed user hcalm hlets
  generalize (runWith (Coordinator.createFlow r claimed user) v).2 = w' at hcases hb' ⊢
  rcases hcases with
    hsame | ⟨-, c, ⟨f, -, -, hc⟩, hstores⟩
  · exact of_stores hsame hb'
  · obtain ⟨hbundles, hversions⟩ := Catalog.versions_insertFlow hc
    exact of_catalog (congrArg (fun s => s.2.1) hstores) (congrArg (fun s => s.2.2) hstores)
      hbundles hversions hb'

theorem updateBucket (hcalm : v.Calm) (id : Uuid) (claimed : Revision)
    (change : Coordinator.BucketChange) (user : String)
    (hb' : b' ∈ (runWith (Coordinator.updateBucket id claimed change user) v).2.catalog.bundles) :
    BundleStep v (runWith (Coordinator.updateBucket id claimed change user) v).2 op b' := by
  obtain ⟨hblob, hcat | ⟨c, ⟨b, hc⟩, hcat⟩⟩ :=
    Coordinator.updateBucket_cases id claimed change user hcalm
  · exact of_catalog hcat hblob rfl rfl hb'
  · obtain ⟨hbundles, hversions⟩ := Catalog.versions_updateBucket hc
    exact of_catalog hcat hblob hbundles hversions hb'

theorem updateFlow (hcalm : v.Calm) (id : Uuid) (claimed : Revision)
    (change : Coordinator.FlowChange) (user : String)
    (hb' : b' ∈ (runWith (Coordinator.updateFlow id claimed change user) v).2.catalog.bundles) :
    BundleStep v (runWith (Coordinator.updateFlow id claimed change user) v).2 op b' := by
  obtain ⟨hblob, hcat | ⟨c, ⟨f, hc⟩, hcat⟩⟩ :=
    Coordinator.updateFlow_cases id claimed change user hcalm
  · exact of_catalog hcat hblob rfl rfl hb'
  · obtain ⟨hbundles, hversions⟩ := Catalog.versions_updateFlow hc
    exact of_catalog hcat hblob hbundles hversions hb'

/-- A snapshot writes under its flow's key only, which is no bundle's. -/
theorem createSnapshot (hc : v.Corresponds) (hcalm : v.Calm) (flowId : Uuid) (claimed : Revision)
    (r : Coordinator.SnapshotRequest) (user : String)
    (hb' : b' ∈ (runWith (Coordinator.createSnapshot flowId claimed r user) v).2.catalog.bundles) :
    BundleStep v (runWith (Coordinator.createSnapshot flowId claimed r user) v).2 op b' := by
  obtain ⟨hapart, hwrote⟩ := Coordinator.createSnapshot_apart flowId claimed r user hcalm
  have hbundles := congrArg (fun s => s.1) hapart
  have hversions := congrArg (fun s => s.2.1) hapart
  simp only [World.bundlesApart] at hbundles hversions
  rw [hbundles] at hb'
  refine same hb' (World.versionsOf_eq (by simp only [Catalog.listBundleVersions, hversions])
    fun m _ => ?_)
  rcases hwrote with hblob | hflow
  · rw [hblob]
  · have hne : b'.identifier.text ≠ flowId.text := fun h => by
      have hlive : v.catalog.Live .bundle flowId :=
        Uuid.text_injective h ▸ List.mem_map_of_mem (f := (·.identifier)) hb'
      cases hc.disjoint .bundle .flow flowId hlive hflow
    have happart := congrFun (congrFun (congrArg (fun s => s.2.2) hapart) b'.identifier.text) m.version
    simpa [World.bundlesApart, hne] using happart

/-- A new bundle has no version record, since a linked catalog has none for a bundle that is not
live. -/
theorem createBundle (hl : v.catalog.Linked) (hcalm : v.Calm)
    (hlets : v.Lets (World.revisionCall "create_revision")) (r : Coordinator.BundleRequest)
    (claimed : Revision) (user : String)
    (hb' : b' ∈ (runWith (Coordinator.createBundle r claimed user) v).2.catalog.bundles) :
    BundleStep v (runWith (Coordinator.createBundle r claimed user) v).2 op b' := by
  have hcases := Coordinator.createBundle_cases r claimed user hcalm hlets
  generalize (runWith (Coordinator.createBundle r claimed user) v).2 = w' at hcases hb' ⊢
  rcases hcases with hsame | ⟨-, c, ⟨b, -, hcount, hc⟩, hstores⟩
  · exact of_stores hsame hb'
  have hcat : w'.catalog = c := congrArg (fun s => s.2.1) hstores
  have hblob : w'.content.blob? = v.content.blob? := congrArg (fun s => s.2.2) hstores
  obtain ⟨hnew, hbundles, hversions⟩ := Catalog.insertBundle_eq_ok hc
  have hsame := World.versionsOf_of_eq (by rw [hcat, hversions]) hblob
  rw [hcat, hbundles] at hb'
  rcases mem_of_mem_insertById hb' with rfl | hold
  · have hdead := Catalog.not_live_of_fetchBundle hnew
    refine .created hdead hcount ?_
    simpa only [Catalog.listBundleVersions, hcat, hversions] using
      Catalog.listBundleVersions_eq_nil hl hdead
  · exact same hold (hsame _)

theorem updateBundle (hcalm : v.Calm) (id : Uuid) (claimed : Revision)
    (description : Option String) (user : String)
    (hb' : b' ∈ (runWith (Coordinator.updateBundle id claimed description user) v).2.catalog.bundles) :
    BundleStep v (runWith (Coordinator.updateBundle id claimed description user) v).2 op b' := by
  obtain ⟨hblob, hcat | ⟨c, ⟨b, d, t, hb, hc⟩, hcat⟩⟩ :=
    Coordinator.updateBundle_cases id claimed description user hcalm
  · exact of_catalog hcat hblob rfl rfl hb'
  · obtain ⟨hbundles, hversions⟩ := Catalog.updateBundle_eq_ok hc
    have hsame := World.versionsOf_of_eq (by rw [hcat, hversions]) hblob
    rw [hcat, hbundles] at hb'
    rcases mem_of_mem_insertById hb' with rfl | hold
    · exact .kept b (Catalog.fetchBundle_eq_some hb).1 rfl rfl (hsame _)
    · exact same hold (hsame _)


/-- An upload keeps every other bundle, and keeps its own or is the step that uploaded to it, when
its plan lets what it wrote be put back and reports no content missing, and a new version finds
room in its bundle's count. -/
theorem addBundleVersion (ho : v.catalog.Ordered) (hcalm : v.Calm)
    (hput : (v.pass ⟨.metadata, "put_bundle_version"⟩).Lets ⟨.metadata, "put_bundle_version"⟩)
    (hdbv : v.Lets ⟨.metadata, "delete_bundle_version"⟩)
    (hdc : v.Lets (World.contentCall "delete_content"))
    (hread : ∀ msg, (v.planned (World.contentCall "get_content")).1 ≠ some (.notFound msg))
    (bundleId : Uuid) (claimed : Revision) (version : String) (data : Bytes) (user : String)
    (hroom : ∀ b, v.catalog.fetchBundle bundleId = some b →
      v.catalog.fetchBundleVersion bundleId (Text.trim version) = none → b.versionCount < maxWord32)
    (hb' : b' ∈ (runWith (Coordinator.addBundleVersion bundleId claimed version data user)
      v).2.catalog.bundles) :
    BundleStep v (runWith (Coordinator.addBundleVersion bundleId claimed version data user) v).2
      (.change (.addBundleVersion bundleId claimed version data user)) b' := by
  have hup := Coordinator.addBundleVersion_uploaded bundleId claimed version data user hcalm hput
    hdbv hdc hread
  generalize (runWith (Coordinator.addBundleVersion bundleId claimed version data user) v).2 = w'
    at hup hb' ⊢
  cases hup with
  | kept hcat hblob => exact of_catalog hcat hblob rfl rfl hb'
  | cleared hcat hnew hset =>
    rw [hcat] at hb'
    refine same hb' (World.versionsOf_eq (by rw [hcat]) fun m hm => ?_)
    have hne : ¬(b'.identifier.text = bundleId.text ∧ m.version = Text.trim version) := by
      rintro ⟨hid, hver⟩
      rw [Uuid.text_injective hid] at hm
      have hsome := Catalog.fetchBundleVersion_isSome.2
        (hver ▸ List.mem_map_of_mem (f := BundleVersion.version) hm)
      rw [hnew] at hsome
      cases hsome
    rw [hset, if_neg hne]
  | recorded bundle bucket t c hbundle hbucket hallowed hput' hcount hset htakes =>
    obtain ⟨-, rfl⟩ := Catalog.fetchBundle_eq_some hbundle
    obtain ⟨hbundles₁, hversions₁⟩ := Catalog.putBundleVersion_eq_ok hput'
    obtain ⟨hbundles, hversions⟩ := Catalog.updateBundle_eq_ok hcount
    rw [hbundles, hbundles₁] at hb'
    rcases IdSorted.mem_insert ho.bundles hb' with rfl | ⟨hold, hne⟩
    · refine .uploaded bundle bucket claimed version data user t rfl hbundle hbucket hallowed rfl
        ?_ (fun v' => ?_) htakes
      · simp only [Catalog.listBundleVersions, hversions, hversions₁]
        exact Catalog.filter_replaceOrAppend_self (x := bundle.identifier) rfl _
      · rw [hset]
        simp
    · have htext : b'.identifier.text ≠ bundle.identifier.text :=
        fun h => hne (Uuid.text_injective h)
      refine same hold (World.versionsOf_eq ?_ fun m _ => ?_)
      · simp only [Catalog.listBundleVersions, hversions, hversions₁]
        exact Catalog.filter_replaceOrAppend_of_ne (Ne.symm hne) _
      · rw [hset]
        simp [htext]
  | overflowed bundle t hbundle hnew hfull =>
    exact absurd (hroom bundle hbundle hnew) (Nat.not_lt.2 hfull)

end BundleStep

/-! ### Deletes, under a plan that fails nothing -/

theorem ContentStore.name_without (s : ContentStore) (e : String) : (s.without e).name = s.name := by
  cases s <;> rfl

namespace World

variable {w : World} {u : Uuid}

theorem contentKind_dropFlow (w : World) (u : Uuid) : (w.dropFlow u).contentKind = w.contentKind :=
  ContentStore.name_without _ _

theorem contentKind_dropBundle (w : World) (u : Uuid) :
    (w.dropBundle u).contentKind = w.contentKind :=
  ContentStore.name_without _ _

theorem contentKind_dropBucket (w : World) (id : Uuid) :
    (w.dropBucket id).contentKind = w.contentKind := by
  have hflows : ∀ (fs : List Flow) (x : World),
      (fs.foldl (fun y f => y.dropFlow f.identifier) x).contentKind = x.contentKind := by
    intro fs
    induction fs with
    | nil => exact fun _ => rfl
    | cons f fs ih => exact fun x => (ih _).trans (contentKind_dropFlow x _)
  have hbundles : ∀ (bs : List Bundle) (x : World),
      (bs.foldl (fun y b => y.dropBundle b.identifier) x).contentKind = x.contentKind := by
    intro bs
    induction bs with
    | nil => exact fun _ => rfl
    | cons b bs ih => exact fun x => (ih _).trans (contentKind_dropBundle x _)
  exact (hbundles _ _).trans (hflows _ _)

end World

/-- Under a plan that fails nothing, what holds of the registry a delete starts from, and of
wherever the delete settles when its claim admits it, holds after it, when it does not depend on
the plan. -/
theorem Manager.deleteWith_lands {α : Type} {deletion : Registry α} {v : World} {p : FaultPlan}
    {Q : World → Prop} (hQ : ∀ u q, Q u → Q { u with faults := q }) (hp : p.Steady) (e : String)
    (claimed : Revision) (hv : Q v)
    (haccepted : claimed.entityId = e → ∀ cur, v.revisions.get? e = some cur →
      cur.version = claimed.version → ∃ a u, Q u ∧
        Settles (Manager.deleteWith e claimed deletion) { v with faults := p } (.ok a) u) :
    Q (runWith (Manager.deleteWith e claimed deletion) { v with faults := p }).2 := by
  by_cases hgranted : claimed.entityId = e ∧
      ∃ cur, v.revisions.get? e = some cur ∧ cur.version = claimed.version
  · obtain ⟨hentity, cur, hcur, hver⟩ := hgranted
    obtain ⟨_, u, hu, q, -, hrun⟩ := haccepted hentity cur hcur hver
    rw [hrun]
    exact hQ u q hu
  · obtain ⟨_, q, -, hrun⟩ := Manager.settles_deleteWith_refused deletion hp hgranted
    rw [hrun]
    exact hQ v q hv

/-- What a step leaves of the bundles: every one as `BundleStep` says, in a content store of the
same kind. -/
def World.BundlesAfter (w : World) (op : Operation) (u : World) : Prop :=
  u.contentKind = w.contentKind ∧ ∀ b' ∈ u.catalog.bundles, BundleStep w u op b'

namespace World.BundlesAfter

variable {w u : World} {op : Operation}

theorem replan (h : w.BundlesAfter op u) (q : FaultPlan) : w.BundlesAfter op { u with faults := q } :=
  ⟨h.1, fun b' hb' => (h.2 b' hb').congr rfl rfl rfl rfl⟩

theorem of_catalog {c : Catalog} (hcat : u.catalog = c) (hcontent : u.content = w.content)
    (hbundles : c.bundles = w.catalog.bundles)
    (hversions : c.bundleVersions = w.catalog.bundleVersions) : w.BundlesAfter op u :=
  ⟨by rw [contentKind, hcontent]; rfl,
    fun _ hb' => BundleStep.of_catalog hcat (by rw [hcontent]) hbundles hversions hb'⟩

/-- What a step leaves, seen from a registry with the catalog and content store of `w`. -/
theorem of_step {v : World} (hcat : v.catalog = w.catalog) (hcontent : v.content = w.content)
    (hkind : u.contentKind = w.contentKind) (h : ∀ b' ∈ u.catalog.bundles, BundleStep v u op b') :
    w.BundlesAfter op u :=
  ⟨hkind, fun b' hb' => (h b' hb').congr hcat hcontent rfl rfl⟩

theorem source {v : World} (h : v.BundlesAfter op u) (hcat : v.catalog = w.catalog)
    (hcontent : v.content = w.content) : w.BundlesAfter op u :=
  of_step hcat hcontent (by rw [h.1, contentKind, contentKind, hcontent]) h.2

/-- A flow goes with its content, whose key is no bundle's. -/
theorem dropFlow {id : Uuid} (hop : w.catalog.Only .flow id) : w.BundlesAfter op (w.dropFlow id) := by
  refine ⟨World.contentKind_dropFlow w id, fun b' hb' => ?_⟩
  have hne : b'.identifier ≠ id := fun h => by
    cases hop .bundle (h ▸ List.mem_map_of_mem (f := (·.identifier)) hb')
  exact BundleStep.same hb' (World.versionsOf_dropFlow w hne)

theorem dropBundle {id : Uuid} : w.BundlesAfter op (w.dropBundle id) := by
  refine ⟨World.contentKind_dropBundle w id, fun b' hb' => ?_⟩
  obtain ⟨hb, hne⟩ := World.mem_bundles_dropBundle.1 hb'
  exact BundleStep.same hb (World.versionsOf_dropBundle w hne)

/-- A bucket goes with its flows and bundles; the flows' keys are no bundle's. -/
theorem dropBucket (hc : w.Corresponds) (id : Uuid) : w.BundlesAfter op (w.dropBucket id) := by
  refine ⟨World.contentKind_dropBucket w id, fun b' hb' => ?_⟩
  have hchildren : b' ∈ (w.dropChildren id).catalog.bundles := hb'
  obtain ⟨hflows, hgone⟩ := World.mem_bundles_foldl_dropBundle _ _ hchildren
  rw [World.bundles_foldl_dropFlow] at hflows
  have hfl : ∀ f ∈ w.catalog.listFlows id, b'.identifier ≠ f.identifier := fun f hf h => by
    have hlive : w.catalog.Live .flow b'.identifier :=
      h ▸ List.mem_map_of_mem (f := (·.identifier)) (Catalog.mem_listFlows.1 hf).1
    cases hc.disjoint .bundle .flow b'.identifier (List.mem_map_of_mem hflows) hlive
  refine BundleStep.same hflows ?_
  show (w.dropChildren id).versionsOf b'.identifier = _
  rw [World.dropChildren, World.versionsOf_foldl_dropBundle _ _ hgone,
    World.versionsOf_foldl_dropFlow _ _ hfl]

end World.BundlesAfter

/-! ### Steps whose plan lets an upload be put back -/

/-- An upload of a version its bundle does not have finds the bundle's count of versions below its
largest value; every other operation asks nothing. -/
def Operation.Roomy : Operation → Catalog → Prop
  | .change (.addBundleVersion x _ version _ _), c => ∀ b, c.fetchBundle x = some b →
      c.fetchBundleVersion x (Text.trim version) = none → b.versionCount < maxWord32
  | _, _ => True

/-- A step under a plan that lets an upload put back what it wrote: its registrations go through,
the plan lets the record and the content an upload wrote be put back, and does not report missing
the content of a version an upload replaces; and an upload of a new version finds room for it. -/
structure Operation.Tolerated (w : World) (p : FaultPlan) (op : Operation) : Prop
    extends op.Registered w p where
  roomy : op.Roomy w.catalog
  restorePut : (({ w with faults := p } : World).pass ⟨.metadata, "put_bundle_version"⟩).Lets
    ⟨.metadata, "put_bundle_version"⟩
  restoreDelete : World.Lets { w with faults := p } ⟨.metadata, "delete_bundle_version"⟩
  contentDelete : World.Lets { w with faults := p } (World.contentCall "delete_content")
  contentFound : ∀ msg, (({ w with faults := p } : World).planned
    (World.contentCall "get_content")).1 ≠ some (.notFound msg)

/-- Every change leaves each bundle as `BundleStep` says, from a calm registry whose revisions
follow its entities, with a linked and ordered catalog, when the plan lets registrations through and
lets an upload put back what it wrote. -/
theorem Coordinator.Mutation.bundleSteps {v : World} (hc : v.Corresponds) (hl : v.catalog.Linked)
    (ho : v.catalog.Ordered) (hcalm : v.Calm) (hlets : v.Lets (World.revisionCall "create_revision"))
    (hput : (v.pass ⟨.metadata, "put_bundle_version"⟩).Lets ⟨.metadata, "put_bundle_version"⟩)
    (hdbv : v.Lets ⟨.metadata, "delete_bundle_version"⟩)
    (hdc : v.Lets (World.contentCall "delete_content"))
    (hread : ∀ msg, (v.planned (World.contentCall "get_content")).1 ≠ some (.notFound msg))
    (m : Coordinator.Mutation) (hroom : (Operation.change m).Roomy v.catalog) :
    ∀ b' ∈ (runWith m.run v).2.catalog.bundles, BundleStep v (runWith m.run v).2 (.change m) b' := by
  intro b' hb'
  cases m with
  | createBucket r claimed user =>
    have hrun : (runWith (Coordinator.Mutation.createBucket r claimed user).run v).2 =
        (runWith (Coordinator.createBucket r claimed user) v).2 := runWith_map_snd _ _ _
    rw [hrun] at hb' ⊢
    exact BundleStep.createBucket hcalm hlets r claimed user hb'
  | updateBucket id claimed change user =>
    have hrun : (runWith (Coordinator.Mutation.updateBucket id claimed change user).run v).2 =
        (runWith (Coordinator.updateBucket id claimed change user) v).2 := runWith_map_snd _ _ _
    rw [hrun] at hb' ⊢
    exact BundleStep.updateBucket hcalm id claimed change user hb'
  | createFlow r claimed user =>
    have hrun : (runWith (Coordinator.Mutation.createFlow r claimed user).run v).2 =
        (runWith (Coordinator.createFlow r claimed user) v).2 := runWith_map_snd _ _ _
    rw [hrun] at hb' ⊢
    exact BundleStep.createFlow hcalm hlets r claimed user hb'
  | updateFlow id claimed change user =>
    have hrun : (runWith (Coordinator.Mutation.updateFlow id claimed change user).run v).2 =
        (runWith (Coordinator.updateFlow id claimed change user) v).2 := runWith_map_snd _ _ _
    rw [hrun] at hb' ⊢
    exact BundleStep.updateFlow hcalm id claimed change user hb'
  | createSnapshot flowId claimed r user =>
    have hrun : (runWith (Coordinator.Mutation.createSnapshot flowId claimed r user).run v).2 =
        (runWith (Coordinator.createSnapshot flowId claimed r user) v).2 := runWith_map_snd _ _ _
    rw [hrun] at hb' ⊢
    exact BundleStep.createSnapshot hc hcalm flowId claimed r user hb'
  | createBundle r claimed user =>
    have hrun : (runWith (Coordinator.Mutation.createBundle r claimed user).run v).2 =
        (runWith (Coordinator.createBundle r claimed user) v).2 := runWith_map_snd _ _ _
    rw [hrun] at hb' ⊢
    exact BundleStep.createBundle hl hcalm hlets r claimed user hb'
  | updateBundle id claimed description user =>
    have hrun : (runWith (Coordinator.Mutation.updateBundle id claimed description user).run v).2 =
        (runWith (Coordinator.updateBundle id claimed description user) v).2 :=
      runWith_map_snd _ _ _
    rw [hrun] at hb' ⊢
    exact BundleStep.updateBundle hcalm id claimed description user hb'
  | addBundleVersion bundleId claimed version data user =>
    have hrun :
        (runWith (Coordinator.Mutation.addBundleVersion bundleId claimed version data user).run v).2 =
          (runWith (Coordinator.addBundleVersion bundleId claimed version data user) v).2 :=
      runWith_map_snd _ _ _
    rw [hrun] at hb' ⊢
    exact BundleStep.addBundleVersion ho hcalm hput hdbv hdc hread bundleId claimed version data
      user hroom hb'

/-- Each step under such a plan keeps the kind of content store and leaves every bundle as
`BundleStep` says, from a registry whose revisions follow its entities, with a linked and ordered
catalog. -/
theorem Operation.bundlesAfter {w : World} {p : FaultPlan} (hc : w.Corresponds)
    (hl : w.catalog.Linked) (ho : w.catalog.Ordered) (t : Time.Instant) (op : Operation)
    (hop : op.Tolerated w p) :
    w.BundlesAfter op (runWith op.run { w with faults := p, clock := t }).2 := by
  have hcalm : ({ w with faults := p, clock := t } : World).Calm := hop.calm
  have hlets : ({ w with faults := p, clock := t } : World).Lets
      (World.revisionCall "create_revision") := hop.registers
  cases op with
  | change m =>
    exact .of_step (v := { w with faults := p, clock := t }) rfl rfl
      (Coordinator.Mutation.keeps_contentKind m _)
      (m.bundleSteps (v := { w with faults := p, clock := t }) (hc.of_entities rfl) hl ho hcalm hlets
        hop.restorePut hop.restoreDelete hop.contentDelete hop.contentFound hop.roomy)
  | read q =>
    have hstores := (q.within_run _ hcalm).view
    exact .of_step (v := { w with faults := p, clock := t }) rfl rfl (Query.keeps_contentKind q _)
      fun b' hb' => BundleStep.of_stores hstores hb'
  | deleteBucket id claimed =>
    rw [Operation.run, runWith_map_snd]
    exact Manager.deleteWith_lands (v := { w with clock := t }) (fun _ q h => h.replan q)
      (hop.steady trivial) id.text claimed (.of_catalog rfl rfl rfl rfl) fun hentity cur hcur hver =>
        ⟨_, _, (World.BundlesAfter.dropBucket (w := { w with clock := t }) (hc.of_entities rfl)
          id).source rfl rfl, Coordinator.settles_deleteBucket (hop.steady trivial) hentity hcur hver
            (Catalog.Only.unnested hop.aimed)⟩
  | deleteFlow id claimed =>
    rw [Operation.run, runWith_map_snd]
    exact Manager.deleteWith_lands (v := { w with clock := t }) (fun _ q h => h.replan q)
      (hop.steady trivial) id.text claimed (.of_catalog rfl rfl rfl rfl) fun hentity cur hcur hver =>
        ⟨_, _, (World.BundlesAfter.dropFlow (w := { w with clock := t }) hop.aimed).source rfl rfl,
          Coordinator.settles_deleteFlow (hop.steady trivial) hentity hcur hver⟩
  | deleteBundle id claimed =>
    rw [Operation.run, runWith_map_snd]
    exact Manager.deleteWith_lands (v := { w with clock := t }) (fun _ q h => h.replan q)
      (hop.steady trivial) id.text claimed (.of_catalog rfl rfl rfl rfl) fun hentity cur hcur hver =>
        ⟨_, _, (World.BundlesAfter.dropBundle (w := { w with clock := t })).source rfl rfl,
          Coordinator.settles_deleteBundle (hop.steady trivial) hentity hcur hver⟩

end FlowRegistry
