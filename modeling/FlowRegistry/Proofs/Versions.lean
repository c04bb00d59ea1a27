import FlowRegistry.Proofs.BundleSteps

/-!
# Bundle versions and their content

Over every run of tolerated steps `Reaches.versionsHeld` carries `VersionsKept` for every live
bundle, with the catalog and revision invariants it rests on. Under a plan that fails nothing the
listing of a bundle's versions and each version's content read back as recorded, and an upload
that would replace a version in a bucket that does not allow it is refused and changes nothing.

An upload that replaces a version, under a plan that reports the old content missing and then
fails the write of the record, loses the content (`redeploy_read_as_missing_loses_content`); that
is why `Operation.Tolerated` asks that no such report be planned. It asks too that an upload of a
new version find room in the bundle's count: at the largest count the upload appends the record
and stops (`Coordinator.full_bundle_upload_outruns_its_count`).
-/

namespace FlowRegistry

/-! ### Reading a version back, and refusing to replace one -/

theorem Catalog.fetchBundleVersion_of_mem {c : Catalog} {x : Uuid} {m : BundleVersion}
    (hnd : ((c.listBundleVersions x).map (·.version)).Nodup) (hm : m ∈ c.listBundleVersions x) :
    c.fetchBundleVersion x m.version = some m := by
  unfold fetchBundleVersion
  generalize c.listBundleVersions x = l at hnd hm
  induction l with
  | nil => cases hm
  | cons y ys ih =>
    rw [List.map_cons, List.nodup_cons] at hnd
    rcases List.mem_cons.1 hm with rfl | hm
    · simp
    · have hne : y.version ≠ m.version := fun h => hnd.1 (h ▸ List.mem_map_of_mem hm)
      simp [hne, ih hnd.2 hm]

namespace World

variable {v : World} {p : FaultPlan}

theorem settles_getContent (hp : p.Steady) (e ver : String) :
    Settles (getContent e ver) { v with faults := p } (v.content.get e ver) v := by
  refine ⟨_, steady_pass (w := { v with faults := p }) hp (contentCall "get_content"), ?_⟩
  rw [runWith_getContent, planned_of_quiet (quiet_replan hp v)]
  rfl

theorem settles_saveContent (hp : p.Steady) {e ver : String} {data : Bytes} {s : ContentStore}
    (h : v.content.save e ver data = (.ok (), s)) :
    Settles (saveContent e ver data) { v with faults := p } (.ok ()) { v with content := s } := by
  refine ⟨_, steady_pass (w := { v with faults := p }) hp (contentCall "save_content"), ?_⟩
  rw [runWith_saveContent, planned_of_quiet (quiet_replan hp v)]
  simp only [h]
  rfl

/-- Under a plan that fails nothing, the content of every recorded version of a bundle kept so
reads back with its record, its checksum agreeing. -/
theorem VersionsKept.reads {w : World} {b : Bundle} (hk : w.VersionsKept b) {m : BundleVersion}
    (hm : m ∈ w.catalog.listBundleVersions b.identifier) (hp : p.Steady) (t : Time.Instant) :
    ∃ data, w.content.blob? b.identifier.text m.version = some data ∧
      Settles (Coordinator.getBundleVersionContent b.identifier m.version)
        { w with faults := p, clock := t } (.ok (m, data)) { w with clock := t } := by
  obtain ⟨data, hblob, hsha, -⟩ := hk.backed m hm
  have hfetch := Catalog.fetchBundleVersion_of_mem hk.distinct hm
  have hget := ContentStore.get_of_takes (hk.taken m hm) hblob
  refine ⟨data, hblob, ?_⟩
  unfold Coordinator.getBundleVersionContent
  refine (settles_readCatalog (v := { w with clock := t }) hp _ _).bind fun q hq => ?_
  simp only [hfetch]
  have hread := settles_getContent (v := { w with clock := t }) hq b.identifier.text m.version
  rw [show ({ w with clock := t } : World).content.get _ _ = .ok data from hget] at hread
  refine hread.bind fun q' hq' => ?_
  rw [if_neg (not_not.2 hsha)]
  exact Settles.pure' hq' _

end World

namespace Coordinator

variable {v : World} {p : FaultPlan}

/-- Under a plan that fails nothing, an upload of a version a bundle does not have, to a bundle
whose count of versions is at its largest value, under the bundle's current revision, stores the
content and appends the record, and then stops with `overflow`: the bundle keeps its count, so a
registry that kept its versions keeps them no more. -/
theorem full_bundle_upload_outruns_its_count (hp : p.Steady) {x : Uuid} {b : Bundle}
    {bucket : Bucket} (hb : v.catalog.fetchBundle x = some b)
    (hbucket : v.catalog.fetchBucket b.bucketIdentifier = some bucket)
    (hfull : b.versionCount = maxWord32) {version : String} (hblank : Text.trim version ≠ "")
    (hnew : v.catalog.fetchBundleVersion x (Text.trim version) = none)
    {claimed cur : Revision} (hentity : claimed.entityId = x.text)
    (hcur : v.revisions.get? x.text = some cur) (hver : cur.version = claimed.version)
    {data : Bytes} (hsave : (v.content.save x.text (Text.trim version) data).1 = .ok ())
    (user : String) :
    ∃ u, Settles (addBundleVersion x claimed version data user) { v with faults := p }
        (.error .overflow) u ∧ u.catalog.fetchBundle x = some b ∧
      u.catalog.listBundleVersions x = v.catalog.listBundleVersions x ++
        [⟨x, Text.trim version, Digest.sha256Hex data, data.length, user, v.clock⟩] ∧
      (v.VersionsKept b → ¬u.VersionsKept b) := by
  let record : BundleVersion :=
    ⟨x, Text.trim version, Digest.sha256Hex data, data.length, user, v.clock⟩
  let c : Catalog := { v.catalog with
    bundleVersions := Catalog.replaceOrAppend record v.catalog.bundleVersions }
  have hput : v.catalog.putBundleVersion record = .ok c := by
    simp [Catalog.putBundleVersion, record, c, hb]
  have hlisted : c.listBundleVersions x = v.catalog.listBundleVersions x ++ [record] := by
    have hmissing : record.version ∉ (v.catalog.listBundleVersions x).map (·.version) := fun hin => by
      have hfound := Catalog.fetchBundleVersion_isSome.2 hin
      rw [show record.version = Text.trim version from rfl, hnew] at hfound
      cases hfound
    show (Catalog.replaceOrAppend record v.catalog.bundleVersions).filter _ = _
    rw [Catalog.filter_replaceOrAppend_self (x := x) rfl]
    exact Catalog.replaceOrAppend_of_not_mem hmissing
  obtain ⟨s, hs⟩ : ∃ s, v.content.save x.text (Text.trim version) data = (.ok (), s) :=
    ⟨_, Prod.ext hsave rfl⟩
  refine ⟨{ v with content := s, catalog := c }, ?_, hb, hlisted, fun hkept hkept' => ?_⟩
  · unfold addBundleVersion
    simp only [hblank, if_false]
    refine Settles.bind_error ?_ _
    unfold Manager.update
    refine Settles.lift_bind_ok (a := ()) (by simp [Manager.checkEntity, hentity]) ?_
    refine (Manager.settles_verifyLocked hp hcur hver).bind fun q hq => ?_
    refine Settles.bind_error ?_ _
    refine (settles_requireBundle hq hb).bind fun q₁ hq₁ => ?_
    refine (World.settles_readCatalog hq₁ _ _).bind fun q₂ hq₂ => ?_
    simp only [hbucket]
    refine (Settles.pure' hq₂ bucket).bind fun q₃ hq₃ => ?_
    refine (World.settles_readCatalog hq₃ _ _).bind fun q₄ hq₄ => ?_
    simp only [hnew, Option.isSome_none, Bool.false_eq_true, false_and, if_false]
    refine (World.settles_now hq₄).bind fun q₅ hq₅ => ?_
    refine (Settles.pure' hq₅ none).bind fun q₆ hq₆ => ?_
    refine (World.settles_saveContent hq₆ hs).bind fun q₇ hq₇ => ?_
    refine Settles.bind_error ?_ _
    unfold recordBundleVersion
    refine (Settles.tryCatch_ok (World.settles_writeCatalog hq₇ hput) _).bind fun q₈ hq₈ => ?_
    exact Settles.lift_bind_error hq₈
      (by simp [hfull, nextWord32_of_le (Nat.le_refl maxWord32)]) _
  · -- the count is the one before, with one record more
    have hcount := hkept'.counted
    obtain ⟨-, hid⟩ := Catalog.fetchBundle_eq_some hb
    dsimp only at hcount
    rw [hid, hlisted, List.length_append, ← hid, ← hkept.counted] at hcount
    simp at hcount

end Coordinator

/-! ### Runs -/

/-- A registry whose plan fails nothing lets every call through. -/
theorem World.lets_of_steady {w : World} (h : w.faults.Steady) (c : Call) : w.Lets c := by
  unfold World.Lets
  rw [World.planned_of_quiet h.quiet]

/-- What a registry reached by tolerated steps holds: revisions that follow its entities, a
linked, ordered and named catalog, and the versions of every live bundle kept with their
content. -/
structure World.VersionsHeld (w : World) : Prop where
  corresponds : w.Corresponds
  linked : w.catalog.Linked
  ordered : w.catalog.Ordered
  named : w.catalog.Named
  kept : ∀ b ∈ w.catalog.bundles, w.VersionsKept b

/-- A tolerated step keeps what the registry holds: the versions of each bundle after it are kept
because `BundleStep` says how they came from those before. -/
theorem World.VersionsHeld.step {w : World} {p : FaultPlan} (h : w.VersionsHeld) (t : Time.Instant)
    (op : Operation) (hop : op.Tolerated w p) :
    (runWith op.run { w with faults := p, clock := t }).2.VersionsHeld := by
  obtain ⟨hkind, hsteps⟩ := Operation.bundlesAfter h.corresponds h.linked h.ordered t op hop
  have hnamed := (Operation.triple_named op).holds_after (w := { w with faults := p, clock := t })
    ⟨hop.calm, h.ordered, h.named, trivial⟩
  exact ⟨h.corresponds.registered_step t op hop.toRegistered,
    (Operation.triple_linked op).holds_after h.linked, hnamed.2.1, hnamed.2.2.1,
    fun b' hb' => (hsteps b' hb').versionsKept hkind h.kept⟩

end FlowRegistry
