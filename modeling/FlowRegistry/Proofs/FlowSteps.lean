import FlowRegistry.Proofs.SnapshotWrites
import FlowRegistry.Proofs.BundleSteps
import FlowRegistry.Proofs.Namesakes

/-!
# What each step does to the flows and their snapshots

A flow's snapshots are kept in two stores: their records in the catalog, and their content in the
content store under the flow's key and the snapshot's number. `World.SnapshotsKept` says what a
registry keeps of a live flow: records numbered from 1 to the flow's count of versions, a blob under
exactly their numbers, and each blob what the snapshot table writes of a snapshot with that record.

`FlowStep` names the ways one step can leave a flow: as it was, new without records or blobs, or
snapshotted under the number after its count. `FlowStep.snapshotsKept` shows that each of them
keeps what is kept. `Operation.flowsAfter` shows that every step leaves every flow in one of these
ways, keeps the records sorted (`World.FlowsAfter.sorted`) and every blob under a live flow or
bundle (`World.Homed`). This holds from a registry that holds its snapshots so
(`World.SnapshotsHeld`), under a plan that lets registrations through and lets a failed snapshot
be removed (`Operation.Discarding`). Deletes only remove entities with what they hold
(`World.Drops`).
-/

namespace FlowRegistry

open Format

/-! ### Snapshot records in order -/

/-- `a` comes before `b` in the table of snapshot records: by flow, then by number. -/
def SnapshotMeta.Before (a b : SnapshotMeta) : Prop :=
  a.flowIdentifier.value.val < b.flowIdentifier.value.val ∨
    a.flowIdentifier = b.flowIdentifier ∧ a.version < b.version

theorem SnapshotMeta.Before.trans {a b c : SnapshotMeta} (hab : a.Before b) (hbc : b.Before c) :
    a.Before c := by
  rcases hab with hab | ⟨hab, hvab⟩ <;> rcases hbc with hbc | ⟨hbc, hvbc⟩
  · exact .inl (Nat.lt_trans hab hbc)
  · exact .inl (hbc ▸ hab)
  · exact .inl (hab ▸ hbc)
  · exact .inr ⟨hab.trans hbc, Nat.lt_trans hvab hvbc⟩

/-- The table of snapshot records is sorted by flow and number, so holds each pair once. -/
def Catalog.SnapshotsSorted (c : Catalog) : Prop := c.snapshots.Pairwise SnapshotMeta.Before

namespace Catalog

variable {m : SnapshotMeta} {l : List SnapshotMeta}

/-- An insert in order keeps the table sorted, when the record's flow and number are new. -/
theorem pairwise_insertSnapshotSorted (hl : l.Pairwise SnapshotMeta.Before)
    (hfresh : ∀ s ∈ l, ¬(s.flowIdentifier = m.flowIdentifier ∧ s.version = m.version)) :
    (insertSnapshotSorted m l).Pairwise SnapshotMeta.Before := by
  induction l with
  | nil => exact List.pairwise_singleton _ _
  | cons s rest ih =>
    obtain ⟨hs, hrest⟩ := List.pairwise_cons.1 hl
    unfold insertSnapshotSorted
    split
    · next hbefore =>
      have hms : m.Before s := by
        simp only [Uuid.lt, Bool.or_eq_true, decide_eq_true_eq, Fin.lt_def, Bool.and_eq_true,
          beq_iff_eq] at hbefore
        exact hbefore
      exact List.pairwise_cons.2 ⟨fun t ht => (List.mem_cons.1 ht).elim (· ▸ hms)
        fun ht => hms.trans (hs t ht), hl⟩
    · next hafter =>
      have hsm : s.Before m := by
        simp only [Uuid.lt, Bool.or_eq_true, decide_eq_true_eq, Fin.lt_def, Bool.and_eq_true,
          beq_iff_eq, not_or, not_and, Nat.not_lt] at hafter
        have hne := hfresh s List.mem_cons_self
        by_cases hflow : s.flowIdentifier = m.flowIdentifier
        · have hle : s.version ≤ m.version := hafter.2 hflow.symm
          have hver : s.version ≠ m.version := fun h => hne ⟨hflow, h⟩
          exact .inr ⟨hflow, by omega⟩
        · have hval : s.flowIdentifier.value.val ≠ m.flowIdentifier.value.val := Uuid.val_ne hflow
          have hle : s.flowIdentifier.value.val ≤ m.flowIdentifier.value.val := hafter.1
          exact .inl (by omega)
      refine List.pairwise_cons.2 ⟨fun t ht => ?_,
        ih hrest fun t ht => hfresh t (List.mem_cons_of_mem s ht)⟩
      rcases mem_of_mem_insertSnapshotSorted ht with rfl | ht
      · exact hsm
      · exact hs t ht

/-- In a sorted table, a record whose number is above every number of its flow lands last among
the records of its flow. -/
theorem filter_insertSnapshotSorted_last (hl : l.Pairwise SnapshotMeta.Before)
    (hlt : ∀ s ∈ l, s.flowIdentifier = m.flowIdentifier → s.version < m.version) :
    (insertSnapshotSorted m l).filter (·.flowIdentifier == m.flowIdentifier) =
      l.filter (·.flowIdentifier == m.flowIdentifier) ++ [m] := by
  induction l with
  | nil => simp [insertSnapshotSorted]
  | cons s rest ih =>
    obtain ⟨hs, hrest⟩ := List.pairwise_cons.1 hl
    unfold insertSnapshotSorted
    split
    · next hbefore =>
      have hflow : m.flowIdentifier.value.val < s.flowIdentifier.value.val := by
        simp only [Uuid.lt, Bool.or_eq_true, decide_eq_true_eq, Fin.lt_def, Bool.and_eq_true,
          beq_iff_eq] at hbefore
        rcases hbefore with h | ⟨h, hv⟩
        · exact h
        · exact absurd (hlt s List.mem_cons_self h.symm) (Nat.lt_asymm hv)
      have hnone : (s :: rest).filter (·.flowIdentifier == m.flowIdentifier) = [] := by
        refine List.filter_eq_nil_iff.2 fun t ht heq => ?_
        have heq : t.flowIdentifier = m.flowIdentifier := by simpa using heq
        rcases List.mem_cons.1 ht with rfl | ht
        · exact absurd (heq ▸ hflow) (Nat.lt_irrefl _)
        · rcases hs t ht with h | ⟨h, -⟩
          · rw [heq] at h
            exact Nat.lt_asymm hflow h
          · rw [h, heq] at hflow
            exact Nat.lt_irrefl _ hflow
      rw [List.filter_cons_of_pos (by simp), hnone, List.nil_append]
    · rw [List.filter_cons, List.filter_cons, ih hrest fun t ht => hlt t (List.mem_cons_of_mem s ht)]
      split <;> rfl

/-- A flow found by its id is one of the flows, with that id. -/
theorem fetchFlow_eq_some {c : Catalog} {id : Uuid} {f : Flow} (h : c.fetchFlow id = some f) :
    f ∈ c.flows ∧ f.identifier = id :=
  ⟨List.mem_of_find?_eq_some h, by simpa using List.find?_some h⟩

end Catalog

/-- Two numbers with one decimal text are one. -/
theorem toString_nat_injective {a b : Nat} (h : toString a = toString b) : a = b := by
  change Nat.repr a = Nat.repr b at h
  rw [Nat.repr_eq_ofList_toDigits, Nat.repr_eq_ofList_toDigits] at h
  rw [← Nat.ofDigitChars_ten_toDigits (n := a), String.ofList_injective h,
    Nat.ofDigitChars_ten_toDigits]

/-! ### The snapshots of a flow -/

namespace World

/-- What a registry keeps of a live flow: its snapshot records are numbered from 1 to its count of
versions, in order; the content store holds a blob under the flow for exactly their numbers in
decimal; and each of these is a snapshot with the record as its metadata, as the snapshot table
writes it, under a key the store takes. -/
structure SnapshotsKept (w : World) (f : Flow) : Prop where
  numbered : (w.catalog.listSnapshots f.identifier).map (·.version) = List.range' 1 f.versionCount
  keyed : ∀ v, (w.content.blob? f.identifier.text v).isSome ↔
    ∃ m ∈ w.catalog.listSnapshots f.identifier, v = toString m.version
  stored : ∀ m ∈ w.catalog.listSnapshots f.identifier, ∃ (s : Snapshot) (bytes : Bytes),
    s.snapshotMetadata = m ∧ snapshotTable.serialize s = .ok bytes ∧
      w.content.blob? f.identifier.text (toString m.version) = some bytes
  taken : ∀ m ∈ w.catalog.listSnapshots f.identifier,
    w.content.Takes f.identifier.text (toString m.version)

/-- Every record of a kept flow has a number from 1 to its count. -/
theorem SnapshotsKept.version_le {w : World} {f : Flow} (hk : w.SnapshotsKept f) {m : SnapshotMeta}
    (hm : m ∈ w.catalog.listSnapshots f.identifier) :
    1 ≤ m.version ∧ m.version ≤ f.versionCount := by
  have hmem : m.version ∈ List.range' 1 f.versionCount := hk.numbered ▸ List.mem_map_of_mem hm
  rw [List.mem_range'_1] at hmem
  omega

end World

/-- How one step of a run can leave a flow `f'` of the registry `w'` it reaches from `w`. -/
inductive FlowStep (w w' : World) (op : Operation) (f' : Flow) : Prop
  /-- The flow was there, with its count, its snapshot records and every blob under its key as
  they were. -/
  | kept (f : Flow) (hf : f ∈ w.catalog.flows) (hid : f.identifier = f'.identifier)
      (hcount : f'.versionCount = f.versionCount)
      (hrecords : w'.catalog.listSnapshots f'.identifier = w.catalog.listSnapshots f'.identifier)
      (hblob : ∀ v, w'.content.blob? f'.identifier.text v = w.content.blob? f'.identifier.text v)
  /-- The flow is new, without a snapshot record or a blob under its key. -/
  | created (hnew : ¬w.catalog.Live .flow f'.identifier) (hcount : f'.versionCount = 0)
      (hrecords : w'.catalog.listSnapshots f'.identifier = [])
      (hblob : ∀ v, w'.content.blob? f'.identifier.text v = none)
  /-- The step was a snapshot of the flow carrying the number after its count. The record is the
  last of the flow's, the count moves to the number, and what the snapshot table wrote of the
  request is stored under the number, every other blob of the flow as it was. -/
  | snapshotted (f : Flow) (claimed : Revision) (r : Coordinator.SnapshotRequest) (user : String)
      (t : Time.Instant) (bytes : Bytes)
      (hop : op = .change (.createSnapshot f'.identifier claimed r user))
      (hf : w.catalog.fetchFlow f'.identifier = some f)
      (hnext : r.version = f.versionCount + 1) (hcount : f'.versionCount = r.version)
      (hbytes : snapshotTable.serialize ⟨⟨f.bucketIdentifier, f'.identifier, r.version, t, user,
        r.comments⟩, r.flowContents, r.parameterContexts⟩ = .ok bytes)
      (hrecords : w'.catalog.listSnapshots f'.identifier = w.catalog.listSnapshots f'.identifier ++
        [⟨f.bucketIdentifier, f'.identifier, r.version, t, user, r.comments⟩])
      (hblob : ∀ v, w'.content.blob? f'.identifier.text v =
        if v = toString r.version then some bytes else w.content.blob? f'.identifier.text v)
      (htakes : w'.content.Takes f'.identifier.text (toString r.version))

namespace FlowStep

variable {w w' : World} {op : Operation} {f' : Flow}

/-- A step keeps what the registry keeps of every flow, when it keeps the kind of content
store. -/
theorem snapshotsKept (h : FlowStep w w' op f') (hkind : w'.contentKind = w.contentKind)
    (hkept : ∀ f ∈ w.catalog.flows, w.SnapshotsKept f) : w'.SnapshotsKept f' := by
  cases h with
  | kept f hf hid hcount hrecords hblob =>
    obtain ⟨hnumbered, hkeyed, hstored, htaken⟩ := hkept f hf
    rw [hid] at hnumbered hkeyed hstored htaken
    refine ⟨by rw [hcount, hrecords, hnumbered], fun v => ?_, fun m hm => ?_, fun m hm => ?_⟩
    · rw [hblob, hrecords]
      exact hkeyed v
    · rw [hblob]
      exact hstored m (hrecords ▸ hm)
    · exact (htaken m (hrecords ▸ hm)).of_name hkind
  | created hnew hcount hrecords hblob =>
    refine ⟨by rw [hcount, hrecords]; rfl, fun v => by simp [hrecords, hblob], fun m hm => ?_,
      fun m hm => ?_⟩ <;> simp [hrecords] at hm
  | snapshotted f claimed r user t bytes hop hf hnext hcount hbytes hrecords hblob htakes =>
    obtain ⟨hmem, hid⟩ := Catalog.fetchFlow_eq_some hf
    have hk := hkept f hmem
    have hfresh : ∀ m ∈ w.catalog.listSnapshots f'.identifier,
        toString m.version ≠ toString r.version := fun m hm heq => by
      have hle := (hk.version_le (by rw [hid]; exact hm)).2
      have := toString_nat_injective heq
      omega
    obtain ⟨hnumbered, hkeyed, hstored, htaken⟩ := hk
    rw [hid] at hnumbered hkeyed hstored htaken
    refine ⟨?_, fun v => ?_, fun m hm => ?_, fun m hm => ?_⟩
    · rw [hcount, hrecords, List.map_append, hnumbered, hnext, List.range'_concat]
      simp [Nat.add_comm]
    · rw [hblob, hrecords]
      by_cases hv : v = toString r.version
      · simp [hv]
      · simp only [hv, if_false, hkeyed, List.mem_append, List.mem_singleton]
        constructor
        · rintro ⟨m, hm, rfl⟩
          exact ⟨m, .inl hm, rfl⟩
        · rintro ⟨m, hm | rfl, rfl⟩
          · exact ⟨m, hm, rfl⟩
          · exact absurd rfl hv
    · rw [hrecords, List.mem_append, List.mem_singleton] at hm
      rcases hm with hm | rfl
      · rw [hblob, if_neg (hfresh m hm)]
        exact hstored m hm
      · exact ⟨_, bytes, rfl, hbytes, by rw [hblob]; simp⟩
    · rw [hrecords, List.mem_append, List.mem_singleton] at hm
      rcases hm with hm | rfl
      · exact (htaken m hm).of_name hkind
      · exact htakes

end FlowStep

/-! ### The catalog writes, as far as flows go -/

namespace Catalog

variable {c c' : Catalog}

theorem flowRecords_insertBucket {b : Bucket} (h : c.insertBucket b = .ok c') :
    c'.flowRecords = c.flowRecords := by
  unfold insertBucket at h
  split at h
  · cases h
  cases h
  rfl

theorem flowRecords_updateBucket {b : Bucket} (h : c.updateBucket b = .ok c') :
    c'.flowRecords = c.flowRecords := by
  unfold updateBucket at h
  split at h
  · cases h
  cases h
  rfl

theorem flowRecords_insertBundle {b : Bundle} (h : c.insertBundle b = .ok c') :
    c'.flowRecords = c.flowRecords := by
  unfold insertBundle at h
  split at h
  · cases h
  split at h
  · cases h
  cases h
  rfl

theorem updateFlow_eq_ok {f : Flow} (h : c.updateFlow f = .ok c') :
    c'.flows = insertById (·.identifier) f c.flows ∧ c'.snapshots = c.snapshots := by
  unfold updateFlow at h
  split at h
  · cases h
  cases h
  exact ⟨rfl, rfl⟩

theorem insertSnapshot_eq_ok {m : SnapshotMeta} (h : c.insertSnapshot m = .ok c') :
    c.fetchSnapshot m.flowIdentifier m.version = none ∧ c'.flows = c.flows ∧
      c'.snapshots = insertSnapshotSorted m c.snapshots := by
  unfold insertSnapshot at h
  split at h
  · cases h
  split at h
  · cases h
  next hnew =>
  cases h
  exact ⟨by simpa using hnew, rfl, rfl⟩

theorem not_live_of_fetchFlow {id : Uuid} (h : c.fetchFlow id = none) : ¬c.Live .flow id := by
  intro hlive
  obtain ⟨f, hf, rfl⟩ := List.mem_map.1 hlive
  have hnot := List.find?_eq_none.1 h f hf
  simp at hnot

/-- A flow that is not live has no snapshot record, in a linked catalog. -/
theorem listSnapshots_eq_nil (hl : c.Linked) {id : Uuid} (h : ¬c.Live .flow id) :
    c.listSnapshots id = [] :=
  List.eq_nil_iff_forall_not_mem.2 fun m hm => by
    have hmem : m ∈ c.snapshots ∧ m.flowIdentifier = id := by simpa [listSnapshots] using hm
    exact h (hmem.2 ▸ hl.snapshots m hmem.1)

/-- A record whose flow and number the catalog does not find is new to the table. -/
theorem fresh_of_fetchSnapshot {m : SnapshotMeta}
    (h : c.fetchSnapshot m.flowIdentifier m.version = none) :
    ∀ s ∈ c.snapshots, ¬(s.flowIdentifier = m.flowIdentifier ∧ s.version = m.version) := by
  rintro s hs ⟨hflow, hver⟩
  have hnone := List.find?_eq_none.1 h s (by simpa [listSnapshots] using ⟨hs, hflow⟩)
  simp [hver] at hnone

/-- The latest record of a flow kept so is numbered its count, so a new snapshot must carry the
count and one. -/
theorem expectedSnapshot_eq {f : Flow} {n : Nat}
    (hnumbered : (c.listSnapshots f.identifier).map (·.version) = List.range' 1 f.versionCount)
    (h : Coordinator.expectedSnapshot (c.latestSnapshot f.identifier) = .ok n) :
    n = f.versionCount + 1 := by
  have hlast : (c.latestSnapshot f.identifier).map (·.version) =
      (List.range' 1 f.versionCount).getLast? := by
    rw [← hnumbered, List.getLast?_map]
    rfl
  cases hcount : f.versionCount with
  | zero =>
    rw [hcount] at hlast
    cases hl : c.latestSnapshot f.identifier with
    | none =>
      rw [hl] at h
      cases h
      rfl
    | some m => rw [hl] at hlast; cases hlast
  | succ k =>
    rw [hcount, List.range'_concat, List.getLast?_append] at hlast
    cases hl : c.latestSnapshot f.identifier with
    | none => rw [hl] at hlast; simp at hlast
    | some m =>
      rw [hl] at hlast h
      have hv : m.version = k + 1 := by simpa [Nat.add_comm] using hlast
      simp only [Coordinator.expectedSnapshot, nextSnapshotVersion, nextWord32] at h
      split at h
      · cases h
        omega
      · cases h

end Catalog

/-! ### Where blobs are kept -/

namespace World

variable {w u : World}

/-- Every blob of the content store is under the key of a live flow or a live bundle. -/
def Homed (w : World) : Prop :=
  ∀ e v, (w.content.blob? e v).isSome →
    ∃ x : Uuid, x.text = e ∧ (w.catalog.Live .flow x ∨ w.catalog.Live .bundle x)

/-- A registry whose content store holds nothing keeps no blob astray. -/
theorem homed_fresh {content : ContentStore} (hempty : ∀ e v, content.blob? e v = none)
    (clock : Time.Instant) : (fresh content clock).Homed := fun e v h => by
  simp [fresh, hempty] at h

/-- In a registry whose revisions follow its entities, an id without a revision has no blob. -/
theorem Homed.blob?_eq_none (h : w.Homed) (hc : w.Corresponds) {x : Uuid}
    (hrev : w.revisions.get? x.text = none) (v : String) : w.content.blob? x.text v = none := by
  rcases hb : w.content.blob? x.text v with _ | data
  · rfl
  obtain ⟨y, hy, hlive⟩ := h _ _ (by rw [hb]; rfl)
  have hheld : (w.revisions.get? x.text).isSome := by
    rw [← Uuid.text_injective hy]
    rcases hlive with hlive | hlive
    · exact hc.held hlive
    · exact hc.held hlive
  rw [hrev] at hheld
  cases hheld

/-- A step keeps every blob homed when each blob it leaves was there or is under a live flow or
bundle of what it leaves, and every entity live before it stays live. -/
theorem Homed.mono (h : w.Homed)
    (hblob : ∀ e v, (u.content.blob? e v).isSome → (w.content.blob? e v).isSome ∨
      ∃ x : Uuid, x.text = e ∧ (u.catalog.Live .flow x ∨ u.catalog.Live .bundle x))
    (hlive : ∀ k x, w.catalog.Live k x → u.catalog.Live k x) : u.Homed := fun e v hb => by
  rcases hblob e v hb with hold | hnew
  · obtain ⟨x, hx, hl⟩ := h e v hold
    exact ⟨x, hx, hl.imp (hlive _ x) (hlive _ x)⟩
  · exact hnew

/-- A kept flow holds no blob under the number a new snapshot of it must carry. -/
theorem SnapshotsKept.blob?_next {f : Flow} (hk : w.SnapshotsKept f) {n : Nat}
    (hexpected : Coordinator.expectedSnapshot (w.catalog.latestSnapshot f.identifier) = .ok n) :
    w.content.blob? f.identifier.text (toString n) = none := by
  have hn := Catalog.expectedSnapshot_eq hk.numbered hexpected
  rcases hb : w.content.blob? f.identifier.text (toString n) with _ | data
  · rfl
  obtain ⟨m, hm, heq⟩ := (hk.keyed _).1 (by rw [hb]; rfl)
  have hle := (hk.version_le hm).2
  have := toString_nat_injective heq
  omega

/-- What a registry holds of its flows and their snapshots, with what the proofs about them rest
on: revisions that follow its entities, a linked, ordered and named catalog with its snapshot
records in order, no blob astray, and every live flow kept. -/
structure SnapshotsHeld (w : World) : Prop where
  corresponds : w.Corresponds
  linked : w.catalog.Linked
  ordered : w.catalog.Ordered
  named : w.catalog.Named
  sorted : w.catalog.SnapshotsSorted
  homed : w.Homed
  kept : ∀ f ∈ w.catalog.flows, w.SnapshotsKept f

end World

namespace FlowStep

variable {v w w' u : World} {op : Operation} {f' : Flow} {c : Catalog}

/-- A step is a matter of the catalogs and content stores it goes between. -/
theorem congr (h : FlowStep v u op f') (hcat : v.catalog = w.catalog)
    (hcontent : v.content = w.content) (hcat' : u.catalog = w'.catalog)
    (hcontent' : u.content = w'.content) : FlowStep w w' op f' := by
  cases h with
  | kept f hf hid hcount hrecords hblob =>
    exact .kept f (hcat ▸ hf) hid hcount (by rw [← hcat', ← hcat, hrecords])
      fun v' => by rw [← hcontent', ← hcontent, hblob]
  | created hnew hcount hrecords hblob =>
    exact .created (hcat ▸ hnew) hcount (hcat' ▸ hrecords) fun v' => by rw [← hcontent', hblob]
  | snapshotted f claimed r user t bytes hop hf hnext hcount hbytes hrecords hblob htakes =>
    exact .snapshotted f claimed r user t bytes hop (hcat ▸ hf) hnext hcount hbytes
      (by rw [← hcat', ← hcat, hrecords]) (fun v' => by rw [← hcontent', ← hcontent, hblob])
      (hcontent' ▸ htakes)

/-- A flow that was there, with its records and blobs as they were. -/
theorem same (hf : f' ∈ w.catalog.flows)
    (hrecords : w'.catalog.listSnapshots f'.identifier = w.catalog.listSnapshots f'.identifier)
    (hblob : ∀ v, w'.content.blob? f'.identifier.text v = w.content.blob? f'.identifier.text v) :
    FlowStep w w' op f' :=
  .kept f' hf rfl rfl hrecords hblob

/-- A step that leaves a catalog with the flows and snapshot records it found, and every blob,
keeps every flow as it was. -/
theorem of_catalog (hcat : w'.catalog = c) (hblob : w'.content.blob? = w.content.blob?)
    (hrecords : c.flowRecords = w.catalog.flowRecords) (hf' : f' ∈ w'.catalog.flows) :
    FlowStep w w' op f' := by
  have hflows : c.flows = w.catalog.flows := congrArg Prod.fst hrecords
  have hsnapshots : c.snapshots = w.catalog.snapshots := congrArg Prod.snd hrecords
  rw [hcat, hflows] at hf'
  exact same hf' (by simp only [Catalog.listSnapshots, hcat, hsnapshots]) fun v => by rw [hblob]

end FlowStep

/-- What a step leaves of the flows, seen from the registry it starts from: a content store of the
same kind, the snapshot records with some removed or one new record inserted in order, no blob
astray, and every flow as `FlowStep` says. -/
structure World.FlowsAfter (w : World) (op : Operation) (u : World) : Prop where
  kind : u.contentKind = w.contentKind
  records : u.catalog.snapshots.Sublist w.catalog.snapshots ∨
    ∃ m : SnapshotMeta, (∀ s ∈ w.catalog.snapshots,
      ¬(s.flowIdentifier = m.flowIdentifier ∧ s.version = m.version)) ∧
      u.catalog.snapshots = Catalog.insertSnapshotSorted m w.catalog.snapshots
  homed : u.Homed
  flows : ∀ f' ∈ u.catalog.flows, FlowStep w u op f'

namespace World.FlowsAfter

variable {v w u : World} {op : Operation} {c : Catalog}

/-- The snapshot records stay in order. -/
theorem sorted (h : w.FlowsAfter op u) (hs : w.catalog.SnapshotsSorted) :
    u.catalog.SnapshotsSorted := by
  rcases h.records with hsub | ⟨m, hfresh, hins⟩
  · exact hs.sublist hsub
  · unfold Catalog.SnapshotsSorted
    rw [hins]
    exact Catalog.pairwise_insertSnapshotSorted hs hfresh

theorem replan (h : w.FlowsAfter op u) (q : FaultPlan) : w.FlowsAfter op { u with faults := q } :=
  ⟨h.kind, h.records, h.homed, fun f' hf' => (h.flows f' hf').congr rfl rfl rfl rfl⟩

/-- What a step leaves, seen from a registry with the catalog and content store of `w`. -/
theorem source (h : v.FlowsAfter op u) (hcat : v.catalog = w.catalog)
    (hcontent : v.content = w.content) : w.FlowsAfter op u where
  kind := by rw [h.kind, contentKind, contentKind, hcontent]
  records := hcat ▸ h.records
  homed := h.homed
  flows f' hf' := (h.flows f' hf').congr hcat hcontent rfl rfl

/-- A step that leaves the catalog with the flows and snapshot records it found, every blob, and
every live entity, keeps all of them. -/
theorem of_catalog (hh : w.Homed) (hkind : u.contentKind = w.contentKind) (hcat : u.catalog = c)
    (hblob : u.content.blob? = w.content.blob?) (hrecords : c.flowRecords = w.catalog.flowRecords)
    (hlive : ∀ k x, w.catalog.Live k x → c.Live k x) : w.FlowsAfter op u where
  kind := hkind
  records := .inl (by
    rw [hcat, show c.snapshots = w.catalog.snapshots from congrArg Prod.snd hrecords])
  homed := hh.mono (fun e v hb => .inl (by rwa [hblob] at hb)) fun k x hx => hcat ▸ hlive k x hx
  flows _ hf' := FlowStep.of_catalog hcat hblob hrecords hf'

theorem of_stores (hh : w.Homed) (hkind : u.contentKind = w.contentKind)
    (hs : u.stores = w.stores) : w.FlowsAfter op u :=
  of_catalog hh hkind (congrArg (fun s => s.2.1) hs) (congrArg (fun s => s.2.2) hs) rfl
    fun _ _ h => h

/-! The changes, from a registry where no flow is queued. -/

theorem createBucket (hh : v.Homed) (hcalm : v.Calm)
    (hlets : v.Lets (World.revisionCall "create_revision")) (r : Coordinator.BucketRequest)
    (claimed : Revision) (user : String) :
    v.FlowsAfter op (runWith (Coordinator.createBucket r claimed user) v).2 := by
  have hcases := Coordinator.createBucket_cases r claimed user hcalm hlets
  have hkind := Coordinator.keeps_contentKind_createBucket r claimed user v
  generalize (runWith (Coordinator.createBucket r claimed user) v).2 = w' at hcases hkind ⊢
  rcases hcases with hsame | ⟨-, c, ⟨b, -, hc⟩, hstores⟩
  · exact of_stores hh hkind hsame
  · exact of_catalog hh hkind (congrArg (fun s => s.2.1) hstores) (congrArg (fun s => s.2.2) hstores)
      (Catalog.flowRecords_insertBucket hc) fun k x hx => (Catalog.live_insertBucket hc k x).2 (.inl hx)

theorem createBundle (hh : v.Homed) (hcalm : v.Calm)
    (hlets : v.Lets (World.revisionCall "create_revision")) (r : Coordinator.BundleRequest)
    (claimed : Revision) (user : String) :
    v.FlowsAfter op (runWith (Coordinator.createBundle r claimed user) v).2 := by
  have hcases := Coordinator.createBundle_cases r claimed user hcalm hlets
  have hkind := Coordinator.keeps_contentKind_createBundle r claimed user v
  generalize (runWith (Coordinator.createBundle r claimed user) v).2 = w' at hcases hkind ⊢
  rcases hcases with hsame | ⟨-, c, ⟨b, -, -, hc⟩, hstores⟩
  · exact of_stores hh hkind hsame
  · exact of_catalog hh hkind (congrArg (fun s => s.2.1) hstores) (congrArg (fun s => s.2.2) hstores)
      (Catalog.flowRecords_insertBundle hc) fun k x hx => (Catalog.live_insertBundle hc k x).2 (.inl hx)

theorem updateBucket (hh : v.Homed) (hcalm : v.Calm) (id : Uuid) (claimed : Revision)
    (change : Coordinator.BucketChange) (user : String) :
    v.FlowsAfter op (runWith (Coordinator.updateBucket id claimed change user) v).2 := by
  obtain ⟨hblob, hcat | ⟨c, ⟨b, hc⟩, hcat⟩⟩ :=
    Coordinator.updateBucket_cases id claimed change user hcalm
  · exact of_catalog hh (Coordinator.keeps_contentKind_updateBucket id claimed change user v) hcat
      hblob rfl fun _ _ h => h
  · exact of_catalog hh (Coordinator.keeps_contentKind_updateBucket id claimed change user v) hcat
      hblob (Catalog.flowRecords_updateBucket hc) fun k x hx => by rwa [Catalog.live_updateBucket hc]

theorem updateBundle (hh : v.Homed) (hcalm : v.Calm) (id : Uuid) (claimed : Revision)
    (description : Option String) (user : String) :
    v.FlowsAfter op (runWith (Coordinator.updateBundle id claimed description user) v).2 := by
  obtain ⟨hblob, hcat | ⟨c, ⟨b, d, t, -, hc⟩, hcat⟩⟩ :=
    Coordinator.updateBundle_cases id claimed description user hcalm
  · exact of_catalog hh (Coordinator.keeps_contentKind_updateBundle id claimed description user v)
      hcat hblob rfl fun _ _ h => h
  · exact of_catalog hh (Coordinator.keeps_contentKind_updateBundle id claimed description user v)
      hcat hblob (Catalog.flowRecords_updateBundle hc) fun k x hx => by
        rwa [Catalog.live_updateBundle hc]

/-- A new flow has no snapshot record, since the catalog is linked, and no blob, since its id held
no revision. -/
theorem createFlow (h : v.SnapshotsHeld) (hcalm : v.Calm)
    (hlets : v.Lets (World.revisionCall "create_revision")) (r : Coordinator.FlowRequest)
    (claimed : Revision) (user : String) :
    v.FlowsAfter op (runWith (Coordinator.createFlow r claimed user) v).2 := by
  have hcases := Coordinator.createFlow_cases r claimed user hcalm hlets
  have hkind := Coordinator.keeps_contentKind_createFlow r claimed user v
  generalize (runWith (Coordinator.createFlow r claimed user) v).2 = w' at hcases hkind ⊢
  rcases hcases with hsame | ⟨hrev, c, ⟨f, hid, hcount, hc⟩, hstores⟩
  · exact of_stores h.homed hkind hsame
  have hcat : w'.catalog = c := congrArg (fun s => s.2.1) hstores
  have hblob : w'.content.blob? = v.content.blob? := congrArg (fun s => s.2.2) hstores
  have hlive := Catalog.live_insertFlow hc
  obtain ⟨hnew, rfl⟩ := Catalog.insertFlow_eq_ok hc
  have hrecords : ∀ x, w'.catalog.listSnapshots x = v.catalog.listSnapshots x := fun x => by
    simp only [Catalog.listSnapshots, hcat]
  refine ⟨hkind, .inl (by rw [hcat]),
    h.homed.mono (fun e v hb => .inl (by rwa [hblob] at hb))
      fun k x hx => hcat ▸ (hlive k x).2 (.inl hx), fun f' hf' => ?_⟩
  rw [hcat] at hf'
  rcases mem_of_mem_insertById hf' with rfl | hold
  · have hdead := Catalog.not_live_of_fetchFlow hnew
    refine .created hdead hcount ?_ fun v' => ?_
    · rw [hrecords]
      exact Catalog.listSnapshots_eq_nil h.linked hdead
    · rw [hblob]
      exact h.homed.blob?_eq_none h.corresponds (hid ▸ hrev) v'
  · exact FlowStep.same hold (hrecords _) fun v' => by rw [hblob]

/-- A changed flow keeps its id and its count of versions, and so its snapshots. -/
theorem updateFlow (h : v.SnapshotsHeld) (hcalm : v.Calm) (id : Uuid) (claimed : Revision)
    (change : Coordinator.FlowChange) (user : String) :
    v.FlowsAfter op (runWith (Coordinator.updateFlow id claimed change user) v).2 := by
  have hkind := Coordinator.keeps_contentKind_updateFlow id claimed change user v
  obtain ⟨hblob, hcat | ⟨c, ⟨f₀, g, hf₀, hid, hcount, hc⟩, hcat⟩⟩ :=
    Coordinator.updateFlow_counted id claimed change user hcalm
  · exact of_catalog h.homed hkind hcat hblob rfl fun _ _ h => h
  obtain ⟨hflows, hsnapshots⟩ := Catalog.updateFlow_eq_ok hc
  have hrecords : ∀ x, (runWith (Coordinator.updateFlow id claimed change user) v).2.catalog.listSnapshots x =
      v.catalog.listSnapshots x := fun x => by
    simp only [Catalog.listSnapshots, hcat, hsnapshots]
  refine ⟨hkind, .inl (by rw [hcat, hsnapshots]),
    h.homed.mono (fun e v hb => .inl (by rwa [hblob] at hb))
      fun k x hx => by rw [hcat, Catalog.live_updateFlow hc]; exact hx, fun f' hf' => ?_⟩
  rw [hcat, hflows] at hf'
  rcases mem_of_mem_insertById hf' with rfl | hold
  · exact .kept f₀ (Catalog.fetchFlow_eq_some hf₀).1 hid.symm hcount (hrecords _) fun v' => by
      rw [hblob]
  · exact FlowStep.same hold (hrecords _) fun v' => by rw [hblob]

/-- A snapshot that failed leaves every blob, since the one it removed is under a number no
record of the flow has; one that succeeded inserts its record and stores its content, as
`FlowStep.snapshotted` says, and no other flow sees it. -/
theorem createSnapshot (h : v.SnapshotsHeld) (hcalm : v.Calm)
    (hdsv : v.Lets ⟨.metadata, "delete_snapshot_version"⟩)
    (hdc : v.Lets (World.contentCall "delete_content")) (flowId : Uuid) (claimed : Revision)
    (r : Coordinator.SnapshotRequest) (user : String) :
    v.FlowsAfter (.change (.createSnapshot flowId claimed r user))
      (runWith (Coordinator.createSnapshot flowId claimed r user) v).2 := by
  have hsnap := Coordinator.createSnapshot_snapshotted flowId claimed r user hcalm hdsv hdc
  have hkind := Coordinator.keeps_contentKind_createSnapshot flowId claimed r user v
  generalize (runWith (Coordinator.createSnapshot flowId claimed r user) v).2 = w' at hsnap hkind ⊢
  cases hsnap with
  | kept hcat hblob => exact of_catalog h.homed hkind hcat hblob rfl fun _ _ h => h
  | cleared flow hflow hexpected hcat hset =>
    obtain ⟨hmem, hid⟩ := Catalog.fetchFlow_eq_some hflow
    have hnone := (h.kept flow hmem).blob?_next (hid ▸ hexpected)
    rw [hid] at hnone
    have hsame : v.content.Sets w'.content flowId.text (toString r.version)
        (v.content.blob? flowId.text (toString r.version)) := by
      rw [hnone]
      exact hset
    exact of_catalog h.homed hkind hcat hsame.blob?_eq rfl fun _ _ h => h
  | recorded flow t bytes c hflow hexpected hbytes hinsert hcount hset htakes =>
    obtain ⟨hmem, hid⟩ := Catalog.fetchFlow_eq_some hflow
    subst hid
    have hk := h.kept flow hmem
    have hnext : r.version = flow.versionCount + 1 := Catalog.expectedSnapshot_eq hk.numbered hexpected
    obtain ⟨hfresh, hflows₁, hsnapshots₁⟩ := Catalog.insertSnapshot_eq_ok hinsert
    obtain ⟨hflows, hsnapshots⟩ := Catalog.updateFlow_eq_ok hcount
    rw [hsnapshots₁] at hsnapshots
    rw [hflows₁] at hflows
    have hlive : w'.catalog.Live = v.catalog.Live :=
      (Catalog.live_updateFlow hcount).trans (Catalog.live_insertSnapshot hinsert)
    have hflowLive : v.catalog.Live .flow flow.identifier := List.mem_map_of_mem hmem
    refine ⟨hkind, .inr ⟨_, Catalog.fresh_of_fetchSnapshot hfresh, hsnapshots⟩,
      h.homed.mono (fun e v' hb => ?_) fun k x hx => hlive ▸ hx, fun f' hf' => ?_⟩
    · -- the one new blob is under the flow
      rw [hset] at hb
      split at hb
      · next hkey => exact .inr ⟨flow.identifier, hkey.1.symm, .inl (hlive ▸ hflowLive)⟩
      · exact .inl hb
    rw [hflows] at hf'
    rcases IdSorted.mem_insert h.ordered.flows hf' with rfl | ⟨hold, hne⟩
    · -- the flow itself: its new record has a number above all of its records
      have hlt : ∀ s ∈ v.catalog.snapshots, s.flowIdentifier = flow.identifier →
          s.version < r.version := fun s hs hflow => by
        have hle := (hk.version_le (by simpa [Catalog.listSnapshots] using ⟨hs, hflow⟩)).2
        omega
      refine .snapshotted flow claimed r user t bytes rfl hflow hnext rfl hbytes ?_ (fun v' => ?_)
        htakes
      · simp only [Catalog.listSnapshots, hsnapshots]
        exact Catalog.filter_insertSnapshotSorted_last
          (m := ⟨flow.bucketIdentifier, flow.identifier, r.version, t, user, r.comments⟩) h.sorted hlt
      · rw [hset]
        simp only [true_and]
    · -- another flow: its records and blobs are under another id
      have htext : f'.identifier.text ≠ flow.identifier.text := fun h => hne (Uuid.text_injective h)
      refine FlowStep.same hold ?_ fun v' => by rw [hset, if_neg fun h => htext h.1]
      simp only [Catalog.listSnapshots, hsnapshots]
      exact Catalog.filter_insertSnapshotSorted (by simpa using fun h => hne h.symm) _

/-- An upload writes under its bundle's key only, which is no flow's key. -/
theorem addBundleVersion (h : v.SnapshotsHeld) (hcalm : v.Calm) (bundleId : Uuid)
    (claimed : Revision) (version : String) (data : Bytes) (user : String) :
    v.FlowsAfter op (runWith (Coordinator.addBundleVersion bundleId claimed version data user) v).2 := by
  obtain ⟨hout, hchanged⟩ :=
    Coordinator.addBundleVersion_apart bundleId claimed version data user hcalm
  have hkind := Coordinator.keeps_contentKind_addBundleVersion bundleId claimed version data user v
  have hlive : (runWith (Coordinator.addBundleVersion bundleId claimed version data user) v).2.catalog.Live =
      v.catalog.Live :=
    congrArg Prod.snd (Coordinator.within_addBundleVersion_entities bundleId claimed version data user
      v hcalm).view
  generalize (runWith (Coordinator.addBundleVersion bundleId claimed version data user) v).2 = w'
    at hout hchanged hkind hlive ⊢
  have hrecords : w'.catalog.flowRecords = v.catalog.flowRecords := congrArg Prod.fst hout
  have hflows : w'.catalog.flows = v.catalog.flows := congrArg Prod.fst hrecords
  have hsnapshots : w'.catalog.snapshots = v.catalog.snapshots := congrArg Prod.snd hrecords
  have hother : ∀ e v', e ≠ bundleId.text → w'.content.blob? e v' = v.content.blob? e v' :=
    fun e v' hne => by
      have := congrFun (congrFun (congrArg Prod.snd hout) e) v'
      simpa [World.outside, hne] using this
  refine ⟨hkind, .inl (by rw [hsnapshots]), h.homed.mono (fun e v' hb => ?_)
    fun k x hx => hlive ▸ hx, fun f' hf' => ?_⟩
  · by_cases he : e = bundleId.text
    · rcases hchanged with hsame | hbundle
      · exact .inl (by rwa [hsame] at hb)
      · exact .inr ⟨bundleId, he.symm, .inr (hlive ▸ hbundle)⟩
    · exact .inl (by rwa [hother e v' he] at hb)
  rw [hflows] at hf'
  refine FlowStep.same hf' (by simp only [Catalog.listSnapshots, hsnapshots]) fun v' => ?_
  rcases hchanged with hsame | hbundle
  · rw [hsame]
  · -- a live flow's id is no live bundle's
    refine hother _ v' fun htext => ?_
    have hflow : v.catalog.Live .flow f'.identifier := List.mem_map_of_mem hf'
    rw [Uuid.text_injective htext] at hflow
    cases h.corresponds.disjoint _ _ _ hflow hbundle

end World.FlowsAfter

/-! ### Deletes -/

/-- `u` is `w` with entities removed, each with what it holds: a content store of the same kind,
part of the snapshot records, no entity that was not live, only blobs `w` had, every flow or bundle
that keeps a blob still live, and every flow left with its records and blobs. -/
structure World.Drops (w u : World) : Prop where
  kind : u.contentKind = w.contentKind
  records : u.catalog.snapshots.Sublist w.catalog.snapshots
  live : ∀ k x, u.catalog.Live k x → w.catalog.Live k x
  blobs : ∀ e v, (u.content.blob? e v).isSome → u.content.blob? e v = w.content.blob? e v
  kept : ∀ k x v, k ≠ .bucket → w.catalog.Live k x → (u.content.blob? x.text v).isSome →
    u.catalog.Live k x
  flows : ∀ f' ∈ u.catalog.flows, f' ∈ w.catalog.flows ∧
    u.catalog.listSnapshots f'.identifier = w.catalog.listSnapshots f'.identifier ∧
    ∀ v, u.content.blob? f'.identifier.text v = w.content.blob? f'.identifier.text v

namespace World.Drops

variable {w u u' : World}

theorem refl (w : World) : w.Drops w :=
  ⟨rfl, List.Sublist.refl _, fun _ _ h => h, fun _ _ _ => rfl, fun _ _ _ _ h _ => h,
    fun _ hf' => ⟨hf', rfl, fun _ => rfl⟩⟩

theorem trans (h : w.Drops u) (h' : u.Drops u') : w.Drops u' where
  kind := h'.kind.trans h.kind
  records := h'.records.trans h.records
  live k x hx := h.live k x (h'.live k x hx)
  blobs e v hb := (h'.blobs e v hb).trans (h.blobs e v (h'.blobs e v hb ▸ hb))
  kept k x v hk hx hb := h'.kept k x v hk (h.kept k x v hk hx (h'.blobs _ v hb ▸ hb)) hb
  flows f' hf' := by
    obtain ⟨hmem, hrecords, hblob⟩ := h'.flows f' hf'
    obtain ⟨hmem₀, hrecords₀, hblob₀⟩ := h.flows f' hmem
    exact ⟨hmem₀, hrecords.trans hrecords₀, fun v => (hblob v).trans (hblob₀ v)⟩

/-- Removing a flow removes its records, its blobs and nothing of any other flow. -/
theorem dropFlow (w : World) (id : Uuid) : w.Drops (w.dropFlow id) where
  kind := World.contentKind_dropFlow w id
  records := List.filter_sublist
  live k x hx := ((World.live_dropFlow w id k x).1 hx).1
  blobs e v hb := by
    rw [World.dropFlow_blob?] at hb ⊢
    split at hb
    · cases hb
    · next hne => rw [if_neg hne]
  kept k x v _ hx hb := by
    rw [World.dropFlow_blob?] at hb
    split at hb
    · cases hb
    · next hne => exact (World.live_dropFlow w id k x).2 ⟨hx, fun _ h => hne (h ▸ rfl)⟩
  flows f' hf' := by
    have hmem : f' ∈ w.catalog.flows ∧ f'.identifier ≠ id := by
      simpa [World.dropFlow, Catalog.deleteFlow, Catalog.deleteSnapshots] using hf'
    have htext : f'.identifier.text ≠ id.text := fun h => hmem.2 (Uuid.text_injective h)
    exact ⟨hmem.1, by rw [World.dropFlow_listSnapshots, if_neg hmem.2],
      fun v => by rw [World.dropFlow_blob?, if_neg htext]⟩

/-- Removing a bundle that is no flow leaves every flow. -/
theorem dropBundle {id : Uuid} (hid : ¬w.catalog.Live .flow id) : w.Drops (w.dropBundle id) where
  kind := World.contentKind_dropBundle w id
  records := List.Sublist.refl _
  live k x hx := ((World.live_dropBundle w id k x).1 hx).1
  blobs e v hb := by
    rw [World.dropBundle_blob?] at hb ⊢
    split at hb
    · cases hb
    · next hne => rw [if_neg hne]
  kept k x v _ hx hb := by
    rw [World.dropBundle_blob?] at hb
    split at hb
    · cases hb
    · next hne => exact (World.live_dropBundle w id k x).2 ⟨hx, fun _ h => hne (h ▸ rfl)⟩
  flows f' hf' := by
    have hne : f'.identifier.text ≠ id.text := fun h =>
      hid (Uuid.text_injective h ▸ List.mem_map_of_mem hf')
    exact ⟨hf', rfl, fun v => by rw [World.dropBundle_blob?, if_neg hne]⟩

theorem foldl_dropFlow (fs : List Flow) (w : World) :
    w.Drops (fs.foldl (fun y f => y.dropFlow f.identifier) w) := by
  induction fs generalizing w with
  | nil => exact refl w
  | cons f fs ih => exact (dropFlow w f.identifier).trans (ih _)

theorem foldl_dropBundle (bs : List Bundle) (w : World)
    (hbs : ∀ b ∈ bs, ¬w.catalog.Live .flow b.identifier) :
    w.Drops (bs.foldl (fun y b => y.dropBundle b.identifier) w) := by
  induction bs generalizing w with
  | nil => exact refl w
  | cons b bs ih =>
    have hstep := dropBundle (hbs b List.mem_cons_self)
    exact hstep.trans (ih _ fun b' hb' hlive =>
      hbs b' (List.mem_cons_of_mem b hb') (hstep.live _ _ hlive))

/-- With its flows and bundles gone, removing a bucket removes its own record only. -/
theorem dropChildren_dropBucket (w : World) (id : Uuid) :
    (w.dropChildren id).Drops (w.dropBucket id) where
  kind := rfl
  records := List.Sublist.refl _
  live k x hx := by
    cases k
    · exact ((mem_map_filter_ne _ _ _ _).1 hx).1
    · exact hx
    · exact hx
  blobs _ _ _ := rfl
  kept k x _ hk hx _ := by
    cases k
    · exact absurd rfl hk
    · exact hx
    · exact hx
  flows f' hf' := ⟨hf', rfl, fun _ => rfl⟩

/-- Removing a bucket removes its flows, then its bundles, none of which is a flow. -/
theorem dropBucket (hc : w.Corresponds) (id : Uuid) : w.Drops (w.dropBucket id) := by
  have hflows := foldl_dropFlow (w.catalog.listFlows id) w
  have hbundles : ∀ b ∈ w.catalog.listBundles id,
      ¬((w.catalog.listFlows id).foldl (fun y f => y.dropFlow f.identifier) w).catalog.Live .flow
        b.identifier := fun b hb hlive => by
    have hbundle : w.catalog.Live .bundle b.identifier :=
      List.mem_map_of_mem (Catalog.mem_listBundles.1 hb).1
    cases hc.disjoint _ _ _ (hflows.live _ _ hlive) hbundle
  exact (hflows.trans (foldl_dropBundle _ _ hbundles)).trans (dropChildren_dropBucket w id)

end World.Drops

/-- A step that only removes entities, each with what it holds, keeps every remaining flow as it
was and no blob astray. -/
theorem World.FlowsAfter.of_drops {w u : World} {op : Operation} (hh : w.Homed) (hd : w.Drops u) :
    w.FlowsAfter op u where
  kind := hd.kind
  records := .inl hd.records
  homed e v hb := by
    obtain ⟨x, rfl, hlive⟩ := hh _ v (hd.blobs _ v hb ▸ hb)
    exact ⟨x, rfl, hlive.imp (fun hx => hd.kept _ x v (by decide) hx hb)
      fun hx => hd.kept _ x v (by decide) hx hb⟩
  flows f' hf' := by
    obtain ⟨hmem, hrecords, hblob⟩ := hd.flows f' hf'
    exact FlowStep.same hmem hrecords hblob

/-! ### Every step -/

theorem World.SnapshotsHeld.replan {w : World} (h : w.SnapshotsHeld) (p : FaultPlan)
    (t : Time.Instant) : ({ w with faults := p, clock := t } : World).SnapshotsHeld :=
  ⟨h.corresponds.of_entities rfl, h.linked, h.ordered, h.named, h.sorted, h.homed, fun f hf =>
    ⟨(h.kept f hf).numbered, (h.kept f hf).keyed, (h.kept f hf).stored, (h.kept f hf).taken⟩⟩

/-- Every change leaves the flows as `FlowStep` says, from a calm registry that holds its flows'
snapshots, when the plan lets registrations through and lets a failed snapshot be removed. -/
theorem Coordinator.Mutation.flowsAfter {v : World} (h : v.SnapshotsHeld) (hcalm : v.Calm)
    (hlets : v.Lets (World.revisionCall "create_revision"))
    (hdsv : v.Lets ⟨.metadata, "delete_snapshot_version"⟩)
    (hdc : v.Lets (World.contentCall "delete_content")) (m : Coordinator.Mutation) :
    v.FlowsAfter (.change m) (runWith m.run v).2 := by
  cases m with
  | createBucket r claimed user =>
    have hrun : (runWith (Coordinator.Mutation.createBucket r claimed user).run v).2 =
        (runWith (Coordinator.createBucket r claimed user) v).2 := runWith_map_snd _ _ _
    rw [hrun]
    exact .createBucket h.homed hcalm hlets r claimed user
  | updateBucket id claimed change user =>
    have hrun : (runWith (Coordinator.Mutation.updateBucket id claimed change user).run v).2 =
        (runWith (Coordinator.updateBucket id claimed change user) v).2 := runWith_map_snd _ _ _
    rw [hrun]
    exact .updateBucket h.homed hcalm id claimed change user
  | createFlow r claimed user =>
    have hrun : (runWith (Coordinator.Mutation.createFlow r claimed user).run v).2 =
        (runWith (Coordinator.createFlow r claimed user) v).2 := runWith_map_snd _ _ _
    rw [hrun]
    exact .createFlow h hcalm hlets r claimed user
  | updateFlow id claimed change user =>
    have hrun : (runWith (Coordinator.Mutation.updateFlow id claimed change user).run v).2 =
        (runWith (Coordinator.updateFlow id claimed change user) v).2 := runWith_map_snd _ _ _
    rw [hrun]
    exact .updateFlow h hcalm id claimed change user
  | createSnapshot flowId claimed r user =>
    have hrun : (runWith (Coordinator.Mutation.createSnapshot flowId claimed r user).run v).2 =
        (runWith (Coordinator.createSnapshot flowId claimed r user) v).2 := runWith_map_snd _ _ _
    rw [hrun]
    exact .createSnapshot h hcalm hdsv hdc flowId claimed r user
  | createBundle r claimed user =>
    have hrun : (runWith (Coordinator.Mutation.createBundle r claimed user).run v).2 =
        (runWith (Coordinator.createBundle r claimed user) v).2 := runWith_map_snd _ _ _
    rw [hrun]
    exact .createBundle h.homed hcalm hlets r claimed user
  | updateBundle id claimed description user =>
    have hrun : (runWith (Coordinator.Mutation.updateBundle id claimed description user).run v).2 =
        (runWith (Coordinator.updateBundle id claimed description user) v).2 :=
      runWith_map_snd _ _ _
    rw [hrun]
    exact .updateBundle h.homed hcalm id claimed description user
  | addBundleVersion bundleId claimed version data user =>
    have hrun :
        (runWith (Coordinator.Mutation.addBundleVersion bundleId claimed version data user).run v).2 =
          (runWith (Coordinator.addBundleVersion bundleId claimed version data user) v).2 :=
      runWith_map_snd _ _ _
    rw [hrun]
    exact .addBundleVersion h hcalm bundleId claimed version data user

/-- A step under a plan that lets registrations through and lets a failed snapshot be removed
again: the plan lets the snapshot's record and its content be deleted. -/
structure Operation.Discarding (w : World) (p : FaultPlan) (op : Operation) : Prop
    extends op.Registered w p where
  discardRecord : World.Lets { w with faults := p } ⟨.metadata, "delete_snapshot_version"⟩
  discardContent : World.Lets { w with faults := p } (World.contentCall "delete_content")

/-- Each step under such a plan leaves every flow as `FlowStep` says, in a content store of the
same kind, with the snapshot records kept in part or one inserted, and no blob astray, from a
registry that holds its flows' snapshots. -/
theorem Operation.flowsAfter {w : World} {p : FaultPlan} (h : w.SnapshotsHeld) (t : Time.Instant)
    (op : Operation) (hop : op.Discarding w p) :
    w.FlowsAfter op (runWith op.run { w with faults := p, clock := t }).2 := by
  have hcalm : ({ w with faults := p, clock := t } : World).Calm := hop.calm
  cases op with
  | change m =>
    exact (m.flowsAfter (h.replan p t) hcalm hop.registers hop.discardRecord
      hop.discardContent).source rfl rfl
  | read q =>
    exact .of_stores h.homed (Query.keeps_contentKind q _) (q.within_run _ hcalm).view
  | deleteBucket id claimed =>
    rw [Operation.run, runWith_map_snd]
    exact Manager.deleteWith_lands (v := { w with clock := t }) (fun _ q h => h.replan q)
      (hop.steady trivial) id.text claimed (.of_stores h.homed rfl rfl) fun hentity cur hcur hver =>
        ⟨_, _, (World.FlowsAfter.of_drops (w := { w with clock := t }) h.homed
          (World.Drops.dropBucket (w := { w with clock := t }) (h.corresponds.of_entities rfl) id)).source rfl rfl,
          Coordinator.settles_deleteBucket (hop.steady trivial) hentity hcur hver
            (Catalog.Only.unnested hop.aimed)⟩
  | deleteFlow id claimed =>
    rw [Operation.run, runWith_map_snd]
    exact Manager.deleteWith_lands (v := { w with clock := t }) (fun _ q h => h.replan q)
      (hop.steady trivial) id.text claimed (.of_stores h.homed rfl rfl) fun hentity cur hcur hver =>
        ⟨_, _, (World.FlowsAfter.of_drops (w := { w with clock := t }) h.homed
          (World.Drops.dropFlow _ id)).source rfl rfl,
          Coordinator.settles_deleteFlow (hop.steady trivial) hentity hcur hver⟩
  | deleteBundle id claimed =>
    rw [Operation.run, runWith_map_snd]
    exact Manager.deleteWith_lands (v := { w with clock := t }) (fun _ q h => h.replan q)
      (hop.steady trivial) id.text claimed (.of_stores h.homed rfl rfl) fun hentity cur hcur hver =>
        ⟨_, _, (World.FlowsAfter.of_drops (w := { w with clock := t }) h.homed
          (World.Drops.dropBundle fun hflow => Kind.noConfusion (hop.aimed .flow hflow))).source rfl rfl,
          Coordinator.settles_deleteBundle (hop.steady trivial) hentity hcur hver⟩

end FlowRegistry
