import FlowRegistry.Proofs.SnapshotFormats
import Mathlib.Data.List.Forall2

/-!
# Snapshots in the legacy format

Version 1 writes a snapshot as snake_case JSON without parameter contexts or group variables.
`legacyGroup_ok_iff_varFree` says when the legacy form of a group tree exists; the legacy datum
fits the legacy shapes (`legacyGroup_fits`), converts back (`groupOfLegacy?_legacyGroup`) and
nests exactly as deeply as the current datum (`legacyGroup_depth`), so one depth bound decides
both formats. `legacy_snapshot_round_trip` puts these together with the codec tables: what the
legacy codec writes reads back through either table, and re-writing it in the current format
reads back too, exactly when the JSON nests fewer than 128 levels deep.
-/

namespace FlowRegistry

open Json

/-- No group of a tree declares variables. -/
inductive ProcessGroup.VarFree : ProcessGroup → Prop
  | mk (g : ProcessGroup) (hv : g.vars = [])
      (hg : ∀ c ∈ g.processGroups, ProcessGroup.VarFree c) : ProcessGroup.VarFree g

namespace Format

/-! ## When the legacy form exists -/

theorem legacyGroups_cons_ok {g : ProcessGroup} {gs : List ProcessGroup} {ds : List Datum} :
    legacyGroups (g :: gs) = .ok ds ↔
      ∃ d ds', legacyGroup g = .ok d ∧ legacyGroups gs = .ok ds' ∧ ds = d :: ds' := by
  rw [legacyGroups]
  cases legacyGroup g with
  | error e => simp [bind, Except.bind]
  | ok d =>
    cases legacyGroups gs with
    | error e => simp [bind, Except.bind]
    | ok ds' => simp [bind, Except.bind, pure, Except.pure, eq_comm]

theorem legacyGroups_ok {gs : List ProcessGroup} {ds : List Datum} :
    legacyGroups gs = .ok ds ↔ List.Forall₂ (fun g d => legacyGroup g = .ok d) gs ds := by
  induction gs generalizing ds with
  | nil =>
    rw [List.forall₂_nil_left_iff]
    cases ds <;> simp [legacyGroups]
  | cons g gs ih =>
    rw [legacyGroups_cons_ok]
    constructor
    · rintro ⟨d, ds', hg, hgs, rfl⟩
      exact .cons hg (ih.1 hgs)
    · intro h
      cases h with
      | cons hg hgs => exact ⟨_, _, hg, ih.2 hgs, rfl⟩

theorem legacyGroup_ok {g : ProcessGroup} {d : Datum} :
    legacyGroup g = .ok d ↔ g.vars = [] ∧ ∃ children, legacyGroups g.processGroups = .ok children ∧
      d = .record [.text g.identifier, .text g.name, Datum.optText g.comments,
        .list (g.processors.map legacyProcessor), .list children,
        .list (g.connections.map legacyConnection)] := by
  obtain ⟨i, n, c, ps, gs, cs, vs⟩ := g
  rw [legacyGroup]
  cases vs with
  | cons v vs => simp
  | nil =>
    simp only [List.isEmpty_nil, Bool.not_true, Bool.false_eq_true, if_false, true_and]
    cases legacyGroups gs with
    | error e => simp [bind, Except.bind]
    | ok ds => simp [bind, Except.bind, pure, Except.pure, eq_comm]

mutual

theorem varFree_of_legacyGroup : ∀ {g : ProcessGroup} {d : Datum}, legacyGroup g = .ok d → g.VarFree
  | ⟨i, n, c, ps, gs, cs, vs⟩, d, h => by
    obtain ⟨hv, children, hgs, -⟩ := legacyGroup_ok.1 h
    exact .mk _ hv (varFree_of_legacyGroups hgs)

theorem varFree_of_legacyGroups :
    ∀ {gs : List ProcessGroup} {ds : List Datum}, legacyGroups gs = .ok ds → ∀ c ∈ gs, c.VarFree
  | [], _, _ => by simp
  | g :: gs, ds, h => by
    obtain ⟨d, ds', hg, hgs, -⟩ := legacyGroups_cons_ok.1 h
    exact List.forall_mem_cons.2 ⟨varFree_of_legacyGroup hg, varFree_of_legacyGroups hgs⟩

end

theorem legacyGroups_of_forall {gs : List ProcessGroup} (h : ∀ c ∈ gs, ∃ d, legacyGroup c = .ok d) :
    ∃ ds, legacyGroups gs = .ok ds := by
  induction gs with
  | nil => exact ⟨[], rfl⟩
  | cons g gs ih =>
    obtain ⟨d, hd⟩ := h g List.mem_cons_self
    obtain ⟨ds, hds⟩ := ih fun c hc => h c (List.mem_cons_of_mem _ hc)
    exact ⟨d :: ds, legacyGroups_cons_ok.2 ⟨d, ds, hd, hds, rfl⟩⟩

/-- The legacy form of a group tree exists exactly when no group in it has variables. -/
theorem legacyGroup_ok_iff_varFree (g : ProcessGroup) :
    (∃ d, legacyGroup g = .ok d) ↔ g.VarFree := by
  refine ⟨fun ⟨d, h⟩ => varFree_of_legacyGroup h, fun h => ?_⟩
  induction h with
  | mk g hv _ ih =>
    obtain ⟨ds, hds⟩ := legacyGroups_of_forall ih
    exact ⟨_, legacyGroup_ok.2 ⟨hv, ds, hds, rfl⟩⟩

/-! ## Legacy data convert back -/

theorem mapM_map_eq_some {α β : Type} {f : α → β} {g : β → Option α} {xs : List α}
    (h : ∀ x ∈ xs, g (f x) = some x) : (xs.map f).mapM g = some xs := by
  induction xs with
  | nil => rfl
  | cons x xs ih =>
    simp only [List.map_cons, List.mapM_cons, h x List.mem_cons_self,
      ih fun y hy => h y (List.mem_cons_of_mem _ hy)]
    rfl

theorem processorOfLegacy?_legacyProcessor (p : Processor) :
    processorOfLegacy? (legacyProcessor p) = some p := by
  simp only [processorOfLegacy?, legacyProcessor, Datum.texts?_ofTexts, Datum.option?_optText]
  rfl

theorem connectionOfLegacy?_legacyConnection (c : Connection) :
    connectionOfLegacy? (legacyConnection c) = some c := by
  simp only [connectionOfLegacy?, legacyConnection, Datum.list?_text]
  rfl

theorem metaOfLegacy?_legacyMeta (m : SnapshotMeta) : metaOfLegacy? (legacyMeta m) = some m := by
  simp only [metaOfLegacy?, legacyMeta, Datum.option?_optText]
  rfl

theorem groupsOfLegacy?_of_forall₂ {gs : List ProcessGroup} {ds : List Datum}
    (h : List.Forall₂ (fun g d => groupOfLegacy? d = some g) gs ds) :
    groupsOfLegacy? ds = some gs := by
  induction h with
  | nil => rfl
  | cons hg _ ih =>
    simp only [groupsOfLegacy?, hg, ih]
    rfl

/-- A group reads back from its legacy form, with the variables it was written without. -/
theorem groupOfLegacy?_legacyGroup {g : ProcessGroup} {d : Datum} (h : legacyGroup g = .ok d) :
    groupOfLegacy? d = some g := by
  induction varFree_of_legacyGroup h generalizing d with
  | mk g hv _ ih =>
    obtain ⟨-, children, hgs, rfl⟩ := legacyGroup_ok.1 h
    -- each child reads back by the induction hypothesis, matched to its datum
    have hchildren : groupsOfLegacy? children = some g.processGroups :=
      groupsOfLegacy?_of_forall₂ ((((List.forall₂_and_left _ _).2 ⟨ih, legacyGroups_ok.1 hgs⟩).imp
        fun _ _ hc => hc.1 hc.2))
    obtain ⟨i, n, c, ps, gs, cs, vs⟩ := g
    simp only at hv hchildren ⊢
    subst hv
    simp only [groupOfLegacy?, Datum.option?_optText, Datum.list?, hchildren,
      mapM_map_eq_some fun p _ => processorOfLegacy?_legacyProcessor p,
      mapM_map_eq_some fun c _ => connectionOfLegacy?_legacyConnection c]
    rfl

/-! ## Legacy data fit the legacy shapes -/

theorem exists_of_forall₂_mem {α β : Type} {R : α → β → Prop} {xs : List α} {ys : List β}
    (h : List.Forall₂ R xs ys) {y : β} (hy : y ∈ ys) : ∃ x ∈ xs, R x y := by
  induction h with
  | nil => simp at hy
  | cons hxy _ ih =>
    rcases List.mem_cons.1 hy with rfl | hy
    · exact ⟨_, List.mem_cons_self, hxy⟩
    · obtain ⟨x, hx, hr⟩ := ih hy
      exact ⟨x, List.mem_cons_of_mem _ hx, hr⟩

theorem legacyProcessor_fits (home : Shape) {p : Processor} (h : Keyed p.properties) :
    Fits home legacyProcessorShape (legacyProcessor p) := by
  refine fits_record (by decide) rfl (by simp [Field.needed, Field.defaulted]) ?_
  simp only [List.zip_cons_cons, List.zip_nil_left, List.mem_cons, List.not_mem_nil, or_false]
  rintro q (rfl | rfl | rfl | rfl | rfl)
  · exact .text _ _
  · exact .text _ _
  · exact .text _ _
  · exact fits_ofTexts _ h
  · exact fits_optText _ _

theorem legacyConnection_fits (home : Shape) (c : Connection) :
    Fits home legacyConnectionShape (legacyConnection c) := by
  refine fits_record (by decide) rfl (by simp [Field.needed, Field.defaulted]) ?_
  simp only [List.zip_cons_cons, List.zip_nil_left, List.mem_cons, List.not_mem_nil, or_false]
  rintro q (rfl | rfl | rfl | rfl)
  · exact .text _ _
  · exact .text _ _
  · exact .text _ _
  · refine .list _ _ _ fun d hd => ?_
    obtain ⟨r, -, rfl⟩ := List.mem_map.1 hd
    exact .text _ r

theorem legacyMeta_fits (home : Shape) {m : SnapshotMeta} (hv : m.version < Nat.pow 2 32)
    (ht : Time.parseInstant m.timestamp.text = .ok m.timestamp) :
    Fits home legacyMetaShape (legacyMeta m) := by
  refine fits_record (by decide) rfl (by simp [Field.needed, Field.defaulted]) ?_
  simp only [List.zip_cons_cons, List.zip_nil_left, List.mem_cons, List.not_mem_nil, or_false]
  rintro q (rfl | rfl | rfl | rfl | rfl | rfl)
  · exact .uuid _ _
  · exact .uuid _ _
  · exact .word _ _ (.inl rfl) _ (by simp [Shape.wordLimit, Nat.pow_eq] at hv ⊢; omega)
  · exact .instant _ _ ht
  · exact .text _ _
  · exact fits_optText _ _

/-- The legacy form of a keyed group tree fits the legacy group shape at every depth. -/
theorem legacyGroup_fits {g : ProcessGroup} {d : Datum} (h : legacyGroup g = .ok d) (hk : g.Keyed)
    (home : Shape) : Fits home legacyGroupShape d := by
  induction hk generalizing d home with
  | mk g _ hp _ ih =>
    obtain ⟨-, children, hgs, rfl⟩ := legacyGroup_ok.1 h
    have hchildren := legacyGroups_ok.1 hgs
    refine fits_record (by decide) rfl (by simp [Field.needed, Field.defaulted]) ?_
    simp only [List.zip_cons_cons, List.zip_nil_left, List.mem_cons, List.not_mem_nil, or_false]
    rintro q (rfl | rfl | rfl | rfl | rfl | rfl)
    · exact .text _ _
    · exact .text _ _
    · exact fits_optText _ _
    · refine .list _ _ _ fun d hd => ?_
      obtain ⟨p, hp', rfl⟩ := List.mem_map.1 hd
      exact legacyProcessor_fits _ (hp p hp')
    · refine .list _ _ _ fun d hd => ?_
      obtain ⟨c, hc, hcd⟩ := exists_of_forall₂_mem hchildren hd
      exact ih c hc hcd _
    · refine .list _ _ _ fun d hd => ?_
      obtain ⟨c, -, rfl⟩ := List.mem_map.1 hd
      exact legacyConnection_fits _ c

/-! ## The legacy form nests as deeply as the current one -/

theorem depth_optText (o : Option String) : (Datum.optText o).depth = 0 := by
  cases o <;> rfl

theorem legacyProcessor_eq_toDatum : legacyProcessor = Wire.toDatum := rfl

theorem legacyConnection_eq_toDatum : legacyConnection = Wire.toDatum := rfl

theorem depthList_of_forall₂ {gs : List ProcessGroup} {ds : List Datum}
    (h : List.Forall₂ (fun g d => d.depth = (ProcessGroup.toDatum g).depth) gs ds) :
    Datum.depthList ds = Datum.depthList (ProcessGroup.listToDatum gs) := by
  induction h with
  | nil => rfl
  | cons hg _ ih => simp only [Datum.depthList, ProcessGroup.listToDatum, hg, ih]

/-- A group's legacy datum nests exactly as deeply as its current one: the variables the current
form adds are an empty map, no deeper than the lists beside it. -/
theorem legacyGroup_depth {g : ProcessGroup} {d : Datum} (h : legacyGroup g = .ok d) :
    d.depth = (ProcessGroup.toDatum g).depth := by
  induction varFree_of_legacyGroup h generalizing d with
  | mk g hv _ ih =>
    obtain ⟨-, children, hgs, rfl⟩ := legacyGroup_ok.1 h
    have hchildren : Datum.depthList children = Datum.depthList (ProcessGroup.listToDatum g.processGroups) :=
      depthList_of_forall₂ (((List.forall₂_and_left _ _).2 ⟨ih, legacyGroups_ok.1 hgs⟩).imp
        fun _ _ hc => hc.1 hc.2)
    obtain ⟨i, n, c, ps, gs, cs, vs⟩ := g
    simp only at hv hchildren ⊢
    subst hv
    simp only [ProcessGroup.toDatum, Datum.depth, Datum.depthList, depth_optText, hchildren,
      legacyProcessor_eq_toDatum, legacyConnection_eq_toDatum, Datum.ofTexts, List.map_nil,
      Datum.depthEntries]
    omega

/-! ## Snapshots in the legacy format -/

/-- The legacy datum of a snapshot, given the legacy datum of its group tree. -/
def legacySnapshot (m : SnapshotMeta) (d : Datum) : Datum := .record [legacyMeta m, d]

theorem encodeLegacy_ok {s : Snapshot} {body : Bytes} :
    encodeLegacy s = .ok body ↔ s.flowContents.checkGraph = .ok () ∧ s.parameterContexts = [] ∧
      ∃ d, legacyGroup s.flowContents = .ok d ∧
        body = Json.bytes ((legacySnapshot s.snapshotMetadata d).write legacySnapshotShape) := by
  unfold encodeLegacy
  cases s.flowContents.checkGraph with
  | error e => simp [bind, Except.bind]
  | ok u =>
    cases s.parameterContexts with
    | cons kc kcs => simp [bind, Except.bind, throw, throwThe, MonadExceptOf.throw]
    | nil =>
      cases legacyGroup s.flowContents with
      | error e => simp [bind, Except.bind]
      | ok d => simp [bind, Except.bind, pure, Except.pure, legacySnapshot, eq_comm]

theorem legacySnapshot_fits {s : Snapshot} (hs : s.Representable) {d : Datum}
    (hd : legacyGroup s.flowContents = .ok d) :
    Fits legacySnapshotShape legacySnapshotShape (legacySnapshot s.snapshotMetadata d) := by
  refine fits_record (by decide) rfl (by simp [Field.needed]) ?_
  simp only [List.zip_cons_cons, List.zip_nil_left, List.mem_cons, List.not_mem_nil, or_false]
  rintro q (rfl | rfl)
  · exact legacyMeta_fits _ hs.version hs.timestamp
  · exact legacyGroup_fits hd hs.groups _

theorem decodeLegacy_error {body : Bytes} {e : RegistryError} (h : decodeLegacy body = .error e) :
    ∃ msg, e = .serialization msg := by
  unfold decodeLegacy at h
  split at h
  · cases h
    exact ⟨_, rfl⟩
  · split at h
    · cases h
    · cases h
      exact ⟨_, rfl⟩
  · cases h
    exact ⟨_, rfl⟩

/-- The legacy text of a snapshot without parameter contexts reads back to it exactly when its
JSON nests fewer than 128 levels deep. -/
theorem decodeLegacy_toOption {s : Snapshot} (hs : s.Representable) (hc : s.parameterContexts = [])
    {d : Datum} (hd : legacyGroup s.flowContents = .ok d) :
    (decodeLegacy (Json.bytes ((legacySnapshot s.snapshotMetadata d).write legacySnapshotShape))).toOption =
      if nesting ((legacySnapshot s.snapshotMetadata d).write legacySnapshotShape) < 128 then some s
      else none := by
  have hread := (legacySnapshot_fits hs hd).ofText
  unfold decodeLegacy
  cases hr : Datum.ofText legacySnapshotShape
      (Json.bytes ((legacySnapshot s.snapshotMetadata d).write legacySnapshotShape)) with
  | error e =>
    rw [hr] at hread
    split_ifs at hread ⊢ with hlt
    · simp [Except.toOption] at hread
    · rfl
  | ok D =>
    rw [hr] at hread
    split_ifs at hread ⊢ with hlt
    · simp only [Except.toOption, Option.some.injEq] at hread
      subst hread
      obtain ⟨m, g, cs⟩ := s
      simp only at hc hd
      subst hc
      simp only [legacySnapshot, metaOfLegacy?_legacyMeta, groupOfLegacy?_legacyGroup hd]
      rfl
    · simp [Except.toOption] at hread

theorem legacyMeta_depth (m : SnapshotMeta) : (legacyMeta m).depth = 1 := by
  simp [legacyMeta, Datum.depth, Datum.depthList, depth_optText]

/-- Without parameter contexts and variables, the legacy and the current JSON of a snapshot nest
equally deep. -/
theorem nesting_legacy_eq {s : Snapshot} (hs : s.Representable) (hc : s.parameterContexts = [])
    {d : Datum} (hd : legacyGroup s.flowContents = .ok d) :
    nesting ((legacySnapshot s.snapshotMetadata d).write legacySnapshotShape) =
      nesting (Wire.toJson s) := by
  rw [Datum.write, (legacySnapshot_fits hs hd).nesting_toJson, Wire.toJson, Datum.write,
    (Snapshot.fits hs).nesting_toJson]
  obtain ⟨m, g, cs⟩ := s
  simp only at hc hd
  subst hc
  simp only [Wire.toDatum, legacySnapshot, Datum.depth, Datum.depthList, legacyMeta_depth,
    legacyGroup_depth hd, depth_optText, List.map_nil, Datum.depthEntries]
  omega

/-- The legacy text of a snapshot reads back to it when its JSON nests fewer than 128 levels. -/
theorem decodeLegacy_written {s : Snapshot} (hs : s.Representable) (hc : s.parameterContexts = [])
    {d : Datum} (hd : legacyGroup s.flowContents = .ok d) (hlt : nesting (Wire.toJson s) < 128) :
    decodeLegacy (Json.bytes ((legacySnapshot s.snapshotMetadata d).write legacySnapshotShape)) =
      .ok s := by
  have hread := decodeLegacy_toOption hs hc hd
  rw [nesting_legacy_eq hs hc hd, if_pos hlt] at hread
  rwa [← toOption_eq_some]

/-- The legacy text of a snapshot fails to read, with a serialization error, once its JSON nests
128 levels deep. -/
theorem decodeLegacy_fails {s : Snapshot} (hs : s.Representable) (hc : s.parameterContexts = [])
    {d : Datum} (hd : legacyGroup s.flowContents = .ok d) (hge : 128 ≤ nesting (Wire.toJson s)) :
    ∃ msg, decodeLegacy (Json.bytes ((legacySnapshot s.snapshotMetadata d).write legacySnapshotShape)) =
      .error (.serialization msg) := by
  have hread := decodeLegacy_toOption hs hc hd
  rw [nesting_legacy_eq hs hc hd, if_neg (by omega), toOption_eq_none] at hread
  obtain ⟨e, he⟩ := hread
  obtain ⟨msg, rfl⟩ := decodeLegacy_error he
  exact ⟨msg, he⟩

/-! ## Reading legacy payloads through the codec tables -/

/-- A table holding only the legacy codec, which it writes. -/
def legacyTable : CodecTable Snapshot := ⟨snapshotMagic, some 1, [legacyCodec]⟩

example : ((CodecTable.empty snapshotMagic).register legacyCodec >>= fun t => t.setCurrent 1) =
    .ok legacyTable := rfl

theorem legacyTable_serialize (s : Snapshot) :
    legacyTable.serialize s = (encodeLegacy s).map (writeHeader snapshotMagic 1) :=
  CodecTable.serialize_of_current (c := legacyCodec) rfl rfl s

theorem legacyTable_deserialize (body : Bytes) :
    legacyTable.deserialize (writeHeader snapshotMagic 1 body) = decodeLegacy body :=
  CodecTable.deserialize_writeHeader (c := legacyCodec) snapshotMagic_length
    (by simp [Nat.pow_eq]) rfl body

theorem snapshotTable_deserialize_legacy (body : Bytes) :
    snapshotTable.deserialize (writeHeader snapshotMagic 1 body) = decodeLegacy body :=
  CodecTable.deserialize_writeHeader (c := legacyCodec) snapshotMagic_length
    (by simp [Nat.pow_eq]) rfl body

/-- The legacy format writes exactly the snapshots whose graph checks and that have no parameter
contexts and no variables at any depth. What it writes, behind version 1, reads back to the
snapshot through the legacy codec, through a table holding only that codec and through the table of
both formats, and the current format then writes a payload that reads back to it as well, all
exactly when the snapshot's JSON nests fewer than 128 levels deep; deeper, the legacy text fails
to read with a serialization error. -/
theorem legacy_snapshot_round_trip (s : Snapshot) :
    ((∃ body, encodeLegacy s = .ok body) ↔
        s.flowContents.checkGraph = .ok () ∧ s.parameterContexts = [] ∧ s.flowContents.VarFree) ∧
      ∀ body, encodeLegacy s = .ok body → s.Representable →
        legacyTable.serialize s = .ok (writeHeader snapshotMagic 1 body) ∧
        (nesting (Wire.toJson s) < 128 →
          decodeLegacy body = .ok s ∧
          legacyTable.deserialize (writeHeader snapshotMagic 1 body) = .ok s ∧
          snapshotTable.deserialize (writeHeader snapshotMagic 1 body) = .ok s ∧
          snapshotTable.serialize s = .ok (writeHeader snapshotMagic 2 (Wire.bytes s)) ∧
          snapshotTable.deserialize (writeHeader snapshotMagic 2 (Wire.bytes s)) = .ok s) ∧
        (128 ≤ nesting (Wire.toJson s) → ∃ msg, decodeLegacy body = .error (.serialization msg)) := by
  constructor
  · constructor
    · rintro ⟨body, hb⟩
      obtain ⟨hg, hc, d, hd, -⟩ := encodeLegacy_ok.1 hb
      exact ⟨hg, hc, (legacyGroup_ok_iff_varFree _).1 ⟨d, hd⟩⟩
    · rintro ⟨hg, hc, hv⟩
      obtain ⟨d, hd⟩ := (legacyGroup_ok_iff_varFree _).2 hv
      exact ⟨_, encodeLegacy_ok.2 ⟨hg, hc, d, hd, rfl⟩⟩
  · intro body hb hs
    have hb' := hb
    obtain ⟨hg, hc, d, hd, rfl⟩ := encodeLegacy_ok.1 hb'
    refine ⟨by rw [legacyTable_serialize, hb]; rfl, fun hlt => ?_, decodeLegacy_fails hs hc hd⟩
    have hdec := decodeLegacy_written hs hc hd hlt
    refine ⟨hdec, by rw [legacyTable_deserialize, hdec], by rw [snapshotTable_deserialize_legacy, hdec],
      by rw [snapshotTable_serialize, hg]; rfl, readBack_current hs hlt⟩

theorem legacy_snapshot_round_trip_of_root_group :
    (legacyTable.serialize ⟨sampleMeta, rootGroup, []⟩ >>= snapshotTable.deserialize) =
      .ok ⟨sampleMeta, rootGroup, []⟩ := by
  have hs := sampleMeta_representable rootGroup
    (.mk _ List.Pairwise.nil (by simp [rootGroup]) (by simp [rootGroup]))
  have hv : rootGroup.VarFree := .mk _ rfl (by simp [rootGroup])
  obtain ⟨body, hb⟩ := (legacy_snapshot_round_trip ⟨sampleMeta, rootGroup, []⟩).1.2 ⟨rfl, rfl, hv⟩
  have hround := (legacy_snapshot_round_trip _).2 body hb hs
  rw [hround.1]
  exact (hround.2.1 (by decide)).2.2.1

theorem deepGroup_varFree (i k : Nat) : (deepGroup i k).VarFree := by
  induction k generalizing i with
  | zero => exact .mk _ rfl (by simp [deepGroup])
  | succ k ih =>
    refine .mk _ rfl ?_
    simp only [deepGroup, List.mem_singleton]
    rintro c rfl
    exact ih (i + 1)

/-- The chain of 64 groups is written in the legacy format too, and its legacy text does not
read back. -/
theorem deep_legacy_snapshot_unreadable :
    ∃ body, encodeLegacy ⟨sampleMeta, deepGroup 0 63, []⟩ = .ok body ∧
      ∃ msg, decodeLegacy body = .error (.serialization msg) := by
  obtain ⟨d, hd⟩ := (legacyGroup_ok_iff_varFree _).2 (deepGroup_varFree 0 63)
  have hg : (deepGroup 0 63).checkGraph = .ok () := by decide +kernel
  refine ⟨_, encodeLegacy_ok.2 ⟨hg, rfl, d, hd, rfl⟩, ?_⟩
  exact decodeLegacy_fails (sampleMeta_representable _ (deepGroup_keyed 0 63)) rfl hd
    (by decide +kernel)

end Format

end FlowRegistry
