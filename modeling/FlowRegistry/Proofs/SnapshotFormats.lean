import FlowRegistry.Format.Current
import FlowRegistry.Proofs.ReadBack

/-!
# Snapshots in the current format

A snapshot is written as the JSON of its wire form behind the magic `Flows` and the version 2.
This module shows that every datum a snapshot converts to fits the snapshot shape, that it
converts back to the snapshot, and so, through `Fits.ofText`, that the payload reads back exactly
when its JSON nests fewer than 128 levels deep (`current_snapshot_round_trip`). A group tree
64 groups deep is already too deep (`deep_snapshot_unreadable`).

What the model leaves to a snapshot's values and the wire types hold by construction is
`Snapshot.Representable`: maps keyed in increasing order, a 32-bit version, and a timestamp that
reads back from its text.
-/

namespace FlowRegistry

open Json

/-- Keys in increasing order, one entry per key: how ordered maps hold their entries. -/
def Keyed {α : Type} (kvs : List (String × α)) : Prop := kvs.Pairwise fun a b => a.1 < b.1

/-- Every map of a process group tree keeps its keys in increasing order. -/
inductive ProcessGroup.Keyed : ProcessGroup → Prop
  | mk (g : ProcessGroup) (hv : FlowRegistry.Keyed g.vars)
      (hp : ∀ p ∈ g.processors, FlowRegistry.Keyed p.properties)
      (hg : ∀ c ∈ g.processGroups, ProcessGroup.Keyed c) : ProcessGroup.Keyed g

/-- What a snapshot's types guarantee and the model's lists and numbers leave to its values: maps
keyed in increasing order, a version of 32 bits, and a timestamp that reads back from its text. -/
structure Snapshot.Representable (s : Snapshot) : Prop where
  version : s.snapshotMetadata.version < Nat.pow 2 32
  timestamp : Time.parseInstant s.snapshotMetadata.timestamp.text = .ok s.snapshotMetadata.timestamp
  contexts : Keyed s.parameterContexts
  groups : s.flowContents.Keyed

/-! ## Snapshot data fit the snapshot shape -/

namespace Json

theorem fits_optText (home : Shape) (o : Option String) : Fits home (.optional .text) (Datum.optText o) := by
  cases o with
  | none => exact .none _ _
  | some v => exact .some _ _ _ (.text _ v) (fun h => nomatch h)

theorem fits_ofTexts (home : Shape) {kvs : List (String × String)} (h : Keyed kvs) :
    Fits home (.dict .text) (Datum.ofTexts kvs) := by
  refine .dict _ _ _ ?_ ?_
  · simpa [Keyed, List.pairwise_map] using h
  · intro kv hkv
    obtain ⟨⟨k, v⟩, -, rfl⟩ := List.mem_map.1 hkv
    exact .text _ v

/-- A record fits when each field's datum fits and every field the writer may leave out
defaults to absent. -/
theorem fits_record {home : Shape} {name : String} {fields : List Field} {ds : List Datum}
    (hk : (fields.map (·.key)).Nodup) (hl : ds.length = fields.length)
    (ho : ∀ f ∈ fields, f.omitNone = true → f.required = false ∧ f.shape.fallback = .none)
    (h : ∀ p ∈ fields.zip ds, Fits (.record name fields) (p.1.shape.resolve (.record name fields)) p.2) :
    Fits home (.record name fields) (.record ds) :=
  .record _ _ _ _ hk hl h fun p hp _ homit => ho p.1 (List.of_mem_zip hp).1 homit

end Json

theorem Processor.fits (home : Shape) {p : Processor} (h : Keyed p.properties) :
    Fits home (Wire.shape Processor) (Wire.toDatum p) := by
  refine fits_record (by decide) rfl (by simp [Field.needed, Field.defaulted, Field.omitted,
    Shape.fallback]) ?_
  simp only [List.zip_cons_cons, List.zip_nil_left, List.mem_cons,
    List.not_mem_nil, or_false]
  rintro q (rfl | rfl | rfl | rfl | rfl)
  · exact .text _ _
  · exact .text _ _
  · exact .text _ _
  · exact fits_ofTexts _ h
  · exact fits_optText _ _

theorem Connection.fits (home : Shape) (c : Connection) :
    Fits home (Wire.shape Connection) (Wire.toDatum c) := by
  refine fits_record (by decide) rfl (by simp [Field.needed, Field.defaulted, Shape.fallback]) ?_
  simp only [List.zip_cons_cons, List.zip_nil_left, List.mem_cons, List.not_mem_nil, or_false]
  rintro q (rfl | rfl | rfl | rfl)
  · exact .text _ _
  · exact .text _ _
  · exact .text _ _
  · refine .list _ _ _ fun d hd => ?_
    obtain ⟨r, -, rfl⟩ := List.mem_map.1 hd
    exact .text _ r

theorem SnapshotMeta.fits (home : Shape) {m : SnapshotMeta} (hv : m.version < Nat.pow 2 32)
    (ht : Time.parseInstant m.timestamp.text = .ok m.timestamp) :
    Fits home (Wire.shape SnapshotMeta) (Wire.toDatum m) := by
  refine fits_record (by decide) rfl
    (by simp [Field.needed, Field.omitted, Shape.fallback]) ?_
  simp only [List.zip_cons_cons, List.zip_nil_left, List.mem_cons, List.not_mem_nil, or_false]
  rintro q (rfl | rfl | rfl | rfl | rfl | rfl)
  · exact .uuid _ _
  · exact .uuid _ _
  · exact .word _ _ (.inl rfl) _ (by simp [Shape.wordLimit, Nat.pow_eq] at hv ⊢; omega)
  · exact .instant _ _ ht
  · exact .text _ _
  · exact fits_optText _ _

theorem Parameter.fits (home : Shape) (p : Parameter) :
    Fits home (Wire.shape Parameter) (Wire.toDatum p) := by
  refine fits_record (by decide) rfl
    (by simp [Field.needed, Field.defaulted, Field.omitted, Shape.fallback]) ?_
  simp only [List.zip_cons_cons, List.zip_nil_left, List.mem_cons, List.not_mem_nil, or_false]
  rintro q (rfl | rfl | rfl)
  · exact .text _ _
  · exact fits_optText _ _
  · exact .flag _ _

theorem ParameterContext.fits (home : Shape) (c : ParameterContext) :
    Fits home (Wire.shape ParameterContext) (Wire.toDatum c) := by
  refine fits_record (by decide) rfl
    (by simp [Field.needed, Field.defaulted, Field.omitted, Shape.fallback]) ?_
  simp only [List.zip_cons_cons, List.zip_nil_left, List.mem_cons, List.not_mem_nil, or_false]
  rintro q (rfl | rfl | rfl)
  · exact .text _ _
  · exact fits_optText _ _
  · refine .list _ _ _ fun d hd => ?_
    obtain ⟨p, -, rfl⟩ := List.mem_map.1 hd
    exact Parameter.fits _ p

theorem ProcessGroup.listToDatum_eq_map (gs : List ProcessGroup) :
    ProcessGroup.listToDatum gs = gs.map ProcessGroup.toDatum := by
  induction gs with
  | nil => rfl
  | cons g gs ih => simp [ProcessGroup.listToDatum, ih]

/-- A process group tree with keyed maps fits the group shape at every depth. -/
theorem ProcessGroup.fits {g : ProcessGroup} (h : g.Keyed) (home : Shape) :
    Fits home ProcessGroup.shape (ProcessGroup.toDatum g) := by
  induction h generalizing home with
  | mk g hv hp hg ih =>
    obtain ⟨i, n, c, ps, gs, cs, vs⟩ := g
    refine fits_record (by decide) rfl
      (by simp [Field.needed, Field.defaulted, Field.omitted, Shape.fallback]) ?_
    simp only [List.zip_cons_cons, List.zip_nil_left, List.mem_cons, List.not_mem_nil, or_false]
    rintro q (rfl | rfl | rfl | rfl | rfl | rfl | rfl)
    · exact .text _ _
    · exact .text _ _
    · exact fits_optText _ _
    · refine .list _ _ _ fun d hd => ?_
      obtain ⟨p, hp', rfl⟩ := List.mem_map.1 hd
      exact Processor.fits _ (hp p hp')
    · refine .list _ _ _ fun d hd => ?_
      rw [ProcessGroup.listToDatum_eq_map] at hd
      obtain ⟨c', hc, rfl⟩ := List.mem_map.1 hd
      exact ih c' hc _
    · refine .list _ _ _ fun d hd => ?_
      obtain ⟨c', -, rfl⟩ := List.mem_map.1 hd
      exact Connection.fits _ c'
    · exact fits_ofTexts _ hv

theorem Snapshot.fits {s : Snapshot} (hs : s.Representable) :
    Fits (Wire.shape Snapshot) (Wire.shape Snapshot) (Wire.toDatum s) := by
  refine fits_record (by decide) rfl
    (by simp [Field.needed, Field.defaulted, Shape.fallback]) ?_
  simp only [List.zip_cons_cons, List.zip_nil_left, List.mem_cons, List.not_mem_nil, or_false]
  rintro q (rfl | rfl | rfl)
  · exact SnapshotMeta.fits _ hs.version hs.timestamp
  · exact ProcessGroup.fits hs.groups _
  · refine .dict _ _ _ ?_ fun kv hkv => ?_
    · simpa [List.pairwise_map, Keyed] using hs.contexts
    · obtain ⟨⟨k, c⟩, -, rfl⟩ := List.mem_map.1 hkv
      exact ParameterContext.fits _ c

/-! ## Data convert back to the model -/

namespace Json.Datum

theorem texts?_ofTexts (kvs : List (String × String)) : texts? (ofTexts kvs) = Option.some kvs := by
  induction kvs with
  | nil => rfl
  | cons kv kvs ih =>
    simp only [texts?, ofTexts, List.map_cons, List.mapM_cons] at ih ⊢
    rw [ih]
    rfl

theorem option?_optText (o : Option String) : (optText o).option? text? = Option.some o := by
  cases o <;> rfl

theorem list?_text (xs : List String) : (list (xs.map Datum.text)).list? text? = Option.some xs := by
  induction xs with
  | nil => rfl
  | cons x xs ih =>
    simp only [list?, List.map_cons, List.mapM_cons] at ih ⊢
    rw [ih]
    rfl

end Json.Datum

/-- Each item of a list of model values converts back from its datum. -/
theorem mapM_ofDatum? {α : Type} [Wire α] (xs : List α)
    (h : ∀ x ∈ xs, Wire.ofDatum? (Wire.toDatum x) = some x) :
    (xs.map Wire.toDatum).mapM (Wire.ofDatum? (α := α)) = some xs := by
  induction xs with
  | nil => rfl
  | cons x xs ih =>
    simp only [List.map_cons, List.mapM_cons, h x List.mem_cons_self,
      ih fun y hy => h y (List.mem_cons_of_mem _ hy)]
    rfl

theorem Processor.ofDatum?_toDatum (p : Processor) : Wire.ofDatum? (Wire.toDatum p) = some p := by
  simp only [Wire.ofDatum?, Wire.toDatum, Datum.texts?_ofTexts, Datum.option?_optText]
  rfl

theorem Connection.ofDatum?_toDatum (c : Connection) : Wire.ofDatum? (Wire.toDatum c) = some c := by
  simp only [Wire.ofDatum?, Wire.toDatum, Datum.list?_text]
  rfl

theorem SnapshotMeta.ofDatum?_toDatum (m : SnapshotMeta) :
    Wire.ofDatum? (Wire.toDatum m) = some m := by
  simp only [Wire.ofDatum?, Wire.toDatum, Datum.option?_optText]
  rfl

theorem Parameter.ofDatum?_toDatum (p : Parameter) : Wire.ofDatum? (Wire.toDatum p) = some p := by
  simp only [Wire.ofDatum?, Wire.toDatum, Datum.option?_optText]
  rfl

theorem ParameterContext.ofDatum?_toDatum (c : ParameterContext) :
    Wire.ofDatum? (Wire.toDatum c) = some c := by
  have hps := mapM_ofDatum? c.parameters fun p _ => Parameter.ofDatum?_toDatum p
  simp only [Wire.ofDatum?, Wire.toDatum] at hps ⊢
  simp only [Datum.option?_optText, Datum.list?, hps]
  rfl

mutual
theorem ProcessGroup.ofDatum?_toDatum : ∀ g : ProcessGroup,
    ProcessGroup.ofDatum? (ProcessGroup.toDatum g) = some g
  | ⟨i, n, c, ps, gs, cs, vs⟩ => by
    have hps := mapM_ofDatum? ps fun p _ => Processor.ofDatum?_toDatum p
    have hcs := mapM_ofDatum? cs fun c _ => Connection.ofDatum?_toDatum c
    simp only [ProcessGroup.toDatum, ProcessGroup.ofDatum?, Datum.option?_optText,
      Datum.texts?_ofTexts, Datum.list?, ProcessGroup.listOfDatum?_listToDatum gs, hps, hcs]
    rfl

theorem ProcessGroup.listOfDatum?_listToDatum : ∀ gs : List ProcessGroup,
    ProcessGroup.listOfDatum? (ProcessGroup.listToDatum gs) = some gs
  | [] => rfl
  | g :: gs => by
    simp only [ProcessGroup.listToDatum, ProcessGroup.listOfDatum?, ProcessGroup.ofDatum?_toDatum g,
      ProcessGroup.listOfDatum?_listToDatum gs]
    rfl
end

theorem Snapshot.ofDatum?_toDatum (s : Snapshot) : Wire.ofDatum? (Wire.toDatum s) = some s := by
  have hm := SnapshotMeta.ofDatum?_toDatum s.snapshotMetadata
  have hg : Wire.ofDatum? (Wire.toDatum s.flowContents) = some s.flowContents :=
    ProcessGroup.ofDatum?_toDatum s.flowContents
  -- pairs are taken apart by projections, which the pattern lambdas of the instances unfold to
  have hcs : (s.parameterContexts.map fun kc => (kc.1, Wire.toDatum kc.2)).mapM
      (fun kd => (Wire.ofDatum? kd.2).map (kd.1, ·)) = some s.parameterContexts := by
    induction s.parameterContexts with
    | nil => rfl
    | cons kc kcs ih =>
      simp only [List.map_cons, List.mapM_cons, ParameterContext.ofDatum?_toDatum, ih]
      rfl
  have hunfold : Wire.ofDatum? (Wire.toDatum s) = (do
      pure ⟨← Wire.ofDatum? (Wire.toDatum s.snapshotMetadata),
        ← Wire.ofDatum? (Wire.toDatum s.flowContents),
        ← (s.parameterContexts.map fun kc => (kc.1, Wire.toDatum kc.2)).mapM
          (fun kd => (Wire.ofDatum? kd.2).map (kd.1, ·))⟩ : Option Snapshot) := rfl
  rw [hunfold, hm, hg, hcs]
  rfl

/-! ## Reading back written text -/

namespace Wire

variable {α : Type} [Wire α]

/-- A model value whose datum fits its shape and converts back reads back from its text exactly
when its JSON nests fewer than 128 levels deep. -/
theorem ofText_bytes {x : α} (hf : Fits (shape α) (shape α) (toDatum x))
    (hx : ofDatum? (toDatum x) = Option.some x) :
    (Wire.ofText (α := α) (Wire.bytes x)).toOption =
      if nesting (Wire.toJson x) < 128 then Option.some x else Option.none := by
  have h := hf.ofText
  unfold Wire.ofText Wire.bytes Wire.toJson
  cases hr : Datum.ofText (shape α) (Json.bytes ((toDatum x).write (shape α))) with
  | error e =>
    rw [hr] at h
    by_cases hlt : nesting ((toDatum x).write (shape α)) < 128
    · simp [hlt, Except.toOption] at h
    · simp [hlt, Except.toOption, bind, Except.bind]
  | ok d =>
    rw [hr] at h
    by_cases hlt : nesting ((toDatum x).write (shape α)) < 128
    · simp only [hlt, if_true, Except.toOption, Option.some.injEq] at h
      subst h
      simp [hlt, hx, Except.toOption, bind, Except.bind, pure, Except.pure]
    · simp [hlt, Except.toOption] at h

end Wire

namespace Format

theorem decodeCurrent_toOption (body : Bytes) :
    (decodeCurrent body).toOption = (Wire.ofText (α := Snapshot) body).toOption := by
  unfold decodeCurrent
  cases Wire.ofText (α := Snapshot) body <;> rfl

theorem decodeCurrent_error {body : Bytes} {e : RegistryError} (h : decodeCurrent body = .error e) :
    ∃ msg, e = .serialization msg := by
  unfold decodeCurrent at h
  split at h
  · cases h
  · cases h
    exact ⟨_, rfl⟩

section Tables

variable {α : Type}

/-- A table writes with the codec of its current version and stamps that version. -/
theorem CodecTable.serialize_of_current {t : CodecTable α} {v : Nat} {c : Codec α}
    (hv : t.current = some v) (hc : t.codecFor v = .ok c) (x : α) :
    t.serialize x = (c.encode x).map (writeHeader t.magic v) := by
  rw [CodecTable.serialize, hv]
  simp only [hc, bind, Except.bind]
  cases c.encode x <;> rfl

/-- A table reads a payload it stamped with the codec of the stamped version. -/
theorem CodecTable.deserialize_writeHeader {t : CodecTable α} {v : Nat} {c : Codec α}
    (hm : t.magic.length = 5) (hv : v < Nat.pow 2 32) (hc : t.codecFor v = .ok c) (body : Bytes) :
    t.deserialize (writeHeader t.magic v body) = c.decode body := by
  rw [CodecTable.deserialize, readHeader_writeHeader hm hv]
  simp only [bind, Except.bind, hc]

end Tables

theorem snapshotMagic_length : snapshotMagic.length = 5 := by decide

theorem snapshotTable_serialize (s : Snapshot) :
    snapshotTable.serialize s =
      s.flowContents.checkGraph.map fun _ => writeHeader snapshotMagic 2 (Wire.bytes s) := by
  rw [CodecTable.serialize_of_current (c := currentCodec) rfl rfl]
  change (encodeCurrent s).map (writeHeader snapshotMagic 2) = _
  unfold encodeCurrent
  cases s.flowContents.checkGraph <;> rfl

theorem snapshotTable_deserialize (body : Bytes) :
    snapshotTable.deserialize (writeHeader snapshotMagic 2 body) = decodeCurrent body :=
  CodecTable.deserialize_writeHeader (c := currentCodec) snapshotMagic_length
    (by simp [Nat.pow_eq]) rfl body

theorem checkGraph_error {g : ProcessGroup} {e : RegistryError} (h : g.checkGraph = .error e) :
    ∃ msg, e = .serialization msg := by
  unfold ProcessGroup.checkGraph at h
  dsimp only at h
  split at h
  · cases h
    exact ⟨_, rfl⟩
  · split at h
    · cases h
      exact ⟨_, rfl⟩
    · cases h

/-- A payload of the current format reads back to a snapshot whose JSON nests fewer than 128
levels deep. -/
theorem readBack_current {s : Snapshot} (hs : s.Representable) (hlt : nesting (Wire.toJson s) < 128) :
    snapshotTable.deserialize (writeHeader snapshotMagic 2 (Wire.bytes s)) = .ok s := by
  have hread := Wire.ofText_bytes (Snapshot.fits hs) (Snapshot.ofDatum?_toDatum s)
  rw [← decodeCurrent_toOption, if_pos hlt] at hread
  rw [snapshotTable_deserialize, ← toOption_eq_some, hread]

/-- A payload of the current format fails to read back, with a serialization error, once the
snapshot's JSON nests 128 levels deep. -/
theorem readBack_current_fails {s : Snapshot} (hs : s.Representable)
    (hge : 128 ≤ nesting (Wire.toJson s)) :
    ∃ msg, snapshotTable.deserialize (writeHeader snapshotMagic 2 (Wire.bytes s)) =
      .error (.serialization msg) := by
  have hread := Wire.ofText_bytes (Snapshot.fits hs) (Snapshot.ofDatum?_toDatum s)
  rw [← decodeCurrent_toOption, if_neg (by omega), toOption_eq_none] at hread
  obtain ⟨e, he⟩ := hread
  obtain ⟨msg, rfl⟩ := decodeCurrent_error he
  exact ⟨msg, by rw [snapshotTable_deserialize, he]⟩

theorem writeHeader_current (body : Bytes) :
    writeHeader snapshotMagic 2 body = Text.encode "Flows" ++ [0, 0, 0, 2] ++ body := rfl

/-- Writing a snapshot checks its graph and stamps the current format on its JSON text; reading
the payload back gives the snapshot exactly when its JSON nests fewer than 128 levels deep, and
otherwise fails with a serialization error. -/
theorem current_snapshot_round_trip (s : Snapshot) (hs : s.Representable) :
    snapshotTable.serialize s = s.flowContents.checkGraph.map
        (fun _ => Text.encode "Flows" ++ [0, 0, 0, 2] ++ Wire.bytes s) ∧
      (∀ e, snapshotTable.serialize s = .error e → ∃ msg, e = .serialization msg) ∧
      (nesting (Wire.toJson s) < 128 →
        snapshotTable.deserialize (Text.encode "Flows" ++ [0, 0, 0, 2] ++ Wire.bytes s) = .ok s) ∧
      (128 ≤ nesting (Wire.toJson s) →
        ∃ msg, snapshotTable.deserialize (Text.encode "Flows" ++ [0, 0, 0, 2] ++ Wire.bytes s) =
          .error (.serialization msg)) := by
  refine ⟨by rw [snapshotTable_serialize, writeHeader_current], fun e he => ?_,
    fun hlt => ?_, fun hge => ?_⟩
  · rw [snapshotTable_serialize] at he
    cases hg : s.flowContents.checkGraph with
    | error e' =>
      rw [hg] at he
      cases he
      exact checkGraph_error hg
    | ok u => rw [hg] at he; cases he
  · rw [← writeHeader_current]
    exact readBack_current hs hlt
  · rw [← writeHeader_current]
    exact readBack_current_fails hs hge

/-- The metadata of the snapshots below. -/
def sampleMeta : SnapshotMeta :=
  ⟨⟨⟨0x000000000000400080000000000000b1, by decide⟩⟩,
    ⟨⟨0x000000000000400080000000000000f1, by decide⟩⟩, 1, ⟨19783, 43200, 0⟩, "alice", none⟩

example : sampleMeta.timestamp.text = "2024-03-01T12:00:00Z" := by decide

theorem sampleMeta_representable (g : ProcessGroup) (hg : g.Keyed) :
    (Snapshot.mk sampleMeta g []).Representable :=
  ⟨(by decide : sampleMeta.version < Nat.pow 2 32),
    (by decide +kernel : Time.parseInstant sampleMeta.timestamp.text = .ok sampleMeta.timestamp),
    List.Pairwise.nil, hg⟩

/-- A flow of one empty group. -/
def rootGroup : ProcessGroup := ⟨"root", "root", none, [], [], [], []⟩

theorem current_snapshot_round_trip_of_root_group :
    snapshotTable.deserialize (Text.encode "Flows" ++ [0, 0, 0, 2] ++
      Wire.bytes (Snapshot.mk sampleMeta rootGroup [])) = .ok ⟨sampleMeta, rootGroup, []⟩ :=
  (current_snapshot_round_trip _ (sampleMeta_representable rootGroup
    (.mk _ List.Pairwise.nil (by simp [rootGroup]) (by simp [rootGroup])))).2.2.1 (by decide)

/-- A chain of `k + 1` groups named `g i`, `g (i + 1)`, ..., each the only child of the one
before. -/
def deepGroup (i : Nat) : Nat → ProcessGroup
  | 0 => ⟨"g" ++ toString i, "g", none, [], [], [], []⟩
  | k + 1 => ⟨"g" ++ toString i, "g", none, [], [deepGroup (i + 1) k], [], []⟩

theorem deepGroup_keyed (i k : Nat) : (deepGroup i k).Keyed := by
  induction k generalizing i with
  | zero => exact .mk _ List.Pairwise.nil (by simp [deepGroup]) (by simp [deepGroup])
  | succ k ih =>
    refine .mk _ List.Pairwise.nil (by simp [deepGroup]) ?_
    simp only [deepGroup, List.mem_singleton]
    rintro c rfl
    exact ih (i + 1)

/-- A chain of 64 groups, `g0` to `g63`, is written, but its payload does not read back: the
innermost group's arrays sit 129 levels deep. -/
theorem deep_snapshot_unreadable :
    snapshotTable.serialize ⟨sampleMeta, deepGroup 0 63, []⟩ =
        .ok (Text.encode "Flows" ++ [0, 0, 0, 2] ++ Wire.bytes (Snapshot.mk sampleMeta (deepGroup 0 63) [])) ∧
      ∃ msg, snapshotTable.deserialize (Text.encode "Flows" ++ [0, 0, 0, 2] ++
        Wire.bytes (Snapshot.mk sampleMeta (deepGroup 0 63) [])) = .error (.serialization msg) := by
  have hg : (deepGroup 0 63).checkGraph = .ok () := by decide +kernel
  refine ⟨by rw [snapshotTable_serialize]; simp only [hg]; rfl, ?_⟩
  rw [← writeHeader_current]
  exact readBack_current_fails (sampleMeta_representable _ (deepGroup_keyed 0 63)) (by decide +kernel)

end Format

end FlowRegistry
