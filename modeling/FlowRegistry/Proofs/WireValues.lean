import FlowRegistry.Proofs.SnapshotFormats

/-!
# Model values read back from their JSON values

A model value is written as a JSON value through its shape, and read from a JSON value through the
same shape. The two are inverse on every value the model's types can hold, with no bound on how
deep the value nests: reading a value does not count depth, unlike reading text.

* `Fits.ofJson_toJson`: a datum that fits its shape reads back from the JSON value it is written
  as. The proof follows `Fits`, with a lemma for each container: the items of a list
  (`ofJsonItems_listToJson`), the entries of a map (`ofJsonEntries_entriesToJson`), and the members
  of a record's object (`ofJson_record_members`).
* `ofJson_record_members` is the reader's law for records: given the members of any of a
  record's fields, each written as its field's shape writes it, in field order, each field takes
  its member's value, and a field without a member that may be missing takes its shape's default
  (absent, empty, `false`). The writer leaves out exactly the absent values of fields marked to
  be left out (`fieldsToJson_eq_members`).
* `model_values_round_trip`: every revision, modification, bucket, flow, snapshot number,
  snapshot metadata, process group tree, parameter context, parameter, bundle kind, bundle and
  bundle version reads back from its JSON value, given what the types of its fields guarantee:
  counters within their widths, maps keyed in increasing order, and timestamps that read back
  from their text.
-/

namespace FlowRegistry.Json

/-! ### The members of a record's object -/

/-- The members of an object that holds, for each field whose slot holds a datum, that datum as
the field's shape writes it, in field order. -/
def members (home : Shape) : List Field → List (Option Datum) → List (String × Json)
  | f :: fs, some d :: os => (f.key, d.toJson home (f.shape.resolve home)) :: members home fs os
  | _ :: fs, none :: os => members home fs os
  | _, _ => []

@[simp] theorem toJson_none (home s : Shape) : Datum.none.toJson home s = .null := by
  cases s <;> rfl

/-- The writer gives a member to each field but those whose value is absent and that are marked
to be left out then. -/
theorem fieldsToJson_eq_members (home : Shape) :
    ∀ (fs : List Field) (ds : List Datum),
      Datum.fieldsToJson home fs ds = members home fs (List.zipWith slotOf fs ds)
  | [], ds => by cases ds <;> simp [Datum.fieldsToJson, members]
  | f :: fs, [] => by simp [Datum.fieldsToJson, members]
  | f :: fs, d :: ds => by
    have ih := fieldsToJson_eq_members home fs ds
    rcases slotOf_cases f d with ⟨hs, -, -⟩ | hs
    · rw [fieldsToJson_omitted hs, List.zipWith_cons_cons, hs, members, ih]
    · rw [fieldsToJson_kept hs, List.zipWith_cons_cons, hs, members, ih]

/-- The values a record's fields take from their slots: the datum read, or else the default. -/
theorem completeFields_eq_ok :
    ∀ {fs : List Field} {os : List (Option Datum)}, os.length = fs.length →
      (∀ p ∈ fs.zip os, p.2 = none → p.1.required = false) →
      completeFields fs os = .ok (List.zipWith (fun f o => o.getD f.shape.fallback) fs os)
  | [], [], _, _ => rfl
  | f :: fs, o :: os, hl, hreq => by
    have hrest : completeFields fs os =
        .ok (List.zipWith (fun f o => o.getD f.shape.fallback) fs os) :=
      completeFields_eq_ok (by simpa using hl) fun p hp => hreq p (List.mem_cons_of_mem _ hp)
    cases o with
    | none =>
      have hf : f.required = false := hreq (f, none) List.mem_cons_self rfl
      simp [completeFields, hf, hrest]
    | some d => simp [completeFields, hrest]

/-- Reading the members of the fields `fs₂` into a record whose fields `fs₁` are read already
fills their slots with the data written. -/
theorem ofJsonFieldMap_members {home : Shape} :
    ∀ (fs₂ : List Field) (os₂ : List (Option Datum)) (fs₁ : List Field)
      (slots₁ : List (Option Datum)),
    os₂.length = fs₂.length → slots₁.length = fs₁.length →
    ((fs₁ ++ fs₂).map (·.key)).Nodup →
    (∀ p ∈ fs₂.zip os₂, ∀ d, p.2 = some d →
      Datum.ofJson home (p.1.shape.resolve home) (d.toJson home (p.1.shape.resolve home)) =
        .ok d) →
    Datum.ofJsonFieldMap home (fs₁ ++ fs₂) (slots₁ ++ fs₂.map fun _ => none)
        (members home fs₂ os₂) =
      Datum.ofJsonFieldMap home (fs₁ ++ fs₂) (slots₁ ++ os₂) []
  | [], os₂, fs₁, slots₁, hl₂, _, _, _ => by
    cases os₂ with
    | nil => simp [members]
    | cons => simp at hl₂
  | f :: fs₂, [], _, _, hl₂, _, _, _ => by simp at hl₂
  | f :: fs₂, o :: os₂, fs₁, slots₁, hl₂, hl₁, hk, h => by
    have hl₂' : os₂.length = fs₂.length := by simpa using hl₂
    have hk' : (((fs₁ ++ [f]) ++ fs₂).map (·.key)).Nodup := by simpa using hk
    have hrest : ∀ p ∈ fs₂.zip os₂, ∀ d, p.2 = some d →
        Datum.ofJson home (p.1.shape.resolve home) (d.toJson home (p.1.shape.resolve home)) =
          .ok d :=
      fun p hp => h p (List.mem_cons_of_mem _ hp)
    have hfs : (fs₁ ++ [f]) ++ fs₂ = fs₁ ++ f :: fs₂ := by simp
    cases o with
    | none =>
      have ih := ofJsonFieldMap_members fs₂ os₂ (fs₁ ++ [f]) (slots₁ ++ [none]) hl₂'
        (by simp [hl₁]) hk' hrest
      rw [hfs] at ih
      simpa [members] using ih
    | some d =>
      have ih := ofJsonFieldMap_members fs₂ os₂ (fs₁ ++ [f]) (slots₁ ++ [some d]) hl₂'
        (by simp [hl₁]) hk' hrest
      rw [hfs] at ih
      have hread := h (f, some d) List.mem_cons_self d rfl
      have hfield : (fs₁ ++ f :: fs₂).getD fs₁.length (Field.needed "" .text) = f := by
        simp [List.getD_eq_getElem?_getD]
      have hset : (slots₁ ++ (f :: fs₂).map fun _ => none).set fs₁.length (some d) =
          slots₁ ++ some d :: fs₂.map fun _ => none := by
        rw [List.set_append_right _ _ (by simp [hl₁])]
        simp [hl₁]
      rw [members, Datum.ofJsonFieldMap.eq_2, fieldIndex_middle hk]
      simp only [hfield, hread, bind, Except.bind, hset]
      simpa using ih

/-- The reader's law for records: given the members of any of a record's fields, each field
takes its member's value, and each field without a member, which may be missing, its default. -/
theorem ofJson_record_members {home : Shape} {name : String} {fs : List Field}
    {os : List (Option Datum)} (hk : (fs.map (·.key)).Nodup) (hl : os.length = fs.length)
    (h : ∀ p ∈ fs.zip os, ∀ d, p.2 = some d →
      Datum.ofJson (.record name fs) (p.1.shape.resolve (.record name fs))
        (d.toJson (.record name fs) (p.1.shape.resolve (.record name fs))) = .ok d)
    (hreq : ∀ p ∈ fs.zip os, p.2 = none → p.1.required = false) :
    Datum.ofJson home (.record name fs) (.obj (members (.record name fs) fs os)) =
      .ok (.record (List.zipWith (fun f o => o.getD f.shape.fallback) fs os)) := by
  have hread := @ofJsonFieldMap_members (.record name fs) fs os [] [] hl rfl
    (by simpa using hk) h
  simp only [List.nil_append] at hread
  rw [Datum.ofJson.eq_15, hread, Datum.ofJsonFieldMap.eq_1, completeFields_eq_ok hl hreq]

/-! ### Every fitting datum reads back -/

theorem ofJsonItems_listToJson {home item : Shape} :
    ∀ {ds : List Datum},
      (∀ d ∈ ds,
        Datum.ofJson home (item.resolve home) (d.toJson home (item.resolve home)) = .ok d) →
      Datum.ofJsonItems home item (Datum.listToJson home item ds) = .ok ds
  | [], _ => by simp [Datum.listToJson, Datum.ofJsonItems]
  | d :: ds, h => by
    rw [Datum.listToJson, Datum.ofJsonItems.eq_2, h d List.mem_cons_self,
      ofJsonItems_listToJson fun d' hd' => h d' (List.mem_cons_of_mem _ hd')]
    rfl

theorem ofJsonEntries_entriesToJson {home item : Shape} :
    ∀ {kvs : List (String × Datum)},
      (∀ kv ∈ kvs,
        Datum.ofJson home (item.resolve home) (kv.2.toJson home (item.resolve home)) = .ok kv.2) →
      Datum.ofJsonEntries home item (Datum.entriesToJson home item kvs) = .ok kvs
  | [], _ => by simp [Datum.entriesToJson, Datum.ofJsonEntries]
  | (k, d) :: kvs, h => by
    rw [Datum.entriesToJson, Datum.ofJsonEntries.eq_2, h (k, d) List.mem_cons_self,
      ofJsonEntries_entriesToJson fun kv hkv => h kv (List.mem_cons_of_mem _ hkv)]
    rfl

theorem slotOf_eq_some {f : Field} {d d' : Datum} (h : slotOf f d = some d') : d' = d := by
  rcases slotOf_cases f d with ⟨hs, -, -⟩ | hs
  · rw [hs] at h
    cases h
  · rw [hs] at h
    exact (Option.some.inj h).symm

theorem mem_zip_zipWith_slotOf :
    ∀ {fs : List Field} {ds : List Datum} {p : Field × Option Datum},
      p ∈ fs.zip (List.zipWith slotOf fs ds) →
        ∃ d, (p.1, d) ∈ fs.zip ds ∧ p.2 = slotOf p.1 d
  | [], _, _, h => by simp at h
  | _ :: _, [], _, h => by simp at h
  | f :: fs, d :: ds, p, h => by
    simp only [List.zipWith_cons_cons, List.zip_cons_cons, List.mem_cons] at h
    rcases h with rfl | h
    · exact ⟨d, List.mem_cons_self, rfl⟩
    · obtain ⟨d', hd', he⟩ := mem_zip_zipWith_slotOf h
      exact ⟨d', List.mem_cons_of_mem _ hd', he⟩

/-- A fitting datum reads back from the JSON value it is written as, and that value is `null`
only where the datum is absent. -/
theorem Fits.ofJson_toJson {home s : Shape} {d : Datum} (h : Fits home s d) :
    Datum.ofJson home s (d.toJson home s) = .ok d ∧
      (d ≠ .none → d.toJson home s ≠ .null) := by
  induction h with
  | text home v => exact ⟨by rw [Datum.toJson, Datum.ofJson.eq_3]; rfl, fun _ h => by cases h⟩
  | uuid home u =>
    refine ⟨?_, fun _ h => by cases h⟩
    rw [Datum.toJson, Datum.ofJson.eq_4]
    simp [textOfString, Uuid.parse_text]
  | instant home t ht =>
    refine ⟨?_, fun _ h => by cases h⟩
    rw [Datum.toJson, Datum.ofJson.eq_5]
    simp [textOfString, ht]
  | word home s hs n hn =>
    refine ⟨?_, fun _ h => by cases h⟩
    rcases hs with rfl | rfl
    · rw [Datum.toJson, Datum.ofJson.eq_9]
      simp [wordOf, hn, Functor.map, Except.map]
    · rw [Datum.toJson, Datum.ofJson.eq_10]
      simp [wordOf, hn, Functor.map, Except.map]
  | flag home b => exact ⟨by rw [Datum.toJson, Datum.ofJson.eq_11], fun _ h => by cases h⟩
  | choice home names i hi hn =>
    refine ⟨?_, fun _ h => by cases h⟩
    rw [Datum.toJson, Datum.ofJson.eq_6]
    simp [choiceOfName, List.getElem?_eq_getElem hi, idxOf?_getElem hn hi]
  | none home inner => exact ⟨by rw [toJson_none, Datum.ofJson.eq_1], fun h => absurd rfl h⟩
  | some home inner d h hne ih =>
    have hnull := ih.2 hne
    have hw : (Datum.some d).toJson home (.optional inner) = d.toJson home inner := by
      rw [Datum.toJson]
    rw [hw]
    refine ⟨?_, fun _ => hnull⟩
    rw [Datum.ofJson.eq_2 _ _ _ hnull, ih.1]
    rfl
  | list home item ds h ih =>
    refine ⟨?_, fun _ h => by rw [Datum.toJson] at h; cases h⟩
    rw [Datum.toJson, Datum.ofJson.eq_12, ofJsonItems_listToJson fun d hd => (ih d hd).1]
    rfl
  | dict home item kvs hs h ih =>
    refine ⟨?_, fun _ h => by rw [Datum.toJson] at h; cases h⟩
    rw [Datum.toJson, Datum.ofJson.eq_13, ofJsonEntries_entriesToJson fun kv hkv => (ih kv hkv).1]
    rfl
  | record home name fields ds hk hl h ho ih =>
    refine ⟨?_, fun _ h => by rw [Datum.toJson] at h; cases h⟩
    have hl' : (List.zipWith slotOf fields ds).length = fields.length := by simp [hl]
    have hmem : ∀ {p}, p ∈ fields.zip (List.zipWith slotOf fields ds) →
        ∃ d, (p.1, d) ∈ fields.zip ds ∧ p.2 = slotOf p.1 d := mem_zip_zipWith_slotOf
    have hreq : ∀ p ∈ fields.zip (List.zipWith slotOf fields ds), p.2 = Option.none →
        p.1.required = false := fun p hp hnone => by
      obtain ⟨d, hpd, hslot⟩ := hmem hp
      rcases slotOf_cases p.1 d with ⟨-, rfl, homit⟩ | hs
      · exact (ho _ hpd rfl homit).1
      · rw [hslot, hs] at hnone
        cases hnone
    have hread := @ofJson_record_members home name fields _ hk hl'
      (fun p hp d' hd' => by
        obtain ⟨d, hpd, hslot⟩ := hmem hp
        rw [hslot] at hd'
        rw [slotOf_eq_some hd']
        exact (ih _ hpd).1) hreq
    have hvals : List.zipWith (fun f o => o.getD f.shape.fallback) fields
        (List.zipWith slotOf fields ds) = ds := by
      have := completeFields_eq_ok hl' hreq
      rw [completeFields_slots hl ho] at this
      exact (Except.ok.inj this).symm
    rw [Datum.toJson, fieldsToJson_eq_members, hread, hvals]

/-- Given the members of any of a record's fields, each a fitting datum as its field's shape writes
it, each field takes its member's datum, and each field without a member, which may be missing,
its shape's default. -/
theorem ofJson_members_of_fits {home : Shape} {name : String} {fs : List Field}
    {os : List (Option Datum)} (hk : (fs.map (·.key)).Nodup) (hl : os.length = fs.length)
    (hfit : ∀ p ∈ fs.zip os, ∀ d, p.2 = some d →
      Fits (.record name fs) (p.1.shape.resolve (.record name fs)) d)
    (hreq : ∀ p ∈ fs.zip os, p.2 = none → p.1.required = false) :
    Datum.ofJson home (.record name fs) (.obj (members (.record name fs) fs os)) =
      .ok (.record (List.zipWith (fun f o => o.getD f.shape.fallback) fs os)) :=
  ofJson_record_members hk hl (fun p hp d hd => (hfit p hp d hd).ofJson_toJson.1) hreq

/-- Every member of a record's object is keyed by one of the record's fields. -/
theorem key_mem_of_mem_members {home : Shape} :
    ∀ {fs : List Field} {os : List (Option Datum)} {k : String},
      k ∈ (members home fs os).map Prod.fst → k ∈ fs.map (·.key)
  | [], os, _, h => by cases os <;> simp [members] at h
  | _ :: _, [], _, h => by simp [members] at h
  | _ :: _, none :: _, _, h => List.mem_cons_of_mem _ (key_mem_of_mem_members h)
  | _ :: _, some _ :: _, _, h => by
    rw [members, List.map_cons, List.mem_cons] at h
    rcases h with rfl | h
    · exact List.mem_cons_self
    · exact List.mem_cons_of_mem _ (key_mem_of_mem_members h)

/-- The writer gives an object a member for a field exactly when the field's value is present or
the field is not marked to be left out when absent. -/
theorem key_mem_fieldsToJson {home : Shape} :
    ∀ {fs : List Field} {ds : List Datum}, (fs.map (·.key)).Nodup → ds.length = fs.length →
      ∀ {f : Field} {d : Datum}, (f, d) ∈ fs.zip ds →
        (f.key ∈ (Datum.fieldsToJson home fs ds).map Prod.fst ↔
          ¬(d = .none ∧ f.omitNone = true))
  | [], _, _, _, _, _, h => by simp at h
  | _ :: _, [], _, hl, _, _, _ => by simp at hl
  | g :: fs, e :: ds, hk, hl, f, d, h => by
    obtain ⟨hg, hk'⟩ := List.nodup_cons.1 (show (g.key :: fs.map (·.key)).Nodup from hk)
    have ih := @key_mem_fieldsToJson home fs ds hk' (by simpa using hl)
    simp only [List.zip_cons_cons, List.mem_cons, Prod.mk.injEq] at h
    rcases h with ⟨rfl, rfl⟩ | h
    · -- the field written first: its member leads, or is left out
      rcases slotOf_cases f d with ⟨hs, rfl, homit⟩ | hs
      · rw [fieldsToJson_omitted hs]
        simp only [homit, and_self, not_true_eq_false, iff_false]
        exact fun hmem => hg (key_mem_of_mem_members (by rwa [fieldsToJson_eq_members] at hmem))
      · rw [fieldsToJson_kept hs]
        have hkept : ¬(d = .none ∧ f.omitNone = true) := by
          rintro ⟨rfl, homit⟩
          simp [slotOf, homit] at hs
        simp [hkept]
    · -- a later field: the first member, if any, has another key
      have hne : f.key ≠ g.key := fun he =>
        hg (he ▸ List.mem_map_of_mem (List.of_mem_zip h).1)
      rcases slotOf_cases g e with ⟨hs, -, -⟩ | hs
      · rw [fieldsToJson_omitted hs]
        exact ih h
      · rw [fieldsToJson_kept hs, List.map_cons, List.mem_cons]
        simp only [hne, false_or]
        exact ih h

end FlowRegistry.Json

namespace FlowRegistry

open Json

/-! ### Reading model values -/

namespace Wire

variable {α : Type} [Wire α]

/-- A model value whose datum fits its shape and converts back reads back from its JSON value. -/
theorem ofJson_toJson {x : α} (hf : Fits (shape α) (shape α) (toDatum x))
    (hx : ofDatum? (toDatum x) = some x) : Wire.ofJson (Wire.toJson x) = .ok x := by
  unfold Wire.ofJson Wire.toJson Datum.read Datum.write
  rw [hf.ofJson_toJson.1]
  simp [hx, bind, Except.bind, pure, Except.pure]

end Wire

/-! ### The data of the remaining model types fit their shapes and convert back -/

theorem fits_word32 (home : Shape) {n : Nat} (h : n < Nat.pow 2 32) :
    Fits home .word32 (.word n) :=
  .word _ _ (.inl rfl) _ (by simp [Shape.wordLimit, Nat.pow_eq] at h ⊢; omega)

theorem fits_word64 (home : Shape) {n : Nat} (h : n < Nat.pow 2 64) :
    Fits home .word64 (.word n) :=
  .word _ _ (.inr rfl) _ (by simp [Shape.wordLimit, Nat.pow_eq] at h ⊢; omega)

theorem Revision.fits (home : Shape) {r : Revision} (hv : r.version < Nat.pow 2 64) :
    Fits home (Wire.shape Revision) (Wire.toDatum r) := by
  refine fits_record (by decide) rfl (by simp [Field.needed]) ?_
  simp only [List.zip_cons_cons, List.zip_nil_left, List.mem_cons, List.not_mem_nil, or_false]
  rintro q (rfl | rfl | rfl)
  · exact .text _ _
  · exact fits_word64 _ hv
  · exact .text _ _

theorem Modification.fits (home : Shape) {m : Modification}
    (hv : m.revision.version < Nat.pow 2 64) :
    Fits home (Wire.shape Modification) (Wire.toDatum m) := by
  refine fits_record (by decide) rfl (by simp [Field.needed]) ?_
  simp only [List.zip_cons_cons, List.zip_nil_left, List.mem_cons, List.not_mem_nil, or_false]
  rintro q (rfl | rfl)
  · exact Revision.fits _ hv
  · exact .text _ _

theorem Bucket.fits (home : Shape) {b : Bucket}
    (ht : Time.parseInstant b.createdTimestamp.text = .ok b.createdTimestamp) :
    Fits home (Wire.shape Bucket) (Wire.toDatum b) := by
  refine fits_record (by decide) rfl
    (by simp [Field.needed, Field.defaulted, Field.omitted, Shape.fallback]) ?_
  simp only [List.zip_cons_cons, List.zip_nil_left, List.mem_cons, List.not_mem_nil, or_false]
  rintro q (rfl | rfl | rfl | rfl | rfl | rfl)
  · exact .uuid _ _
  · exact .text _ _
  · exact fits_optText _ _
  · exact .instant _ _ ht
  · exact .flag _ _
  · exact .flag _ _

theorem Flow.fits (home : Shape) {f : Flow} (hv : f.versionCount < Nat.pow 2 32)
    (hc : Time.parseInstant f.createdTimestamp.text = .ok f.createdTimestamp)
    (hm : Time.parseInstant f.modifiedTimestamp.text = .ok f.modifiedTimestamp) :
    Fits home (Wire.shape Flow) (Wire.toDatum f) := by
  refine fits_record (by decide) rfl (by simp [Field.needed, Field.omitted, Shape.fallback]) ?_
  simp only [List.zip_cons_cons, List.zip_nil_left, List.mem_cons, List.not_mem_nil, or_false]
  rintro q (rfl | rfl | rfl | rfl | rfl | rfl | rfl)
  · exact .uuid _ _
  · exact .text _ _
  · exact fits_optText _ _
  · exact .uuid _ _
  · exact .instant _ _ hc
  · exact .instant _ _ hm
  · exact fits_word32 _ hv

theorem SnapshotNumber.fits (home : Shape) {n : SnapshotNumber} (hv : n.value < Nat.pow 2 32) :
    Fits home (Wire.shape SnapshotNumber) (Wire.toDatum n) :=
  fits_word32 _ hv

theorem BundleKind.fits (home : Shape) (k : BundleKind) :
    Fits home (Wire.shape BundleKind) (Wire.toDatum k) :=
  .choice _ _ k.index (by cases k <;> decide) (by decide)

theorem Bundle.fits (home : Shape) {b : Bundle} (hv : b.versionCount < Nat.pow 2 32)
    (hc : Time.parseInstant b.createdTimestamp.text = .ok b.createdTimestamp)
    (hm : Time.parseInstant b.modifiedTimestamp.text = .ok b.modifiedTimestamp) :
    Fits home (Wire.shape Bundle) (Wire.toDatum b) := by
  refine fits_record (by decide) rfl (by simp [Field.needed, Field.omitted, Shape.fallback]) ?_
  simp only [List.zip_cons_cons, List.zip_nil_left, List.mem_cons, List.not_mem_nil, or_false]
  rintro q (rfl | rfl | rfl | rfl | rfl | rfl | rfl | rfl | rfl)
  · exact .uuid _ _
  · exact .uuid _ _
  · exact BundleKind.fits _ _
  · exact .text _ _
  · exact .text _ _
  · exact fits_optText _ _
  · exact .instant _ _ hc
  · exact .instant _ _ hm
  · exact fits_word32 _ hv

theorem BundleVersion.fits (home : Shape) {v : BundleVersion} (hs : v.contentSize < Nat.pow 2 64)
    (ht : Time.parseInstant v.timestamp.text = .ok v.timestamp) :
    Fits home (Wire.shape BundleVersion) (Wire.toDatum v) := by
  refine fits_record (by decide) rfl (by simp [Field.needed]) ?_
  simp only [List.zip_cons_cons, List.zip_nil_left, List.mem_cons, List.not_mem_nil, or_false]
  rintro q (rfl | rfl | rfl | rfl | rfl | rfl)
  · exact .uuid _ _
  · exact .text _ _
  · exact .text _ _
  · exact fits_word64 _ hs
  · exact .text _ _
  · exact .instant _ _ ht

theorem Revision.ofDatum?_toDatum (r : Revision) : Wire.ofDatum? (Wire.toDatum r) = some r := rfl

theorem Modification.ofDatum?_toDatum (m : Modification) :
    Wire.ofDatum? (Wire.toDatum m) = some m := rfl

theorem Bucket.ofDatum?_toDatum (b : Bucket) : Wire.ofDatum? (Wire.toDatum b) = some b := by
  simp only [Wire.ofDatum?, Wire.toDatum, Datum.option?_optText]
  rfl

theorem Flow.ofDatum?_toDatum (f : Flow) : Wire.ofDatum? (Wire.toDatum f) = some f := by
  simp only [Wire.ofDatum?, Wire.toDatum, Datum.option?_optText]
  rfl

theorem BundleKind.ofDatum?_toDatum (k : BundleKind) : Wire.ofDatum? (Wire.toDatum k) = some k := by
  cases k <;> rfl

theorem Bundle.ofDatum?_toDatum (b : Bundle) : Wire.ofDatum? (Wire.toDatum b) = some b := by
  have hk := BundleKind.ofDatum?_toDatum b.bundleType
  simp only [Wire.ofDatum?, Wire.toDatum] at hk ⊢
  simp only [Datum.option?_optText, hk]
  rfl

theorem BundleVersion.ofDatum?_toDatum (v : BundleVersion) :
    Wire.ofDatum? (Wire.toDatum v) = some v := rfl

/-! ### Every model value reads back -/

/-- Every value of the model's wire types reads back from its JSON value, given what the types of
its fields guarantee: counters within their widths, ordered maps keyed in increasing order, and
timestamps that read back from their text. A snapshot number is written as a bare number and a
bundle kind as its kebab-case name. In a record's object the writer leaves out exactly the absent
values of the fields marked to be left out when absent; and given the members of any of a
record's fields, the reader gives each field its member's datum, and each field without a member,
which may be missing, its shape's default. -/
theorem model_values_round_trip :
    (∀ r : Revision, r.version < Nat.pow 2 64 → Wire.ofJson (Wire.toJson r) = .ok r) ∧
    (∀ m : Modification, m.revision.version < Nat.pow 2 64 →
      Wire.ofJson (Wire.toJson m) = .ok m) ∧
    (∀ b : Bucket, Time.parseInstant b.createdTimestamp.text = .ok b.createdTimestamp →
      Wire.ofJson (Wire.toJson b) = .ok b) ∧
    (∀ f : Flow, f.versionCount < Nat.pow 2 32 →
      Time.parseInstant f.createdTimestamp.text = .ok f.createdTimestamp →
      Time.parseInstant f.modifiedTimestamp.text = .ok f.modifiedTimestamp →
      Wire.ofJson (Wire.toJson f) = .ok f) ∧
    (∀ n : SnapshotNumber, n.value < Nat.pow 2 32 →
      Wire.toJson n = .num (.nat n.value) ∧ Wire.ofJson (Wire.toJson n) = .ok n) ∧
    (∀ m : SnapshotMeta, m.version < Nat.pow 2 32 →
      Time.parseInstant m.timestamp.text = .ok m.timestamp → Wire.ofJson (Wire.toJson m) = .ok m) ∧
    (∀ g : ProcessGroup, g.Keyed → Wire.ofJson (Wire.toJson g) = .ok g) ∧
    (∀ c : ParameterContext, Wire.ofJson (Wire.toJson c) = .ok c) ∧
    (∀ p : Parameter, Wire.ofJson (Wire.toJson p) = .ok p) ∧
    (∀ k : BundleKind, Wire.toJson k = .str k.name ∧ Wire.ofJson (Wire.toJson k) = .ok k) ∧
    (∀ b : Bundle, b.versionCount < Nat.pow 2 32 →
      Time.parseInstant b.createdTimestamp.text = .ok b.createdTimestamp →
      Time.parseInstant b.modifiedTimestamp.text = .ok b.modifiedTimestamp →
      Wire.ofJson (Wire.toJson b) = .ok b) ∧
    (∀ v : BundleVersion, v.contentSize < Nat.pow 2 64 →
      Time.parseInstant v.timestamp.text = .ok v.timestamp → Wire.ofJson (Wire.toJson v) = .ok v) ∧
    (∀ (home : Shape) (fs : List Field) (ds : List Datum), (fs.map (·.key)).Nodup →
      ds.length = fs.length → ∀ f d, (f, d) ∈ fs.zip ds →
        (f.key ∈ (Datum.fieldsToJson home fs ds).map Prod.fst ↔ ¬(d = .none ∧ f.omitNone = true))) ∧
    (∀ (home : Shape) (name : String) (fs : List Field) (os : List (Option Datum)),
      (fs.map (·.key)).Nodup → os.length = fs.length →
      (∀ p ∈ fs.zip os, ∀ d, p.2 = some d → Fits (.record name fs) (p.1.shape.resolve (.record name fs)) d) →
      (∀ p ∈ fs.zip os, p.2 = none → p.1.required = false) →
      Datum.ofJson home (.record name fs) (.obj (members (.record name fs) fs os)) =
        .ok (.record (List.zipWith (fun f o => o.getD f.shape.fallback) fs os))) := by
  refine ⟨fun r hv => ?_, fun m hv => ?_, fun b ht => ?_, fun f hv hc hm => ?_, fun n hv => ?_,
    fun m hv ht => ?_, fun g hg => ?_, fun c => ?_, fun p => ?_, fun k => ?_,
    fun b hv hc hm => ?_, fun v hs ht => ?_, fun home fs ds hk hl f d hfd => ?_,
    fun home name fs os hk hl hfit hreq => ?_⟩
  · exact Wire.ofJson_toJson (Revision.fits _ hv) (Revision.ofDatum?_toDatum r)
  · exact Wire.ofJson_toJson (Modification.fits _ hv) (Modification.ofDatum?_toDatum m)
  · exact Wire.ofJson_toJson (Bucket.fits _ ht) (Bucket.ofDatum?_toDatum b)
  · exact Wire.ofJson_toJson (Flow.fits _ hv hc hm) (Flow.ofDatum?_toDatum f)
  · exact ⟨rfl, Wire.ofJson_toJson (SnapshotNumber.fits _ hv) rfl⟩
  · exact Wire.ofJson_toJson (SnapshotMeta.fits _ hv ht) (SnapshotMeta.ofDatum?_toDatum m)
  · exact Wire.ofJson_toJson (ProcessGroup.fits hg _) (ProcessGroup.ofDatum?_toDatum g)
  · exact Wire.ofJson_toJson (ParameterContext.fits _ c) (ParameterContext.ofDatum?_toDatum c)
  · exact Wire.ofJson_toJson (Parameter.fits _ p) (Parameter.ofDatum?_toDatum p)
  · exact ⟨by cases k <;> rfl,
      Wire.ofJson_toJson (BundleKind.fits _ k) (BundleKind.ofDatum?_toDatum k)⟩
  · exact Wire.ofJson_toJson (Bundle.fits _ hv hc hm) (Bundle.ofDatum?_toDatum b)
  · exact Wire.ofJson_toJson (BundleVersion.fits _ hs ht) (BundleVersion.ofDatum?_toDatum v)
  · exact key_mem_fieldsToJson hk hl hfd
  · exact ofJson_members_of_fits hk hl hfit hreq

/-- A revision at the largest 64-bit version reads back, and a snapshot number at the largest
32-bit value is written as a bare number. -/
theorem model_values_round_trip_at_largest_counters :
    Wire.ofJson (Wire.toJson (⟨"e", Nat.pow 2 64 - 1, "c"⟩ : Revision)) =
        .ok (⟨"e", Nat.pow 2 64 - 1, "c"⟩ : Revision) ∧
      Wire.toJson (⟨Nat.pow 2 32 - 1⟩ : SnapshotNumber) = .num (.nat (Nat.pow 2 32 - 1)) :=
  ⟨model_values_round_trip.1 _ (by decide), (model_values_round_trip.2.2.2.2.1 _ (by decide)).1⟩

end FlowRegistry
