import FlowRegistry.Store.Catalog
import FlowRegistry.Store.Content

/-!
# Writes of the catalog and the content store, and how they are taken back

A failed change of the registry has to give back the catalog and the content it found. This
module says what each write of those two stores leaves, in the terms in which the undo is
stated.

The content of a store is seen through `ContentStore.blob?`, the blob stored under an entity and
a version: a store on a filesystem also keeps directories and temporary files, which are no
blobs. A save writes its blob exactly when it succeeds (`ContentStore.blob?_save`), a delete that
succeeds removes one blob (`ContentStore.sets_of_delete`), and a read answers the blob, failing
with `notFound` only where there is none. `ContentStore.Sets` says that one blob changed and no
other, so a save followed by putting back what was under its key leaves every blob as it was.

The catalog is compared whole. Deleting a snapshot record that was just inserted gives back the
catalog before the insert; so does putting back the record a bundle version had before it was
uploaded again, or deleting the record of a new version.
-/

namespace FlowRegistry

/-! ### Keyed lists -/

section Keyed

variable {β : Type}

@[simp] theorem keyedGet?_nil (k : String) : keyedGet? k ([] : List (String × β)) = none := rfl

@[simp] theorem keyedGet?_cons (k k' : String) (w : β) (rest : List (String × β)) :
    keyedGet? k ((k', w) :: rest) = if k' = k then some w else keyedGet? k rest := by
  by_cases h : k' = k <;> simp [keyedGet?, h]

theorem keyedGet?_keyedSet (k k' : String) (v : β) (xs : List (String × β)) :
    keyedGet? k (keyedSet k' v xs) = if k = k' then some v else keyedGet? k xs := by
  induction xs with
  | nil => by_cases h : k = k' <;> simp [keyedSet, h, eq_comm]
  | cons x rest ih =>
    obtain ⟨k'', w⟩ := x
    by_cases same : k' = k''
    · subst same
      by_cases h : k = k' <;> simp [keyedSet, h, Ne.symm]
    · by_cases before : k' < k''
      · by_cases h : k = k' <;> simp [keyedSet, same, before, h, eq_comm]
      · -- the new key goes further down the list, past `k''`
        simp only [keyedSet, same, before, if_false, keyedGet?_cons, ih]
        by_cases h : k = k'
        · subst h
          simp [Ne.symm same]
        · simp [h]

theorem keyedGet?_keyedErase (k k' : String) (xs : List (String × β)) :
    keyedGet? k (keyedErase k' xs) = if k = k' then none else keyedGet? k xs := by
  unfold keyedGet? keyedErase
  rw [List.find?_filter]
  by_cases h : k = k'
  · subst h
    simp
  · simp only [h, if_false]
    congr 2
    funext x
    by_cases hx : x.1 = k <;> simp [hx, h]

theorem keyedGet?_getD (xs : List (String × List (String × β))) (e v : String) :
    keyedGet? v ((keyedGet? e xs).getD []) = (keyedGet? e xs).bind (keyedGet? v) := by
  cases keyedGet? e xs <;> rfl

end Keyed

/-! ### File names on a filesystem -/

theorem blobName_injective {v v' : String} (h : blobName v = blobName v') : v = v' := by
  have h' := congrArg String.toList h
  simp only [blobName, String.toList_append, List.append_cancel_right_eq] at h'
  exact String.ext h'

/-- A blob is never a temporary file: the two end differently. -/
theorem blobName_ne_draftName (v v' : String) : blobName v ≠ draftName v' := by
  intro h
  have h' := congrArg (fun s => s.toList.getLast?) h
  simp [blobName, draftName] at h'

theorem checkSegment_error {kind value : String} {err : RegistryError}
    (h : checkSegment kind value = .error err) : ∃ m, err = .invalidInput m := by
  unfold checkSegment at h
  split at h
  · cases h
    exact ⟨_, rfl⟩
  · cases h

/-! ### Blobs -/

namespace ContentStore

/-- The blob stored under an entity and a version, if any. -/
def blob? : ContentStore → String → String → Option Bytes
  | .memory m, e, v => (keyedGet? e m.entities).bind (keyedGet? v)
  | .disk d, e, v => (d.dir? e).bind (keyedGet? (blobName v))

/-- `s'` holds `o` under the entity `e` and the version `v`, and every other blob of `s`. -/
def Sets (s s' : ContentStore) (e v : String) (o : Option Bytes) : Prop :=
  ∀ e' v', s'.blob? e' v' = if e' = e ∧ v' = v then o else s.blob? e' v'

theorem Sets.trans {s₁ s₂ s₃ : ContentStore} {e v : String} {o₁ o₂ : Option Bytes}
    (h₁ : s₁.Sets s₂ e v o₁) (h₂ : s₂.Sets s₃ e v o₂) : s₁.Sets s₃ e v o₂ := by
  intro e' v'
  rw [h₂, h₁]
  split <;> rfl

/-- Putting back what was under the key leaves every blob as it was. -/
theorem Sets.blob?_eq {s s' : ContentStore} {e v : String} (h : s.Sets s' e v (s.blob? e v)) :
    s'.blob? = s.blob? := by
  funext e' v'
  rw [h]
  split
  · next hk => rw [hk.1, hk.2]
  · rfl

end ContentStore

namespace MemoryBlobs

theorem save_eq_ok {m m' : MemoryBlobs} {e v : String} {data : Bytes}
    (h : m.save e v data = .ok m') :
    checkSegment "entity id" e = .ok () ∧ checkSegment "version" v = .ok () ∧
      m' = ⟨keyedSet e (keyedSet v data ((keyedGet? e m.entities).getD [])) m.entities⟩ := by
  unfold MemoryBlobs.save at h
  rcases he : checkSegment "entity id" e with err | ⟨⟩ <;>
    rcases hv : checkSegment "version" v with err' | ⟨⟩ <;>
    simp_all [bind, Except.bind, pure, Except.pure]

end MemoryBlobs

namespace Disk

open ContentStore

theorem blobExists_ok {d : Disk} {e v : String} {b : Bool} (h : d.blobExists e v = .ok b) :
    b = (blob? (.disk d) e v).isSome := by
  unfold Disk.blobExists at h
  split at h
  · cases h
  · split at h
    · cases h
      simp [blob?, *]
    · split at h
      · cases h
      · cases h
        simp [blob?, *]

/-- A read on a filesystem answers the blob under the key, or fails; it fails with `notFound`
only where there is no blob. -/
theorem get_cases (d : Disk) (e v : String) :
    (∃ data, d.get e v = .ok data ∧ blob? (.disk d) e v = some data) ∨
    (∃ err, d.get e v = .error err ∧ ∀ msg, err = .notFound msg → blob? (.disk d) e v = none) := by
  rcases hv : checkSegment "version" v with err | ⟨⟩
  · obtain ⟨m, rfl⟩ := checkSegment_error hv
    exact .inr ⟨.invalidInput m, by simp [Disk.get, hv, bind, Except.bind], fun _ h => by cases h⟩
  rcases he : checkSegment "entity id" e with err | ⟨⟩
  · obtain ⟨m, rfl⟩ := checkSegment_error he
    exact .inr ⟨.invalidInput m, by simp [Disk.get, hv, he, bind, Except.bind], fun _ h => by cases h⟩
  by_cases hlong : tooLong e
  · exact .inr ⟨nameTooLong, by simp [Disk.get, hv, he, hlong, bind, Except.bind, throw, throwThe,
      MonadExceptOf.throw], fun _ h => by cases h⟩
  rcases hdir : d.dir? e with _ | files
  · exact .inr ⟨missingContent e v, by simp [Disk.get, hv, he, hlong, hdir, bind, Except.bind, throw,
      throwThe, MonadExceptOf.throw], fun _ _ => by simp [blob?, hdir]⟩
  by_cases hname : tooLong (blobName v)
  · exact .inr ⟨nameTooLong, by simp [Disk.get, hv, he, hlong, hdir, hname, bind, Except.bind, throw,
      throwThe, MonadExceptOf.throw], fun _ h => by cases h⟩
  rcases hfile : keyedGet? (blobName v) files with _ | data
  · exact .inr ⟨missingContent e v, by simp [Disk.get, hv, he, hlong, hdir, hname, hfile, bind,
      Except.bind, throw, throwThe, MonadExceptOf.throw], fun _ _ => by simp [blob?, hdir, hfile]⟩
  · exact .inl ⟨data, by simp [Disk.get, hv, he, hlong, hdir, hname, hfile, bind, Except.bind, pure,
      Except.pure], by simp [blob?, hdir, hfile]⟩

/-- What a save on a filesystem needs: keys that stay in their directory, and names that fit. -/
theorem save_isOk {d : Disk} {e v : String} {data : Bytes} (h : (d.save e v data).1.isOk) :
    (checkSegment "version" v *> checkSegment "entity id" e) = .ok () ∧ tooLong e = false ∧
      tooLong (draftName v) = false ∧ tooLong (blobName v) = false := by
  unfold Disk.save at h
  split at h
  · simp [Except.isOk, Except.toBool] at h
  · rename_i hseg
    refine ⟨hseg, ?_⟩
    by_cases hlong : tooLong e <;> by_cases hdraft : tooLong (draftName v) <;>
      by_cases hblob : tooLong (blobName v) <;>
      simp_all [Except.isOk, Except.toBool]

theorem save_of_keys {d : Disk} {e v : String} (data : Bytes)
    (hseg : (checkSegment "version" v *> checkSegment "entity id" e) = .ok ())
    (hlong : tooLong e = false) (hdraft : tooLong (draftName v) = false)
    (hblob : tooLong (blobName v) = false) : (d.save e v data).1.isOk := by
  simp [Disk.save, hseg, hlong, hdraft, hblob, Except.isOk, Except.toBool]

theorem delete_of_keys (d : Disk) {e v : String}
    (hseg : (checkSegment "version" v *> checkSegment "entity id" e) = .ok ())
    (hlong : tooLong e = false) (hblob : tooLong (blobName v) = false) :
    ∃ d', d.delete e v = .ok d' := by
  rcases hv : checkSegment "version" v with err | ⟨⟩
  · simp [hv, SeqRight.seqRight, Except.bind] at hseg
  rcases he : checkSegment "entity id" e with err | ⟨⟩
  · simp [hv, he, SeqRight.seqRight, Except.bind] at hseg
  have hexists : ∃ b, d.blobExists e v = .ok b := by
    unfold Disk.blobExists
    cases d.dir? e <;> simp [hlong, hblob]
  obtain ⟨b, hb⟩ := hexists
  cases b <;> simp [Disk.delete, hv, he, hb, bind, Except.bind, pure, Except.pure]

end Disk

namespace ContentStore

/-- A save writes its blob exactly when it succeeds; a failed save on a filesystem may leave a
directory or a temporary file, but no blob. -/
theorem blob?_save (s : ContentStore) (e v : String) (data : Bytes) (e' v' : String) :
    (s.save e v data).2.blob? e' v' =
      if (s.save e v data).1.isOk ∧ e' = e ∧ v' = v then some data else s.blob? e' v' := by
  cases s with
  | memory m =>
    obtain ⟨err, hsave⟩ | ⟨m', hsave⟩ :
        (∃ err, m.save e v data = .error err) ∨ ∃ m', m.save e v data = .ok m' := by
      cases m.save e v data <;> simp
    · simp [save, hsave, Except.isOk, Except.toBool]
    · obtain ⟨-, -, rfl⟩ := MemoryBlobs.save_eq_ok hsave
      simp only [save, hsave, blob?, keyedGet?_keyedSet, Except.isOk, Except.toBool, true_and]
      by_cases he : e' = e
      · subst he
        by_cases hv : v' = v <;> simp [hv, keyedGet?_keyedSet, keyedGet?_getD]
      · simp [he]
  | disk d =>
    simp only [save, Disk.save]
    split
    · simp [Except.isOk, Except.toBool]
    · by_cases hlong : tooLong e
      · simp [hlong, Except.isOk, Except.toBool]
      · -- the directory is made first, then the temporary file, then the blob
        by_cases hdraft : tooLong (draftName v)
        · by_cases he : e' = e <;>
            simp [hlong, hdraft, he, blob?, Disk.dir?, keyedGet?_keyedSet, keyedGet?_getD,
              Except.isOk, Except.toBool]
        · by_cases hblob : tooLong (blobName v)
          · by_cases he : e' = e <;>
              simp [hlong, hdraft, hblob, he, blob?, Disk.dir?, keyedGet?_keyedSet,
                keyedGet?_getD, blobName_ne_draftName, Except.isOk, Except.toBool]
          · by_cases he : e' = e
            · have hname : blobName v' = blobName v ↔ v' = v :=
                ⟨blobName_injective, fun h => h ▸ rfl⟩
              simp [hlong, hdraft, hblob, he, hname, blob?, Disk.dir?, keyedGet?_keyedSet,
                keyedGet?_keyedErase, keyedGet?_getD, blobName_ne_draftName, Except.isOk,
                Except.toBool]
            · simp [hlong, hdraft, hblob, he, blob?, Disk.dir?, keyedGet?_keyedSet,
                Except.isOk, Except.toBool]

theorem sets_of_save {s : ContentStore} {e v : String} {data : Bytes}
    (h : (s.save e v data).1.isOk) : s.Sets (s.save e v data).2 e v (some data) := by
  intro e' v'
  rw [blob?_save]
  simp [h]

theorem blob?_save_of_error {s : ContentStore} {e v : String} {data : Bytes}
    (h : (s.save e v data).1.isOk = false) : (s.save e v data).2.blob? = s.blob? := by
  funext e' v'
  rw [blob?_save]
  simp [h]

/-- A delete that succeeds removes one blob and keeps all others. -/
theorem sets_of_delete {s s' : ContentStore} {e v : String} (h : s.delete e v = .ok s') :
    s.Sets s' e v none := by
  cases s with
  | memory m =>
    simp only [delete, Except.ok.injEq] at h
    subst h
    intro e' v'
    simp only [MemoryBlobs.delete]
    rcases hversions : keyedGet? e m.entities with _ | versions
    · by_cases he : e' = e
      · subst he
        simp [blob?, hversions]
      · simp [he]
    · -- the entity's last version takes the entity with it
      by_cases hempty : (keyedErase v versions).isEmpty
      · by_cases he : e' = e
        · subst he
          have hnil : keyedErase v versions = [] := List.isEmpty_iff.1 hempty
          by_cases hv : v' = v
          · simp [hempty, blob?, keyedGet?_keyedErase, hv]
          · have hnone : keyedGet? v' versions = none := by
              have := keyedGet?_keyedErase v' v versions
              rw [hnil, if_neg hv] at this
              exact this.symm
            simp [hempty, blob?, keyedGet?_keyedErase, hv, hversions, hnone]
        · simp [hempty, blob?, keyedGet?_keyedErase, he]
      · by_cases he : e' = e
        · subst he
          by_cases hv : v' = v <;>
            simp [hempty, blob?, keyedGet?_keyedSet, keyedGet?_keyedErase, hv, hversions]
        · simp [hempty, blob?, keyedGet?_keyedSet, he]
  | disk d =>
    obtain ⟨d', hd, rfl⟩ : ∃ d', d.delete e v = .ok d' ∧ s' = .disk d' := by
      simp only [delete] at h
      cases hd : d.delete e v <;> simp_all [Functor.map, Except.map]
    intro e' v'
    rcases hv : checkSegment "version" v with err | ⟨⟩ <;>
      rcases he : checkSegment "entity id" e with err' | ⟨⟩ <;>
      rcases hb : d.blobExists e v with err'' | b <;>
      simp [Disk.delete, hv, he, hb, bind, Except.bind] at hd
    have hexists := Disk.blobExists_ok hb
    cases b
    · simp only [Bool.false_eq_true, if_false, pure, Except.pure, Except.ok.injEq] at hd
      subst hd
      by_cases hk : e' = e ∧ v' = v
      · obtain ⟨rfl, rfl⟩ := hk
        simpa using hexists.symm
      · simp [hk]
    · simp only [if_true, pure, Except.pure, Except.ok.injEq] at hd
      subst hd
      by_cases he' : e' = e
      · subst he'
        have hname : blobName v' = blobName v ↔ v' = v := ⟨blobName_injective, fun h => h ▸ rfl⟩
        by_cases hv' : v' = v <;>
          simp [blob?, Disk.dir?, keyedGet?_keyedSet, keyedGet?_keyedErase, keyedGet?_getD, hv',
            hname]
      · simp [blob?, Disk.dir?, keyedGet?_keyedSet, he']

theorem blob?_of_get_ok {s : ContentStore} {e v : String} {data : Bytes}
    (h : s.get e v = .ok data) : s.blob? e v = some data := by
  cases s with
  | memory m =>
    simp only [get, MemoryBlobs.get] at h
    split at h
    · cases h
      assumption
    · cases h
  | disk d =>
    rcases Disk.get_cases d e v with ⟨data', hget, hblob⟩ | ⟨err, hget, -⟩
    · simp only [get, hget, Except.ok.injEq] at h
      rw [hblob, h]
    · simp [get, hget] at h

theorem blob?_of_get_notFound {s : ContentStore} {e v msg : String}
    (h : s.get e v = .error (.notFound msg)) : s.blob? e v = none := by
  cases s with
  | memory m =>
    simp only [get, MemoryBlobs.get] at h
    split at h
    · cases h
    · assumption
  | disk d =>
    rcases Disk.get_cases d e v with ⟨data', hget, -⟩ | ⟨err, hget, hblob⟩
    · simp [get, hget] at h
    · simp only [get, hget, Except.error.injEq] at h
      exact hblob msg h

/-- A save that succeeded succeeds again, with any data, on the store it left. -/
theorem save_again {s : ContentStore} {e v : String} {data : Bytes}
    (h : (s.save e v data).1.isOk) (data' : Bytes) : ((s.save e v data).2.save e v data').1.isOk := by
  cases s with
  | memory m =>
    obtain ⟨err, hsave⟩ | ⟨m', hsave⟩ :
        (∃ err, m.save e v data = .error err) ∨ ∃ m', m.save e v data = .ok m' := by
      cases m.save e v data <;> simp
    · simp [save, hsave, Except.isOk, Except.toBool] at h
    · obtain ⟨he, hv, -⟩ := MemoryBlobs.save_eq_ok hsave
      simp [save, MemoryBlobs.save, he, hv, bind, Except.bind, pure, Except.pure, Except.isOk,
        Except.toBool]
  | disk d =>
    obtain ⟨hseg, hlong, hdraft, hblob⟩ := Disk.save_isOk h
    exact Disk.save_of_keys data' hseg hlong hdraft hblob

/-- A store takes a key when a save under it succeeds whatever the data: the key passes the
checks of the store's kind. -/
def Takes (s : ContentStore) (e v : String) : Prop := ∀ data, (s.save e v data).1.isOk

theorem takes_save {s : ContentStore} {e v : String} {data : Bytes}
    (h : (s.save e v data).1.isOk) : (s.save e v data).2.Takes e v :=
  save_again h

/-- Whether a key is taken depends on the kind of the store only, not on what it holds. -/
theorem Takes.of_name {s s' : ContentStore} {e v : String} (h : s.Takes e v)
    (hname : s'.name = s.name) : s'.Takes e v := by
  intro data
  cases s with
  | memory m =>
    cases s' with
    | memory m' =>
      obtain ⟨err, hsave⟩ | ⟨m'', hsave⟩ :
          (∃ err, m.save e v data = .error err) ∨ ∃ m'', m.save e v data = .ok m'' := by
        cases m.save e v data <;> simp
      · have := h data
        simp [save, hsave, Except.isOk, Except.toBool] at this
      · obtain ⟨he, hv, -⟩ := MemoryBlobs.save_eq_ok hsave
        simp [save, MemoryBlobs.save, he, hv, bind, Except.bind, pure, Except.pure, Except.isOk,
          Except.toBool]
    | disk d' => simp [name] at hname
  | disk d =>
    cases s' with
    | memory m' => simp [name] at hname
    | disk d' =>
      obtain ⟨hseg, hlong, hdraft, hblob⟩ := Disk.save_isOk (h data)
      exact Disk.save_of_keys data hseg hlong hdraft hblob

/-- Where a store takes a key, a read under it answers the blob held there. -/
theorem get_of_takes {s : ContentStore} {e v : String} {data : Bytes} (h : s.Takes e v)
    (hblob : s.blob? e v = some data) : s.get e v = .ok data := by
  cases s with
  | memory m =>
    simp only [blob?] at hblob
    simp [get, MemoryBlobs.get, hblob]
  | disk d =>
    obtain ⟨hseg, hlong, -, hname⟩ := Disk.save_isOk (h data)
    rcases hv : checkSegment "version" v with err | ⟨⟩
    · simp [hv, SeqRight.seqRight, Except.bind] at hseg
    rcases he : checkSegment "entity id" e with err | ⟨⟩
    · simp [hv, he, SeqRight.seqRight, Except.bind] at hseg
    rcases hdir : d.dir? e with _ | files
    · simp [blob?, hdir] at hblob
    · simp only [blob?, hdir, Option.bind_some] at hblob
      simp [get, Disk.get, hv, he, hlong, hdir, hname, hblob, bind, Except.bind, pure, Except.pure]

/-- The key of a save that succeeded can be deleted from the store it left. -/
theorem delete_after_save {s : ContentStore} {e v : String} {data : Bytes}
    (h : (s.save e v data).1.isOk) : ∃ t, (s.save e v data).2.delete e v = .ok t := by
  cases s with
  | memory m =>
    obtain ⟨err, hsave⟩ | ⟨m', hsave⟩ :
        (∃ err, m.save e v data = .error err) ∨ ∃ m', m.save e v data = .ok m' := by
      cases m.save e v data <;> simp
    · simp [save, hsave, Except.isOk, Except.toBool] at h
    · simp [save, hsave, delete]
  | disk d =>
    obtain ⟨hseg, hlong, -, hblob⟩ := Disk.save_isOk h
    obtain ⟨d', hdelete⟩ := Disk.delete_of_keys ((d.save e v data).2) hseg hlong hblob
    exact ⟨.disk d', by simp [save, delete, hdelete, Functor.map, Except.map]⟩

end ContentStore

/-! ### Undoing writes of the catalog -/

namespace Catalog

theorem filter_insertSnapshotSorted {p : SnapshotMeta → Bool} {m : SnapshotMeta}
    (hm : p m = false) (l : List SnapshotMeta) :
    (insertSnapshotSorted m l).filter p = l.filter p := by
  induction l with
  | nil => simp [insertSnapshotSorted, hm]
  | cons s rest ih =>
    unfold insertSnapshotSorted
    split
    · simp [hm]
    · by_cases hs : p s <;> simp [hs, ih]

/-- Deleting the snapshot record that was just inserted gives back the catalog before the
insert. -/
theorem deleteSnapshotVersion_insertSnapshot {c c' : Catalog} {m : SnapshotMeta}
    (h : c.insertSnapshot m = .ok c') :
    (c'.deleteSnapshotVersion m.flowIdentifier m.version).2 = c := by
  unfold insertSnapshot at h
  split at h
  · cases h
  split at h
  · cases h
  rename_i hfresh
  cases h
  have habsent : ∀ s ∈ c.snapshots,
      (!(s.flowIdentifier == m.flowIdentifier && s.version == m.version)) = true := by
    intro s hs
    have hnone : c.fetchSnapshot m.flowIdentifier m.version = none := by simpa using hfresh
    simp only [fetchSnapshot, listSnapshots, List.find?_filter, List.find?_eq_none] at hnone
    simpa [Decidable.imp_iff_not_or] using hnone s hs
  simp only [deleteSnapshotVersion]
  rw [filter_insertSnapshotSorted (by simp), List.filter_eq_self.2 habsent]

theorem replaceOrAppend_replaceOrAppend {v v' : BundleVersion}
    (hb : v'.bundleIdentifier = v.bundleIdentifier) (hv : v'.version = v.version)
    (l : List BundleVersion) : replaceOrAppend v (replaceOrAppend v' l) = replaceOrAppend v l := by
  induction l with
  | nil => simp [replaceOrAppend, hb, hv]
  | cons w rest ih =>
    by_cases hw : w.bundleIdentifier == v.bundleIdentifier && w.version == v.version
    · simp [replaceOrAppend, hw, hb, hv]
    · have hw' : (w.bundleIdentifier == v'.bundleIdentifier && w.version == v'.version) = false := by
        simpa [hb, hv] using hw
      simp [replaceOrAppend, hw, hw', ih]

theorem replaceOrAppend_of_find? {v : BundleVersion} {l : List BundleVersion}
    (h : l.find? (fun w => w.bundleIdentifier == v.bundleIdentifier && w.version == v.version) =
      some v) : replaceOrAppend v l = l := by
  induction l with
  | nil => cases h
  | cons w rest ih =>
    by_cases hw : (w.bundleIdentifier == v.bundleIdentifier && w.version == v.version) = true
    · simp only [List.find?_cons, hw, Option.some.injEq] at h
      subst h
      simp [replaceOrAppend]
    · simp only [List.find?_cons, hw] at h
      simp [replaceOrAppend, hw, ih h]

theorem filter_replaceOrAppend {v : BundleVersion} {l : List BundleVersion}
    (h : ∀ w ∈ l, (!(w.bundleIdentifier == v.bundleIdentifier && w.version == v.version)) = true) :
    (replaceOrAppend v l).filter
      (fun w => !(w.bundleIdentifier == v.bundleIdentifier && w.version == v.version)) = l := by
  induction l with
  | nil => simp [replaceOrAppend]
  | cons w rest ih =>
    have hkeep : (w.bundleIdentifier == v.bundleIdentifier && w.version == v.version) = false := by
      simpa [Decidable.imp_iff_not_or] using h w (by simp)
    simp only [replaceOrAppend, hkeep, Bool.false_eq_true, if_false, List.filter_cons, Bool.not_false,
      if_true]
    rw [ih (fun x hx => h x (List.mem_cons_of_mem _ hx))]

theorem find?_of_fetchBundleVersion {c : Catalog} {b : Uuid} {ver : String} {prior : BundleVersion}
    (h : c.fetchBundleVersion b ver = some prior) :
    prior.bundleIdentifier = b ∧ prior.version = ver ∧
      c.bundleVersions.find? (fun w => w.bundleIdentifier == prior.bundleIdentifier &&
        w.version == prior.version) = some prior := by
  simp only [fetchBundleVersion, listBundleVersions, List.find?_filter, Bool.decide_and,
    Bool.decide_eq_true] at h
  obtain ⟨hb, hv⟩ : prior.bundleIdentifier = b ∧ prior.version = ver := by
    simpa using List.find?_some h
  subst hb hv
  exact ⟨rfl, rfl, h⟩

theorem absent_of_fetchBundleVersion {c : Catalog} {b : Uuid} {ver : String}
    (h : c.fetchBundleVersion b ver = none) :
    ∀ w ∈ c.bundleVersions, (!(w.bundleIdentifier == b && w.version == ver)) = true := by
  simp only [fetchBundleVersion, listBundleVersions, List.find?_filter, List.find?_eq_none] at h
  intro w hw
  simpa [Decidable.imp_iff_not_or] using h w hw

/-- Putting back the record a version has leaves the catalog as it is. -/
theorem putBundleVersion_of_fetch {c : Catalog} {b : Uuid} {ver : String} {prior : BundleVersion}
    (hb : (c.fetchBundle b).isSome) (h : c.fetchBundleVersion b ver = some prior) :
    c.putBundleVersion prior = .ok c := by
  obtain ⟨rfl, -, hfind⟩ := find?_of_fetchBundleVersion h
  simp [putBundleVersion, Option.isSome_iff_ne_none.mp hb, replaceOrAppend_of_find? hfind]

/-- A record put over another of the same version is forgotten by the next put. -/
theorem putBundleVersion_after_put {c c' : Catalog} {record prior : BundleVersion}
    (hb : record.bundleIdentifier = prior.bundleIdentifier) (hv : record.version = prior.version)
    (h : c.putBundleVersion record = .ok c') : c'.putBundleVersion prior = c.putBundleVersion prior := by
  unfold putBundleVersion at h
  split at h
  · cases h
  · cases h
    simp [putBundleVersion, fetchBundle, replaceOrAppend_replaceOrAppend hb hv]

theorem deleteBundleVersion_of_absent {c : Catalog} {b : Uuid} {ver : String}
    (h : c.fetchBundleVersion b ver = none) : (c.deleteBundleVersion b ver).2 = c := by
  simp only [deleteBundleVersion]
  rw [List.filter_eq_self.2 (absent_of_fetchBundleVersion h)]

/-- Deleting the record of a new version that was just put gives back the catalog before the
put. -/
theorem deleteBundleVersion_after_put {c c' : Catalog} {record : BundleVersion}
    (h : c.fetchBundleVersion record.bundleIdentifier record.version = none)
    (hput : c.putBundleVersion record = .ok c') :
    (c'.deleteBundleVersion record.bundleIdentifier record.version).2 = c := by
  unfold putBundleVersion at hput
  split at hput
  · cases hput
  · cases hput
    simp only [deleteBundleVersion]
    rw [filter_replaceOrAppend (absent_of_fetchBundleVersion h)]

/-- Puts back the record a version had before an upload: the earlier record, or none. -/
def putBack (c : Catalog) (b : Uuid) (ver : String) : Option BundleVersion → Outcome Catalog
  | some prior => c.putBundleVersion prior
  | none => .ok (c.deleteBundleVersion b ver).2

/-- Putting back the record a version has changes nothing. -/
theorem putBack_fetch {c : Catalog} {b : Uuid} {ver : String} (hb : (c.fetchBundle b).isSome) :
    c.putBack b ver (c.fetchBundleVersion b ver) = .ok c := by
  cases h : c.fetchBundleVersion b ver with
  | some prior => exact putBundleVersion_of_fetch hb h
  | none => exact congrArg Except.ok (deleteBundleVersion_of_absent h)

/-- After a record of the version is put, putting back the one before gives the catalog before. -/
theorem putBack_after_put {c c' : Catalog} {record : BundleVersion}
    (hput : c.putBundleVersion record = .ok c') :
    c'.putBack record.bundleIdentifier record.version
      (c.fetchBundleVersion record.bundleIdentifier record.version) = .ok c := by
  have hb : (c.fetchBundle record.bundleIdentifier).isSome := by
    unfold putBundleVersion at hput
    split at hput
    · cases hput
    · next hsome => exact Option.isSome_iff_ne_none.2 (by simpa using hsome)
  cases h : c.fetchBundleVersion record.bundleIdentifier record.version with
  | some prior =>
    obtain ⟨hpb, hpv, -⟩ := find?_of_fetchBundleVersion h
    rw [putBack, putBundleVersion_after_put hpb.symm hpv.symm hput]
    exact putBundleVersion_of_fetch hb h
  | none => exact congrArg Except.ok (deleteBundleVersion_after_put h hput)

end Catalog

end FlowRegistry
