import FlowRegistry.Proofs.Keys
import FlowRegistry.Proofs.VersionOrder
import Mathlib.Data.List.Forall2
import Mathlib.Data.List.Nodup

/-!
# The two content stores as one map from keys to bytes

Both content stores answer a sequence of calls as a map from an entity and a version to bytes
(`BlobMap`) answers it, when every entity id and version of the calls is a key the stores accept
and names no file longer than a directory entry can be (`ContentCall.fits`): a read answers the
bytes of the last save of the key not removed since, and `notFound` where there is none; saves
and deletes succeed, also a delete of a key that holds nothing; and a listing answers the
versions that hold bytes, each once, in version order. So the two stores answer every such
sequence alike, up to the order in which a listing gives versions that read as the same number
(`1`, `01` and `+1`): `content_stores_answer_as_one_map`.

The view that carries the proof is `ContentStore.blob?`, and each store keeps an invariant
(`ContentStore.Tidy`): every list of keys in increasing order, and on a filesystem nothing in an
entity's directory but blobs, since a save whose names fit renames its temporary file.
-/

namespace FlowRegistry

/-! ### Calls, answers and keys that fit -/

/-- A call of a content store. -/
inductive ContentCall where
  | save (e v : String) (data : Bytes)
  | get (e v : String)
  | delete (e v : String)
  | deleteAll (e : String)
  | list (e : String)

/-- What a content store answers to a call. -/
inductive ContentReply where
  | unit (r : Outcome Unit)
  | bytes (r : Outcome Bytes)
  | versions (r : Outcome (List String))

/-- An entity id that the stores accept, and that names a directory that can exist. -/
def entityFits (e : String) : Bool := (checkSegment "entity id" e).isOk && !tooLong e

/-- A version that the stores accept, and whose blob names a file that can exist. -/
def versionFits (v : String) : Bool := (checkSegment "version" v).isOk && !tooLong (blobName v)

/-- Every key of the call fits. -/
def ContentCall.fits : ContentCall → Bool
  | .save e v _ | .get e v | .delete e v => entityFits e && versionFits v
  | .deleteAll e | .list e => entityFits e

theorem checkSegment_eq_ok {kind value : String} (h : (checkSegment kind value).isOk = true) :
    checkSegment kind value = .ok () := by
  rcases hc : checkSegment kind value with err | ⟨⟩
  · simp [hc, Except.isOk, Except.toBool] at h
  · rfl

theorem entityFits_eq_true {e : String} (h : entityFits e = true) :
    checkSegment "entity id" e = .ok () ∧ tooLong e = false := by
  simp only [entityFits, Bool.and_eq_true, Bool.not_eq_eq_eq_not, Bool.not_true] at h
  exact ⟨checkSegment_eq_ok h.1, h.2⟩

theorem versionFits_eq_true {v : String} (h : versionFits v = true) :
    checkSegment "version" v = .ok () ∧ tooLong (blobName v) = false := by
  simp only [versionFits, Bool.and_eq_true, Bool.not_eq_eq_eq_not, Bool.not_true] at h
  exact ⟨checkSegment_eq_ok h.1, h.2⟩

/-- The temporary file of a version is shorter than its blob. -/
theorem tooLong_draftName {v : String} (h : tooLong (blobName v) = false) :
    tooLong (draftName v) = false := by
  simp only [tooLong, nameMax, blobName, draftName, String.utf8ByteSize_append,
    decide_eq_false_iff_not, Nat.not_lt] at h ⊢
  have : ".tmp".utf8ByteSize ≤ ".snapshot".utf8ByteSize := by decide
  omega

/-! ### The map -/

/-- Bytes by entity and version. -/
abbrev BlobMap := String → String → Option Bytes

namespace BlobMap

/-- The map with no bytes. -/
def empty : BlobMap := fun _ _ => none

/-- The map after a call. -/
def apply (m : BlobMap) : ContentCall → BlobMap
  | .save e v data => fun e' v' => if e' = e ∧ v' = v then some data else m e' v'
  | .delete e v => fun e' v' => if e' = e ∧ v' = v then none else m e' v'
  | .deleteAll e => fun e' v' => if e' = e then none else m e' v'
  | .get .. | .list _ => m

/-- The answer to a read. -/
def read (m : BlobMap) (e v : String) : Outcome Bytes :=
  match m e v with
  | some data => .ok data
  | none => .error (missingContent e v)

/-- `vs` lists the versions of `e` that hold bytes, each once, in version order. -/
def Lists (m : BlobMap) (e : String) (vs : List String) : Prop :=
  vs.Nodup ∧ (∀ v, v ∈ vs ↔ (m e v).isSome) ∧ vs.Pairwise (versionLe · ·)

/-- What the map answers to a call. -/
def Answers (m : BlobMap) : ContentCall → ContentReply → Prop
  | .save .., r | .delete .., r | .deleteAll _, r => r = .unit (.ok ())
  | .get e v, r => r = .bytes (m.read e v)
  | .list e, r => ∃ vs, r = .versions (.ok vs) ∧ m.Lists e vs

/-- The answers to a sequence of calls are the map's, each call changing the map. -/
def Conforms : BlobMap → List ContentCall → List ContentReply → Prop
  | _, [], [] => True
  | m, c :: cs, r :: rs => m.Answers c r ∧ (m.apply c).Conforms cs rs
  | _, _, _ => False

end BlobMap

/-! ### Version order -/

/-- Where a version stands in version order: its number, if it reads as one, else its text. -/
def versionRank (v : String) : Nat ⊕ String :=
  match versionNumber? v with
  | some n => .inl n
  | none => .inr v

/-- The order of ranks: numbers by value before texts in text order. -/
def RankLe : Nat ⊕ String → Nat ⊕ String → Prop
  | .inl x, .inl y => x ≤ y
  | .inl _, .inr _ => True
  | .inr _, .inl _ => False
  | .inr a, .inr b => a ≤ b

theorem versionLe_iff (a b : String) : versionLe a b = true ↔ RankLe (versionRank a) (versionRank b) := by
  unfold versionLe versionOrder versionRank
  cases versionNumber? a <;> cases versionNumber? b <;>
    simp [RankLe, Nat.isLE_compare, string_isLE_compare]

theorem RankLe.antisymm {x y : Nat ⊕ String} (hxy : RankLe x y) (hyx : RankLe y x) : x = y := by
  cases x <;> cases y <;> simp only [RankLe] at hxy hyx
  · rw [Nat.le_antisymm hxy hyx]
  · rw [String.le_antisymm hxy hyx]

/-- Listing order: the versions, each once, ordered by version order. -/
theorem sortVersions_spec {vs : List String} (h : vs.Nodup) :
    (sortVersions vs).Nodup ∧ (∀ v, v ∈ sortVersions vs ↔ v ∈ vs) ∧
      (sortVersions vs).Pairwise (versionLe · ·) := by
  have hperm := List.mergeSort_perm vs versionLe
  exact ⟨hperm.nodup_iff.2 h, fun v => hperm.mem_iff, pairwise_mergeSort_isLE vs⟩

/-- Two listings of one set of versions in version order differ at most in the order of versions
of one rank, that is versions that read as the same number. -/
theorem BlobMap.Lists.ranks {m : BlobMap} {e : String} {vs vs' : List String} (h : m.Lists e vs)
    (h' : m.Lists e vs') : vs.Perm vs' ∧ vs.map versionRank = vs'.map versionRank := by
  have hperm : vs.Perm vs' :=
    (List.perm_ext_iff_of_nodup h.1 h'.1).2 fun v => (h.2.1 v).trans (h'.2.1 v).symm
  have sorted : ∀ {l : List String}, l.Pairwise (versionLe · ·) → (l.map versionRank).Pairwise RankLe :=
    fun hl => hl.map _ fun a b hab => (versionLe_iff a b).1 hab
  exact ⟨hperm, (hperm.map versionRank).eq_of_pairwise (fun _ _ _ _ => RankLe.antisymm)
    (sorted h.2.2) (sorted h'.2.2)⟩

/-! ### Keys in increasing order -/

section Keyed

variable {β : Type}

/-- The keys of a keyed list, in increasing order. -/
def Ascending (xs : List (String × β)) : Prop := (xs.map (·.1)).Pairwise (· < ·)

theorem mem_keyedSet {k : String} {v : β} {xs : List (String × β)} {p : String × β}
    (h : p ∈ keyedSet k v xs) : p = (k, v) ∨ p ∈ xs := by
  induction xs with
  | nil => simpa [keyedSet] using h
  | cons q rest ih =>
    obtain ⟨k', w⟩ := q
    unfold keyedSet at h
    split at h
    · exact (List.mem_cons.1 h).imp_right (List.mem_cons_of_mem _)
    · split at h
      · exact (List.mem_cons.1 h).imp_right id
      · rcases List.mem_cons.1 h with rfl | h
        · exact .inr List.mem_cons_self
        · exact (ih h).imp_right (List.mem_cons_of_mem _)

theorem mem_keys_iff {k : String} {xs : List (String × β)} :
    k ∈ xs.map (·.1) ↔ (keyedGet? k xs).isSome := by
  simp [keyedGet?, List.find?_isSome]

theorem ascending_cons {k : String} {w : β} {rest : List (String × β)} :
    Ascending ((k, w) :: rest) ↔ (∀ p ∈ rest, k < p.1) ∧ Ascending rest := by
  simp [Ascending, List.pairwise_cons]

theorem Ascending.nodup {xs : List (String × β)} (h : Ascending xs) : (xs.map (·.1)).Nodup :=
  h.imp fun hlt => String.ne_of_lt hlt

theorem Ascending.keyedErase {xs : List (String × β)} (h : Ascending xs) (k : String) :
    Ascending (keyedErase k xs) :=
  h.sublist ((List.filter_sublist (l := xs)).map _)

theorem Ascending.keyedSet {xs : List (String × β)} (h : Ascending xs) (k : String) (v : β) :
    Ascending (FlowRegistry.keyedSet k v xs) := by
  induction xs with
  | nil => simp [FlowRegistry.keyedSet, Ascending]
  | cons q rest ih =>
    obtain ⟨k', w⟩ := q
    obtain ⟨hhead, htail⟩ := ascending_cons.1 h
    unfold FlowRegistry.keyedSet
    split
    · next hk =>
      subst hk
      exact ascending_cons.2 ⟨hhead, htail⟩
    · split
      · next hlt =>
        refine ascending_cons.2 ⟨?_, h⟩
        rintro p (_ | ⟨_, hp⟩)
        · exact hlt
        · exact String.lt_trans hlt (hhead p hp)
      · next hne hnlt =>
        have hgt : k' < k := String.not_le.1 fun hle =>
          hne (String.le_antisymm hle (String.not_lt.1 hnlt))
        refine ascending_cons.2 ⟨fun p hp => ?_, ih htail⟩
        rcases mem_keyedSet hp with rfl | hp
        · exact hgt
        · exact hhead p hp

end Keyed

/-! ### What each store keeps -/

/-- The directory of an entity on a filesystem holds blobs only. -/
def BlobsOnly (files : List (String × Bytes)) : Prop := ∀ p ∈ files, ∃ v, p.1 = blobName v

/-- A store keeps every list of keys in increasing order, and a store on a filesystem keeps
nothing but blobs in an entity's directory. -/
def ContentStore.Tidy : ContentStore → Prop
  | .memory m => ∀ e versions, keyedGet? e m.entities = some versions → Ascending versions
  | .disk d => ∀ e files, d.dir? e = some files → Ascending files ∧ BlobsOnly files

theorem stem_blobName (v : String) : ((blobName v).dropEnd 9).toString = v := by
  apply String.ext
  simp [blobName, String.toList_copy_dropEnd]

theorem endsWith_blobName (v : String) : (blobName v).endsWith ".snapshot" = true := by
  rw [blobName, ← String.endsWith_toSlice, String.Slice.endsWith_string_iff]
  simp

/-- The versions whose blobs a directory of blobs only holds, in the order of their files. -/
theorem filterMap_stems {files : List (String × Bytes)} (h : BlobsOnly files) :
    files.filterMap (fun (name, _) =>
        if name.endsWith ".snapshot" then some (name.dropEnd 9).toString else none) =
      files.map fun p => (p.1.dropEnd 9).toString := by
  induction files with
  | nil => rfl
  | cons p rest ih =>
    obtain ⟨v, hv⟩ := h p List.mem_cons_self
    rcases p with ⟨name, data⟩
    dsimp only at hv
    subst hv
    simp only [List.filterMap_cons, List.map_cons, endsWith_blobName, ↓reduceIte,
      ih fun q hq => h q (List.mem_cons_of_mem _ hq)]

/-- The versions of a directory of blobs only, in increasing order of their files: each once,
and exactly those whose blob it holds. -/
theorem stems_spec {files : List (String × Bytes)} (hasc : Ascending files) (honly : BlobsOnly files) :
    (files.map fun p => (p.1.dropEnd 9).toString).Nodup ∧
      ∀ v, v ∈ files.map (fun p => (p.1.dropEnd 9).toString) ↔
        (keyedGet? (blobName v) files).isSome := by
  have hname : ∀ n ∈ files.map (·.1), blobName (n.dropEnd 9).toString = n := fun n hn => by
    obtain ⟨p, hp, rfl⟩ := List.mem_map.1 hn
    obtain ⟨v, hv⟩ := honly p hp
    rw [hv, stem_blobName]
  have hstems : (files.map fun p => (p.1.dropEnd 9).toString) =
      (files.map (·.1)).map fun n => (n.dropEnd 9).toString := by
    rw [List.map_map]
    rfl
  rw [hstems]
  refine ⟨List.Nodup.map_on (fun a ha b hb hab => ?_) hasc.nodup, fun v => ?_⟩
  · rw [← hname a ha, ← hname b hb, hab]
  · rw [← mem_keys_iff]
    constructor
    · intro hv
      obtain ⟨n, hn, rfl⟩ := List.mem_map.1 hv
      rwa [hname n hn]
    · intro hv
      exact List.mem_map.2 ⟨blobName v, hv, stem_blobName v⟩

namespace ContentStore

/-- Nothing is stored at first. -/
theorem tidy_memory_empty : (ContentStore.memory ⟨[]⟩).Tidy := fun _ _ h => by cases h

theorem tidy_disk_empty (root : Bool) : (ContentStore.disk ⟨root, []⟩).Tidy := fun _ _ h => by
  cases h

theorem blob?_memory_empty : (ContentStore.memory ⟨[]⟩).blob? = BlobMap.empty := rfl

theorem blob?_disk_empty (root : Bool) : (ContentStore.disk ⟨root, []⟩).blob? = BlobMap.empty := rfl

end ContentStore

/-! ### Each call on keys that fit -/

namespace ContentStore

variable {s : ContentStore} {e v : String}

theorem save_of_fits (he : entityFits e = true) (hv : versionFits v = true) (data : Bytes) :
    (s.save e v data).1 = .ok () := by
  obtain ⟨hseg, hlong⟩ := entityFits_eq_true he
  obtain ⟨hvseg, hblob⟩ := versionFits_eq_true hv
  cases s with
  | memory m => simp [save, MemoryBlobs.save, hseg, hvseg, bind, Except.bind, pure, Except.pure]
  | disk d =>
    simp [save, Disk.save, hseg, hvseg, hlong, hblob, tooLong_draftName hblob, SeqRight.seqRight,
      Except.bind]

theorem tidy_save (ht : s.Tidy) (he : entityFits e = true) (hv : versionFits v = true)
    (data : Bytes) : (s.save e v data).2.Tidy := by
  obtain ⟨hseg, hlong⟩ := entityFits_eq_true he
  obtain ⟨hvseg, hblob⟩ := versionFits_eq_true hv
  cases s with
  | memory m =>
    simp only [save, MemoryBlobs.save, hseg, hvseg, bind, Except.bind, pure, Except.pure]
    intro e' versions h
    rw [keyedGet?_keyedSet] at h
    split at h
    · cases h
      cases hold : keyedGet? e m.entities with
      | none => exact Ascending.keyedSet (by simp [Ascending]) _ _
      | some old => exact (ht e old hold).keyedSet _ _
    · exact ht e' versions h
  | disk d =>
    simp only [save, Disk.save, hseg, hvseg, hlong, hblob, tooLong_draftName hblob,
      SeqRight.seqRight, Except.bind, Bool.false_eq_true, if_false]
    intro e' files h
    simp only [Disk.dir?, keyedGet?_keyedSet] at h
    split at h
    · cases h
      obtain ⟨hasc, honly⟩ : Ascending ((d.dir? e).getD []) ∧ BlobsOnly ((d.dir? e).getD []) := by
        cases hold : d.dir? e with
        | none => exact ⟨by simp [Ascending], fun _ h => by cases h⟩
        | some old => exact ht e old hold
      refine ⟨((hasc.keyedSet _ _).keyedErase _).keyedSet _ _, fun p hp => ?_⟩
      rcases mem_keyedSet hp with rfl | hp
      · exact ⟨v, rfl⟩
      obtain ⟨hp, hne⟩ := List.mem_filter.1 hp
      rcases mem_keyedSet hp with rfl | hp
      · simp at hne
      · exact honly p hp
    · exact ht e' files h

theorem get_of_fits (he : entityFits e = true) (hv : versionFits v = true) :
    s.get e v = BlobMap.read s.blob? e v := by
  obtain ⟨hseg, hlong⟩ := entityFits_eq_true he
  obtain ⟨hvseg, hblob⟩ := versionFits_eq_true hv
  cases s with
  | memory m => rfl
  | disk d =>
    simp only [get, Disk.get, hseg, hvseg, hlong, hblob, bind, Except.bind, Bool.false_eq_true,
      if_false]
    rcases hdir : d.dir? e with _ | files
    · simp [blob?, hdir, BlobMap.read, throw, throwThe, MonadExceptOf.throw]
    · rcases hfile : keyedGet? (blobName v) files with _ | data <;>
        simp [blob?, hdir, hfile, BlobMap.read, throw, throwThe, MonadExceptOf.throw, pure,
          Except.pure]

theorem delete_of_fits (ht : s.Tidy) (he : entityFits e = true) (hv : versionFits v = true) :
    ∃ s', s.delete e v = .ok s' ∧ s'.Tidy := by
  obtain ⟨hseg, hlong⟩ := entityFits_eq_true he
  obtain ⟨hvseg, hblob⟩ := versionFits_eq_true hv
  cases s with
  | memory m =>
    refine ⟨_, rfl, ?_⟩
    intro e' versions h
    simp only [MemoryBlobs.delete] at h
    cases hold : keyedGet? e m.entities with
    | none => exact ht e' versions (by simpa [hold] using h)
    | some old =>
      simp only [hold] at h
      split at h
      · rw [keyedGet?_keyedErase] at h
        split at h
        · cases h
        · exact ht e' versions h
      · rw [keyedGet?_keyedSet] at h
        split at h
        · cases h
          exact (ht e old hold).keyedErase _
        · exact ht e' versions h
  | disk d =>
    have hseq : (checkSegment "version" v *> checkSegment "entity id" e) = .ok () := by
      simp [hseg, hvseg, SeqRight.seqRight, Except.bind]
    obtain ⟨d', hd⟩ := Disk.delete_of_keys d hseq hlong hblob
    refine ⟨.disk d', by simp [delete, hd, Functor.map, Except.map], ?_⟩
    rcases hexists : d.blobExists e v with err | b <;>
      simp [Disk.delete, hseg, hvseg, hexists, bind, Except.bind] at hd
    cases b
    · simp only [Bool.false_eq_true, if_false, pure, Except.pure, Except.ok.injEq] at hd
      subst hd
      exact ht
    · simp only [if_true, pure, Except.pure, Except.ok.injEq] at hd
      subst hd
      intro e' files h
      simp only [Disk.dir?, keyedGet?_keyedSet] at h
      split at h
      · cases h
        cases hold : keyedGet? e d.dirs with
        | none => exact ⟨by simp [keyedErase, Ascending], fun _ h => by simp [keyedErase] at h⟩
        | some old =>
          obtain ⟨hasc, honly⟩ := ht e old hold
          exact ⟨hasc.keyedErase _, fun p hp => honly p (List.mem_filter.1 hp).1⟩
      · exact ht e' files h

theorem deleteAll_of_fits (he : entityFits e = true) : s.deleteAll e = .ok (s.without e) := by
  obtain ⟨hseg, hlong⟩ := entityFits_eq_true he
  cases s <;> simp [deleteAll, without, Disk.deleteAll, hseg, hlong, Functor.map, Except.map, bind,
    Except.bind, pure, Except.pure]

theorem tidy_without (ht : s.Tidy) (e : String) : (s.without e).Tidy := by
  cases s with
  | memory m =>
    intro e' versions h
    simp only [MemoryBlobs.deleteAll, keyedGet?_keyedErase] at h
    split at h
    · cases h
    · exact ht e' versions h
  | disk d =>
    intro e' files h
    simp only [Disk.dir?, keyedGet?_keyedErase] at h
    split at h
    · cases h
    · exact ht e' files h

theorem list_of_fits (ht : s.Tidy) (he : entityFits e = true) :
    ∃ vs, s.list e = .ok vs ∧ BlobMap.Lists s.blob? e vs := by
  obtain ⟨hseg, hlong⟩ := entityFits_eq_true he
  cases s with
  | memory m =>
    refine ⟨_, rfl, ?_⟩
    obtain ⟨hasc, hmem⟩ : Ascending ((keyedGet? e m.entities).getD []) ∧
        ∀ v, v ∈ ((keyedGet? e m.entities).getD []).map (·.1) ↔
          ((keyedGet? e m.entities).bind (keyedGet? v)).isSome := by
      cases hold : keyedGet? e m.entities with
      | none => exact ⟨by simp [Ascending], fun v => by simp⟩
      | some versions => exact ⟨ht e versions hold, fun v => by simpa using mem_keys_iff⟩
    obtain ⟨hnd, hsame, hsorted⟩ := sortVersions_spec hasc.nodup
    exact ⟨hnd, fun v => (hsame v).trans (hmem v), hsorted⟩
  | disk d =>
    simp only [list, Disk.list, hseg, hlong, bind, Except.bind, Bool.false_eq_true, if_false]
    cases hold : d.dir? e with
    | none => exact ⟨[], rfl, List.nodup_nil, fun v => by simp [blob?, hold], List.Pairwise.nil⟩
    | some files =>
      obtain ⟨hasc, honly⟩ := ht e files hold
      obtain ⟨hnd, hmem⟩ := stems_spec hasc honly
      obtain ⟨hnd', hsame, hsorted⟩ := sortVersions_spec hnd
      refine ⟨_, by simp only [filterMap_stems honly]; rfl, hnd', fun v => ?_, hsorted⟩
      rw [hsame, hmem]
      simp [blob?, hold]

end ContentStore

/-! ### Sequences of calls -/

namespace ContentStore

/-- Makes a call; a write that fails leaves the store as the failed write left it. -/
def call (s : ContentStore) : ContentCall → ContentReply × ContentStore
  | .save e v data => (.unit (s.save e v data).1, (s.save e v data).2)
  | .get e v => (.bytes (s.get e v), s)
  | .delete e v =>
    match s.delete e v with
    | .ok s' => (.unit (.ok ()), s')
    | .error err => (.unit (.error err), s)
  | .deleteAll e =>
    match s.deleteAll e with
    | .ok s' => (.unit (.ok ()), s')
    | .error err => (.unit (.error err), s)
  | .list e => (.versions (s.list e), s)

/-- The answers to a sequence of calls, each made on the store the one before left. -/
def run (s : ContentStore) : List ContentCall → List ContentReply
  | [] => []
  | c :: cs => (s.call c).1 :: (s.call c).2.run cs

variable {s : ContentStore}

/-- One call on keys that fit: the store answers as the map, changes as the map does, and stays
tidy. -/
theorem call_spec (ht : s.Tidy) {c : ContentCall} (hc : c.fits = true) :
    BlobMap.Answers s.blob? c (s.call c).1 ∧ (s.call c).2.blob? = BlobMap.apply s.blob? c ∧
      (s.call c).2.Tidy := by
  cases c with
  | save e v data =>
    simp only [ContentCall.fits, Bool.and_eq_true] at hc
    have hok := save_of_fits (s := s) hc.1 hc.2 data
    refine ⟨by simp [BlobMap.Answers, call, hok], ?_, tidy_save ht hc.1 hc.2 data⟩
    funext e' v'
    simp [call, BlobMap.apply, blob?_save, hok, Except.isOk, Except.toBool]
  | get e v =>
    simp only [ContentCall.fits, Bool.and_eq_true] at hc
    exact ⟨by simp [BlobMap.Answers, call, get_of_fits hc.1 hc.2], rfl, ht⟩
  | delete e v =>
    simp only [ContentCall.fits, Bool.and_eq_true] at hc
    obtain ⟨s', hdel, ht'⟩ := delete_of_fits ht hc.1 hc.2
    refine ⟨by simp [BlobMap.Answers, call, hdel], ?_, by simpa [call, hdel] using ht'⟩
    funext e' v'
    simp only [call, hdel, BlobMap.apply]
    exact sets_of_delete hdel e' v'
  | deleteAll e =>
    have hdel := deleteAll_of_fits (s := s) hc
    refine ⟨by simp [BlobMap.Answers, call, hdel], ?_, by simpa [call, hdel] using tidy_without ht e⟩
    funext e' v'
    simp only [call, hdel, BlobMap.apply]
    exact blob?_without s e e' v'
  | list e =>
    obtain ⟨vs, hlist, hlists⟩ := list_of_fits ht hc
    exact ⟨⟨vs, by simp [call, hlist], hlists⟩, rfl, ht⟩

/-- A run of calls on keys that fit answers as the map does, from a tidy store. -/
theorem conforms_run (ht : s.Tidy) (cs : List ContentCall) (hcs : ∀ c ∈ cs, c.fits = true) :
    BlobMap.Conforms s.blob? cs (s.run cs) := by
  -- on the calls, carrying the tidy store that each call leaves
  induction cs generalizing s with
  | nil => trivial
  | cons c cs ih =>
    obtain ⟨hanswer, hblob, ht'⟩ := call_spec ht (hcs c List.mem_cons_self)
    refine ⟨hanswer, ?_⟩
    rw [← hblob]
    exact ih ht' fun c' hc' => hcs c' (List.mem_cons_of_mem _ hc')

end ContentStore

/-! ### Two stores, one map -/

/-- Two answers that are the same but for the order of listed versions that read as the same
number. -/
def ContentReply.Agree (r r' : ContentReply) : Prop :=
  r = r' ∨ ∃ vs vs', r = .versions (.ok vs) ∧ r' = .versions (.ok vs') ∧ vs.Perm vs' ∧
    vs.map versionRank = vs'.map versionRank

theorem BlobMap.Answers.agree {m : BlobMap} {c : ContentCall} {r r' : ContentReply}
    (h : m.Answers c r) (h' : m.Answers c r') : r.Agree r' := by
  cases c with
  | save | delete | deleteAll => exact .inl (h.trans h'.symm)
  | get => exact .inl (h.trans h'.symm)
  | list e =>
    obtain ⟨vs, rfl, hvs⟩ := h
    obtain ⟨vs', rfl, hvs'⟩ := h'
    exact .inr ⟨vs, vs', rfl, rfl, hvs.ranks hvs'⟩

theorem BlobMap.Conforms.agree :
    ∀ {m : BlobMap} {cs : List ContentCall} {rs rs' : List ContentReply},
      m.Conforms cs rs → m.Conforms cs rs' → List.Forall₂ ContentReply.Agree rs rs'
  | _, [], [], [], _, _ => .nil
  | _, _ :: _, _ :: _, _ :: _, ⟨h, hs⟩, ⟨h', hs'⟩ => .cons (h.agree h') (hs.agree hs')

/-- From empty stores, a sequence of calls whose keys fit gets from the store in memory and from
the store on a filesystem the answers of one map from an entity and a version to bytes: a read
answers the bytes of the last save of the key not removed since, and `notFound` where there is
none; saves and deletes succeed; a listing answers the versions holding bytes, each once, in
version order. So the two stores answer alike, but for the order of listed versions that read as
the same number. -/
theorem content_stores_answer_as_one_map (cs : List ContentCall) (hcs : ∀ c ∈ cs, c.fits = true)
    (root : Bool) :
    BlobMap.empty.Conforms cs ((ContentStore.memory ⟨[]⟩).run cs) ∧
      BlobMap.empty.Conforms cs ((ContentStore.disk ⟨root, []⟩).run cs) ∧
      List.Forall₂ ContentReply.Agree ((ContentStore.memory ⟨[]⟩).run cs)
        ((ContentStore.disk ⟨root, []⟩).run cs) := by
  have memory := ContentStore.conforms_run ContentStore.tidy_memory_empty cs hcs
  have disk := ContentStore.conforms_run (ContentStore.tidy_disk_empty root) cs hcs
  rw [ContentStore.blob?_memory_empty] at memory
  rw [ContentStore.blob?_disk_empty] at disk
  exact ⟨memory, disk, memory.agree disk⟩

/-- Three versions of one entity, two of which read as the number one, listed, read, deleted
where nothing is stored, and all removed. -/
theorem content_stores_answer_as_one_map_of_numbered_versions :
    let cs := [ContentCall.save "e" "1" [1], .save "e" "01" [2], .save "e" "b" [3], .list "e",
      .delete "e" "9", .get "e" "1", .deleteAll "e", .get "e" "01"]
    (∀ c ∈ cs, c.fits = true) ∧
      BlobMap.empty.Conforms cs ((ContentStore.memory ⟨[]⟩).run cs) ∧
      BlobMap.empty.Conforms cs ((ContentStore.disk ⟨false, []⟩).run cs) ∧
      List.Forall₂ ContentReply.Agree ((ContentStore.memory ⟨[]⟩).run cs)
        ((ContentStore.disk ⟨false, []⟩).run cs) := by
  intro cs
  have hfits : ∀ c ∈ cs, c.fits = true := by
    simp [cs, ContentCall.fits, entityFits, versionFits, checkSegment, String.any,
      String.contains_bool_eq, Except.isOk, Except.toBool, tooLong, nameMax, blobName]
    decide +kernel
  exact ⟨hfits, content_stores_answer_as_one_map cs hfits false⟩

end FlowRegistry
