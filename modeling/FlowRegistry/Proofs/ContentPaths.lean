import FlowRegistry.Store.Paths
import FlowRegistry.Proofs.KeyValue

/-!
# Where the filesystem store keeps blobs

The blob of version `v` of entity `e` lives at `base/e/v.snapshot`, and a save writes it first to
`base/e/v.tmp`. A key that passes `checkSegment` is a normal name: not empty, `.` or `..`, and
without a separator, so joined to any path it adds exactly one component
(`Path.components_join_name`), whatever the path ends with. Hence a content path is the root's
components followed by the entity and the blob's file name, strictly inside the root; two keys
never share a file (`contentPath_injective`), the temporary file of a save is the file of no key
(`draftPath_ne_contentPath`), and the file name splits back into the version and the extension
the listing looks for (`contentPath_fileName`), even for versions made of dots. A key the check
refuses fails every call of the store before a file is touched
(`content_paths_safe_and_injective`).
-/

namespace FlowRegistry

/-! ### Normal names -/

/-- A name a path holds as one normal component: not empty, not `.` or `..`, and without a
separator. -/
structure NormalName (n : String) : Prop where
  ne_empty : n ≠ ""
  ne_dot : n ≠ "."
  ne_dotDot : n ≠ ".."
  no_sep : '/' ∉ n.toList

namespace NormalName

variable {n : String}

theorem toList_ne_nil (hn : NormalName n) : n.toList ≠ [] := fun h =>
  hn.ne_empty (String.toList_inj.1 (by simpa using h))

theorem toList_ne_dot (hn : NormalName n) : n.toList ≠ ['.'] := fun h =>
  hn.ne_dot (String.toList_inj.1 (by simpa using h))

theorem toList_ne_dotDot (hn : NormalName n) : n.toList ≠ ['.', '.'] := fun h =>
  hn.ne_dotDot (String.toList_inj.1 (by simpa using h))

theorem ofPiece (hn : NormalName n) : Component.ofPiece n.toList = some (.normal n) := by
  simp [Component.ofPiece, hn.toList_ne_nil, hn.toList_ne_dot, hn.toList_ne_dotDot]

theorem isAbsolute (hn : NormalName n) : Path.isAbsolute ⟨n⟩ = false := by
  have := hn.no_sep
  cases h : n.toList with
  | nil => simp [Path.isAbsolute, h]
  | cons c cs =>
    rw [h] at this
    simp [Path.isAbsolute, h]
    exact fun hc => this (hc ▸ List.mem_cons_self)

theorem of_checkSegment {kind : String} (h : checkSegment kind n = .ok ()) : NormalName n := by
  unfold checkSegment at h
  split at h
  · cases h
  · rename_i hgood
    simp only [Bool.or_eq_true, beq_iff_eq, not_or, String.isEmpty_iff, String.any,
      String.contains_bool_eq] at hgood
    obtain ⟨⟨⟨hempty, hdot⟩, hdots⟩, hsep⟩ := hgood
    refine ⟨hempty, hdot, hdots, fun hc => hsep ?_⟩
    exact List.any_eq_true.2 ⟨'/', hc, rfl⟩

end NormalName

/-! ### Components of joined paths -/

namespace Component

@[simp] theorem ofPiece_nil : ofPiece [] = none := rfl

theorem lead_cons_cons (x y : List Char) (rest : List (List Char)) :
    lead (x :: y :: rest) = if x = [] then [.rootDir] else if x = ['.'] then [.curDir] else [] := by
  unfold lead
  split <;> simp_all

theorem lead_singleton (x : List Char) : lead [x] = if x = ['.'] then [.curDir] else [] := by
  unfold lead
  split <;> simp_all

/-- Once a second piece follows, the lead is fixed by the first piece alone. -/
theorem lead_append_cons {P : List (List Char)} (hP : P ≠ []) (a b : List Char)
    (Q R : List (List Char)) : lead (P ++ a :: Q) = lead (P ++ b :: R) := by
  obtain ⟨x, rest, rfl⟩ := List.exists_cons_of_ne_nil hP
  cases rest <;> simp only [List.cons_append, List.nil_append, lead_cons_cons]

/-- A first piece that is not empty leads alike whatever follows it. -/
theorem lead_append {P : List (List Char)} (hP : P ≠ []) (hx : P ≠ [[]])
    (Q : List (List Char)) : lead (P ++ Q) = lead P := by
  obtain ⟨x, rest, rfl⟩ := List.exists_cons_of_ne_nil hP
  cases Q with
  | nil => simp
  | cons q Q =>
    cases rest with
    | nil =>
      have hx' : x ≠ [] := fun h => hx (h ▸ rfl)
      simp [lead_cons_cons, lead_singleton, hx']
    | cons y rest => simp only [List.cons_append, lead_cons_cons]

end Component

namespace Path

variable {n : String}

theorem pieces_ne_nil (p : Path) : p.pieces ≠ [] := List.splitOn_ne_nil _ _

theorem pieces_append_name {D : List Char} (hn : NormalName n) :
    (D ++ '/' :: n.toList).splitOn '/' = D.splitOn '/' ++ [n.toList] := by
  rw [List.splitOn_append_cons_self, List.splitOn_eq_singleton hn.no_sep]

/-- A path that ends with a name is joined to a name through one separator. -/
theorem join_of_last {p : Path} (hlast : p.text.toList.getLast?.any (· != '/'))
    (hn : NormalName n) :
    p.join ⟨n⟩ = ⟨p.text ++ "/" ++ n⟩ := by
  rw [join, if_neg (by simp [hn.isAbsolute]), if_pos hlast]

theorem pieces_join_of_last {p : Path} (hlast : p.text.toList.getLast?.any (· != '/'))
    (hn : NormalName n) : (p.join ⟨n⟩).pieces = p.pieces ++ [n.toList] := by
  simp only [join_of_last hlast hn, pieces, String.toList_append, List.append_assoc]
  exact pieces_append_name hn

theorem getLast?_join_name (p : Path) (hn : NormalName n) :
    (p.join ⟨n⟩).text.toList.getLast? = n.toList.getLast? := by
  obtain ⟨c, hc⟩ := Option.isSome_iff_exists.1 (List.getLast?_isSome.2 hn.toList_ne_nil)
  unfold join
  rw [if_neg (by simp [hn.isAbsolute])]
  split <;> simp [List.getLast?_append, List.getLast?_cons, hc]

/-- Joining a normal name to any path adds that name as one component. -/
theorem components_join_name (p : Path) (hn : NormalName n) :
    (p.join ⟨n⟩).components = p.components ++ [.normal n] := by
  by_cases hlast : p.text.toList.getLast?.any (· != '/')
  · -- a separator is added after the last character of `p`
    have hne : p.pieces ≠ [[]] := fun h => by
      have hp : p.text.toList = [] :=
        calc p.text.toList = ['/'].intercalate p.pieces := (List.intercalate_splitOn '/').symm
          _ = [] := by rw [h, List.intercalate_singleton]
      simp [hp] at hlast
    simp [components, pieces_join_of_last hlast hn, Component.lead_append p.pieces_ne_nil hne,
      List.filterMap_append, hn.ofPiece]
  · rw [join, if_neg (by simp [hn.isAbsolute]), if_neg hlast]
    rcases List.eq_nil_or_concat' p.text.toList with hp | ⟨D, c, hp⟩
    · -- `p` is empty: the path is the name alone
      have hpieces : (⟨p.text ++ n⟩ : Path).pieces = [n.toList] := by
        simp [pieces, hp, List.splitOn_eq_singleton hn.no_sep]
      have hp' : p.pieces = [[]] := by simp [pieces, hp]
      simp [components, hpieces, hp', hn.toList_ne_dot, hn.ofPiece, Component.lead]
    · -- `p` ends with a separator
      have hc : c = '/' := by simpa [hp] using hlast
      subst hc
      have hpieces : (⟨p.text ++ n⟩ : Path).pieces = D.splitOn '/' ++ [n.toList] := by
        simp only [pieces, String.toList_append, hp, List.append_assoc, List.singleton_append]
        exact pieces_append_name hn
      have hp' : p.pieces = D.splitOn '/' ++ [[]] := by
        simp [pieces, hp, List.splitOn_append_cons_self]
      rw [components, components, hpieces, hp',
        Component.lead_append_cons (List.splitOn_ne_nil '/' D) n.toList [] [] []]
      simp [List.filterMap_append, hn.ofPiece]

theorem fileName_join_name (p : Path) (hn : NormalName n) : (p.join ⟨n⟩).fileName = some n := by
  simp [fileName, components_join_name p hn]

theorem fileStem_join_name (p : Path) (hn : NormalName n) :
    (p.join ⟨n⟩).fileStem = some (splitExtension n).1 := by
  simp [fileStem, fileName_join_name p hn]

theorem extension_join_name (p : Path) (hn : NormalName n) :
    (p.join ⟨n⟩).extension = (splitExtension n).2 := by
  simp [extension, fileName_join_name p hn]

end Path

/-! ### File names -/

/-- Joining pieces followed by one more puts a separator before the last. -/
theorem intercalate_append_singleton {x : Char} {ls : List (List Char)} (hls : ls ≠ [])
    (m : List Char) : [x].intercalate (ls ++ [m]) = [x].intercalate ls ++ x :: m := by
  induction ls with
  | nil => exact absurd rfl hls
  | cons l rest ih =>
    cases rest with
    | nil => simp
    | cons l' rest =>
      rw [List.cons_append, List.cons_append, List.intercalate_cons_cons, ← List.cons_append,
        ih (List.cons_ne_nil _ _), List.intercalate_cons_cons]
      simp

/-- A name split at a dot that its extension does not hold gives back the part before it. -/
theorem splitExtension_append_ext {v ext : String} (hv : v ≠ "") (hx : ext ≠ "")
    (hdot : '.' ∉ ext.toList) : splitExtension (v ++ "." ++ ext) = (v, some ext) := by
  have hrev : (v ++ "." ++ ext).toList.reverse = ext.toList.reverse ++ '.' :: v.toList.reverse := by
    simp
  have hafter : ((v ++ "." ++ ext).toList.reverse.takeWhile (· ≠ '.')).reverse = ext.toList := by
    rw [hrev, List.takeWhile_append_of_pos (fun c hc => by
      have : c ∈ ext.toList := List.mem_reverse.1 hc
      simp only [ne_eq, decide_eq_true_eq]
      exact fun h => hdot (h ▸ this))]
    simp
  have hbefore : ((v ++ "." ++ ext).toList.reverse.drop (ext.toList.length + 1)).reverse =
      v.toList := by
    rw [hrev, ← List.singleton_append, ← List.append_assoc,
      List.drop_left' (by simp [Nat.add_comm])]
    simp
  have hlong : (v ++ "." ++ ext).toList.length = v.toList.length + 1 + ext.toList.length := by
    simp
    omega
  have hv' : v.toList ≠ [] := by simpa using hv
  have hx' : ext.toList ≠ [] := by simpa using hx
  have hnot : ¬(v ++ "." ++ ext = ".." ∨ ext.toList.length = (v ++ "." ++ ext).toList.length ∨
      v.toList = []) := by
    rintro (h | h | h)
    · have hlen := congrArg (·.toList.length) h
      have hdots : "..".toList.length = 2 := by simp
      rw [hlong, hdots] at hlen
      have := List.length_pos_iff.2 hv'
      have := List.length_pos_iff.2 hx'
      omega
    · rw [hlong] at h
      have := List.length_pos_iff.2 hv'
      omega
    · exact hv' h
  dsimp only [splitExtension]
  rw [hafter, hbefore, if_neg hnot]
  simp

namespace Path

variable {n : String}

/-- Replacing the extension of a name joined to a path that ends with a name puts the name's stem
and the new extension in its place. -/
theorem withExtension_join_name {p : Path} (hlast : p.text.toList.getLast?.any (· != '/'))
    (hn : NormalName n) {ext : String} (hx : ext ≠ "")
    (hm : NormalName ((splitExtension n).1 ++ "." ++ ext)) :
    (p.join ⟨n⟩).withExtension ext = p.join ⟨(splitExtension n).1 ++ "." ++ ext⟩ := by
  have hbefore : (((p.join ⟨n⟩).pieces.reverse.dropWhile
      fun cs => cs = [] ∨ cs = ['.']).drop 1).reverse = p.pieces := by
    rw [pieces_join_of_last hlast hn, List.reverse_append, List.reverse_singleton,
      List.singleton_append, List.dropWhile_cons]
    simp [hn.toList_ne_nil, hn.toList_ne_dot]
  rw [withExtension, fileStem_join_name p hn]
  dsimp only
  rw [hbefore, if_neg hx, join_of_last hlast hm]
  refine congrArg Path.mk (String.toList_inj.1 ?_)
  rw [String.toList_ofList, intercalate_append_singleton p.pieces_ne_nil, pieces,
    List.intercalate_splitOn]
  simp

end Path

/-! ### Content paths -/

theorem NormalName.append {v s : String} (hv : NormalName v) (hs : '/' ∉ s.toList)
    (hlen : 2 ≤ s.toList.length) : NormalName (v ++ s) := by
  have hlong : 3 ≤ (v ++ s).toList.length := by
    have := List.length_pos_iff.2 hv.toList_ne_nil
    simp only [String.toList_append, List.length_append]
    omega
  have hne : ∀ t : String, t.toList.length < 3 → v ++ s ≠ t := fun t ht h => by
    rw [h] at hlong
    omega
  refine ⟨hne "" (by simp), hne "." (by simp), hne ".." (by simp), ?_⟩
  simp only [String.toList_append, List.mem_append, not_or]
  exact ⟨hv.no_sep, hs⟩

theorem normalName_blobName {v : String} (hv : NormalName v) : NormalName (blobName v) :=
  hv.append (by simp) (by simp)

theorem normalName_draftName {v : String} (hv : NormalName v) : NormalName (draftName v) :=
  hv.append (by simp) (by simp)

theorem blobName_eq (v : String) : blobName v = v ++ "." ++ contentExtension := by
  simp [blobName, contentExtension, String.append_assoc]

theorem draftName_eq (v : String) : draftName v = v ++ "." ++ "tmp" := by
  simp [draftName, String.append_assoc]

/-- A blob's file name splits into its version and the content extension. -/
theorem splitExtension_blobName {v : String} (hv : v ≠ "") :
    splitExtension (blobName v) = (v, some contentExtension) := by
  rw [blobName_eq]
  exact splitExtension_append_ext hv (by simp [contentExtension]) (by simp [contentExtension])

theorem checks_eq_ok_iff {e v : String} :
    (checkSegment "version" v *> checkSegment "entity id" e) = .ok () ↔
      checkSegment "version" v = .ok () ∧ checkSegment "entity id" e = .ok () := by
  rcases hv : checkSegment "version" v with err | ⟨⟩ <;>
    rcases he : checkSegment "entity id" e with err' | ⟨⟩ <;>
    simp [SeqRight.seqRight, Except.bind]

/-- A key the check refuses is refused as invalid input. -/
theorem checks_error {e v : String} {err : RegistryError}
    (h : (checkSegment "version" v *> checkSegment "entity id" e) = .error err) :
    ∃ m, err = .invalidInput m := by
  rcases hv : checkSegment "version" v with err' | ⟨⟩
  · rw [hv] at h
    cases h
    exact checkSegment_error hv
  · rw [hv] at h
    exact checkSegment_error h

theorem contentPath_eq_ok_iff {base p : Path} {e v : String} :
    contentPath base e v = .ok p ↔ checkSegment "version" v = .ok () ∧
      checkSegment "entity id" e = .ok () ∧ p = (base.join ⟨e⟩).join ⟨blobName v⟩ := by
  rw [blobName_eq]
  rcases hv : checkSegment "version" v with err | ⟨⟩ <;>
    rcases he : checkSegment "entity id" e with err' | ⟨⟩ <;>
    simp [contentPath, entityDir, hv, he, bind, Except.bind, pure, Except.pure, eq_comm]

theorem contentPath_eq_error_iff {base : Path} {e v : String} {err : RegistryError} :
    contentPath base e v = .error err ↔
      (checkSegment "version" v *> checkSegment "entity id" e) = .error err := by
  rcases hv : checkSegment "version" v with err | ⟨⟩ <;>
    rcases he : checkSegment "entity id" e with err' | ⟨⟩ <;>
    simp [contentPath, entityDir, hv, he, bind, Except.bind, pure, Except.pure,
      SeqRight.seqRight]

theorem entityDir_eq_error_iff {base : Path} {e : String} {err : RegistryError} :
    entityDir base e = .error err ↔ checkSegment "entity id" e = .error err := by
  rcases he : checkSegment "entity id" e with err' | ⟨⟩ <;>
    simp [entityDir, he, bind, Except.bind, pure, Except.pure]

/-- The directory of an entity ends with the entity's name, never with a separator. -/
theorem join_entity_last (base : Path) {e : String} (he : NormalName e) :
    (base.join ⟨e⟩).text.toList.getLast?.any (· != '/') := by
  rw [Path.getLast?_join_name base he]
  obtain ⟨c, hc⟩ := Option.isSome_iff_exists.1 (List.getLast?_isSome.2 he.toList_ne_nil)
  have hmem : c ∈ e.toList := List.mem_of_getLast? hc
  have hsep : c ≠ '/' := fun h => he.no_sep (h ▸ hmem)
  simp [hc, hsep]

/-- A content path is the root's components, the entity, and the blob's file name. -/
theorem contentPath_components {base p : Path} {e v : String} (h : contentPath base e v = .ok p) :
    NormalName e ∧ NormalName (blobName v) ∧
      p.components = base.components ++ [.normal e, .normal (blobName v)] := by
  obtain ⟨hv, he, rfl⟩ := contentPath_eq_ok_iff.1 h
  have hen := NormalName.of_checkSegment he
  have hbn := normalName_blobName (NormalName.of_checkSegment hv)
  refine ⟨hen, hbn, ?_⟩
  rw [Path.components_join_name _ hbn, Path.components_join_name _ hen]
  simp

/-- The temporary file of a blob is the file of the same name with the extension `tmp`, in the same
directory. -/
theorem withExtension_contentPath {base p : Path} {e v : String}
    (h : contentPath base e v = .ok p) :
    p.withExtension "tmp" = (base.join ⟨e⟩).join ⟨draftName v⟩ := by
  obtain ⟨hv, he, rfl⟩ := contentPath_eq_ok_iff.1 h
  have hvn := NormalName.of_checkSegment hv
  have hstem : (splitExtension (blobName v)).1 ++ "." ++ "tmp" = draftName v := by
    rw [splitExtension_blobName hvn.ne_empty, draftName_eq]
  have hm : NormalName ((splitExtension (blobName v)).1 ++ "." ++ "tmp") :=
    hstem ▸ normalName_draftName hvn
  rw [Path.withExtension_join_name (join_entity_last base (NormalName.of_checkSegment he))
    (normalName_blobName hvn) (by simp) hm, hstem]

theorem draftPath_eq_ok_iff {base t : Path} {e v : String} :
    draftPath base e v = .ok t ↔
      ∃ p, contentPath base e v = .ok p ∧ t = p.withExtension "tmp" := by
  rcases hc : contentPath base e v with err | p <;>
    simp [draftPath, hc, Functor.map, Except.map, eq_comm]

theorem draftPath_components {base t : Path} {e v : String} (h : draftPath base e v = .ok t) :
    t.components = base.components ++ [.normal e, .normal (draftName v)] := by
  obtain ⟨p, hp, rfl⟩ := draftPath_eq_ok_iff.1 h
  obtain ⟨hv, he, -⟩ := contentPath_eq_ok_iff.1 hp
  rw [withExtension_contentPath hp,
    Path.components_join_name _ (normalName_draftName (NormalName.of_checkSegment hv)),
    Path.components_join_name _ (NormalName.of_checkSegment he)]
  simp

/-- Two keys whose content paths are the same path are the same key. -/
theorem contentPath_injective {base p p' : Path} {e v e' v' : String}
    (h : contentPath base e v = .ok p) (h' : contentPath base e' v' = .ok p')
    (heq : p.components = p'.components) : e = e' ∧ v = v' := by
  rw [(contentPath_components h).2.2, (contentPath_components h').2.2] at heq
  simp only [List.append_cancel_left_eq, List.cons.injEq, Component.normal.injEq, and_true] at heq
  exact ⟨heq.1, blobName_injective heq.2⟩

/-- The temporary file of a save is the file of no blob. -/
theorem draftPath_ne_contentPath {base t p' : Path} {e v e' v' : String}
    (h : draftPath base e v = .ok t) (h' : contentPath base e' v' = .ok p') :
    t.components ≠ p'.components := by
  rw [draftPath_components h, (contentPath_components h').2.2]
  intro heq
  simp only [List.append_cancel_left_eq, List.cons.injEq, Component.normal.injEq, and_true] at heq
  exact blobName_ne_draftName v' v heq.2.symm

/-- The file name of a blob splits into the version and the content extension. -/
theorem contentPath_fileName {base p : Path} {e v : String} (h : contentPath base e v = .ok p) :
    p.fileName = some (blobName v) ∧ p.extension = some contentExtension ∧
      p.fileStem = some v := by
  obtain ⟨hv, -, rfl⟩ := contentPath_eq_ok_iff.1 h
  have hbn := normalName_blobName (NormalName.of_checkSegment hv)
  have hsplit := splitExtension_blobName (NormalName.of_checkSegment hv).ne_empty
  refine ⟨Path.fileName_join_name _ hbn, ?_, ?_⟩
  · rw [Path.extension_join_name _ hbn, hsplit]
  · rw [Path.fileStem_join_name _ hbn, hsplit]

theorem checks_error_of_refused {e v : String}
    (h : checkSegment "version" v ≠ .ok () ∨ checkSegment "entity id" e ≠ .ok ()) :
    ∃ m, (checkSegment "version" v *> checkSegment "entity id" e) = .error (.invalidInput m) := by
  rcases hc : (checkSegment "version" v *> checkSegment "entity id" e) with err | ⟨⟩
  · obtain ⟨m, rfl⟩ := checks_error hc
    exact ⟨m, rfl⟩
  · obtain ⟨hv, he⟩ := checks_eq_ok_iff.1 hc
    exact absurd h (by simp [hv, he])

theorem checkSegment_error_of_refused {kind e : String} (h : checkSegment kind e ≠ .ok ()) :
    ∃ m, checkSegment kind e = .error (.invalidInput m) := by
  rcases hc : checkSegment kind e with err | ⟨⟩
  · obtain ⟨m, rfl⟩ := checkSegment_error hc
    exact ⟨m, rfl⟩
  · exact absurd hc h

/-! ### Refused keys -/

namespace Disk

variable (d : Disk) {e v : String} {err : RegistryError}

theorem save_of_checks_error (data : Bytes)
    (h : (checkSegment "version" v *> checkSegment "entity id" e) = .error err) :
    d.save e v data = (.error err, d) := by
  simp [Disk.save, h]

theorem get_of_checks_error
    (h : (checkSegment "version" v *> checkSegment "entity id" e) = .error err) :
    d.get e v = .error err := by
  rcases hv : checkSegment "version" v with err' | ⟨⟩ <;>
    simp_all [Disk.get, SeqRight.seqRight, Except.bind, bind]

theorem delete_of_checks_error
    (h : (checkSegment "version" v *> checkSegment "entity id" e) = .error err) :
    d.delete e v = .error err := by
  rcases hv : checkSegment "version" v with err' | ⟨⟩ <;>
    simp_all [Disk.delete, SeqRight.seqRight, Except.bind, bind]

theorem deleteAll_of_check_error (h : checkSegment "entity id" e = .error err) :
    d.deleteAll e = .error err := by
  simp [Disk.deleteAll, h, bind, Except.bind]

theorem list_of_check_error (h : checkSegment "entity id" e = .error err) :
    d.list e = .error err := by
  simp [Disk.list, h, bind, Except.bind]

end Disk

/-! ### The layout of the store -/

/-- Where the filesystem store keeps blobs. A key passes the checks exactly when it has a content
path; that path is the root followed by the entity and `v.snapshot`, both normal names, so it lies
strictly inside the root; no two keys share a path, and the temporary file of a save, `v.tmp`
beside it, is the path of no key; the file name splits back into the version and the content
extension, as the listing reads it. A key the checks refuse fails every call of the store with the
check's error, whatever the disk holds, and leaves the disk as it was. -/
theorem content_paths_safe_and_injective (base : Path) :
    (∀ e v, (∃ p, contentPath base e v = .ok p) ↔
      checkSegment "version" v = .ok () ∧ checkSegment "entity id" e = .ok ()) ∧
    (∀ e v p, contentPath base e v = .ok p →
      NormalName e ∧ NormalName (blobName v) ∧
        p.components = base.components ++ [.normal e, .normal (blobName v)] ∧
        p.StartsWith base ∧ p.components ≠ base.components) ∧
    (∀ e v e' v' p p', contentPath base e v = .ok p → contentPath base e' v' = .ok p' →
      p.components = p'.components → e = e' ∧ v = v') ∧
    (∀ e v t, draftPath base e v = .ok t →
      t.components = base.components ++ [.normal e, .normal (draftName v)] ∧
        ∀ e' v' p', contentPath base e' v' = .ok p' → t.components ≠ p'.components) ∧
    (∀ e v p, contentPath base e v = .ok p →
      p.fileName = some (blobName v) ∧ p.extension = some contentExtension ∧
        p.fileStem = some v ∧ (blobName v).endsWith ".snapshot" = true ∧
        ((blobName v).dropEnd 9).toString = v) ∧
    (∀ e v, checkSegment "version" v ≠ .ok () ∨ checkSegment "entity id" e ≠ .ok () →
      ∃ m, contentPath base e v = .error (.invalidInput m) ∧ ∀ (d : Disk) data,
        d.save e v data = (.error (.invalidInput m), d) ∧ d.get e v = .error (.invalidInput m) ∧
          d.delete e v = .error (.invalidInput m)) ∧
    (∀ e, checkSegment "entity id" e ≠ .ok () →
      ∃ m, entityDir base e = .error (.invalidInput m) ∧ ∀ d : Disk,
        d.deleteAll e = .error (.invalidInput m) ∧ d.list e = .error (.invalidInput m)) := by
  refine ⟨fun e v => ⟨fun ⟨p, hp⟩ => ?_, fun ⟨hv, he⟩ => ?_⟩, fun e v p hp => ?_,
    fun e v e' v' p p' hp hp' => contentPath_injective hp hp', fun e v t ht => ?_,
    fun e v p hp => ?_, fun e v hrefused => ?_, fun e hrefused => ?_⟩
  · obtain ⟨hv, he, -⟩ := contentPath_eq_ok_iff.1 hp
    exact ⟨hv, he⟩
  · exact ⟨_, contentPath_eq_ok_iff.2 ⟨hv, he, rfl⟩⟩
  · obtain ⟨hen, hbn, hcomp⟩ := contentPath_components hp
    refine ⟨hen, hbn, hcomp, ⟨_, hcomp.symm⟩, fun h => ?_⟩
    have := congrArg List.length (hcomp.symm.trans h)
    simp at this
  · exact ⟨draftPath_components ht, fun e' v' p' hp' => draftPath_ne_contentPath ht hp'⟩
  · obtain ⟨hname, hext, hstem⟩ := contentPath_fileName hp
    exact ⟨hname, hext, hstem, endsWith_blobName v, stem_blobName v⟩
  · obtain ⟨m, hm⟩ := checks_error_of_refused hrefused
    exact ⟨m, contentPath_eq_error_iff.2 hm, fun d data => ⟨d.save_of_checks_error data hm,
      d.get_of_checks_error hm, d.delete_of_checks_error hm⟩⟩
  · obtain ⟨m, hm⟩ := checkSegment_error_of_refused hrefused
    exact ⟨m, entityDir_eq_error_iff.2 hm, fun d => ⟨d.deleteAll_of_check_error hm,
      d.list_of_check_error hm⟩⟩

/-- The version `...`, dots only, is kept under the root `/srv/` at `/srv/e/....snapshot`, and its
stem is `...` again; the entity `..` is refused. -/
theorem content_paths_of_dotted_version :
    checkSegment "version" "..." = .ok () ∧ checkSegment "entity id" "e" = .ok () ∧
      (∃ p, contentPath ⟨"/srv/"⟩ "e" "..." = .ok p ∧
        p.components = [.rootDir, .normal "srv", .normal "e", .normal "....snapshot"] ∧
        p.fileStem = some "...") ∧
      ∃ m, contentPath ⟨"/srv/"⟩ ".." "1" = .error (.invalidInput m) := by
  have h := content_paths_safe_and_injective ⟨"/srv/"⟩
  have hv : checkSegment "version" "..." = .ok () :=
    checkSegment_ok_of_plain (by decide) (by decide) (by decide) (by decide)
  have he : checkSegment "entity id" "e" = .ok () :=
    checkSegment_ok_of_plain (by decide) (by decide) (by decide) (by decide)
  obtain ⟨p, hp⟩ := (h.1 "e" "...").2 ⟨hv, he⟩
  refine ⟨hv, he, ⟨p, hp, ?_, (h.2.2.2.2.1 _ _ _ hp).2.2.1⟩, ?_⟩
  · rw [(h.2.1 _ _ _ hp).2.2.1]
    decide
  · obtain ⟨m, hm, -⟩ := h.2.2.2.2.2.1 ".." "1" (.inr (by simp [checkSegment]))
    exact ⟨m, hm⟩

end FlowRegistry
