import FlowRegistry.Proofs.Encodings
import FlowRegistry.Proofs.Stores

/-!
# The text of a UUID as a key

Entities are kept under the texts of their UUIDs: the revision store and the content store key
by the text, the catalog by the UUID. This module shows that the two agree and that every text is
a key the stores take.

* `Uuid.text_injective`: two UUIDs with one text are one. The text is the 32 digits with four
  hyphens put in, and the digits are those of the number.
* `checkSegment_text` and `tooLong_text`: the text is 36 ASCII characters, hexadecimal digits and
  hyphens, so the content store takes it as an entity id on either kind of store, and
  `ContentStore.deleteAll_text` removes the entity's blobs and nothing else.
-/

namespace FlowRegistry

namespace Uuid

/-- The characters of 32 digits with hyphens at the four slots of the hyphenated form. -/
def hyphenated (d : List Char) : List Char :=
  d.take 8 ++ '-' :: (d.drop 8).take 4 ++ '-' :: (d.drop 12).take 4 ++ '-' ::
    (d.drop 16).take 4 ++ '-' :: d.drop 20

theorem text_eq (u : Uuid) : u.text = String.ofList (hyphenated u.digits) := rfl

@[simp] theorem length_digits (u : Uuid) : u.digits.length = 32 := by simp [digits]

/-- Lists of 32 digits with the same hyphenated form are the same. -/
theorem hyphenated_injective {d d' : List Char} (hd : d.length = 32) (hd' : d'.length = 32)
    (h : hyphenated d = hyphenated d') : d = d' := by
  simp only [hyphenated, List.append_assoc, List.cons_append] at h
  obtain ⟨h8, h⟩ := List.append_inj h (by simp [hd, hd'])
  obtain ⟨-, h⟩ := List.cons_eq_cons.1 h
  obtain ⟨h12, h⟩ := List.append_inj h (by simp [hd, hd'])
  obtain ⟨-, h⟩ := List.cons_eq_cons.1 h
  obtain ⟨h16, h⟩ := List.append_inj h (by simp [hd, hd'])
  obtain ⟨-, h⟩ := List.cons_eq_cons.1 h
  obtain ⟨h20, h⟩ := List.append_inj h (by simp [hd, hd'])
  obtain ⟨-, hrest⟩ := List.cons_eq_cons.1 h
  have split : ∀ l : List Char, l = l.take 8 ++ (l.drop 8).take 4 ++ (l.drop 12).take 4 ++
      (l.drop 16).take 4 ++ l.drop 20 := fun l => by
    have e20 : l.drop 20 = (l.drop 16).drop 4 := by simp [List.drop_drop]
    have e16 : l.drop 16 = (l.drop 12).drop 4 := by simp [List.drop_drop]
    have e12 : l.drop 12 = (l.drop 8).drop 4 := by simp [List.drop_drop]
    simp only [List.append_assoc]
    rw [e20, List.take_append_drop, e16, List.take_append_drop, e12, List.take_append_drop,
      List.take_append_drop]
  rw [split d, split d', h8, h12, h16, h20, hrest]

/-- The digits are ASCII characters, none of them a separator of paths. -/
theorem hexDigit_ascii : ∀ a : Fin 16, (Text.hexDigit a).utf8Size = 1 ∧
    (Text.hexDigit a == '/' || Text.hexDigit a == '\\' || Text.hexDigit a == '\x00') = false := by
  decide

/-- The digit of a number below 16 names it. -/
theorem hexDigit_injective : ∀ a b : Fin 16, Text.hexDigit a = Text.hexDigit b → a = b := by
  decide

/-- Numbers below `16 ^ k` with the same `k` hexadecimal digits are equal. -/
theorem eq_of_digits_eq : ∀ (k v v' : Nat), v < Nat.pow 16 k → v' < Nat.pow 16 k →
    (∀ i < k, v / Nat.pow 16 i % 16 = v' / Nat.pow 16 i % 16) → v = v'
  | 0, v, v', hv, hv', _ => by simp at hv hv'; omega
  | k + 1, v, v', hv, hv', h => by
    have low : v % 16 = v' % 16 := by simpa using h 0 (by omega)
    have high : v / 16 = v' / 16 := by
      refine eq_of_digits_eq k _ _ ?_ ?_ fun i hi => ?_
      · rw [Nat.div_lt_iff_lt_mul (by decide)]; simpa [Nat.pow_succ] using hv
      · rw [Nat.div_lt_iff_lt_mul (by decide)]; simpa [Nat.pow_succ] using hv'
      · have := h (i + 1) (by omega)
        simpa [Nat.pow_succ', Nat.div_div_eq_div_mul] using this
    rw [← Nat.div_add_mod v 16, ← Nat.div_add_mod v' 16, low, high]

theorem digits_injective {u u' : Uuid} (h : u.digits = u'.digits) : u = u' := by
  have same : ∀ i ∈ (List.range 32).reverse, Text.hexDigit (u.value.val / Nat.pow 16 i % 16) =
      Text.hexDigit (u'.value.val / Nat.pow 16 i % 16) := List.map_inj_left.1 h
  have bound : ∀ w : Uuid, w.value.val < Nat.pow 16 32 := fun w => w.value.isLt
  have value : u.value.val = u'.value.val := by
    refine eq_of_digits_eq 32 _ _ (bound u) (bound u') fun i hi => ?_
    have := hexDigit_injective ⟨_, Nat.mod_lt _ (by decide)⟩ ⟨_, Nat.mod_lt _ (by decide)⟩
      (same i (by simpa using hi))
    exact Fin.mk.inj this
  cases u
  cases u'
  simp only [Uuid.mk.injEq]
  exact Fin.ext value

/-- The text of a UUID names it. -/
theorem text_injective {u u' : Uuid} (h : u.text = u'.text) : u = u' :=
  digits_injective (hyphenated_injective (length_digits u) (length_digits u')
    (String.ofList_injective h))

/-- The hyphenated form adds nothing but hyphens. -/
theorem mem_hyphenated {d : List Char} {c : Char} (h : c ∈ hyphenated d) : c = '-' ∨ c ∈ d := by
  simp only [hyphenated, List.mem_append, List.mem_cons] at h
  grind [List.mem_of_mem_take, List.mem_of_mem_drop]

/-- Every character of a UUID's text is a hexadecimal digit or a hyphen. -/
theorem mem_text {u : Uuid} {c : Char} (h : c ∈ u.text.toList) :
    c = '-' ∨ ∃ a : Fin 16, c = Text.hexDigit a := by
  rw [text_eq, String.toList_ofList] at h
  refine (mem_hyphenated h).imp_right fun hc => ?_
  obtain ⟨i, -, rfl⟩ := List.mem_map.1 hc
  exact ⟨⟨_, Nat.mod_lt _ (by decide)⟩, rfl⟩

end Uuid

/-- A key with no separator that is neither empty, `.` nor `..` passes the check, whatever it
names. -/
theorem checkSegment_ok_of_plain {kind value : String} (hempty : value.isEmpty = false)
    (hdot : (value == ".") = false) (hdots : (value == "..") = false)
    (hsep : value.toList.any (fun c => c == '/' || c == '\\' || c == '\x00') = false) :
    checkSegment kind value = .ok () := by
  simp [checkSegment, hempty, hdot, hdots, String.any, String.contains_bool_eq, hsep]

/-- A UUID's text is a key every content store takes: it is neither empty, `.` nor `..`, and
holds no separator. -/
theorem checkSegment_text (kind : String) (u : Uuid) : checkSegment kind u.text = .ok () := by
  have size := Uuid.utf8ByteSize_text u
  have notEmpty : u.text.isEmpty = false := by
    simp [String.isEmpty_eq_utf8ByteSize_beq_zero, size]
  have notDot : ∀ s : String, s.utf8ByteSize < 36 → (u.text == s) = false := fun s hs => by
    refine beq_false_of_ne fun h => ?_
    rw [h] at size
    omega
  have noSeparator : u.text.any (fun c => c == '/' || c == '\\' || c == '\x00') = false := by
    simp only [String.any, String.contains_bool_eq, List.any_eq_false]
    intro c hc
    rcases Uuid.mem_text hc with rfl | ⟨a, rfl⟩
    · decide
    · simpa using (Uuid.hexDigit_ascii a).2
  simp [checkSegment, notEmpty, notDot "." (by decide), notDot ".." (by decide), noSeparator]

/-- The decimal text of a number is a key every content store takes: it is digits only, so neither
empty, `.` nor `..`, and holds no separator. -/
theorem checkSegment_toString (kind : String) (n : Nat) :
    checkSegment kind (toString n) = .ok () := by
  have hlist : (toString n).toList = Nat.toDigits 10 n := Nat.toList_repr
  have hdigit : ∀ c ∈ (toString n).toList, c.isDigit := fun c hc =>
    Nat.isDigit_of_mem_toDigits (by decide) (by decide) (hlist ▸ hc)
  have hne : ∀ s : String, (∃ c ∈ s.toList, c.isDigit = false) → (toString n == s) = false :=
    fun s ⟨c, hc, hnd⟩ => beq_false_of_ne fun h => by
      rw [← h] at hc
      rw [hdigit c hc] at hnd
      cases hnd
  refine checkSegment_ok_of_plain ?_ (hne "." ⟨'.', by decide, by decide⟩)
    (hne ".." ⟨'.', by decide, by decide⟩) ?_
  · simp
  · refine List.any_eq_false.2 fun c hc => ?_
    have hd := hdigit c hc
    simp only [Bool.or_eq_true, beq_iff_eq, not_or]
    refine ⟨⟨?_, ?_⟩, ?_⟩ <;> rintro rfl <;> exact absurd hd (by decide)

/-- A UUID's text fits in a file name. -/
theorem tooLong_text (u : Uuid) : tooLong u.text = false := by
  simp [tooLong, nameMax, Uuid.utf8ByteSize_text]

namespace ContentStore

/-- The store with every blob of an entity removed. -/
def without : ContentStore → String → ContentStore
  | .memory m, e => .memory (m.deleteAll e)
  | .disk d, e => .disk ⟨d.rootExists, keyedErase e d.dirs⟩

/-- Deleting all content of a UUID's entity succeeds, in either store. -/
theorem deleteAll_text (s : ContentStore) (u : Uuid) :
    s.deleteAll u.text = .ok (s.without u.text) := by
  cases s <;> simp [deleteAll, without, Disk.deleteAll, checkSegment_text, tooLong_text, Functor.map,
    Except.map]

theorem blob?_without (s : ContentStore) (e e' v : String) :
    (s.without e).blob? e' v = if e' = e then none else s.blob? e' v := by
  cases s <;> by_cases h : e' = e <;>
    simp [without, blob?, MemoryBlobs.deleteAll, Disk.dir?, keyedGet?_keyedErase, h]

end ContentStore

end FlowRegistry
