import FlowRegistry.Json.Shape.Text
import FlowRegistry.Proofs.Lexemes

/-!
# Typed data read back from their compact text

The reader of typed data takes back what the writer writes, as long as the text nests no deeper
than the reader allows. Main statements:

* `Fits.readsBack`: a datum that fits its shape (`Fits`) reads back from its written bytes,
  followed by anything that may follow a value, at every depth deeper than its value's nesting
  (`nesting`), and is refused at every other depth.
* `Fits.ofText`: written as a whole text, such a datum reads back exactly when its value nests
  at most 127 containers deep.

The proof follows the shape: one case per constructor of `Fits`, with a lemma per container
reader carrying the items read so far (`readItems_written`, `readEntries_written`) or the slots
of the fields read so far (`readFieldMap_written`). A map reads back in key order because its
keys increase (`insertEntry_of_lt`); a record's members are found by their distinct keys
(`fieldIndex_middle`), and the fields the writer left out take their defaults
(`completeFields_slots`).
-/

namespace FlowRegistry.Json

open Text

/-! ### Nesting and layout of written values -/

mutual
/-- How many containers deep a value nests: a list or an object one more than its deepest item. -/
def nesting : Json → Nat
  | .arr xs => nestingList xs + 1
  | .obj ms => nestingMembers ms + 1
  | _ => 0

/-- The deepest nesting among items. -/
def nestingList : List Json → Nat
  | [] => 0
  | x :: xs => max (nesting x) (nestingList xs)

/-- The deepest nesting among the values of members. -/
def nestingMembers : List (String × Json) → Nat
  | [] => 0
  | (_, v) :: ms => max (nesting v) (nestingMembers ms)
end

@[simp] theorem chars_str (s : String) : chars (.str s) = quoteString s := rfl

@[simp] theorem chars_nat (n : Nat) : chars (.num (.nat n)) = Nat.toDigits 10 n := rfl

@[simp] theorem chars_arr (xs : List Json) : chars (.arr xs) = '[' :: joinComma (charsList xs) ++ [']'] :=
  rfl

@[simp] theorem chars_obj (ms : List (String × Json)) :
    chars (.obj ms) = '\x7b' :: joinComma (charsMembers ms) ++ ['\x7d'] := rfl

@[simp] theorem charsList_nil : charsList [] = [] := rfl

@[simp] theorem charsList_cons (x : Json) (xs : List Json) :
    charsList (x :: xs) = chars x :: charsList xs := rfl

@[simp] theorem charsMembers_nil : charsMembers [] = [] := rfl

@[simp] theorem charsMembers_cons (k : String) (v : Json) (ms : List (String × Json)) :
    charsMembers ((k, v) :: ms) = (quoteString k ++ ':' :: chars v) :: charsMembers ms := rfl

/-- Texts joined by commas, after `first` items when the list opens the container. -/
def joinAfter : Bool → List (List Char) → List Char
  | true, xs => joinComma xs
  | false, xs => xs.flatMap (',' :: ·)

theorem joinComma_cons (x : List Char) (xs : List (List Char)) :
    joinComma (x :: xs) = x ++ xs.flatMap (',' :: ·) := by
  induction xs generalizing x with
  | nil => simp [joinComma]
  | cons y ys ih => simp [joinComma, ih]

@[simp] theorem joinAfter_nil (first : Bool) : joinAfter first [] = [] := by
  cases first <;> rfl

theorem joinAfter_cons (first : Bool) (x : List Char) (xs : List (List Char)) :
    joinAfter first (x :: xs) = (if first then x else ',' :: x) ++ joinAfter false xs := by
  cases first <;> simp [joinAfter, joinComma_cons]

/-- The datum fits its shape inside the record `home`: scalars of the shape's kind (a word within
its bound, a choice among distinct names, an instant whose text reads back), an optional value
that is not itself absent, lists and maps of fitting items with map keys in increasing order,
and records with one fitting datum per field, distinct keys, and absent values left out only
where the field may be missing and defaults to absent. -/
inductive Fits : Shape → Shape → Datum → Prop
  | text (home : Shape) (v : String) : Fits home .text (.text v)
  | uuid (home : Shape) (u : Uuid) : Fits home .uuid (.uuid u)
  | instant (home : Shape) (t : Time.Instant) (h : Time.parseInstant t.text = .ok t) :
      Fits home .instant (.instant t)
  | word (home s : Shape) (hs : s = .word32 ∨ s = .word64) (n : Nat) (h : n ≤ s.wordLimit) :
      Fits home s (.word n)
  | flag (home : Shape) (b : Bool) : Fits home .flag (.flag b)
  | choice (home : Shape) (names : List String) (i : Nat) (h : i < names.length)
      (hn : names.Nodup) : Fits home (.choice names) (.choice i)
  | none (home inner : Shape) : Fits home (.optional inner) .none
  | some (home inner : Shape) (d : Datum) (h : Fits home inner d) (hd : d ≠ .none) :
      Fits home (.optional inner) (.some d)
  | list (home item : Shape) (ds : List Datum) (h : ∀ d ∈ ds, Fits home (item.resolve home) d) :
      Fits home (.list item) (.list ds)
  | dict (home item : Shape) (kvs : List (String × Datum))
      (hs : kvs.Pairwise fun a b => a.1 < b.1)
      (h : ∀ kv ∈ kvs, Fits home (item.resolve home) kv.2) : Fits home (.dict item) (.dict kvs)
  | record (home : Shape) (name : String) (fields : List Field) (ds : List Datum)
      (hk : (fields.map (·.key)).Nodup) (hl : ds.length = fields.length)
      (h : ∀ p ∈ fields.zip ds,
        Fits (.record name fields) (p.1.shape.resolve (.record name fields)) p.2)
      (ho : ∀ p ∈ fields.zip ds, p.2 = .none → p.1.omitNone = true →
        p.1.required = false ∧ p.1.shape.fallback = .none) :
      Fits home (.record name fields) (.record ds)

theorem Shape.resolve_resolve (s home : Shape) : (s.resolve home).resolve home = s.resolve home := by
  cases s <;> try rfl
  cases home <;> rfl

theorem readDatum_resolve (depth : Nat) (home s : Shape) (r : Bytes) :
    readDatum depth home (s.resolve home) r = readDatum depth home s r := by
  rw [readDatum, readDatum, Shape.resolve_resolve]

theorem readDatum_cons {b : UInt8} (hb : isBlankByte b = false) (depth : Nat) (home s : Shape)
    (bs : Bytes) : readDatum depth home s (b :: bs) = readAt depth home (s.resolve home) b bs := by
  rw [readDatum]
  split
  · next h => rw [skipBlank_cons hb] at h; cases h
  · next b' rest h => rw [skipBlank_cons hb] at h; cases h; rfl

/-- The written value starts with a byte that starts a value: no blank, comma or closing
bracket or brace. -/
def Leads (j : Json) : Prop :=
  ∃ b bs, encodeChars (chars j) = b :: bs ∧ isBlankByte b = false ∧ b ≠ 0x2C ∧ b ≠ 0x5D ∧ b ≠ 0x7D

/-- Reading the written bytes of a datum back, at any depth and followed by anything that may
follow a value: the datum when the value nests less deep than the depth allows, a fault
otherwise. -/
def ReadsBack (home s : Shape) (d : Datum) : Prop :=
  ∀ depth, 0 < depth → ∀ rest, Follows rest →
    (readDatum depth home s (encodeChars (chars (d.toJson home s)) ++ rest)).toOption =
      if nesting (d.toJson home s) < depth then some (d, rest) else none

theorem follows_joinAfter (L : List (List Char)) (rest : Bytes) (b : UInt8)
    (hb : b = 0x5D ∨ b = 0x7D) : Follows (encodeChars (joinAfter false L) ++ b :: rest) := by
  cases L with
  | nil => exact Follows.cons (Or.inr hb)
  | cons x L => exact Follows.cons (by simp)

theorem toOption_eq_none {α β : Type} {x : Except α β} : x.toOption = none ↔ ∃ e, x = .error e := by
  cases x <;> simp [Except.toOption]

theorem toOption_eq_some {α β : Type} {x : Except α β} {b : β} : x.toOption = some b ↔ x = .ok b := by
  cases x <;> simp [Except.toOption]

/-- The start of an item after the separator it needs. -/
theorem elementStart_written {j : Json} (hj : Leads j) (first : Bool) (T : Bytes) :
    ∃ c t, encodeChars (if first then chars j else ',' :: chars j) ++ T = c :: t ∧
      isBlankByte c = false ∧ c ≠ 0x5D ∧ elementStart first (c :: t) = .ok (encodeChars (chars j) ++ T) := by
  obtain ⟨b, bs, hw, hb1, hb2, hb3, hb4⟩ := hj
  cases first with
  | true => exact ⟨b, bs ++ T, by simp [hw], hb1, hb3, by simp [elementStart, hw]⟩
  | false =>
    refine ⟨0x2C, encodeChars (chars j) ++ T, by simp; rfl, rfl, by decide, ?_⟩
    simp only [elementStart, Bool.false_eq_true, if_false, hw, List.cons_append, skipBlank_cons hb1]
    split
    · next h => cases h
    · next t h => cases h; exact absurd rfl hb3
    · rfl

theorem nestingList_cons_lt {j : Json} {js : List Json} {k : Nat} :
    nestingList (j :: js) < k ↔ nesting j < k ∧ nestingList js < k := by
  simp [nestingList]

/-- Reading the written items of a list up to its closing bracket. -/
theorem readItems_written {home item : Shape} {ds : List Datum}
    (h : ∀ d ∈ ds, ReadsBack home (item.resolve home) d ∧ Leads (d.toJson home (item.resolve home)))
    {depth : Nat} (hd : 0 < depth) (rest : Bytes) (first : Bool) (acc : List Datum) :
    (readItems depth home item first acc (encodeChars (joinAfter first
        (charsList (Datum.listToJson home item ds))) ++ 0x5D :: rest)).toOption =
      if nestingList (Datum.listToJson home item ds) < depth then
        some (acc.reverse ++ ds, 0x5D :: rest) else none := by
  induction ds generalizing first acc with
  | nil =>
    simp only [Datum.listToJson, charsList_nil, joinAfter_nil, encodeChars_nil, List.nil_append]
    have hs : skipBlank (0x5D :: rest) = 0x5D :: rest := skipBlank_cons rfl rest
    rw [readItems]
    split
    · next h => rw [hs] at h; cases h
    · next t h => rw [hs] at h; cases h; simp [nestingList, hd, Except.toOption]
    · next b t hne h => rw [hs] at h; cases h; exact absurd rfl hne
  | cons d ds ih =>
    obtain ⟨hread, hlead⟩ := h d List.mem_cons_self
    have hrest := fun x hx => h x (List.mem_cons_of_mem _ hx)
    simp only [Datum.listToJson, charsList_cons, joinAfter_cons, encodeChars_append, List.append_assoc]
    set T := encodeChars (joinAfter false (charsList (Datum.listToJson home item ds))) ++ 0x5D :: rest
    obtain ⟨c, t, hct, hc1, hc2, hstart⟩ := elementStart_written hlead first T
    rw [hct, readItems]
    split
    · next h => rw [skipBlank_cons hc1] at h; cases h
    · next t' h => rw [skipBlank_cons hc1] at h; cases h; exact absurd rfl hc2
    · next b' t' hne h =>
      rw [skipBlank_cons hc1] at h
      cases h
      have hback := hread depth hd T (follows_joinAfter _ rest _ (Or.inl rfl))
      rw [readDatum_resolve] at hback
      split
      · next e hx => rw [hstart] at hx; cases hx
      · next x hx =>
        rw [hstart] at hx
        cases hx
        split
        · next e he =>
          rw [he] at hback
          have hdeep : ¬ nesting (d.toJson home (item.resolve home)) < depth := fun hlt => by
            simp [hlt, Except.toOption] at hback
          simp [Except.toOption, nestingList_cons_lt, hdeep]
        · next d' r' he =>
          rw [he] at hback
          by_cases hlt : nesting (d.toJson home (item.resolve home)) < depth
          · simp only [hlt, if_true, Except.toOption, Option.some.injEq, Prod.mk.injEq] at hback
            obtain ⟨rfl, rfl⟩ := hback
            -- the item's text is not empty, so the rest after it is shorter
            have hlen : T.length < (c :: t).length := by
              obtain ⟨b0, bs0, hw0, -⟩ := hlead
              have hle := elementStart_length hstart
              rw [List.length_append, hw0, List.length_cons] at hle
              omega
            rw [if_pos hlen, ih hrest false (d' :: acc)]
            simp [nestingList_cons_lt, hlt]
          · simp [hlt, Except.toOption] at hback

theorem nestingMembers_cons_lt {k : String} {j : Json} {ms : List (String × Json)} {n : Nat} :
    nestingMembers ((k, j) :: ms) < n ↔ nesting j < n ∧ nestingMembers ms < n := by
  simp [nestingMembers]

/-- The text of a member: its key as a string literal, a colon and its value. -/
theorem encodeChars_member (k : String) (v : Json) :
    encodeChars (quoteString k ++ ':' :: chars v) =
      0x22 :: (encodeChars (k.toList.flatMap escapeChar) ++ 0x22 :: 0x3A :: encodeChars (chars v)) := by
  simp [encodeChars_quoteString]
  rfl

/-- The start of a member's key after the separator it needs. -/
theorem keyStart_written (k : String) (v : Json) (first : Bool) (T : Bytes) :
    ∃ c t, encodeChars (if first then quoteString k ++ ':' :: chars v
        else ',' :: (quoteString k ++ ':' :: chars v)) ++ T = c :: t ∧
      isBlankByte c = false ∧ c ≠ 0x7D ∧ keyStart first (c :: t) =
        .ok (0x22 :: (encodeChars (k.toList.flatMap escapeChar) ++ 0x22 :: 0x3A :: (encodeChars (chars v) ++ T))) ∧
      (encodeChars (chars v) ++ T).length < (c :: t).length := by
  have hm : encodeChars (quoteString k ++ ':' :: chars v) ++ T =
      0x22 :: (encodeChars (k.toList.flatMap escapeChar) ++ 0x22 :: 0x3A :: (encodeChars (chars v) ++ T)) := by
    rw [encodeChars_member]; simp
  cases first with
  | true => exact ⟨0x22, _, by rw [if_pos rfl, hm], rfl, by decide, rfl, by simp; omega⟩
  | false =>
    refine ⟨0x2C, _, by rw [if_neg (by decide), encodeChars_cons, List.append_assoc, hm]; rfl, rfl,
      by decide, ?_, by simp; omega⟩
    simp only [keyStart, Bool.false_eq_true, if_false, List.append_eq, List.nil_append]
    rw [skipBlank_cons (show isBlankByte 0x22 = false from rfl)]

theorem readColon_cons (r : Bytes) : readColon (0x3A :: r) = .ok r := by
  simp [readColon, skipBlank_cons (show isBlankByte 0x3A = false from rfl)]

theorem insertEntry_of_lt {k : String} {acc : List (String × Datum)} (h : ∀ kv ∈ acc, kv.1 < k)
    (d : Datum) : insertEntry k d acc = acc ++ [(k, d)] := by
  induction acc with
  | nil => rfl
  | cons kv acc ih =>
    obtain ⟨k', e⟩ := kv
    have hlt : k' < k := h (k', e) List.mem_cons_self
    rw [insertEntry, if_neg (by rintro rfl; exact String.lt_irrefl _ hlt), if_neg (String.lt_asymm hlt),
      ih fun x hx => h x (List.mem_cons_of_mem _ hx)]
    rfl

/-- Reading the written entries of a map up to its closing brace, in key order. -/
theorem readEntries_written {home item : Shape} {kvs : List (String × Datum)}
    (h : ∀ kv ∈ kvs, ReadsBack home (item.resolve home) kv.2 ∧
      Leads (kv.2.toJson home (item.resolve home)))
    {depth : Nat} (hd : 0 < depth) (rest : Bytes) (first : Bool) (acc : List (String × Datum))
    (hs : (acc ++ kvs).Pairwise fun a b => a.1 < b.1) :
    (readEntries depth home item first acc (encodeChars (joinAfter first
        (charsMembers (Datum.entriesToJson home item kvs))) ++ 0x7D :: rest)).toOption =
      if nestingMembers (Datum.entriesToJson home item kvs) < depth then
        some (acc ++ kvs, 0x7D :: rest) else none := by
  induction kvs generalizing first acc with
  | nil =>
    simp only [Datum.entriesToJson, charsMembers_nil, joinAfter_nil, encodeChars_nil, List.nil_append]
    rw [readEntries, skipBlank_cons (show isBlankByte 0x7D = false from rfl)]
    simp [nestingMembers, hd, Except.toOption]
  | cons kv kvs ih =>
    obtain ⟨k, d⟩ := kv
    obtain ⟨hread, hlead⟩ := h (k, d) List.mem_cons_self
    have hrest := fun x hx => h x (List.mem_cons_of_mem _ hx)
    simp only [Datum.entriesToJson, charsMembers_cons, joinAfter_cons, encodeChars_append, List.append_assoc]
    set T := encodeChars (joinAfter false (charsMembers (Datum.entriesToJson home item kvs))) ++
      0x7D :: rest
    obtain ⟨c, t, hct, hc1, hc2, hstart, hlen⟩ :=
      keyStart_written k (d.toJson home (item.resolve home)) first T
    have hback := hread depth hd T (follows_joinAfter _ rest _ (Or.inr rfl))
    rw [readDatum_resolve] at hback
    rw [hct, readEntries, skipBlank_cons hc1]
    split
    · next h => cases h
    · next t' h => cases h; exact absurd rfl hc2
    · next b' t' hne h =>
      cases h
      simp only [hstart, readString_escaped, readColon_cons]
      rw [if_pos hlen]
      split
      · next e he =>
        rw [he] at hback
        have hdeep : ¬ nesting (d.toJson home (item.resolve home)) < depth := fun hlt => by
          simp [hlt, Except.toOption] at hback
        simp [Except.toOption, nestingMembers_cons_lt, hdeep]
      · next d' r' he =>
        rw [he] at hback
        by_cases hlt : nesting (d.toJson home (item.resolve home)) < depth
        · simp only [hlt, if_true, Except.toOption, Option.some.injEq, Prod.mk.injEq] at hback
          obtain ⟨rfl, rfl⟩ := hback
          have hlen' : T.length < (c :: t).length := by
            obtain ⟨b0, bs0, hw0, -⟩ := hlead
            simp only [hw0, List.cons_append, List.length_cons, List.length_append] at hlen ⊢
            omega
          have hsorted : ∀ kv ∈ acc, kv.1 < k :=
            fun kv hkv => (List.pairwise_append.1 hs).2.2 kv hkv (k, d') List.mem_cons_self
          rw [if_pos hlen', insertEntry_of_lt hsorted, ih hrest false _ (by simpa using hs)]
          simp [nestingMembers_cons_lt, hlt]
        · simp [hlt, Except.toOption] at hback

/-! ### Records -/

/-- What a record's reader holds for a field once the object is read: the datum, or nothing where
the writer left the member out. -/
def slotOf (f : Field) (d : Datum) : Option Datum :=
  match d with
  | .none => if f.omitNone then none else some .none
  | d => some d

theorem slotOf_cases (f : Field) (d : Datum) :
    (slotOf f d = none ∧ d = .none ∧ f.omitNone = true) ∨ slotOf f d = some d := by
  unfold slotOf
  split
  · by_cases h : f.omitNone <;> simp [h]
  · exact .inr rfl

theorem fieldsToJson_omitted {home : Shape} {f : Field} {d : Datum} (h : slotOf f d = none)
    (fs : List Field) (ds : List Datum) :
    Datum.fieldsToJson home (f :: fs) (d :: ds) = Datum.fieldsToJson home fs ds := by
  unfold slotOf at h
  split at h
  · by_cases ho : f.omitNone
    · simp [Datum.fieldsToJson, ho]
    · simp [ho] at h
  · cases h

theorem fieldsToJson_kept {home : Shape} {f : Field} {d : Datum} (h : slotOf f d = some d)
    (fs : List Field) (ds : List Datum) :
    Datum.fieldsToJson home (f :: fs) (d :: ds) =
      (f.key, d.toJson home (f.shape.resolve home)) :: Datum.fieldsToJson home fs ds := by
  unfold slotOf at h
  split at h
  · by_cases ho : f.omitNone
    · simp [ho] at h
    · simp [Datum.fieldsToJson, ho, Datum.toJson]
  · next hne => cases d <;> first | (exact absurd rfl hne) | simp [Datum.fieldsToJson]

theorem fieldIndex_middle {fs₁ fs₂ : List Field} {f : Field}
    (hk : ((fs₁ ++ f :: fs₂).map (·.key)).Nodup) : fieldIndex (fs₁ ++ f :: fs₂) f.key = some fs₁.length := by
  have hnot : ∀ g ∈ fs₁, (g.key == f.key) = false := by
    intro g hg
    simp only [List.map_append, List.map_cons, List.nodup_append] at hk
    have := hk.2.2 g.key (List.mem_map_of_mem hg) f.key List.mem_cons_self
    simpa using this
  simp [fieldIndex, List.findIdx?_append, List.findIdx?_eq_none_iff.2 hnot, List.findIdx?_cons]

theorem completeFields_slots {fs : List Field} {ds : List Datum} (hl : ds.length = fs.length)
    (ho : ∀ p ∈ fs.zip ds, p.2 = .none → p.1.omitNone = true →
      p.1.required = false ∧ p.1.shape.fallback = .none) :
    completeFields fs (List.zipWith slotOf fs ds) = .ok ds := by
  induction fs generalizing ds with
  | nil => cases ds <;> simp_all [completeFields]
  | cons f fs ih =>
    cases ds with
    | nil => simp at hl
    | cons d ds =>
      have hrest := ih (by simpa using hl) fun p hp => ho p (List.mem_cons_of_mem _ hp)
      rcases slotOf_cases f d with ⟨hs, rfl, homit⟩ | hs
      · obtain ⟨hreq, hfb⟩ : f.required = false ∧ f.shape.fallback = .none :=
          ho (f, .none) List.mem_cons_self rfl homit
        simp [completeFields, hs, hreq, hfb, hrest]
      · simp [completeFields, hs, hrest]

/-- Reading the written members of a record's object up to its closing brace. The fields
`fs₁` are read already, into their slots; the members of `fs₂` follow in order. -/
theorem readFieldMap_written {home : Shape} {depth : Nat} (hd : 0 < depth) (rest : Bytes)
    (fs₂ : List Field) (ds₂ : List Datum) (hl₂ : ds₂.length = fs₂.length)
    (h : ∀ p ∈ fs₂.zip ds₂, ReadsBack home (p.1.shape.resolve home) p.2 ∧
      Leads (p.2.toJson home (p.1.shape.resolve home)))
    (fs₁ : List Field) (ds₁ : List Datum) (hl₁ : ds₁.length = fs₁.length)
    (hk : ((fs₁ ++ fs₂).map (·.key)).Nodup) (first : Bool) :
    (readFieldMap depth home (fs₁ ++ fs₂) (List.zipWith slotOf fs₁ ds₁ ++ fs₂.map fun _ => none)
        first (encodeChars (joinAfter first (charsMembers (Datum.fieldsToJson home fs₂ ds₂))) ++
          0x7D :: rest)).toOption =
      if nestingMembers (Datum.fieldsToJson home fs₂ ds₂) < depth then
        (completeFields (fs₁ ++ fs₂) (List.zipWith slotOf (fs₁ ++ fs₂) (ds₁ ++ ds₂))).toOption.map
          (·, 0x7D :: rest)
      else none := by
  induction fs₂ generalizing ds₂ fs₁ ds₁ first with
  | nil =>
    cases ds₂ with
    | cons => simp at hl₂
    | nil =>
      simp only [Datum.fieldsToJson, charsMembers_nil, joinAfter_nil, encodeChars_nil, List.nil_append,
        List.map_nil, List.append_nil]
      rw [readFieldMap, skipBlank_cons (show isBlankByte 0x7D = false from rfl)]
      simp only [nestingMembers, hd, if_true]
      cases completeFields fs₁ (List.zipWith slotOf fs₁ ds₁) <;> rfl
  | cons f fs₂ ih =>
    cases ds₂ with
    | nil => simp at hl₂
    | cons d ds₂ =>
      have hl₂' : ds₂.length = fs₂.length := by simpa using hl₂
      have hrest := fun p hp => h p (List.mem_cons_of_mem _ hp)
      have hzip : List.zipWith slotOf (fs₁ ++ [f]) (ds₁ ++ [d]) =
          List.zipWith slotOf fs₁ ds₁ ++ [slotOf f d] := by
        rw [List.zipWith_append (by omega)]; rfl
      have hk' : (((fs₁ ++ [f]) ++ fs₂).map (·.key)).Nodup := by simpa using hk
      have hlast : ((fs₁ ++ [f]) ++ fs₂) = fs₁ ++ f :: fs₂ := by simp
      have hlast' : ((ds₁ ++ [d]) ++ ds₂) = ds₁ ++ d :: ds₂ := by simp
      have ih' := ih ds₂ hl₂' hrest (fs₁ ++ [f]) (ds₁ ++ [d]) (by simp [hl₁]) hk'
      rw [hzip, hlast, hlast', List.append_assoc, List.singleton_append] at ih'
      rcases slotOf_cases f d with ⟨hs, -, -⟩ | hs
      · -- the writer left the member out: nothing is read for it
        rw [fieldsToJson_omitted hs, ← ih' first, hs]
        rfl
      · obtain ⟨hread, hlead⟩ := h (f, d) List.mem_cons_self
        rw [fieldsToJson_kept hs]
        simp only [charsMembers_cons, joinAfter_cons, encodeChars_append, List.append_assoc]
        set T := encodeChars (joinAfter false (charsMembers (Datum.fieldsToJson home fs₂ ds₂))) ++
          0x7D :: rest
        obtain ⟨c, t, hct, hc1, hc2, hstart, hlen⟩ :=
          keyStart_written f.key (d.toJson home (f.shape.resolve home)) first T
        have hback := hread depth hd T (follows_joinAfter _ rest _ (Or.inr rfl))
        rw [readDatum_resolve] at hback
        have hindex := fieldIndex_middle hk
        have hfree : (List.zipWith slotOf fs₁ ds₁ ++ (f :: fs₂).map fun _ => none).getD fs₁.length none =
            none := by
          simp [List.getD_eq_getElem?_getD, hl₁]
        have hfield : (fs₁ ++ f :: fs₂).getD fs₁.length (Field.needed "" .text) = f := by
          simp [List.getD_eq_getElem?_getD]
        have hset : (List.zipWith slotOf fs₁ ds₁ ++ (f :: fs₂).map fun _ => none).set fs₁.length
            (some d) = List.zipWith slotOf fs₁ ds₁ ++ slotOf f d :: fs₂.map fun _ => none := by
          rw [List.set_append_right _ _ (by simp [hl₁])]
          simp [hl₁, hs]
        rw [hct, readFieldMap, skipBlank_cons hc1]
        split
        · next h => cases h
        · next t' h => cases h; exact absurd rfl hc2
        · next b' t' hne h =>
          cases h
          simp only [hstart, readString_escaped, hindex, hfree, Option.isSome_none, Bool.false_eq_true,
            if_false, readColon_cons, hfield]
          rw [if_pos hlen]
          split
          · next e he =>
            rw [he] at hback
            have hdeep : ¬ nesting (d.toJson home (f.shape.resolve home)) < depth := fun hlt => by
              simp [hlt, Except.toOption] at hback
            simp [Except.toOption, nestingMembers_cons_lt, hdeep]
          · next d' r' he =>
            rw [he] at hback
            by_cases hlt : nesting (d.toJson home (f.shape.resolve home)) < depth
            · simp only [hlt, if_true, Except.toOption, Option.some.injEq, Prod.mk.injEq] at hback
              obtain ⟨rfl, rfl⟩ := hback
              have hlen' : T.length < (c :: t).length := by
                obtain ⟨b0, bs0, hw0, -⟩ := hlead
                simp only [hw0, List.cons_append, List.length_cons, List.length_append] at hlen ⊢
                omega
              rw [if_pos hlen', hset, ih' false]
              simp [nestingMembers_cons_lt, hlt]
            · simp [hlt, Except.toOption] at hback

/-! ### Every fitting datum reads back -/

theorem Fits.resolve_eq {home s : Shape} {d : Datum} (h : Fits home s d) : s.resolve home = s := by
  cases h with
  | word _ _ hs => rcases hs with rfl | rfl <;> rfl
  | _ => rfl

theorem digits_head (n : Nat) :
    ∃ b bs, encodeChars (Nat.toDigits 10 n) = b :: bs ∧ 0x30 ≤ b.toNat ∧ b.toNat ≤ 0x39 := by
  have hdigit : ∀ b : UInt8, isDigitByte b = true → 0x30 ≤ b.toNat ∧ b.toNat ≤ 0x39 := by
    intro b hb
    simpa [isDigitByte, UInt8.le_iff_toNat_le] using hb
  rcases Nat.eq_zero_or_pos n with rfl | hpos
  · exact ⟨0x30, [], rfl, by decide, by decide⟩
  · obtain ⟨b, bs, he, -, hb, -⟩ := toDigits_bytes n hpos
    exact ⟨b, bs, he, hdigit b hb⟩

theorem digit_ne {b : UInt8} (h1 : 0x30 ≤ b.toNat) (h2 : b.toNat ≤ 0x39) :
    ∀ c : UInt8, c.toNat < 0x30 ∨ 0x39 < c.toNat → b ≠ c := by
  rintro c hc rfl; omega

theorem isBlankByte_of_digit {b : UInt8} (h1 : 0x30 ≤ b.toNat) (h2 : b.toNat ≤ 0x39) :
    isBlankByte b = false := by
  have hne := digit_ne h1 h2
  simp only [isBlankByte, Bool.or_eq_false_iff, beq_eq_false_iff_ne]
  exact ⟨⟨⟨hne _ (by decide), hne _ (by decide)⟩, hne _ (by decide)⟩, hne _ (by decide)⟩

/-- The written value of a fitting datum starts a value, and with anything but `n` unless the
datum is absent. -/
theorem Fits.leads {home s : Shape} {d : Datum} (h : Fits home s d) :
    Leads (d.toJson home s) ∧ (d ≠ .none → ∀ bs, encodeChars (chars (d.toJson home s)) ≠ 0x6E :: bs) := by
  induction h with
  | text | uuid | instant | choice =>
    refine ⟨⟨0x22, _, encodeChars_quoteString _, rfl, by decide, by decide, by decide⟩, ?_⟩
    intro _ bs e
    simp [Datum.toJson, encodeChars_quoteString] at e
  | word home s hs n =>
    obtain ⟨b, bs, he, h1, h2⟩ := digits_head n
    have hne := digit_ne h1 h2
    refine ⟨⟨b, bs, he, isBlankByte_of_digit h1 h2, hne _ (by decide), hne _ (by decide),
      hne _ (by decide)⟩, fun _ bs' e => ?_⟩
    have e' : b :: bs = 0x6E :: bs' := he.symm.trans e
    exact hne _ (by decide) (List.cons.inj e').1
  | flag home b =>
    cases b
    · exact ⟨⟨0x66, _, rfl, rfl, by decide, by decide, by decide⟩, fun _ bs e => by cases e⟩
    · exact ⟨⟨0x74, _, rfl, rfl, by decide, by decide, by decide⟩, fun _ bs e => by cases e⟩
  | none => exact ⟨⟨0x6E, _, rfl, rfl, by decide, by decide, by decide⟩, fun h => absurd rfl h⟩
  | some home inner d h hd ih => exact ⟨ih.1, fun _ => ih.2 hd⟩
  | list =>
    exact ⟨⟨0x5B, _, rfl, rfl, by decide, by decide, by decide⟩, fun _ bs e => by cases e⟩
  | dict | record =>
    exact ⟨⟨0x7B, _, rfl, rfl, by decide, by decide, by decide⟩, fun _ bs e => by cases e⟩

theorem toOption_map {α β γ : Type} (f : β → γ) (x : Except α β) :
    (x.map f).toOption = x.toOption.map f := by
  cases x <;> rfl

theorem readAt_string {depth : Nat} {home s : Shape} (hs : s = .text ∨ s = .uuid ∨ s = .instant)
    (v : String) (rest : Bytes) :
    readAt depth home s 0x22 (encodeChars (v.toList.flatMap escapeChar) ++ 0x22 :: rest) =
      (textDatum s v rest).map (·, rest) := by
  rcases hs with rfl | rfl | rfl <;> rw [readAt] <;> simp only [if_pos, readString_escaped]

theorem readDatum_string {depth : Nat} {home s : Shape} (hs : s.resolve home = s) (v : String)
    (rest : Bytes) : readDatum depth home s (encodeChars (quoteString v) ++ rest) =
      readAt depth home s 0x22 (encodeChars (v.toList.flatMap escapeChar) ++ 0x22 :: rest) := by
  rw [encodeChars_quoteString, List.cons_append, readDatum_cons rfl, hs, List.append_assoc]
  rfl

theorem idxOf?_getElem {names : List String} (hn : names.Nodup) {i : Nat} (h : i < names.length) :
    names.idxOf? names[i] = some i := List.idxOf?_eq_some_iff.2 ⟨h, rfl, fun j hj e => by
    have := (List.getElem_inj hn).1 e
    omega⟩

/-! ### Containers

The reader meets an opened bracket in one way for every kind of container: it refuses it at the
last level of nesting, and otherwise reads the contents one level down and then the closing
bracket. `opened_toOption` states that step once; each container case of `Fits.readsBack` gives
it the contents' own law. -/

theorem readAt_list_bracket (depth : Nat) (home item : Shape) (rest : Bytes) :
    readAt depth home (.list item) 0x5B rest =
      if depth ≤ 1 then .error (faultPast .recursionLimit (0x5B :: rest))
      else (readItems (depth - 1) home item true [] rest).bind
        fun p => (closeList p.2).map (.list p.1, ·) := by
  rw [readAt.eq_def]
  by_cases hd : depth ≤ 1
  · simp [hd]
  · simp only [hd, if_pos, if_false]
    cases readItems (depth - 1) home item true [] rest <;> rfl

theorem readAt_dict_brace (depth : Nat) (home item : Shape) (rest : Bytes) :
    readAt depth home (.dict item) 0x7B rest =
      if depth ≤ 1 then .error (faultPast .recursionLimit (0x7B :: rest))
      else (readEntries (depth - 1) home item true [] rest).bind
        fun p => (closeMap p.2).map (.dict p.1, ·) := by
  rw [readAt.eq_def]
  by_cases hd : depth ≤ 1
  · simp [hd]
  · simp only [hd, if_pos, if_false]
    cases readEntries (depth - 1) home item true [] rest <;> rfl

theorem readAt_record_brace (depth : Nat) (home : Shape) (name : String) (fields : List Field)
    (rest : Bytes) :
    readAt depth home (.record name fields) 0x7B rest =
      if depth ≤ 1 then .error (faultPast .recursionLimit (0x7B :: rest))
      else (readFieldMap (depth - 1) (.record name fields) fields (fields.map fun _ => none) true
        rest).bind fun p => (closeMap p.2).map (.record p.1, ·) := by
  rw [readAt.eq_def]
  by_cases hd : depth ≤ 1
  · simp [hd]
  · simp only [hd, if_false,
      show ¬ ((0x7B : UInt8) = 0x5B) by decide, if_true]
    cases readFieldMap (depth - 1) (.record name fields) fields (fields.map fun _ => none) true
      rest <;> rfl

theorem closeList_bracket (rest : Bytes) : closeList (0x5D :: rest) = .ok rest := by
  simp [closeList, skipBlank_cons (show isBlankByte 0x5D = false from rfl)]

theorem closeMap_brace (rest : Bytes) : closeMap (0x7D :: rest) = .ok rest := by
  simp [closeMap, skipBlank_cons (show isBlankByte 0x7D = false from rfl)]

/-- A container whose contents read back one level down, nesting `n` deep, reads back when it
nests `n + 1` deep, and is refused at every depth it does not fit in. -/
theorem opened_toOption {α : Type} {depth n : Nat} {refusal : ReadError}
    {contents : Except ReadError (α × Bytes)} {close : Bytes → Except ReadError Bytes}
    {wrap : α → Datum} {v : α} {c : UInt8} {rest : Bytes}
    (hcontents : 1 < depth →
      contents.toOption = if n < depth - 1 then some (v, c :: rest) else none)
    (hclose : close (c :: rest) = .ok rest) :
    (if depth ≤ 1 then Except.error refusal else
      contents.bind fun p => (close p.2).map (wrap p.1, ·)).toOption =
      if n + 1 < depth then some (wrap v, rest) else none := by
  by_cases hdepth : depth ≤ 1
  · rw [if_pos hdepth, if_neg (by omega)]
    rfl
  · rw [if_neg hdepth]
    have hc := hcontents (by omega)
    rcases contents with e | ⟨xs, r⟩
    · -- refused inside: the contents nest too deep for the levels left
      have hlt : ¬ n < depth - 1 := fun hlt => by simp [hlt, Except.toOption] at hc
      rw [if_neg (by omega)]
      rfl
    · by_cases hlt : n < depth - 1
      · simp only [hlt, if_true, Except.toOption, Option.some.injEq, Prod.mk.injEq] at hc
        obtain ⟨rfl, rfl⟩ := hc
        simp only [Except.bind, hclose, Except.map, Except.toOption]
        rw [if_pos (by omega)]
      · simp [hlt, Except.toOption] at hc

/-- Every fitting datum reads back from its written bytes. -/
theorem Fits.readsBack {home s : Shape} {d : Datum} (h : Fits home s d) : ReadsBack home s d := by
  induction h with
  | text home v =>
    intro depth hd rest _
    simp only [Datum.toJson, chars_str]
    rw [readDatum_string rfl, readAt_string (.inl rfl)]
    simp [textDatum, Except.map, nesting, hd, Except.toOption]
  | uuid home u =>
    intro depth hd rest _
    simp only [Datum.toJson, chars_str]
    rw [readDatum_string rfl, readAt_string (.inr (.inl rfl))]
    simp [textDatum, Except.map, Uuid.parse_text, nesting, hd, Except.toOption]
  | instant home t ht =>
    intro depth hd rest _
    simp only [Datum.toJson, chars_str]
    rw [readDatum_string rfl, readAt_string (.inr (.inr rfl))]
    simp [textDatum, Except.map, ht, nesting, hd, Except.toOption]
  | word home s hs n hn =>
    intro depth hd rest hr
    obtain ⟨b, bs, he, h1, h2⟩ := digits_head n
    have hdigit : isDigitByte b = true := by
      simp only [isDigitByte, UInt8.le_iff_toNat_le, Bool.and_eq_true, decide_eq_true_eq]
      exact ⟨h1, h2⟩
    have hminus : b ≠ 0x2D := digit_ne h1 h2 _ (by decide)
    have hmax : n ≤ maxWord64 := by
      rcases hs with rfl | rfl <;> simp [Shape.wordLimit, maxWord64, Nat.pow_eq] at hn ⊢ <;> omega
    have hread : readNumber true (b :: (bs ++ rest)) = .ok (.nat n, rest) := by
      rw [← List.cons_append, ← he]
      exact readNumber_toDigits hmax hr
    simp only [Datum.toJson, chars_nat]
    rw [he, List.cons_append, readDatum_cons (isBlankByte_of_digit h1 h2)]
    rcases hs with rfl | rfl <;> rw [readAt.eq_def] <;>
      simp [Shape.resolve, hminus, hdigit, hread, wordOf, hn, nesting, hd, Except.toOption]
  | flag home b =>
    intro depth hd rest _
    cases b
    · have hw : encodeChars (chars ((Datum.flag false).toJson home .flag)) ++ rest =
          0x66 :: ([0x61, 0x6C, 0x73, 0x65] ++ rest) := rfl
      rw [hw, readDatum_cons rfl, readAt.eq_def, readWord_append]
      simp [Shape.resolve,  Except.map, Datum.toJson,
        nesting, hd, Except.toOption]
    · have hw : encodeChars (chars ((Datum.flag true).toJson home .flag)) ++ rest =
          0x74 :: ([0x72, 0x75, 0x65] ++ rest) := rfl
      rw [hw, readDatum_cons rfl, readAt.eq_def, readWord_append]
      simp [Shape.resolve,  Except.map, Datum.toJson, nesting,
        hd, Except.toOption]
  | choice home names i hi hn =>
    intro depth hd rest _
    simp only [Datum.toJson, chars_str]
    rw [readDatum_string rfl, readAt.eq_def]
    simp [readName, readString_escaped, List.getElem?_eq_getElem hi, idxOf?_getElem hn hi, Except.map,
      nesting, hd, Except.toOption]
  | none home inner =>
    intro depth hd rest _
    have hw : encodeChars (chars (Datum.none.toJson home (.optional inner))) ++ rest =
        0x6E :: ([0x75, 0x6C, 0x6C] ++ rest) := rfl
    rw [hw, readDatum_cons rfl, readAt.eq_def, readWord_append]
    simp [Shape.resolve,  Except.map, Datum.toJson, nesting,
      hd, Except.toOption]
  | some home inner d h hne ih =>
    intro depth hd rest hr
    obtain ⟨⟨b, bs, hw, hb, -⟩, hn⟩ := h.leads
    have hbn : b ≠ 0x6E := fun e => hn hne bs (e ▸ hw)
    have hinner := ih depth hd rest hr
    rw [hw, List.cons_append, readDatum_cons hb, h.resolve_eq] at hinner
    have hw' : encodeChars (chars ((Datum.some d).toJson home (.optional inner))) = b :: bs := hw
    rw [hw', List.cons_append, readDatum_cons hb, readAt.eq_def]
    simp only [Shape.resolve, if_neg hbn, toOption_map, hinner]
    by_cases hc : nesting (d.toJson home inner) < depth <;> simp [hc, Datum.toJson]
  | list home item ds h ih =>
    intro depth hd rest hr
    have hchildren : ∀ d ∈ ds, ReadsBack home (item.resolve home) d ∧
        Leads (d.toJson home (item.resolve home)) := fun d hd' => ⟨ih d hd', (h d hd').leads.1⟩
    have hw : encodeChars (chars ((Datum.list ds).toJson home (.list item))) ++ rest =
        0x5B :: (encodeChars (joinAfter true (charsList (Datum.listToJson home item ds))) ++
          0x5D :: rest) := by
      simp [Datum.toJson, joinAfter]
      rfl
    have hnest : nesting ((Datum.list ds).toJson home (.list item)) =
        nestingList (Datum.listToJson home item ds) + 1 := by
      simp [Datum.toJson, nesting]
    rw [hw, readDatum_cons rfl, hnest]
    simp only [Shape.resolve, readAt_list_bracket]
    refine opened_toOption (fun hdepth => ?_) (closeList_bracket rest)
    simpa using readItems_written hchildren (show 0 < depth - 1 by omega) rest true []
  | dict home item kvs hs h ih =>
    intro depth hd rest hr
    have hchildren : ∀ kv ∈ kvs, ReadsBack home (item.resolve home) kv.2 ∧
        Leads (kv.2.toJson home (item.resolve home)) := fun kv hkv => ⟨ih kv hkv, (h kv hkv).leads.1⟩
    have hw : encodeChars (chars ((Datum.dict kvs).toJson home (.dict item))) ++ rest =
        0x7B :: (encodeChars (joinAfter true (charsMembers (Datum.entriesToJson home item kvs))) ++
          0x7D :: rest) := by
      simp [Datum.toJson, joinAfter]
      rfl
    have hnest : nesting ((Datum.dict kvs).toJson home (.dict item)) =
        nestingMembers (Datum.entriesToJson home item kvs) + 1 := by
      simp [Datum.toJson, nesting]
    rw [hw, readDatum_cons rfl, hnest]
    simp only [Shape.resolve, readAt_dict_brace]
    refine opened_toOption (fun hdepth => ?_) (closeMap_brace rest)
    simpa using readEntries_written hchildren (show 0 < depth - 1 by omega) rest true []
      (by simpa using hs)
  | record home name fields ds hk hl h ho ih =>
    intro depth hd rest hr
    have hchildren : ∀ p ∈ fields.zip ds,
        ReadsBack (.record name fields) (p.1.shape.resolve (.record name fields)) p.2 ∧
        Leads (p.2.toJson (.record name fields) (p.1.shape.resolve (.record name fields))) :=
      fun p hp => ⟨ih p hp, (h p hp).leads.1⟩
    have hw : encodeChars (chars ((Datum.record ds).toJson home (.record name fields))) ++ rest =
        0x7B :: (encodeChars (joinAfter true (charsMembers
          (Datum.fieldsToJson (.record name fields) fields ds))) ++ 0x7D :: rest) := by
      simp [Datum.toJson, joinAfter]
      rfl
    have hnest : nesting ((Datum.record ds).toJson home (.record name fields)) =
        nestingMembers (Datum.fieldsToJson (.record name fields) fields ds) + 1 := by
      simp [Datum.toJson, nesting]
    rw [hw, readDatum_cons rfl, hnest]
    simp only [Shape.resolve, readAt_record_brace]
    refine opened_toOption (fun hdepth => ?_) (closeMap_brace rest)
    have hfields := readFieldMap_written (show 0 < depth - 1 by omega) rest fields ds hl hchildren
      [] [] rfl (by simpa using hk) true
    simpa [completeFields_slots hl ho, Except.toOption] using hfields

/-- A fitting datum written as a whole text reads back as itself when its value nests at most
127 containers deep, and is refused otherwise. -/
theorem Fits.ofText {s : Shape} {d : Datum} (h : Fits s s d) :
    (Datum.ofText s (bytes (d.write s))).toOption =
      if nesting (d.write s) < 128 then Option.some d else Option.none := by
  have hback := h.readsBack 128 (by decide) [] Follows.nil
  rw [List.append_nil] at hback
  unfold Datum.ofText
  rw [bytes_eq, Datum.write]
  cases hr : readDatum 128 s s (encodeChars (chars (d.toJson s s))) with
  | error e =>
    rw [hr] at hback
    by_cases hlt : nesting (d.toJson s s) < 128
    · simp [hlt, Except.toOption] at hback
    · simp [hlt, Except.toOption, bind, Except.bind]
  | ok p =>
    rw [hr] at hback
    by_cases hlt : nesting (d.toJson s s) < 128
    · simp only [hlt, if_true, Except.toOption, Option.some.injEq] at hback
      subst hback
      simp [hlt, skipBlank, Except.toOption, bind, Except.bind, pure, Except.pure]
    · simp [hlt, Except.toOption] at hback

/-! ## How deeply written JSON nests -/

mutual

/-- How deeply a datum nests lists, maps and records. -/
def Datum.depth : Datum → Nat
  | .some d => d.depth
  | .list ds => Datum.depthList ds + 1
  | .dict kvs => Datum.depthEntries kvs + 1
  | .record ds => Datum.depthList ds + 1
  | _ => 0

/-- The deepest nesting among items. -/
def Datum.depthList : List Datum → Nat
  | [] => 0
  | d :: ds => max d.depth (Datum.depthList ds)

/-- The deepest nesting among the values of entries. -/
def Datum.depthEntries : List (String × Datum) → Nat
  | [] => 0
  | (_, d) :: kvs => max d.depth (Datum.depthEntries kvs)

end

theorem nestingList_listToJson {home s : Shape} {ds : List Datum}
    (h : ∀ d ∈ ds, nesting (d.toJson home (s.resolve home)) = d.depth) :
    nestingList (Datum.listToJson home s ds) = Datum.depthList ds := by
  induction ds with
  | nil => rfl
  | cons d ds ih =>
    simp only [Datum.listToJson, nestingList, Datum.depthList, h d List.mem_cons_self,
      ih fun d' hd' => h d' (List.mem_cons_of_mem _ hd')]

theorem nestingMembers_entriesToJson {home s : Shape} {kvs : List (String × Datum)}
    (h : ∀ kv ∈ kvs, nesting (kv.2.toJson home (s.resolve home)) = kv.2.depth) :
    nestingMembers (Datum.entriesToJson home s kvs) = Datum.depthEntries kvs := by
  induction kvs with
  | nil => rfl
  | cons kv kvs ih =>
    obtain ⟨k, d⟩ := kv
    simp only [Datum.entriesToJson, nestingMembers, Datum.depthEntries, h (k, d) List.mem_cons_self,
      ih fun kv' hkv' => h kv' (List.mem_cons_of_mem _ hkv')]

/-- A field left out, or written as `null`, holds no nesting. -/
theorem nestingMembers_fieldsToJson {home : Shape} {fs : List Field} {ds : List Datum}
    (hl : ds.length = fs.length)
    (h : ∀ p ∈ fs.zip ds, nesting (p.2.toJson home (p.1.shape.resolve home)) = p.2.depth) :
    nestingMembers (Datum.fieldsToJson home fs ds) = Datum.depthList ds := by
  induction fs generalizing ds with
  | nil => cases ds with
    | nil => rfl
    | cons _ _ => simp at hl
  | cons f fs ih =>
    cases ds with
    | nil => simp at hl
    | cons d ds =>
      have hrest := ih (by simpa using hl) fun p hp => h p (by simp [hp])
      rcases slotOf_cases f d with ⟨hs, rfl, -⟩ | hs
      · rw [fieldsToJson_omitted hs, hrest]
        simp [Datum.depthList, Datum.depth]
      · rw [fieldsToJson_kept hs]
        simp only [nestingMembers, Datum.depthList, hrest, h (f, d) (by simp)]

/-- Written JSON nests exactly as deeply as the datum it writes. -/
theorem Fits.nesting_toJson {home s : Shape} {d : Datum} (h : Fits home s d) :
    nesting (d.toJson home s) = d.depth := by
  induction h with
  | text | uuid | instant | flag | none => rfl
  | word _ _ hs => rcases hs with rfl | rfl <;> rfl
  | choice => rfl
  | some home inner d _ _ ih => exact ih
  | list home item ds _ ih =>
    simp only [Datum.toJson, nesting, Datum.depth, nestingList_listToJson ih]
  | dict home item kvs _ _ ih =>
    simp only [Datum.toJson, nesting, Datum.depth, nestingMembers_entriesToJson ih]
  | record home name fields ds _ hl _ _ ih =>
    simp only [Datum.toJson, nesting, Datum.depth, nestingMembers_fieldsToJson hl ih]

end FlowRegistry.Json
