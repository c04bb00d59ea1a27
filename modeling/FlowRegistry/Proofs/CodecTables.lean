import FlowRegistry.Proofs.Upgrades
import Mathlib.Data.List.Nodup

/-!
# What a codec table keeps, and how it answers a payload

A codec table changes only by registrations and declarations of its current version
(`CodecTable.Change`). This module says what every sequence of such calls keeps, and how a
table reached so answers every byte string it is asked to read.

* `CodecTable.Valid`: no codec has version 0, the registered versions are listed once each in
  increasing order, and a declared current version is registered. The empty table is valid and
  every call keeps it valid (`CodecTable.valid_apply`), the sorted insert of a new version by
  `pairwise_insertCodec`.
* `CodecTable.Moves`: what one call does. Every codec stays; the registered versions grow only by
  the version of a registration that goes through; the current version moves only by a
  declaration that goes through, and never back; and a refused call leaves the table, and so its
  description, as it was. `codec_table_calls_keep_laws` puts the two together.
* `payload_failures_classified`: a payload too short for its header or with another magic is
  refused as malformed, whatever codecs the table holds; one with a good header reads as its
  stamped version, is refused as unsupported exactly when no codec has that version, whatever its
  body, and is otherwise decoded by that version's codec from the bytes after the header.
  "Whatever codecs the table holds" is `CodecTable.AnswersWithoutCodecs`: every table with the
  same magic and versions answers alike, so no codec was asked.
-/

namespace FlowRegistry.Format

namespace CodecTable

variable {α : Type}

/-! ### The answer of a call -/

/-- What a call answers: the table it makes, or the error it is refused with. -/
def call (t : CodecTable α) : Change α → Outcome (CodecTable α)
  | .register c => t.register c
  | .setCurrent v => t.setCurrent v

theorem apply_eq_call (t : CodecTable α) (ch : Change α) :
    t.apply ch = match t.call ch with
      | .ok t' => t'
      | .error _ => t := by
  cases ch <;> rfl

theorem apply_of_call_ok {t t' : CodecTable α} {ch : Change α} (h : t.call ch = .ok t') :
    t.apply ch = t' := by
  rw [apply_eq_call, h]

theorem apply_of_call_error {t : CodecTable α} {ch : Change α} {e : RegistryError}
    (h : t.call ch = .error e) : t.apply ch = t := by
  rw [apply_eq_call, h]

/-- A registration is refused at version 0, and at a version the table has. -/
theorem register_eq_error_iff (t : CodecTable α) (c : Codec α) :
    (∃ e, t.register c = .error e) ↔ c.version = 0 ∨ c.version ∈ t.supported := by
  unfold register
  by_cases h0 : c.version = 0
  · simp [h0]
  · by_cases hmem : c.version ∈ t.supported <;> simp [h0, hmem]

/-- A declaration that goes through names a registered version no lower than the current one. -/
theorem setCurrent_eq_ok_iff {t t' : CodecTable α} {v : Nat} :
    t.setCurrent v = .ok t' ↔
      v ∈ t.supported ∧ (∀ a, t.current = some a → a ≤ v) ∧ t' = { t with current := some v } := by
  unfold setCurrent
  by_cases hmem : v ∈ t.supported
  · rcases hcur : t.current with _ | a
    · simp [hmem, eq_comm]
    · by_cases hlt : v < a
      · simp [hmem, hlt]
      · simp [hmem, hlt, eq_comm]
        omega
  · simp [hmem]

/-! ### Versions in increasing order -/

theorem supported_insertCodec_mem {c : Codec α} {ds : List (Codec α)} {v : Nat} :
    v ∈ (insertCodec c ds).map (·.version) ↔ v = c.version ∨ v ∈ ds.map (·.version) := by
  simp only [List.mem_map, mem_insertCodec]
  constructor
  · rintro ⟨d, rfl | hd, rfl⟩
    · exact .inl rfl
    · exact .inr ⟨d, hd, rfl⟩
  · rintro (rfl | ⟨d, hd, rfl⟩)
    · exact ⟨c, .inl rfl, rfl⟩
    · exact ⟨d, .inr hd, rfl⟩

/-- Inserting a new version into versions in increasing order keeps them so. -/
theorem pairwise_insertCodec {c : Codec α} {ds : List (Codec α)}
    (hs : (ds.map (·.version)).Pairwise (· < ·)) (hc : c.version ∉ ds.map (·.version)) :
    ((insertCodec c ds).map (·.version)).Pairwise (· < ·) := by
  induction ds with
  | nil => simp [insertCodec]
  | cons d ds ih =>
    rw [List.map_cons, List.pairwise_cons] at hs
    obtain ⟨hd, hs⟩ := hs
    have hne : c.version ≠ d.version := fun h => hc (by simp [h])
    have hrest : c.version ∉ ds.map (·.version) := fun h => hc (List.mem_cons_of_mem _ h)
    unfold insertCodec
    split
    · next hlt =>
      rw [List.map_cons, List.pairwise_cons]
      refine ⟨fun v hv => ?_, by rw [List.map_cons, List.pairwise_cons]; exact ⟨hd, hs⟩⟩
      rcases List.mem_cons.1 hv with rfl | hv
      · exact hlt
      · exact Nat.lt_trans hlt (hd v hv)
    · next hge =>
      rw [List.map_cons, List.pairwise_cons]
      refine ⟨fun v hv => ?_, ih hs hrest⟩
      rcases supported_insertCodec_mem.1 hv with rfl | hv
      · omega
      · exact hd v hv

/-! ### The invariant -/

/-- What every table reached by calls keeps: no codec has version 0, the registered versions are
listed once each in increasing order, and a declared current version is registered. -/
structure Valid (t : CodecTable α) : Prop where
  zero_not_mem : 0 ∉ t.supported
  sorted : t.supported.Pairwise (· < ·)
  current_mem : ∀ v, t.current = some v → v ∈ t.supported

theorem valid_empty (magic : Bytes) : (empty magic : CodecTable α).Valid where
  zero_not_mem := by simp [empty, supported]
  sorted := by simp [empty, supported]
  current_mem := by simp [empty]

theorem Valid.register {t t' : CodecTable α} {c : Codec α} (h : t.Valid)
    (hreg : t.register c = .ok t') : t'.Valid := by
  have h0 : c.version ≠ 0 := fun h0 => by
    obtain ⟨e, he⟩ := (register_eq_error_iff t c).2 (.inl h0)
    rw [he] at hreg
    cases hreg
  obtain ⟨hnew, rfl⟩ := register_eq_ok hreg
  have hmem : ∀ v, v ∈ ({ t with codecs := insertCodec c t.codecs } : CodecTable α).supported ↔
      v = c.version ∨ v ∈ t.supported := fun _ => supported_insertCodec_mem
  refine ⟨fun hz => ?_, pairwise_insertCodec h.sorted hnew, fun v hv => (hmem v).2 (.inr ?_)⟩
  · rcases (hmem 0).1 hz with hz | hz
    · exact h0 hz.symm
    · exact h.zero_not_mem hz
  · exact h.current_mem v hv

theorem Valid.setCurrent {t t' : CodecTable α} {v : Nat} (h : t.Valid)
    (hset : t.setCurrent v = .ok t') : t'.Valid := by
  obtain ⟨hmem, -, rfl⟩ := setCurrent_eq_ok_iff.1 hset
  exact ⟨h.zero_not_mem, h.sorted, fun a ha => by cases ha; exact hmem⟩

/-- Every call keeps a table valid: one that goes through by the two lemmas above, a refused one
because it leaves the table. -/
theorem valid_apply {t : CodecTable α} (h : t.Valid) (ch : Change α) : (t.apply ch).Valid := by
  rcases hcall : t.call ch with e | t'
  · rwa [apply_of_call_error hcall]
  · rw [apply_of_call_ok hcall]
    cases ch with
    | register c => exact h.register hcall
    | setCurrent v => exact h.setCurrent hcall

theorem valid_applyAll {t : CodecTable α} (h : t.Valid) (cs : List (Change α)) :
    (t.applyAll cs).Valid := by
  induction cs generalizing t with
  | nil => exact h
  | cons ch cs ih => exact ih (valid_apply h ch)

/-- A version a valid table has is refused as already registered. -/
theorem Valid.register_of_mem {t : CodecTable α} (h : t.Valid) {c : Codec α}
    (hc : c.version ∈ t.supported) :
    t.register c = .error (.alreadyExists s!"serializer for data model version {c.version}") := by
  have h0 : c.version ≠ 0 := fun h0 => h.zero_not_mem (h0 ▸ hc)
  simp [CodecTable.register, h0, hc]

/-! ### What one call does -/

/-- What one call does to a table: every codec stays under its version; the registered versions
grow only by the new version of a registration that goes through; the current version moves only
by a declaration that goes through, to a version no lower than before; and a refused call leaves
the table and its description as they were. -/
structure Moves (t : CodecTable α) (ch : Change α) : Prop where
  keeps : t.Extends (t.apply ch)
  supported : (t.apply ch).supported = t.supported ∨
    ∃ c, ch = .register c ∧ t.call ch = .ok (t.apply ch) ∧ c.version ∉ t.supported ∧
      ∀ v, v ∈ (t.apply ch).supported ↔ v = c.version ∨ v ∈ t.supported
  current : (t.apply ch).current = t.current ∨
    ∃ v, ch = .setCurrent v ∧ t.call ch = .ok (t.apply ch) ∧ (t.apply ch).current = some v ∧
      ∀ a, t.current = some a → a ≤ v
  refused : ∀ e, t.call ch = .error e → t.apply ch = t ∧ (t.apply ch).describe = t.describe

theorem moves (t : CodecTable α) (ch : Change α) : t.Moves ch := by
  refine ⟨extends_apply t ch, ?_, ?_, fun e he => ?_⟩
  · rcases hcall : t.call ch with e | t'
    · exact .inl (by rw [apply_of_call_error hcall])
    · cases ch with
      | register c =>
        obtain ⟨hnew, rfl⟩ := register_eq_ok hcall
        refine .inr ⟨c, rfl, by rw [apply_of_call_ok hcall], hnew, fun v => ?_⟩
        rw [apply_of_call_ok hcall]
        exact supported_insertCodec_mem
      | setCurrent v =>
        obtain ⟨-, -, rfl⟩ := setCurrent_eq_ok_iff.1 hcall
        exact .inl (by rw [apply_of_call_ok hcall]; rfl)
  · rcases hcall : t.call ch with e | t'
    · exact .inl (by rw [apply_of_call_error hcall])
    · cases ch with
      | register c =>
        obtain ⟨-, rfl⟩ := register_eq_ok hcall
        exact .inl (by rw [apply_of_call_ok hcall])
      | setCurrent v =>
        obtain ⟨-, hle, rfl⟩ := setCurrent_eq_ok_iff.1 hcall
        rw [apply_of_call_ok hcall]
        exact .inr ⟨v, rfl, rfl, rfl, hle⟩
  · have hsame := apply_of_call_error he
    exact ⟨hsame, by rw [hsame]⟩

/-! ### Finding the codec of a version -/

theorem codecFor_of_not_mem {t : CodecTable α} {v : Nat} (hv : v ∉ t.supported) :
    t.codecFor v = .error (.unsupportedVersion v t.supported) := by
  have hnone : t.codecs.find? (·.version == v) = none := by
    rw [List.find?_eq_none]
    intro c hc hcv
    exact hv (List.mem_map.2 ⟨c, hc, by simpa using hcv⟩)
  simp [codecFor, hnone]

theorem exists_codecFor_of_mem {t : CodecTable α} {v : Nat} (hv : v ∈ t.supported) :
    ∃ c, t.codecFor v = .ok c := by
  obtain ⟨d, hd, rfl⟩ := List.mem_map.1 hv
  rcases hfind : t.codecs.find? (·.version == d.version) with _ | c
  · rw [List.find?_eq_none] at hfind
    exact absurd (by simp) (hfind d hd)
  · exact ⟨c, codecFor_eq_ok.2 hfind⟩

/-- With one codec per version, a codec of the table is the one its version finds. -/
theorem codecFor_of_mem {t : CodecTable α} (hnd : t.supported.Nodup) {c : Codec α}
    (hc : c ∈ t.codecs) : t.codecFor c.version = .ok c := by
  obtain ⟨d, hd⟩ := exists_codecFor_of_mem (List.mem_map.2 ⟨c, hc, rfl⟩)
  obtain ⟨hmem, hv⟩ := mem_of_codecFor hd
  rwa [List.inj_on_of_nodup_map hnd hmem hc hv] at hd

/-! ### Reading a payload -/

/-- A payload long enough for its header, behind the table's magic. -/
def HeaderFits (magic p : Bytes) : Prop := headerLength ≤ p.length ∧ p.take 5 = magic

/-- The version stamped in a payload: the big-endian word after the magic. -/
def stamp (p : Bytes) : Nat := wordValue ((p.drop 5).take 4)

theorem readHeader_of_fits {magic p : Bytes} (h : HeaderFits magic p) :
    readHeader magic p = .ok (stamp p, p.drop headerLength) := by
  unfold readHeader
  rw [if_neg (Nat.not_lt.2 h.1), if_pos h.2]
  rfl

theorem readHeader_of_not_fits {magic p : Bytes} (h : ¬HeaderFits magic p) :
    ∃ msg, readHeader magic p = .error (.serialization msg) := by
  unfold readHeader
  by_cases hlen : p.length < headerLength
  · exact ⟨_, if_pos hlen⟩
  · rw [if_neg hlen]
    have hmagic : p.take 5 ≠ magic := fun hm => h ⟨Nat.not_lt.1 hlen, hm⟩
    exact ⟨_, if_neg hmagic⟩

theorem deserialize_of_fits {t : CodecTable α} {p : Bytes} (h : HeaderFits t.magic p) :
    t.deserialize p = (t.codecFor (stamp p)).bind (·.decode (p.drop headerLength)) := by
  simp only [deserialize, readHeader_of_fits h, bind, Except.bind]

theorem deserialize_of_not_fits {t : CodecTable α} {p : Bytes} {e : RegistryError}
    (h : readHeader t.magic p = .error e) : t.deserialize p = .error e := by
  simp only [deserialize, h, bind, Except.bind]

/-- Every table with the same magic and the same registered versions answers the payload alike:
the answer consults no codec. -/
def AnswersWithoutCodecs (t : CodecTable α) (p : Bytes) : Prop :=
  ∀ t' : CodecTable α, t'.magic = t.magic → t'.supported = t.supported →
    t'.deserialize p = t.deserialize p

/-- The table with the reader of every codec replaced by one that fails with `e`. -/
def failingReaders (t : CodecTable α) (e : RegistryError) : CodecTable α :=
  { t with codecs := t.codecs.map fun c => { c with decode := fun _ => .error e } }

theorem supported_failingReaders (t : CodecTable α) (e : RegistryError) :
    (t.failingReaders e).supported = t.supported := by
  simp [failingReaders, supported, Function.comp_def]

theorem deserialize_failingReaders {t : CodecTable α} {p : Bytes} (h : HeaderFits t.magic p)
    (hv : stamp p ∈ t.supported) (e : RegistryError) : (t.failingReaders e).deserialize p = .error e := by
  have hv' : stamp p ∈ (t.failingReaders e).supported := by
    rwa [supported_failingReaders]
  obtain ⟨c, hc⟩ := exists_codecFor_of_mem hv'
  obtain ⟨hmem, -⟩ := mem_of_codecFor hc
  obtain ⟨d, -, rfl⟩ := List.mem_map.1 hmem
  rw [@deserialize_of_fits _ (t.failingReaders e) p h, hc]
  rfl

/-- A payload whose stamped version has a codec is answered by asking it: a table whose readers
all fail answers otherwise than with `e`. -/
theorem not_answersWithoutCodecs {t : CodecTable α} {p : Bytes} (h : HeaderFits t.magic p)
    (hv : stamp p ∈ t.supported) {e : RegistryError} (hans : t.AnswersWithoutCodecs p)
    (he : t.deserialize p = .error e) : ∀ e', e' ≠ e → False := fun e' hne => by
  have := hans (t.failingReaders e') rfl (supported_failingReaders t e')
  rw [deserialize_failingReaders h hv, he] at this
  exact hne (Except.error.inj this)

theorem answersWithoutCodecs_of_not_fits {t : CodecTable α} {p : Bytes}
    (h : ¬HeaderFits t.magic p) : t.AnswersWithoutCodecs p := fun t' hm _ => by
  obtain ⟨msg, hmsg⟩ := readHeader_of_not_fits h
  rw [deserialize_of_not_fits hmsg, deserialize_of_not_fits (hm ▸ hmsg)]

theorem answersWithoutCodecs_of_not_mem {t : CodecTable α} {p : Bytes} (h : HeaderFits t.magic p)
    (hv : stamp p ∉ t.supported) : t.AnswersWithoutCodecs p := fun t' hm hs => by
  rw [deserialize_of_fits h, deserialize_of_fits (hm ▸ h), codecFor_of_not_mem hv,
    codecFor_of_not_mem (hs ▸ hv), hs]

end CodecTable

open CodecTable

/-- For every sequence of calls from an empty table, the table reached is valid, refuses a
registration of a version it has as already registered, and its next call, whatever it is, moves
it as `CodecTable.Moves` says. -/
theorem codec_table_calls_keep_laws {α : Type} (magic : Bytes) (cs : List (Change α))
    (ch : Change α) :
    ((empty magic).applyAll cs).Valid ∧
      (∀ c : Codec α, c.version ∈ ((empty magic).applyAll cs).supported →
        ((empty magic).applyAll cs).register c =
          .error (.alreadyExists s!"serializer for data model version {c.version}")) ∧
      ((empty magic).applyAll cs).Moves ch := by
  have hvalid := valid_applyAll (valid_empty magic) cs
  exact ⟨hvalid, fun _ hc => hvalid.register_of_mem hc, moves _ ch⟩

/-- A table with versions 1 and 2 and current version 2 refuses version 1 again, and a
declaration of version 1 leaves its current version at 2. -/
theorem codec_table_calls_keep_laws_of_text_codecs :
    ((empty (Text.encode "Texts")).applyAll
        [.register (textCodec 1 false), .register (textCodec 2 false), .setCurrent 2]).register
        (textCodec 1 true) = .error (.alreadyExists "serializer for data model version 1") ∧
      (((empty (Text.encode "Texts")).applyAll
        [.register (textCodec 1 false), .register (textCodec 2 false), .setCurrent 2]).apply
        (.setCurrent 1)).current = some 2 := by
  obtain ⟨-, hreg, hmoves⟩ := codec_table_calls_keep_laws (Text.encode "Texts")
    [.register (textCodec 1 false), .register (textCodec 2 false), .setCurrent 2] (.setCurrent 1)
  refine ⟨hreg (textCodec 1 true) (by decide), ?_⟩
  rcases hmoves.current with hsame | ⟨v, hv, -, -, hle⟩
  · rw [hsame]
    rfl
  · cases hv
    exact absurd (hle 2 rfl) (by decide)

/-- How a table reached by calls answers every byte string `p`. A payload shorter than its header
or with another magic is refused as malformed, and only such a payload is refused so without a
codec being asked. A payload with a good header reads as its stamped version `v`; it is refused
as unsupported, with the registered versions, exactly when no codec has version `v`, and then
without a codec being asked; and the codec of version `v`, when there is one, decodes the bytes
after the header. -/
theorem payload_failures_classified {α : Type} (magic : Bytes) (cs : List (Change α))
    (p : Bytes) :
    ((p.length < headerLength ∨ p.take 5 ≠ magic) ↔
      (∃ msg, ((empty magic).applyAll cs).deserialize p = .error (.serialization msg)) ∧
        ((empty magic).applyAll cs).AnswersWithoutCodecs p) ∧
    (headerLength ≤ p.length → p.take 5 = magic →
      ((empty magic).applyAll cs).readVersion p = .ok (stamp p) ∧
      (stamp p ∉ ((empty magic).applyAll cs).supported ↔
        ((empty magic).applyAll cs).deserialize p =
            .error (.unsupportedVersion (stamp p) ((empty magic).applyAll cs).supported) ∧
          ((empty magic).applyAll cs).AnswersWithoutCodecs p) ∧
      ∀ c ∈ ((empty magic).applyAll cs).codecs, c.version = stamp p →
        ((empty magic).applyAll cs).deserialize p = c.decode (p.drop headerLength)) := by
  generalize ht : (empty magic).applyAll cs = t
  have hmagic : t.magic = magic := by
    rw [← ht]
    exact (extends_applyAll (empty magic) cs).1
  have hvalid : t.Valid := ht ▸ valid_applyAll (valid_empty magic) cs
  subst hmagic
  refine ⟨⟨fun hbad => ?_, fun ⟨⟨msg, hmsg⟩, hans⟩ => ?_⟩, fun hlen hm => ?_⟩
  · -- a malformed header is refused by the header reader, which sees no codec
    have hnot : ¬HeaderFits t.magic p := fun hf => by
      rcases hbad with hbad | hbad
      · exact absurd hf.1 (Nat.not_le.2 hbad)
      · exact hbad hf.2
    obtain ⟨m, hm⟩ := readHeader_of_not_fits hnot
    exact ⟨⟨m, deserialize_of_not_fits hm⟩, answersWithoutCodecs_of_not_fits hnot⟩
  · -- a good header goes on to the codecs: refused as unsupported, or answered by a codec
    by_contra hgood
    have hf : HeaderFits t.magic p :=
      ⟨Nat.not_lt.1 (not_or.1 hgood).1, Classical.not_not.1 (not_or.1 hgood).2⟩
    by_cases hv : stamp p ∈ t.supported
    · exact not_answersWithoutCodecs hf hv hans hmsg (.internal "") (by simp)
    · rw [deserialize_of_fits hf, codecFor_of_not_mem hv] at hmsg
      cases hmsg
  · have hf : HeaderFits t.magic p := ⟨hlen, hm⟩
    refine ⟨by simp [readVersion, readHeader_of_fits hf, Except.map], ⟨fun hv => ?_, ?_⟩,
      fun c hc hcv => ?_⟩
    · refine ⟨?_, answersWithoutCodecs_of_not_mem hf hv⟩
      rw [deserialize_of_fits hf, codecFor_of_not_mem hv]
      rfl
    · rintro ⟨hunsup, hans⟩ hv
      exact not_answersWithoutCodecs hf hv hans hunsup (.internal "") (by simp)
    · rw [deserialize_of_fits hf, ← hcv, codecFor_of_mem hvalid.sorted.nodup hc]
      rfl

/-- A payload stamped with a version the table has no codec for is refused as unsupported, with
the registered versions, though its body is good text. -/
theorem payload_failures_classified_of_unregistered_stamp :
    ((empty (Text.encode "Texts")).applyAll [.register (textCodec 1 false), .setCurrent 1]).deserialize
        (writeHeader (Text.encode "Texts") 9 (Text.encode "valid utf8 body")) =
      .error (.unsupportedVersion 9 [1]) := by
  have h := ((payload_failures_classified (Text.encode "Texts")
    [.register (textCodec 1 false), .setCurrent 1]
    (writeHeader (Text.encode "Texts") 9 (Text.encode "valid utf8 body"))).2
    (by decide) (by decide)).2.1
  exact (h.1 (by decide)).1

end FlowRegistry.Format
