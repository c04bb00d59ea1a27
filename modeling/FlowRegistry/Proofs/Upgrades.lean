import FlowRegistry.Proofs.SnapshotFormats
import FlowRegistry.Format.TextCodec

/-!
# Payloads stay readable across upgrades of a codec table

A codec table changes by registering codecs and by moving its current version forward. A change
the table refuses leaves it as it was, and one it accepts only adds: a registered codec is never
replaced or removed, and the magic stays. So a payload the table once wrote, stamped with the
version it was written under, is read by every later table with the codec that wrote it.

* `CodecTable.Extends t t'`: `t'` has every codec of `t` under the same version, and its magic.
  Every change extends the table it is applied to (`CodecTable.extends_apply`), hence so does
  every sequence of changes (`CodecTable.extends_applyAll`).
* `CodecTable.Fits t`: every codec of `t` has a version of 32 bits, the width of the stamp. A
  table reached from an empty one by registering such codecs fits (`CodecTable.fits_applyAll`).
* `payload_readable_after_upgrades`: what a reached table writes is the header of its current
  version over its codec's body, reads back as that version, and is decoded by every later table
  with that codec.
-/

namespace FlowRegistry.Format

namespace CodecTable

variable {α : Type}

/-- A call that changes a codec table: registering a codec, or declaring the current version. -/
inductive Change (α : Type) where
  | register (c : Codec α)
  | setCurrent (version : Nat)

/-- The version a change names. -/
def Change.version : Change α → Nat
  | .register c => c.version
  | .setCurrent v => v

/-- A table after a change; a change the table refuses leaves it as it was. -/
def apply (t : CodecTable α) : Change α → CodecTable α
  | .register c => match t.register c with
    | .ok t' => t'
    | .error _ => t
  | .setCurrent v => match t.setCurrent v with
    | .ok t' => t'
    | .error _ => t

@[simp] theorem apply_register (t : CodecTable α) (c : Codec α) :
    t.apply (.register c) = match t.register c with
      | .ok t' => t'
      | .error _ => t := rfl

@[simp] theorem apply_setCurrent (t : CodecTable α) (v : Nat) :
    t.apply (.setCurrent v) = match t.setCurrent v with
      | .ok t' => t'
      | .error _ => t := rfl

/-- A table after changes made one after another. -/
def applyAll (t : CodecTable α) (cs : List (Change α)) : CodecTable α := cs.foldl apply t

@[simp] theorem applyAll_nil (t : CodecTable α) : t.applyAll [] = t := rfl

@[simp] theorem applyAll_cons (t : CodecTable α) (c : Change α) (cs : List (Change α)) :
    t.applyAll (c :: cs) = (t.apply c).applyAll cs := rfl

/-! ### Finding codecs -/

theorem codecFor_eq_ok {t : CodecTable α} {v : Nat} {c : Codec α} :
    t.codecFor v = .ok c ↔ t.codecs.find? (·.version == v) = some c := by
  unfold codecFor
  cases t.codecs.find? (·.version == v) <;> simp

theorem mem_of_codecFor {t : CodecTable α} {v : Nat} {c : Codec α} (h : t.codecFor v = .ok c) :
    c ∈ t.codecs ∧ c.version = v := by
  have hfind := codecFor_eq_ok.1 h
  exact ⟨List.mem_of_find?_eq_some hfind, by simpa using List.find?_some hfind⟩

theorem mem_insertCodec {c d : Codec α} {ds : List (Codec α)} :
    d ∈ insertCodec c ds ↔ d = c ∨ d ∈ ds := by
  induction ds with
  | nil => simp [insertCodec]
  | cons x xs ih =>
    unfold insertCodec
    split
    · simp
    · simp only [List.mem_cons, ih]
      tauto

/-- Inserting a codec of another version leaves what a version finds. -/
theorem find?_insertCodec_of_ne {c : Codec α} {v : Nat} (hv : c.version ≠ v) (ds : List (Codec α)) :
    (insertCodec c ds).find? (·.version == v) = ds.find? (·.version == v) := by
  induction ds with
  | nil => simp [insertCodec, hv]
  | cons d ds ih =>
    unfold insertCodec
    split
    · simp [hv]
    · simp only [List.find?_cons, ih]

/-! ### What a change keeps -/

/-- `t'` holds every codec of `t` under the same version, and the magic of `t`. -/
def Extends (t t' : CodecTable α) : Prop :=
  t'.magic = t.magic ∧ ∀ v c, t.codecFor v = .ok c → t'.codecFor v = .ok c

theorem Extends.refl (t : CodecTable α) : t.Extends t := ⟨rfl, fun _ _ h => h⟩

theorem Extends.trans {t₁ t₂ t₃ : CodecTable α} (h₁ : t₁.Extends t₂) (h₂ : t₂.Extends t₃) :
    t₁.Extends t₃ :=
  ⟨h₂.1.trans h₁.1, fun v c h => h₂.2 v c (h₁.2 v c h)⟩

/-- Registering a codec adds it under a version the table did not have. -/
theorem register_eq_ok {t t' : CodecTable α} {c : Codec α} (h : t.register c = .ok t') :
    c.version ∉ t.supported ∧ t' = { t with codecs := insertCodec c t.codecs } := by
  unfold register at h
  split at h
  · cases h
  · split at h
    · cases h
    · cases h
      exact ⟨‹_›, rfl⟩

theorem setCurrent_eq_ok {t t' : CodecTable α} {v : Nat} (h : t.setCurrent v = .ok t') :
    t' = { t with current := some v } := by
  unfold setCurrent at h
  split at h
  · cases h
  · split at h
    · split at h
      · cases h
      · cases h
        rfl
    · cases h
      rfl

/-- A registered codec stays: registering another adds a version the table did not have. -/
theorem extends_register {t t' : CodecTable α} {c : Codec α} (h : t.register c = .ok t') :
    t.Extends t' := by
  obtain ⟨hnew, rfl⟩ := register_eq_ok h
  refine ⟨rfl, fun v d hd => ?_⟩
  obtain ⟨hmem, rfl⟩ := mem_of_codecFor hd
  have hne : c.version ≠ d.version := fun heq =>
    hnew (heq ▸ List.mem_map_of_mem (f := (·.version)) hmem)
  exact codecFor_eq_ok.2 ((find?_insertCodec_of_ne hne t.codecs).trans (codecFor_eq_ok.1 hd))

theorem extends_apply (t : CodecTable α) (ch : Change α) : t.Extends (t.apply ch) := by
  cases ch with
  | register c =>
    rcases hreg : t.register c with err | t'
    · simpa [hreg] using Extends.refl t
    · simpa [hreg] using extends_register hreg
  | setCurrent v =>
    rcases hset : t.setCurrent v with err | t'
    · simpa [hset] using Extends.refl t
    · rw [apply_setCurrent, hset, setCurrent_eq_ok hset]
      exact ⟨rfl, fun _ _ hc => hc⟩

/-- Changes made one after another keep every codec and the magic. -/
theorem extends_applyAll (t : CodecTable α) (cs : List (Change α)) : t.Extends (t.applyAll cs) := by
  induction cs generalizing t with
  | nil => exact Extends.refl t
  | cons ch cs ih => exact (extends_apply t ch).trans (ih (t.apply ch))

/-! ### Versions of 32 bits -/

/-- Every codec of the table has a version of 32 bits. -/
def Fits (t : CodecTable α) : Prop := ∀ c ∈ t.codecs, c.version < Nat.pow 2 32

theorem fits_empty (magic : Bytes) : (empty magic : CodecTable α).Fits := fun _ h => by
  cases h

theorem fits_apply {t : CodecTable α} (h : t.Fits) {ch : Change α}
    (hch : ch.version < Nat.pow 2 32) : (t.apply ch).Fits := by
  cases ch with
  | register c =>
    rcases hreg : t.register c with err | t'
    · simpa [hreg] using h
    · rw [apply_register, hreg]
      obtain ⟨-, rfl⟩ := register_eq_ok hreg
      intro d hd
      rcases mem_insertCodec.1 hd with rfl | hd
      · exact hch
      · exact h d hd
  | setCurrent v =>
    rcases hset : t.setCurrent v with err | t'
    · simpa [hset] using h
    · rw [apply_setCurrent, hset, setCurrent_eq_ok hset]
      exact h

/-- Registering codecs of 32-bit versions keeps a table fitting. -/
theorem fits_applyAll {t : CodecTable α} (h : t.Fits) (cs : List (Change α))
    (hcs : ∀ ch ∈ cs, ch.version < Nat.pow 2 32) : (t.applyAll cs).Fits := by
  induction cs generalizing t with
  | nil => exact h
  | cons ch cs ih =>
    exact ih (fits_apply h (hcs ch List.mem_cons_self)) fun c hc => hcs c (List.mem_cons_of_mem _ hc)

/-! ### Writing and reading -/

/-- What a table writes: the header of its current version over the body of that version's
codec. -/
theorem serialize_eq_ok {t : CodecTable α} {x : α} {b : Bytes} (h : t.serialize x = .ok b) :
    ∃ v c body, t.current = some v ∧ t.codecFor v = .ok c ∧ c.encode x = .ok body ∧
      b = writeHeader t.magic v body := by
  rcases hcur : t.current with _ | v
  · simp [serialize, hcur, throw, throwThe, MonadExceptOf.throw] at h
  rcases hc : t.codecFor v with err | c
  · simp [serialize, hcur, hc, bind, Except.bind] at h
  rw [CodecTable.serialize_of_current hcur hc] at h
  rcases henc : c.encode x with err | body
  · simp [henc, Except.map] at h
  · simp only [henc, Except.map, Except.ok.injEq] at h
    exact ⟨v, c, body, rfl, hc, henc, h.symm⟩

theorem readVersion_writeHeader {t : CodecTable α} {v : Nat} (hm : t.magic.length = 5)
    (hv : v < Nat.pow 2 32) (body : Bytes) : t.readVersion (writeHeader t.magic v body) = .ok v := by
  simp [readVersion, readHeader_writeHeader hm hv, Except.map]

end CodecTable

open CodecTable in
/-- A table reached from an empty one by registering codecs of 32-bit versions and declaring
current versions writes a value as the header of its current version over the body its codec
encodes; the payload reads back as that version, and every table reached from it by further
changes, accepted or refused, decodes it with that same codec. -/
theorem payload_readable_after_upgrades {α : Type} {magic : Bytes} (hm : magic.length = 5)
    (cs more : List (Change α)) (hfits : ∀ ch ∈ cs ++ more, ch.version < Nat.pow 2 32) {x : α}
    {b : Bytes} (hser : ((empty magic).applyAll cs).serialize x = .ok b) :
    ∃ v c body, ((empty magic).applyAll cs).current = some v ∧
      ((empty magic).applyAll cs).codecFor v = .ok c ∧ c.encode x = .ok body ∧
      b = writeHeader magic v body ∧ ((empty magic).applyAll cs).readVersion b = .ok v ∧
      (((empty magic).applyAll cs).applyAll more).deserialize b = c.decode body := by
  obtain ⟨v, c, body, hcur, hc, henc, rfl⟩ := serialize_eq_ok hser
  have hext := extends_applyAll (empty magic) cs
  have hmagic : ((empty magic).applyAll cs).magic = magic := hext.1
  have hv : v < Nat.pow 2 32 := by
    obtain ⟨hmem, rfl⟩ := mem_of_codecFor hc
    exact fits_applyAll (fits_empty magic) cs (fun ch h => hfits ch (List.mem_append_left _ h)) c hmem
  have hlater := extends_applyAll ((empty magic).applyAll cs) more
  have hlen : ((empty magic).applyAll cs).magic.length = 5 := by rw [hmagic]; exact hm
  refine ⟨v, c, body, hcur, hc, henc, by rw [hmagic], readVersion_writeHeader hlen hv body, ?_⟩
  rw [← hlater.1]
  exact CodecTable.deserialize_writeHeader (by rw [hlater.1]; exact hlen) hv (hlater.2 v c hc) body

open CodecTable in
/-- A text payload written under version 1 is still read after version 2, which upper-cases, is
registered and made current. -/
theorem payload_readable_after_upgrades_of_text_codecs :
    (Text.encode "Texts").length = 5 ∧
      (∀ ch ∈ [Change.register (textCodec 1 false), .setCurrent 1] ++
        [Change.register (textCodec 2 true), .setCurrent 2], ch.version < Nat.pow 2 32) ∧
      ((empty (Text.encode "Texts")).applyAll [.register (textCodec 1 false), .setCurrent 1]).serialize
        "legacy" = .ok (writeHeader (Text.encode "Texts") 1 (Text.encode "legacy")) ∧
      ∃ v c body,
        ((empty (Text.encode "Texts")).applyAll [.register (textCodec 1 false), .setCurrent 1]).current =
          some v ∧
        ((empty (Text.encode "Texts")).applyAll [.register (textCodec 1 false), .setCurrent 1]).codecFor
          v = .ok c ∧ c.encode "legacy" = .ok body ∧
        writeHeader (Text.encode "Texts") 1 (Text.encode "legacy") = writeHeader (Text.encode "Texts") v body ∧
        ((empty (Text.encode "Texts")).applyAll [.register (textCodec 1 false), .setCurrent 1]).readVersion
          (writeHeader (Text.encode "Texts") 1 (Text.encode "legacy")) = .ok v ∧
        (((empty (Text.encode "Texts")).applyAll [.register (textCodec 1 false), .setCurrent 1]).applyAll
          [.register (textCodec 2 true), .setCurrent 2]).deserialize
          (writeHeader (Text.encode "Texts") 1 (Text.encode "legacy")) = c.decode body :=
  have hm : (Text.encode "Texts").length = 5 := by decide
  have hfits : ∀ ch ∈ [Change.register (textCodec 1 false), .setCurrent 1] ++
      [Change.register (textCodec 2 true), .setCurrent 2], ch.version < Nat.pow 2 32 := by decide
  have hser : ((empty (Text.encode "Texts")).applyAll
      [.register (textCodec 1 false), .setCurrent 1]).serialize "legacy" =
      .ok (writeHeader (Text.encode "Texts") 1 (Text.encode "legacy")) := rfl
  ⟨hm, hfits, hser, payload_readable_after_upgrades hm _ _ hfits hser⟩

end FlowRegistry.Format
