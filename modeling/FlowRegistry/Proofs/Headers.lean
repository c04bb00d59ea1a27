import FlowRegistry.Proofs.CodecTables

/-!
# Payload headers read back exactly

A header is five bytes of magic and the version as a big-endian 32-bit word. The header reader
and writer are inverse on the nose: what is written behind a five-byte magic reads back as its
version and body, and every payload the reader accepts is the header of what it reads as, so no
two payloads read alike. The reader refuses exactly the payloads shorter than a header and those
behind another magic, always as malformed; a payload of the header alone reads with an empty
body (`header_encoding_round_trip`).

The word is read as the value of its four bytes (`wordValue`), which is below `2 ^ 32` and whose
bytes are the four read (`wordBytes_wordValue`).
-/

namespace FlowRegistry.Format

open CodecTable

/-! ### Words of four bytes -/

theorem wordValue_lt {bs : Bytes} (h : bs.length = 4) : wordValue bs < Nat.pow 2 32 := by
  match bs, h with
  | [b₀, b₁, b₂, b₃], _ =>
    have := b₀.toNat_lt; have := b₁.toNat_lt; have := b₂.toNat_lt; have := b₃.toNat_lt
    simp only [wordValue, List.foldl, Nat.pow_eq] at *
    omega

theorem wordBytes_wordValue {bs : Bytes} (h : bs.length = 4) : wordBytes (wordValue bs) = bs := by
  match bs, h with
  | [b₀, b₁, b₂, b₃], _ =>
    have := b₀.toNat_lt; have := b₁.toNat_lt; have := b₂.toNat_lt; have := b₃.toNat_lt
    simp only [wordValue, wordBytes, List.foldl, Nat.pow_eq, List.cons.injEq, and_true]
    -- each byte is the value's digit in base 256 at its place
    refine ⟨?_, ?_, ?_, ?_⟩ <;> apply UInt8.toNat_inj.1 <;> simp <;> omega

/-! ### What the reader accepts -/

theorem readHeader_eq_ok_iff {magic p body : Bytes} {v : Nat} :
    readHeader magic p = .ok (v, body) ↔
      HeaderFits magic p ∧ v = stamp p ∧ body = p.drop headerLength := by
  by_cases hf : HeaderFits magic p
  · rw [readHeader_of_fits hf]
    simp [hf, eq_comm]
  · obtain ⟨msg, hmsg⟩ := readHeader_of_not_fits hf
    simp [hmsg, hf]

theorem readHeader_error {magic p : Bytes} {e : RegistryError} (h : readHeader magic p = .error e) :
    ∃ msg, e = .serialization msg := by
  by_cases hf : HeaderFits magic p
  · rw [readHeader_of_fits hf] at h
    cases h
  · obtain ⟨msg, hmsg⟩ := readHeader_of_not_fits hf
    rw [hmsg] at h
    cases h
    exact ⟨msg, rfl⟩

theorem headerFits_iff {magic p : Bytes} :
    HeaderFits magic p ↔ ¬(p.length < headerLength ∨ p.take 5 ≠ magic) := by
  simp [HeaderFits, not_or]

/-- A payload that fits its header is that header over the bytes after it. -/
theorem eq_writeHeader_of_fits {magic p : Bytes} (h : HeaderFits magic p) :
    p = writeHeader magic (stamp p) (p.drop headerLength) := by
  have hword : (p.drop 5).take 4 = wordBytes (stamp p) := by
    have hlen : ((p.drop 5).take 4).length = 4 := by
      have := h.1
      simp [headerLength] at this ⊢
      omega
    exact (wordBytes_wordValue hlen).symm
  calc p = p.take 5 ++ ((p.drop 5).take 4 ++ (p.drop 5).drop 4) := by
        rw [List.take_append_drop, List.take_append_drop]
    _ = writeHeader magic (stamp p) (p.drop headerLength) := by
      rw [h.2, hword, List.drop_drop]
      simp [writeHeader, headerLength]

/-! ### The header format -/

/-- Writing then reading a header gives back version and body; a payload that reads is the
header of what it reads as, with a 32-bit version; a payload is refused, always as malformed,
exactly when it is shorter than a header or has another magic; and a payload of the header alone
reads with an empty body. -/
theorem header_encoding_round_trip {magic : Bytes} (hm : magic.length = 5) :
    (∀ v body, v < Nat.pow 2 32 → readHeader magic (writeHeader magic v body) = .ok (v, body)) ∧
    (∀ p v body, readHeader magic p = .ok (v, body) →
      v < Nat.pow 2 32 ∧ p = writeHeader magic v body) ∧
    (∀ p, (∃ msg, readHeader magic p = .error (.serialization msg)) ↔
      p.length < headerLength ∨ p.take 5 ≠ magic) ∧
    (∀ p e, readHeader magic p = .error e → ∃ msg, e = .serialization msg) ∧
    (∀ p, p.length = headerLength → p.take 5 = magic → ∃ v, readHeader magic p = .ok (v, [])) := by
  refine ⟨fun v body hv => readHeader_writeHeader hm hv, fun p v body h => ?_, fun p => ?_,
    fun p e h => readHeader_error h, fun p hlen hmagic => ?_⟩
  · obtain ⟨hf, rfl, rfl⟩ := readHeader_eq_ok_iff.1 h
    have hlen : ((p.drop 5).take 4).length = 4 := by
      have := hf.1
      simp [headerLength] at this ⊢
      omega
    exact ⟨wordValue_lt hlen, eq_writeHeader_of_fits hf⟩
  · constructor
    · rintro ⟨msg, hmsg⟩
      refine Classical.not_not.1 fun hgood => ?_
      rw [readHeader_of_fits (headerFits_iff.2 hgood)] at hmsg
      cases hmsg
    · intro hbad
      exact readHeader_of_not_fits fun hf => headerFits_iff.1 hf hbad
  · have hf : HeaderFits magic p := ⟨hlen.ge, hmagic⟩
    refine ⟨stamp p, ?_⟩
    rw [readHeader_of_fits hf, List.drop_eq_nil_of_le hlen.le]

/-- The nine bytes `Flows 0 0 1 2` are the header of version 258 over an empty body, and a
payload one byte short of them is refused. -/
theorem header_encoding_round_trip_of_nine_bytes :
    snapshotMagic.length = 5 ∧
      readHeader snapshotMagic (snapshotMagic ++ [0, 0, 1, 2]) = .ok (258, []) ∧
      ∃ msg, readHeader snapshotMagic (snapshotMagic ++ [0, 0, 1]) = .error (.serialization msg) := by
  have h := header_encoding_round_trip snapshotMagic_length
  refine ⟨snapshotMagic_length, ?_, (h.2.2.1 _).2 (.inl (by decide))⟩
  obtain ⟨v, hv⟩ := h.2.2.2.2 (snapshotMagic ++ [0, 0, 1, 2]) (by decide) (by decide)
  have hw := h.2.1 _ v [] hv
  have hbytes : wordBytes v = [0, 0, 1, 2] := by simpa [writeHeader] using hw.2.symm
  have h258 : v = 258 := by
    rw [← wordValue_wordBytes hw.1, hbytes]
    rfl
  rw [hv, h258]

end FlowRegistry.Format
