import FlowRegistry.Error
import FlowRegistry.Text.Utf8
import FlowRegistry.Text.Quoted

/-!
# Payload headers

A payload is a five-byte magic, the data model version as a big-endian 32-bit word, and the
body. `readHeader` splits a payload back into version and body; it refuses a payload shorter
than the nine header bytes and one whose magic differs, naming both magics as quoted text (bytes
that are not UTF-8 shown as U+FFFD).

Main statement: `readHeader_writeHeader`, reading back what was written gives the version and
body.
-/

namespace FlowRegistry.Format

/-- The length of a payload header: five bytes of magic and four of version. -/
def headerLength : Nat := 9

/-- The four big-endian bytes of a 32-bit word. -/
def wordBytes (v : Nat) : Bytes :=
  [(v / Nat.pow 2 24 % 256).toUInt8, (v / Nat.pow 2 16 % 256).toUInt8, (v / Nat.pow 2 8 % 256).toUInt8,
    (v % 256).toUInt8]

/-- The value of big-endian bytes. -/
def wordValue (bs : Bytes) : Nat := bs.foldl (fun acc b => acc * 256 + b.toNat) 0

/-- Prefixes a body with a magic and a version. -/
def writeHeader (magic : Bytes) (version : Nat) (body : Bytes) : Bytes :=
  magic ++ wordBytes version ++ body

/-- Splits a payload into its version and body. -/
def readHeader (magic : Bytes) (payload : Bytes) : Outcome (Nat × Bytes) :=
  if payload.length < headerLength then
    .error (.serialization
      s!"payload of {payload.length} bytes is shorter than the {headerLength}-byte header")
  else
    let found := payload.take 5
    if found = magic then .ok (wordValue ((payload.drop 5).take 4), payload.drop headerLength)
    else
      .error (.serialization ("invalid header: expected " ++ Text.quote (Text.decodeLossy magic) ++
        ", found " ++ Text.quote (Text.decodeLossy found)))

theorem wordValue_wordBytes {v : Nat} (h : v < Nat.pow 2 32) : wordValue (wordBytes v) = v := by
  simp only [wordValue, wordBytes, List.foldl, Nat.pow_eq] at h ⊢
  simp
  omega

theorem readHeader_writeHeader {magic body : Bytes} {v : Nat} (hm : magic.length = 5)
    (hv : v < Nat.pow 2 32) : readHeader magic (writeHeader magic v body) = .ok (v, body) := by
  have hlen : (writeHeader magic v body).length = 9 + body.length := by
    simp [writeHeader, wordBytes, hm]; omega
  unfold readHeader
  rw [if_neg (by rw [hlen]; simp [headerLength])]
  have htake : (writeHeader magic v body).take 5 = magic := by
    simp [writeHeader, hm]
  have hdrop : (writeHeader magic v body).drop 5 = wordBytes v ++ body := by
    simp [writeHeader, hm]
  rw [if_pos htake, hdrop]
  have hw : (wordBytes v ++ body).take 4 = wordBytes v := by simp [wordBytes]
  have hb : (writeHeader magic v body).drop headerLength = body := by
    simp [writeHeader, wordBytes, headerLength, List.drop_append, hm]
  rw [hw, hb, wordValue_wordBytes hv]

end FlowRegistry.Format
