import FlowRegistry.Ident.Uuid
import Mathlib.Tactic.SplitIfs
import Mathlib.Tactic.Ring
import Mathlib.Data.String.Basic

/-!
# Reading back what was written: UTF-8 and UUIDs

The byte-level forms the JSON writer relies on read back to what was written.

* `Text.decode_encode`: the strict UTF-8 reading of the bytes of a text is the text. One
  character at a time (`Text.decodeStep_encodeChar`), by the length of its sequence.
* `Uuid.parse_text`: the hyphenated text of a UUID parses back to the UUID.

`Text.encodeChars` is the UTF-8 encoding of a list of characters, the form in which the
writers' character lists reach the readers; its ASCII characters are one byte each
(`Text.utf8EncodeChar_ascii`) and the bytes of any other character lie at or above `0x80`
(`Text.utf8EncodeChar_high`).
-/

namespace FlowRegistry

namespace Text

/-! ### Bytes of characters -/

/-- The UTF-8 bytes of a list of characters. -/
def encodeChars (cs : List Char) : Bytes := cs.flatMap String.utf8EncodeChar

@[simp] theorem encodeChars_nil : encodeChars [] = [] := rfl

@[simp] theorem encodeChars_cons (c : Char) (cs : List Char) :
    encodeChars (c :: cs) = String.utf8EncodeChar c ++ encodeChars cs := List.flatMap_cons

@[simp] theorem encodeChars_append (cs ds : List Char) :
    encodeChars (cs ++ ds) = encodeChars cs ++ encodeChars ds := List.flatMap_append

theorem encode_eq_encodeChars (s : String) : encode s = encodeChars s.toList := rfl

theorem toNat_ofNat_lt {n : Nat} (h : n < 256) : (UInt8.ofNat n).toNat = n := by
  simp [Nat.mod_eq_of_lt h]

/-- An ASCII character is the one byte of its code. -/
theorem utf8EncodeChar_ascii {c : Char} (h : c.toNat < 0x80) :
    String.utf8EncodeChar c = [UInt8.ofNat c.toNat] := by
  unfold String.utf8EncodeChar
  simp only [Char.toNat] at h ⊢
  rw [if_pos (by omega)]

/-- Every byte of a character beyond ASCII is at least `0x80`. -/
theorem utf8EncodeChar_high {c : Char} (h : 0x80 ≤ c.toNat) :
    ∀ b ∈ String.utf8EncodeChar c, 0x80 ≤ b.toNat := by
  have hv := c.valid
  simp only [UInt32.isValidChar, Nat.isValidChar] at hv
  simp only [Char.toNat] at h
  unfold String.utf8EncodeChar
  dsimp only
  generalize c.val.toNat = v at hv h
  split_ifs <;> simp only [List.mem_cons, List.not_mem_nil, or_false] <;> rintro b hb <;>
    rcases hb with rfl | rfl | rfl | rfl <;> rw [toNat_ofNat_lt (by omega)] <;> omega

/-! ### Reading one character -/

theorem sequenceLength_eq (b : UInt8) :
    sequenceLength b = if b.toNat < 0x80 then 1 else if 0xC2 ≤ b.toNat ∧ b.toNat ≤ 0xDF then 2
      else if 0xE0 ≤ b.toNat ∧ b.toNat ≤ 0xEF then 3
      else if 0xF0 ≤ b.toNat ∧ b.toNat ≤ 0xF4 then 4 else 0 := by
  simp only [sequenceLength, UInt8.lt_iff_toNat_lt, UInt8.le_iff_toNat_le, Bool.and_eq_true,
    decide_eq_true_eq]
  rfl

theorem isTail_iff (b : UInt8) : isTail b = true ↔ 0x80 ≤ b.toNat ∧ b.toNat ≤ 0xBF := by
  simp [isTail, UInt8.le_iff_toNat_le]

/-- The second byte of a sequence lies in the range its first byte allows. -/
theorem secondRange_holds {b t : UInt8} (h0 : b.toNat = 0xE0 → 0xA0 ≤ t.toNat)
    (h1 : b.toNat = 0xED → t.toNat ≤ 0x9F) (h2 : b.toNat = 0xF0 → 0x90 ≤ t.toNat)
    (h3 : b.toNat = 0xF4 → t.toNat ≤ 0x8F) (ht : 0x80 ≤ t.toNat ∧ t.toNat ≤ 0xBF) :
    ((secondRange b).1 ≤ t && t ≤ (secondRange b).2) = true := by
  unfold secondRange
  split_ifs <;>
    simp only [← UInt8.toNat_inj, Bool.and_eq_true, decide_eq_true_eq, UInt8.le_iff_toNat_le] at * <;>
    simp_all

theorem decodeStep_one {v : Nat} (h : v < 0x80) (rest : Bytes) :
    decodeStep (UInt8.ofNat v :: rest) = .char (Char.ofNat v) rest := by
  simp only [decodeStep, sequenceLength_eq, toNat_ofNat_lt (show v < 256 by omega), if_pos h]

theorem decodeStep_two {v : Nat} (h1 : 0x80 ≤ v) (h2 : v < 0x800) (rest : Bytes) :
    decodeStep (UInt8.ofNat (v / 64 % 32 + 0xC0) :: UInt8.ofNat (v % 64 + 0x80) :: rest) =
      .char (Char.ofNat v) rest := by
  have hb0 := toNat_ofNat_lt (show v / 64 % 32 + 0xC0 < 256 by omega)
  have hb1 := toNat_ofNat_lt (show v % 64 + 0x80 < 256 by omega)
  have htail : isTail (UInt8.ofNat (v % 64 + 0x80)) = true := (isTail_iff _).2 (by omega)
  have hcode : codePoint (UInt8.ofNat (v / 64 % 32 + 0xC0)) [UInt8.ofNat (v % 64 + 0x80)] = v := by
    simp only [codePoint, List.length_cons, List.length_nil, List.foldl_cons, List.foldl_nil, hb0, hb1]
    omega
  simp only [decodeStep, sequenceLength_eq, hb0, if_neg (show ¬ (v / 64 % 32 + 0xC0 < 0x80) by omega),
    if_pos (show 0xC2 ≤ v / 64 % 32 + 0xC0 ∧ v / 64 % 32 + 0xC0 ≤ 0xDF by omega), htail, if_true,
    hcode]

theorem decodeStep_three {v : Nat} (h1 : 0x800 ≤ v) (h2 : v < 0x10000)
    (hs : v < 0xD800 ∨ 0xE000 ≤ v) (rest : Bytes) :
    decodeStep (UInt8.ofNat (v / 4096 % 16 + 0xE0) :: UInt8.ofNat (v / 64 % 64 + 0x80) ::
      UInt8.ofNat (v % 64 + 0x80) :: rest) = .char (Char.ofNat v) rest := by
  have hb0 := toNat_ofNat_lt (show v / 4096 % 16 + 0xE0 < 256 by omega)
  have hb1 := toNat_ofNat_lt (show v / 64 % 64 + 0x80 < 256 by omega)
  have hb2 := toNat_ofNat_lt (show v % 64 + 0x80 < 256 by omega)
  -- the first byte `0xE0` needs `v ≥ 0x800`, the byte `0xED` needs `v` below the surrogates
  have hsecond := secondRange_holds (b := UInt8.ofNat (v / 4096 % 16 + 0xE0))
    (t := UInt8.ofNat (v / 64 % 64 + 0x80)) (by omega) (by omega) (by omega) (by omega) (by omega)
  have htail : isTail (UInt8.ofNat (v % 64 + 0x80)) = true := (isTail_iff _).2 (by omega)
  have hcode : codePoint (UInt8.ofNat (v / 4096 % 16 + 0xE0))
      [UInt8.ofNat (v / 64 % 64 + 0x80), UInt8.ofNat (v % 64 + 0x80)] = v := by
    simp only [codePoint, List.length_cons, List.length_nil, List.foldl_cons, List.foldl_nil, hb0,
      hb1, hb2]
    omega
  simp only [decodeStep, sequenceLength_eq, hb0,
    if_neg (show ¬ (v / 4096 % 16 + 0xE0 < 0x80) by omega),
    if_neg (show ¬ (0xC2 ≤ v / 4096 % 16 + 0xE0 ∧ v / 4096 % 16 + 0xE0 ≤ 0xDF) by omega),
    if_pos (show 0xE0 ≤ v / 4096 % 16 + 0xE0 ∧ v / 4096 % 16 + 0xE0 ≤ 0xEF by omega), hsecond,
    htail, if_true, hcode]

theorem decodeStep_four {v : Nat} (h1 : 0x10000 ≤ v) (h2 : v < 0x110000) (rest : Bytes) :
    decodeStep (UInt8.ofNat (v / 262144 % 8 + 0xF0) :: UInt8.ofNat (v / 4096 % 64 + 0x80) ::
      UInt8.ofNat (v / 64 % 64 + 0x80) :: UInt8.ofNat (v % 64 + 0x80) :: rest) =
      .char (Char.ofNat v) rest := by
  have hb0 := toNat_ofNat_lt (show v / 262144 % 8 + 0xF0 < 256 by omega)
  have hb1 := toNat_ofNat_lt (show v / 4096 % 64 + 0x80 < 256 by omega)
  have hb2 := toNat_ofNat_lt (show v / 64 % 64 + 0x80 < 256 by omega)
  have hb3 := toNat_ofNat_lt (show v % 64 + 0x80 < 256 by omega)
  -- the first byte `0xF0` needs `v ≥ 0x10000`, the byte `0xF4` needs `v < 0x110000`
  have hsecond := secondRange_holds (b := UInt8.ofNat (v / 262144 % 8 + 0xF0))
    (t := UInt8.ofNat (v / 4096 % 64 + 0x80)) (by omega) (by omega) (by omega) (by omega) (by omega)
  have htail2 : isTail (UInt8.ofNat (v / 64 % 64 + 0x80)) = true := (isTail_iff _).2 (by omega)
  have htail3 : isTail (UInt8.ofNat (v % 64 + 0x80)) = true := (isTail_iff _).2 (by omega)
  have hcode : codePoint (UInt8.ofNat (v / 262144 % 8 + 0xF0))
      [UInt8.ofNat (v / 4096 % 64 + 0x80), UInt8.ofNat (v / 64 % 64 + 0x80),
        UInt8.ofNat (v % 64 + 0x80)] = v := by
    simp only [codePoint, List.length_cons, List.length_nil, List.foldl_cons, List.foldl_nil, hb0,
      hb1, hb2, hb3]
    omega
  simp only [decodeStep, sequenceLength_eq, hb0,
    if_neg (show ¬ (v / 262144 % 8 + 0xF0 < 0x80) by omega),
    if_neg (show ¬ (0xC2 ≤ v / 262144 % 8 + 0xF0 ∧ v / 262144 % 8 + 0xF0 ≤ 0xDF) by omega),
    if_neg (show ¬ (0xE0 ≤ v / 262144 % 8 + 0xF0 ∧ v / 262144 % 8 + 0xF0 ≤ 0xEF) by omega),
    if_pos (show 0xF0 ≤ v / 262144 % 8 + 0xF0 ∧ v / 262144 % 8 + 0xF0 ≤ 0xF4 by omega), hsecond,
    htail2, htail3, if_true, hcode]

/-- The bytes of a character, read as UTF-8, give the character back. -/
theorem decodeStep_encodeChar (c : Char) (rest : Bytes) :
    decodeStep (String.utf8EncodeChar c ++ rest) = .char c rest := by
  have hv := c.valid
  have hc : Char.ofNat c.toNat = c := Char.ofNat_toNat c
  simp only [UInt32.isValidChar, Nat.isValidChar] at hv
  simp only [Char.toNat] at hc
  unfold String.utf8EncodeChar
  dsimp only
  generalize c.val.toNat = v at hv hc
  split_ifs <;> simp only [List.cons_append, List.nil_append] <;> rw [← hc]
  · exact decodeStep_one (by omega) rest
  · exact decodeStep_two (by omega) (by omega) rest
  · exact decodeStep_three (by omega) (by omega) (by omega) rest
  · exact decodeStep_four (by omega) (by omega) rest

/-! ### Reading a whole text -/

theorem decodeFrom_encodeChars (cs : List Char) :
    ∀ (acc : List Char) (offset : Nat), decodeFrom acc offset (encodeChars cs) =
      .ok (String.ofList (acc.reverse ++ cs)) := by
  induction cs with
  | nil => intro acc offset; rw [encodeChars_nil, decodeFrom]; simp [decodeStep]
  | cons c cs ih =>
    intro acc offset
    rw [decodeFrom]
    split
    · next c' rest h =>
      rw [encodeChars_cons, decodeStep_encodeChar] at h
      cases h
      rw [ih]
      simp
    · next h => rw [encodeChars_cons, decodeStep_encodeChar] at h; cases h
    · next h => rw [encodeChars_cons, decodeStep_encodeChar] at h; cases h

/-- Reading the UTF-8 bytes of a text gives the text. -/
theorem decode_encode (s : String) : decode (encode s) = .ok s := by
  rw [decode, encode_eq_encodeChars, decodeFrom_encodeChars]
  simp

/-! ### Hexadecimal digits -/

theorem hexDigit_lt : ∀ n, n < 16 → (hexDigit n).toNat < 0x80 := by decide

theorem hexValue?_hexDigit : ∀ n, n < 16 → hexValue? (hexDigit n) = some n := by decide

theorem hexDigit_utf8Size : ∀ n, n < 16 → (hexDigit n).utf8Size = 1 := by decide

end Text

/-! ### UUIDs -/

namespace Uuid

theorem mapM_hexValue? (v : Nat) (l : List Nat) :
    (l.map fun i => Text.hexDigit (v / Nat.pow 16 i % 16)).mapM Text.hexValue? =
      some (l.map fun i => v / Nat.pow 16 i % 16) := by
  induction l with
  | nil => rfl
  | cons i l ih =>
    simp only [List.map_cons, List.mapM_cons, ih,
      Text.hexValue?_hexDigit _ (Nat.mod_lt _ (by omega : 16 > 0))]
    rfl

/-- Reading the digits `k - 1` down to `0` of `v` after `a` gives `a` shifted by `k` digits
plus the last `k` digits of `v`. -/
theorem foldl_digits (v a : Nat) (k : Nat) :
    ((List.range k).reverse.map fun i => v / Nat.pow 16 i % 16).foldl (fun acc d => acc * 16 + d) a =
      a * Nat.pow 16 k + v % Nat.pow 16 k := by
  induction k generalizing a with
  | zero => simp [Nat.mod_one]
  | succ k ih =>
    rw [List.range_succ, List.reverse_append, List.reverse_singleton, List.singleton_append,
      List.map_cons, List.foldl_cons, ih]
    simp only [Nat.pow_eq]
    rw [Nat.pow_succ, Nat.mod_mul]
    ring

theorem ofHexChars_digits (u : Uuid) : ofHexChars u.digits = some u := by
  have hv : u.value.val % Nat.pow 16 32 = u.value.val := Nat.mod_eq_of_lt (by simp)
  simp only [ofHexChars, digits, mapM_hexValue?, Option.bind_eq_bind, Option.bind_some,
    foldl_digits, Nat.zero_mul, Nat.zero_add, hv, u.value.isLt, dif_pos]

private theorem reverse_range_32 : (List.range 32).reverse = [31, 30, 29, 28, 27, 26, 25, 24, 23,
    22, 21, 20, 19, 18, 17, 16, 15, 14, 13, 12, 11, 10, 9, 8, 7, 6, 5, 4, 3, 2, 1, 0] := rfl

theorem parseHyphenated_text (u : Uuid) : parseHyphenated u.text.toList = ofHexChars u.digits := by
  simp only [text, digits, reverse_range_32, List.map_cons, List.map_nil, String.toList_ofList]
  simp [parseHyphenated, hyphenSlots, List.range_succ]

theorem digit_utf8Size (v i : Nat) : (Text.hexDigit (v / Nat.pow 16 i % 16)).utf8Size = 1 :=
  Text.hexDigit_utf8Size _ (Nat.mod_lt _ (by decide))

theorem utf8ByteSize_text (u : Uuid) : u.text.utf8ByteSize = 36 := by
  simp only [text, digits, reverse_range_32, List.map_cons, List.map_nil, String.utf8ByteSize_ofList]
  simp only [List.take, List.drop, List.cons_append, List.nil_append, String.utf8Len_cons,
    String.utf8Len_nil, digit_utf8Size]
  rfl

/-- The text of a UUID parses back to the UUID. -/
theorem parse_text (u : Uuid) : parse u.text = .ok u := by
  simp only [parse, parseWellFormed, hyphenatedBody, utf8ByteSize_text, parseHyphenated_text,
    ofHexChars_digits]

end Uuid

end FlowRegistry
