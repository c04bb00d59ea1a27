/-!
# UTF-8

Byte strings and their reading as UTF-8 text (RFC 3629): `encode` writes a text, `decodeStep`
reads one character or says how many bytes form an ill-formed sequence. From it come the strict
reading `decode?`, the lossy reading `decodeLossy` that puts U+FFFD for each maximal ill-formed
sequence, and the description of the first fault (`Utf8Fault.message`).
-/

namespace FlowRegistry

/-- Byte strings. -/
abbrev Bytes := List UInt8

namespace Text

/-- The UTF-8 bytes of a text. -/
def encode (s : String) : Bytes :=
  s.toList.flatMap String.utf8EncodeChar

/-- One step of reading: a character and the rest, an ill-formed sequence of `length` bytes
(its longest prefix that a well-formed sequence could start with), or a sequence cut by the end. -/
inductive DecodeStep where
  | char (c : Char) (rest : Bytes)
  | bad (length : Nat) (rest : Bytes)
  | cut

/-- Whether a byte continues a sequence. -/
def isTail (b : UInt8) : Bool := 0x80 ≤ b && b ≤ 0xBF

/-- The bytes a sequence may continue with after its first byte, by the first byte. -/
def secondRange (b : UInt8) : UInt8 × UInt8 :=
  if b = 0xE0 then (0xA0, 0xBF)
  else if b = 0xED then (0x80, 0x9F)
  else if b = 0xF0 then (0x90, 0xBF)
  else if b = 0xF4 then (0x80, 0x8F)
  else (0x80, 0xBF)

/-- The length of a sequence by its first byte, 0 when no sequence starts with it. -/
def sequenceLength (b : UInt8) : Nat :=
  if b < 0x80 then 1
  else if 0xC2 ≤ b && b ≤ 0xDF then 2
  else if 0xE0 ≤ b && b ≤ 0xEF then 3
  else if 0xF0 ≤ b && b ≤ 0xF4 then 4
  else 0

/-- The code point of a well-formed sequence's bytes. -/
def codePoint (first : UInt8) (tails : List UInt8) : Nat :=
  let lead := match tails.length with
    | 0 => first.toNat
    | 1 => first.toNat % 0x20
    | 2 => first.toNat % 0x10
    | _ => first.toNat % 0x08
  tails.foldl (fun acc t => acc * 64 + t.toNat % 64) lead

/-- Reads one character. -/
def decodeStep : Bytes → DecodeStep
  | [] => .cut
  | b :: rest =>
    match sequenceLength b with
    | 1 => .char (Char.ofNat b.toNat) rest
    | 2 =>
      match rest with
      | [] => .cut
      | t :: rest' => if isTail t then .char (Char.ofNat (codePoint b [t])) rest' else .bad 1 rest
    | 3 =>
      match rest with
      | [] => .cut
      | t :: rest' =>
        if (secondRange b).1 ≤ t && t ≤ (secondRange b).2 then
          match rest' with
          | [] => .cut
          | u :: rest'' =>
            if isTail u then .char (Char.ofNat (codePoint b [t, u])) rest'' else .bad 2 rest'
        else .bad 1 rest
    | 4 =>
      match rest with
      | [] => .cut
      | t :: rest' =>
        if (secondRange b).1 ≤ t && t ≤ (secondRange b).2 then
          match rest' with
          | [] => .cut
          | u :: rest'' =>
            if isTail u then
              match rest'' with
              | [] => .cut
              | v :: rest''' =>
                if isTail v then .char (Char.ofNat (codePoint b [t, u, v])) rest'''
                else .bad 3 rest''
            else .bad 2 rest'
        else .bad 1 rest
    | _ => .bad 1 rest

theorem decodeStep_rest_length {bs rest : Bytes} :
    (∀ c, decodeStep bs = .char c rest → rest.length < bs.length) ∧
    (∀ k, decodeStep bs = .bad k rest → rest.length < bs.length) := by
  constructor <;> intro x h <;> unfold decodeStep at h <;>
    (repeat' split at h) <;> simp_all <;> omega

/-- The first fault of a byte string read as UTF-8: where the well-formed prefix ends, and the
length of the ill-formed sequence there, or none when the input ends inside a sequence. -/
structure Utf8Fault where
  validUpTo : Nat
  length : Option Nat

/-- The wording of a fault. -/
def Utf8Fault.message (f : Utf8Fault) : String :=
  match f.length with
  | some k => s!"invalid utf-8 sequence of {k} bytes from index {f.validUpTo}"
  | none => s!"incomplete utf-8 byte sequence from index {f.validUpTo}"

/-- Reads the whole byte string; `acc` holds the characters read (last first) and `offset` counts
the bytes read. -/
def decodeFrom (acc : List Char) (offset : Nat) (bs : Bytes) : Except Utf8Fault String :=
  match h : decodeStep bs with
  | .char c rest =>
    have : rest.length < bs.length := decodeStep_rest_length.1 c h
    decodeFrom (c :: acc) (offset + (bs.length - rest.length)) rest
  | .bad k _ => .error ⟨offset, some k⟩
  | .cut => if bs.isEmpty then .ok (String.ofList acc.reverse) else .error ⟨offset, none⟩
termination_by bs.length

/-- The text of a byte string, or its first fault. -/
def decode (bs : Bytes) : Except Utf8Fault String :=
  decodeFrom [] 0 bs

/-- The text of a byte string, when it is well-formed UTF-8. -/
def decode? (bs : Bytes) : Option String :=
  match decode bs with
  | .ok s => some s
  | .error _ => none

/-- Reads the whole byte string, each maximal ill-formed sequence read as U+FFFD. -/
def lossyFrom (acc : List Char) (bs : Bytes) : String :=
  match h : decodeStep bs with
  | .char c rest =>
    have : rest.length < bs.length := decodeStep_rest_length.1 c h
    lossyFrom (c :: acc) rest
  | .bad k rest =>
    have : rest.length < bs.length := decodeStep_rest_length.2 k h
    lossyFrom ('�' :: acc) rest
  | .cut => String.ofList (if bs.isEmpty then acc.reverse else ('�' :: acc).reverse)
termination_by bs.length

/-- The text of a byte string, with U+FFFD in place of each maximal ill-formed sequence. -/
def decodeLossy (bs : Bytes) : String :=
  lossyFrom [] bs

end Text

end FlowRegistry
