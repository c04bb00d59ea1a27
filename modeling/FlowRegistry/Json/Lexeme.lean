import FlowRegistry.Json.Fault
import FlowRegistry.Decimal.Double

/-!
# Lexemes of JSON text

The pieces of JSON text below the level of values, read from the front of a byte string: blanks,
the words `null`, `true` and `false`, strings, and numbers. Each reader returns what it read and
the bytes after it, or a fault with its place.

Two families read strings and numbers. The value readers (`readString`, `readNumber`) check
everything: escapes, surrogate pairs, UTF-8, and the range of numbers, and compute the number,
keeping integers exact below `2 ^ 64` and composing other numbers as a binary64 product or
quotient of the integer significand and a power of ten. The skipping readers (`skipString`,
`skipNumber`), used for members a type does not know, check only the grammar: any `\u` escape
with four hexadecimal digits passes, any exponent passes, and a control character is placed
before itself rather than after.
-/

namespace FlowRegistry.Json

/-- The blanks between tokens: space, line feed, tab, carriage return. -/
def isBlankByte (b : UInt8) : Bool := b == 0x20 || b == 0x0A || b == 0x09 || b == 0x0D

/-- The bytes after the leading blanks. -/
def skipBlank (r : Bytes) : Bytes := r.dropWhile isBlankByte

theorem skipBlank_length_le (r : Bytes) : (skipBlank r).length ≤ r.length := by
  induction r with
  | nil => simp [skipBlank]
  | cons b rest ih =>
    unfold skipBlank at *
    by_cases h : isBlankByte b = true
    · simp only [List.dropWhile, h]
      simp only [List.length_cons]
      omega
    · simp [List.dropWhile, h]

/-- Whether a byte is an ASCII digit. -/
def isDigitByte (b : UInt8) : Bool := 0x30 ≤ b && b ≤ 0x39

/-- The value of an ASCII digit. -/
def digitOf (b : UInt8) : Nat := b.toNat - 0x30

/-- Reads the rest of a word whose first letter was read. -/
def readWord : List UInt8 → Bytes → Except ReadError Bytes
  | [], r => .ok r
  | _ :: _, [] => .error (faultAt .eofValue [])
  | w :: ws, b :: rest => if b = w then readWord ws rest else .error (faultAt .expectedIdent rest)

/-! ### Strings -/

/-- The value of a hexadecimal digit. -/
def hexByte? (b : UInt8) : Option Nat :=
  if 0x30 ≤ b && b ≤ 0x39 then some (b.toNat - 0x30)
  else if 0x61 ≤ b && b ≤ 0x66 then some (b.toNat - 0x57)
  else if 0x41 ≤ b && b ≤ 0x46 then some (b.toNat - 0x37)
  else none

/-- The value of four hexadecimal digits. -/
def hex4? (a b c d : UInt8) : Option Nat := do
  pure ((((← hexByte? a) * 16 + (← hexByte? b)) * 16 + (← hexByte? c)) * 16 + (← hexByte? d))

/-- The byte an escape letter stands for. -/
def simpleEscape? (e : UInt8) : Option UInt8 :=
  if e = 0x22 then some 0x22
  else if e = 0x5C then some 0x5C
  else if e = 0x2F then some 0x2F
  else if e = 0x62 then some 0x08
  else if e = 0x66 then some 0x0C
  else if e = 0x6E then some 0x0A
  else if e = 0x72 then some 0x0D
  else if e = 0x74 then some 0x09
  else none

/-- The UTF-8 bytes of a code point, last byte first. -/
def codeBytesRev (n : Nat) : List UInt8 :=
  (String.utf8EncodeChar (Char.ofNat n)).reverse

/-- Whether a UTF-16 unit is a trailing surrogate. -/
def isTrailSurrogate (n : Nat) : Bool := 0xDC00 ≤ n && n ≤ 0xDFFF

/-- Whether a UTF-16 unit is a leading surrogate. -/
def isLeadSurrogate (n : Nat) : Bool := 0xD800 ≤ n && n ≤ 0xDBFF

/-- Reads the body of a string after its opening quote: the bytes it stands for (with `acc`,
last first, already read) and the bytes after the closing quote. -/
def stringBody (acc : List UInt8) : Bytes → Except ReadError (List UInt8 × Bytes)
  | [] => .error (faultAt .eofString [])
  | b :: rest =>
    if b = 0x22 then .ok (acc.reverse, rest)
    else if b = 0x5C then
      match rest with
      | [] => .error (faultAt .eofString [])
      | e :: rest1 =>
        match simpleEscape? e with
        | some v => stringBody (v :: acc) rest1
        | none =>
          if e ≠ 0x75 then .error (faultAt .invalidEscape rest1)
          else match rest1 with
            | a1 :: a2 :: a3 :: a4 :: rest2 =>
              match hex4? a1 a2 a3 a4 with
              | none => .error (faultAt .invalidEscape rest2)
              | some n =>
                if isTrailSurrogate n then .error (faultAt .loneLeadingSurrogate rest2)
                else if !isLeadSurrogate n then stringBody (codeBytesRev n ++ acc) rest2
                else match rest2 with
                  | [] => .error (faultAt .eofString [])
                  | b2 :: rest3 =>
                    if b2 ≠ 0x5C then .error (faultAt .unexpectedEndOfHexEscape rest3)
                    else match rest3 with
                      | [] => .error (faultAt .eofString [])
                      | b3 :: rest4 =>
                        if b3 ≠ 0x75 then .error (faultAt .unexpectedEndOfHexEscape rest4)
                        else match rest4 with
                          | c1 :: c2 :: c3 :: c4 :: rest5 =>
                            match hex4? c1 c2 c3 c4 with
                            | none => .error (faultAt .invalidEscape rest5)
                            | some m =>
                              if isTrailSurrogate m then
                                stringBody
                                  (codeBytesRev ((n - 0xD800) * 0x400 + (m - 0xDC00) + 0x10000) ++ acc)
                                  rest5
                              else .error (faultAt .loneLeadingSurrogate rest5)
                          | _ => .error (faultAt .eofString [])
            | _ => .error (faultAt .eofString [])
    else if b < 0x20 then .error (faultAt .controlCharacter rest)
    else stringBody (b :: acc) rest

/-- Reads a string after its opening quote. Once the closing quote is read, the bytes the string
stands for must form UTF-8; the fault is placed as if those bytes ended at the closing quote, at
the byte after the first ill-formed sequence's first byte. -/
def readString (r : Bytes) : Except ReadError (String × Bytes) := do
  let (raw, rest) ← stringBody [] r
  match Text.decode raw with
  | .ok s => pure (s, rest)
  | .error f => throw ⟨.grammar .invalidCodePoint, some (rest.length + (raw.length - f.validUpTo))⟩

/-- Skips a string after its opening quote, checking only its grammar. -/
def skipString : Bytes → Except ReadError Bytes
  | [] => .error (faultAt .eofString [])
  | b :: rest =>
    if b = 0x22 then .ok rest
    else if b = 0x5C then
      match rest with
      | [] => .error (faultAt .eofString [])
      | e :: rest1 =>
        if (simpleEscape? e).isSome then skipString rest1
        else if e ≠ 0x75 then .error (faultAt .invalidEscape rest1)
        else match rest1 with
          | a1 :: a2 :: a3 :: a4 :: rest2 =>
            if (hex4? a1 a2 a3 a4).isSome then skipString rest2
            else .error (faultAt .invalidEscape rest2)
          | _ => .error (faultAt .eofString [])
    else if b < 0x20 then .error (faultAt .controlCharacter (b :: rest))
    else skipString rest

/-! ### Numbers -/

/-- The greatest unsigned 64-bit integer. -/
def maxWord64 : Nat := Nat.pow 2 64 - 1

/-- The greatest signed 32-bit integer, the limit of a decimal exponent. -/
def maxExponent : Nat := Nat.pow 2 31 - 1

/-- `significand * 10 ^ exponent` as a double: the significand rounded to a double, then
multiplied or divided by the double nearest to the power of ten (a power past `10 ^ 308`
divides in steps of `10 ^ 308`). None when the product is infinite. -/
def composeDouble (positive : Bool) (significand : Nat) (exponent : Int) : Option Decimal.Double :=
  let sign := fun (d : Decimal.Double) => if positive then d else d.neg
  let rec go : Nat → Decimal.Double → Int → Option Decimal.Double
    | 0, f, _ => some (sign f)
    | fuel + 1, f, e =>
      let k := e.natAbs
      if k ≤ 308 then
        let pow := Decimal.Double.ofNat (Nat.pow 10 k)
        if 0 ≤ e then
          let g := f.mul pow
          if g.isFinite then some (sign g) else none
        else some (sign (f.div pow))
      else if f.isZero then some (sign f)
      else if 0 ≤ e then none
      else go fuel (f.div (Decimal.Double.ofNat (Nat.pow 10 308))) (e + 308)
  go 8 (Decimal.Double.ofNat significand) exponent

/-- The number `significand * 10 ^ exponent`, or out of range at `rest`. -/
def finishDouble (positive : Bool) (significand : Nat) (exponent : Int) (rest : Bytes) :
    Except ReadError (JsonNumber × Bytes) :=
  match composeDouble positive significand exponent with
  | some d => .ok (.double d, rest)
  | none => .error (faultAt .numberOutOfRange rest)

/-- Skips digits. -/
def skipDigits (r : Bytes) : Bytes := r.dropWhile isDigitByte

/-- Reads the digits of an exponent after its sign, the first already read as `exp`. -/
def exponentDigits (positive : Bool) (significand : Nat) (start : Int) (positiveExp : Bool)
    (exp : Nat) : Bytes → Except ReadError (JsonNumber × Bytes)
  | d :: rest =>
    if isDigitByte d then
      let exp' := exp * 10 + digitOf d
      if exp' > maxExponent then
        -- a huge exponent: infinite unless it shrinks the number or the number is zero
        if significand ≠ 0 && positiveExp then .error (faultAt .numberOutOfRange rest)
        else .ok (.double (if positive then Decimal.Double.zero false else Decimal.Double.zero true),
          skipDigits rest)
      else exponentDigits positive significand start positiveExp exp' rest
    else
      finishDouble positive significand (if positiveExp then start + exp else start - exp) (d :: rest)
  | [] => finishDouble positive significand (if positiveExp then start + exp else start - exp) []

/-- Reads an exponent after its `e`. -/
def readExponent (positive : Bool) (significand : Nat) (start : Int) (r : Bytes) :
    Except ReadError (JsonNumber × Bytes) :=
  let (positiveExp, r) := match r with
    | 0x2B :: rest => (true, rest)
    | 0x2D :: rest => (false, rest)
    | _ => (true, r)
  match r with
  | [] => .error (faultAt .eofValue [])
  | d :: rest =>
    if isDigitByte d then exponentDigits positive significand start positiveExp (digitOf d) rest
    else .error (faultAt .invalidNumber rest)

/-- Digits past the 64-bit range of a significand only scale it; reads on after them. -/
def overflowTail (positive : Bool) (significand : Nat) (exponent : Int) (r : Bytes) :
    Except ReadError (JsonNumber × Bytes) :=
  let r := skipDigits r
  match r with
  | e :: rest => if e = 0x65 || e = 0x45 then readExponent positive significand exponent rest
      else finishDouble positive significand exponent r
  | [] => finishDouble positive significand exponent []

/-- Reads fraction digits after the point; `count` digits were read so far. -/
def fractionDigits (positive : Bool) (significand : Nat) (start : Int) (count : Nat) :
    Bytes → Except ReadError (JsonNumber × Bytes)
  | d :: rest =>
    if isDigitByte d then
      let s := significand * 10 + digitOf d
      if s > maxWord64 then overflowTail positive significand (start - count) (d :: rest)
      else fractionDigits positive s start (count + 1) rest
    else if count = 0 then .error (faultPast .invalidNumber (d :: rest))
    else if d = 0x65 || d = 0x45 then readExponent positive significand (start - count) rest
    else finishDouble positive significand (start - count) (d :: rest)
  | [] =>
    if count = 0 then .error (faultPast .eofValue [])
    else finishDouble positive significand (start - count) []

/-- Integer digits past the 64-bit range: each scales the significand by ten. -/
def longDigits (positive : Bool) (significand : Nat) (exponent : Nat) :
    Bytes → Except ReadError (JsonNumber × Bytes)
  | d :: rest =>
    if isDigitByte d then longDigits positive significand (exponent + 1) rest
    else if d = 0x2E then fractionDigits positive significand exponent 0 rest
    else if d = 0x65 || d = 0x45 then readExponent positive significand exponent rest
    else finishDouble positive significand exponent (d :: rest)
  | [] => finishDouble positive significand exponent []

/-- What follows the integer digits: a fraction, an exponent, or the end of the number. -/
def numberTail (positive : Bool) (significand : Nat) (r : Bytes) :
    Except ReadError (JsonNumber × Bytes) :=
  match r with
  | 0x2E :: rest => fractionDigits positive significand 0 0 rest
  | 0x65 :: rest | 0x45 :: rest => readExponent positive significand 0 rest
  | _ =>
    if positive then .ok (.nat significand, r)
    else if significand = 0 then .ok (.double (Decimal.Double.zero true), r)
    else if significand ≤ Nat.pow 2 63 then .ok (.neg significand, r)
    else .ok (.double (Decimal.Double.ofNat significand).neg, r)

/-- Reads integer digits after the first. -/
def integerDigits (positive : Bool) (significand : Nat) :
    Bytes → Except ReadError (JsonNumber × Bytes)
  | d :: rest =>
    if isDigitByte d then
      let s := significand * 10 + digitOf d
      if s > maxWord64 then longDigits positive significand 0 (d :: rest)
      else integerDigits positive s rest
    else numberTail positive significand (d :: rest)
  | [] => numberTail positive significand []

/-- Reads a number after its sign (the `-`, when negative, already read). -/
def readNumber (positive : Bool) : Bytes → Except ReadError (JsonNumber × Bytes)
  | [] => .error (faultAt .eofValue [])
  | b :: rest =>
    if b = 0x30 then
      match rest with
      | d :: _ => if isDigitByte d then .error (faultPast .invalidNumber rest)
          else numberTail positive 0 rest
      | [] => numberTail positive 0 []
    else if isDigitByte b then integerDigits positive (digitOf b) rest
    else .error (faultAt .invalidNumber rest)

/-- Skips an exponent after its `e`. -/
def skipExponent (r : Bytes) : Except ReadError Bytes :=
  let r := match r with
    | 0x2B :: rest | 0x2D :: rest => rest
    | _ => r
  match r with
  | d :: rest => if isDigitByte d then .ok (skipDigits rest) else .error (faultAt .invalidNumber rest)
  | [] => .error (faultAt .invalidNumber [])

/-- Skips what follows the integer digits of a number. -/
def skipNumberTail (r : Bytes) : Except ReadError Bytes :=
  match r with
  | 0x2E :: rest =>
    match rest with
    | d :: _ =>
      if isDigitByte d then
        match skipDigits rest with
        | e :: rest' => if e = 0x65 || e = 0x45 then skipExponent rest' else .ok (e :: rest')
        | [] => .ok []
      else .error (faultPast .invalidNumber rest)
    | [] => .error (faultPast .invalidNumber [])
  | 0x65 :: rest | 0x45 :: rest => skipExponent rest
  | _ => .ok r

/-- Skips a number after its sign, checking only its grammar. -/
def skipNumber : Bytes → Except ReadError Bytes
  | [] => .error (faultAt .invalidNumber [])
  | b :: rest =>
    if b = 0x30 then
      match rest with
      | d :: _ => if isDigitByte d then .error (faultPast .invalidNumber rest) else skipNumberTail rest
      | [] => .ok []
    else if isDigitByte b then skipNumberTail (skipDigits rest)
    else .error (faultAt .invalidNumber rest)

end FlowRegistry.Json
