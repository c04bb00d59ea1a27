import FlowRegistry.Text.Utf8

/-!
# Hexadecimal

Byte strings written as two lowercase hexadecimal digits per byte, and read back from digits of
either case.
-/

namespace FlowRegistry.Text

/-- The lowercase digit of a number below 16. -/
def hexDigit (n : Nat) : Char :=
  if n < 10 then Char.ofNat (48 + n) else Char.ofNat (87 + n)

/-- The value of a hexadecimal digit of either case. -/
def hexValue? (c : Char) : Option Nat :=
  if '0' ≤ c && c ≤ '9' then some (c.toNat - 48)
  else if 'a' ≤ c && c ≤ 'f' then some (c.toNat - 87)
  else if 'A' ≤ c && c ≤ 'F' then some (c.toNat - 55)
  else none

/-- Two lowercase digits per byte. -/
def hexEncode (bs : Bytes) : String :=
  String.ofList (bs.flatMap fun b => [hexDigit (b.toNat / 16), hexDigit (b.toNat % 16)])

/-- The bytes of pairs of hexadecimal digits. -/
def hexDecodeChars : List Char → Option Bytes
  | [] => some []
  | a :: b :: rest => do
    let hi ← hexValue? a
    let lo ← hexValue? b
    let tail ← hexDecodeChars rest
    pure ((hi * 16 + lo).toUInt8 :: tail)
  | [_] => none

/-- The bytes written by a hexadecimal text, when it has an even number of digits. -/
def hexDecode? (s : String) : Option Bytes :=
  hexDecodeChars s.toList

end FlowRegistry.Text
