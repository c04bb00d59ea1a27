import FlowRegistry.Json.Value
import FlowRegistry.Text.Hex

/-!
# Writing JSON

The compact text of a value: no blanks, members in the order given, integers in decimal, and
strings with `"` and `\` escaped by a backslash, the control characters backspace, form feed,
line feed, carriage return and tab by their letter, the other control characters below U+0020 as
`\u00xx` with lowercase hex, and every other character as itself.
-/

namespace FlowRegistry.Json

/-- How one character of a string is written. -/
def escapeChar (c : Char) : List Char :=
  if c = '"' then ['\\', '"']
  else if c = '\\' then ['\\', '\\']
  else if c.toNat < 0x20 then
    if c = '\x08' then ['\\', 'b']
    else if c = '\x0c' then ['\\', 'f']
    else if c = '\n' then ['\\', 'n']
    else if c = '\r' then ['\\', 'r']
    else if c = '\t' then ['\\', 't']
    else ['\\', 'u', '0', '0', Text.hexDigit (c.toNat / 16), Text.hexDigit (c.toNat % 16)]
  else [c]

/-- A string literal. -/
def quoteString (s : String) : List Char :=
  '"' :: s.toList.flatMap escapeChar ++ ['"']

/-- The text of a number. -/
def numberChars : JsonNumber → List Char
  | .nat n => Nat.toDigits 10 n
  | .neg n => '-' :: Nat.toDigits 10 n
  | .double d => (Decimal.Double.text d).toList

/-- Elements separated by commas. -/
def joinComma : List (List Char) → List Char
  | [] => []
  | [x] => x
  | x :: rest => x ++ ',' :: joinComma rest

mutual
/-- The compact text of a value, as characters. -/
def chars : Json → List Char
  | .null => "null".toList
  | .bool true => "true".toList
  | .bool false => "false".toList
  | .num n => numberChars n
  | .str s => quoteString s
  | .arr xs => '[' :: joinComma (charsList xs) ++ [']']
  | .obj ms => '\x7b' :: joinComma (charsMembers ms) ++ ['\x7d']

/-- The texts of elements. -/
def charsList : List Json → List (List Char)
  | [] => []
  | x :: rest => chars x :: charsList rest

/-- The texts of members. -/
def charsMembers : List (String × Json) → List (List Char)
  | [] => []
  | (k, v) :: rest => (quoteString k ++ ':' :: chars v) :: charsMembers rest
end

/-- The compact text of a value. -/
def render (j : Json) : String := String.ofList (chars j)

/-- The UTF-8 bytes of the compact text. -/
def bytes (j : Json) : Bytes := Text.encode (render j)

end FlowRegistry.Json
