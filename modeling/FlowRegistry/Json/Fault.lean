import FlowRegistry.Json.Value
import FlowRegistry.Text.Quoted
import FlowRegistry.Text.Utf8

/-!
# Faults of reading JSON

A reader fails either on the text itself (`SyntaxFault`: an unexpected end, a missing comma or
colon, a bad escape or number, trailing characters, nesting past the limit) or on a value of the
wrong form for the type being read (`Mismatch`: wrong type, value out of range, wrong length,
missing or repeated field, unknown variant, or a message of the type's own reader). A fault found
in the text carries its place; the place of a mismatch is the end of the innermost value being
read when it is found (`ReadError.placed`). The place is kept as the number of bytes after it and
shown as a line and a column counted in bytes (`position`).
-/

namespace FlowRegistry.Json

/-- Faults in the text. -/
inductive SyntaxFault where
  | eofList
  | eofObject
  | eofString
  | eofValue
  | expectedColon
  | expectedListCommaOrEnd
  | expectedObjectCommaOrEnd
  | expectedIdent
  | expectedValue
  | invalidEscape
  | invalidNumber
  | numberOutOfRange
  | invalidCodePoint
  | controlCharacter
  | keyMustBeString
  | loneLeadingSurrogate
  | trailingComma
  | trailingCharacters
  | unexpectedEndOfHexEscape
  | recursionLimit
  deriving DecidableEq, Repr

/-- The wording of a syntax fault. -/
def SyntaxFault.message : SyntaxFault → String
  | .eofList => "EOF while parsing a list"
  | .eofObject => "EOF while parsing an object"
  | .eofString => "EOF while parsing a string"
  | .eofValue => "EOF while parsing a value"
  | .expectedColon => "expected `:`"
  | .expectedListCommaOrEnd => "expected `,` or `]`"
  | .expectedObjectCommaOrEnd => "expected `,` or `\x7d`"
  | .expectedIdent => "expected ident"
  | .expectedValue => "expected value"
  | .invalidEscape => "invalid escape"
  | .invalidNumber => "invalid number"
  | .numberOutOfRange => "number out of range"
  | .invalidCodePoint => "invalid unicode code point"
  | .controlCharacter => "control character (\\u0000-\\u001F) found while parsing a string"
  | .keyMustBeString => "key must be a string"
  | .loneLeadingSurrogate => "lone leading surrogate in hex escape"
  | .trailingComma => "trailing comma"
  | .trailingCharacters => "trailing characters"
  | .unexpectedEndOfHexEscape => "unexpected end of hex escape"
  | .recursionLimit => "recursion limit exceeded"

/-- What a value was, when it was not what the reader expected. -/
inductive Unexpected where
  | bool (b : Bool)
  | unsigned (n : Nat)
  | signed (n : Int)
  | double (d : Decimal.Double)
  | str (s : String)
  | null
  | seq
  | map
  deriving DecidableEq, Repr

/-- How an unexpected value is described. -/
def Unexpected.text : Unexpected → String
  | .bool b => s!"boolean `{b}`"
  | .unsigned n => s!"integer `{n}`"
  | .signed n => s!"integer `{n}`"
  | .double d => s!"floating point `{Decimal.Double.messageText d}`"
  | .str s => "string " ++ Text.quote s
  | .null => "null"
  | .seq => "sequence"
  | .map => "map"

/-- What a JSON value is, as an unexpected one. -/
def Unexpected.ofJson : Json → Unexpected
  | .null => .null
  | .bool b => .bool b
  | .num (.nat n) => .unsigned n
  | .num (.neg n) => .signed (-(Int.ofNat n))
  | .num (.double d) => .double d
  | .str s => .str s
  | .arr _ => .seq
  | .obj _ => .map

/-- Faults of a value against the type being read. -/
inductive Mismatch where
  | invalidType (found : Unexpected) (expected : String)
  | invalidValue (found : Unexpected) (expected : String)
  | invalidLength (length : Nat) (expected : String)
  | missingField (name : String)
  | duplicateField (name : String)
  | unknownVariant (name : String) (choices : List String)
  | custom (text : String)
  deriving DecidableEq, Repr

/-- Names in backquotes: `a`, `a` or `b`, or one of `a`, `b`, `c`. -/
def oneOf (names : List String) : String :=
  let q := fun (n : String) => "`" ++ n ++ "`"
  match names with
  | [] => "nothing"
  | [a] => q a
  | [a, b] => q a ++ " or " ++ q b
  | _ => "one of " ++ ", ".intercalate (names.map q)

/-- The wording of a mismatch. -/
def Mismatch.message : Mismatch → String
  | .invalidType u e => s!"invalid type: {u.text}, expected {e}"
  | .invalidValue u e => s!"invalid value: {u.text}, expected {e}"
  | .invalidLength n e => s!"invalid length {n}, expected {e}"
  | .missingField f => "missing field `" ++ f ++ "`"
  | .duplicateField f => "duplicate field `" ++ f ++ "`"
  | .unknownVariant v [] => "unknown variant `" ++ v ++ "`, there are no variants"
  | .unknownVariant v cs => "unknown variant `" ++ v ++ "`, expected " ++ oneOf cs
  | .custom t => t

/-- A fault of either kind. -/
inductive ReadFault where
  | grammar (f : SyntaxFault)
  | mismatch (m : Mismatch)
  deriving DecidableEq, Repr

/-- A fault and, when known, the number of input bytes after its place. -/
structure ReadError where
  fault : ReadFault
  left : Option Nat
  deriving DecidableEq, Repr

/-- A syntax fault with `rest` still unread. -/
def faultAt (f : SyntaxFault) (rest : Bytes) : ReadError := ⟨.grammar f, some rest.length⟩

/-- A syntax fault at the byte looked at: the byte counts as read. -/
def faultPast (f : SyntaxFault) (rest : Bytes) : ReadError := ⟨.grammar f, some (rest.length - 1)⟩

/-- A mismatch not yet placed. -/
def mismatch (m : Mismatch) : ReadError := ⟨.mismatch m, none⟩

/-- Gives an error without a place the place with `rest` unread. -/
def ReadError.placed (e : ReadError) (rest : Bytes) : ReadError :=
  match e.left with
  | some _ => e
  | none => { e with left := some rest.length }

/-- Line (from 1) and column (bytes since the last line feed) of the place `index` bytes into
the input. -/
def position (input : Bytes) (index : Nat) : Nat × Nat :=
  let before := input.take index
  let lines := before.count 10
  let column := (before.reverse.takeWhile (· != 10)).length
  (lines + 1, column)

/-- The wording of a reading fault. -/
def ReadFault.message : ReadFault → String
  | .grammar f => f.message
  | .mismatch m => m.message

/-- The wording of an error of reading `input`, with its line and column when placed. -/
def ReadError.message (e : ReadError) (input : Bytes) : String :=
  match e.left with
  | none => e.fault.message
  | some left =>
    let (line, column) := position input (input.length - left)
    s!"{e.fault.message} at line {line} column {column}"

end FlowRegistry.Json
