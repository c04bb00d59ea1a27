import FlowRegistry.Text.Hex

/-!
# UUIDs

A UUID is a 128-bit number. Its text is 32 lowercase hexadecimal digits in groups of 8, 4, 4, 4
and 12 joined by hyphens. `Uuid.parse` reads the hyphenated form (bare, in braces, or after
`urn:uuid:` in any ASCII case) and the simple form of 32 digits, in either case; a text of none
of these forms is described by its first fault (`UuidFault`): a text too long for any form, a
character that is not a digit or hyphen, a simple form of the wrong length, a wrong number of
groups, or a group of the wrong length.
-/

namespace FlowRegistry

/-- A 128-bit universally unique identifier. -/
structure Uuid where
  value : Fin (Nat.pow 2 128)
  deriving DecidableEq, Repr

namespace Uuid

/-- The 32 lowercase hexadecimal digits, most significant first. -/
def digits (u : Uuid) : List Char :=
  (List.range 32).reverse.map fun i => Text.hexDigit (u.value.val / Nat.pow 16 i % 16)

/-- The hyphenated lowercase text. -/
def text (u : Uuid) : String :=
  let d := u.digits
  String.ofList (d.take 8 ++ '-' :: (d.drop 8).take 4 ++ '-' :: (d.drop 12).take 4 ++ '-' ::
    (d.drop 16).take 4 ++ '-' :: d.drop 20)

/-- The UUID of 32 hexadecimal digits. -/
def ofHexChars (cs : List Char) : Option Uuid := do
  let vals ← cs.mapM Text.hexValue?
  let n := vals.foldl (fun acc v => acc * 16 + v) 0
  if h : n < Nat.pow 2 128 then some ⟨⟨n, h⟩⟩ else none

end Uuid

/-- Why a text is no UUID. Indices count bytes from the start of the text. -/
inductive UuidFault where
  | character (c : Char) (index : Nat)
  | simpleLength (length : Nat)
  | groupCount (count : Nat)
  | groupLength (group expected found : Nat)
  deriving DecidableEq, Repr

/-- The wording of a fault. -/
def UuidFault.message : UuidFault → String
  | .character c i => s!"invalid character: found `{c}` at {i}"
  | .simpleLength n => s!"invalid length: found {n}"
  | .groupCount n => s!"invalid group count: expected 5, found {n}"
  | .groupLength g e n => s!"invalid group length in group {g}: expected {e}, found {n}"

namespace Uuid

/-- Where the four hyphens of the hyphenated form stand. -/
def hyphenSlots : List Nat := [8, 13, 18, 23]

/-- The hyphenated form: hyphens at the four slots, hexadecimal digits elsewhere. -/
def parseHyphenated (cs : List Char) : Option Uuid :=
  if cs.length = 36 && (hyphenSlots.all fun i => cs[i]? == some '-') then
    ofHexChars ((List.range 36).filterMap fun i =>
      if hyphenSlots.contains i then none else cs[i]?)
  else none

/-- The URN prefix, matched without regard to ASCII case. -/
def urnPrefix : List Char := "urn:uuid:".toList

/-- Whether the text starts with the URN prefix in any ASCII case. -/
def hasUrnPrefix (cs : List Char) : Bool :=
  cs.length ≥ 9 && (List.zip urnPrefix (cs.take 9)).all fun (p, c) => p == c.toLower

/-- The 36 bytes a text of a hyphenated length holds in the hyphenated form's place: the whole
text of 36 bytes, the inside of 38 bytes between braces, or what follows the URN prefix in 45
bytes. -/
def hyphenatedBody (s : String) : Option (List Char) :=
  let cs := s.toList
  match s.utf8ByteSize with
  | 36 => some cs
  | 38 =>
    if cs.head? = some '\x7b' && cs.getLast? = some '\x7d' then some ((cs.drop 1).dropLast)
    else none
  | 45 => if hasUrnPrefix cs then some (cs.drop 9) else none
  | _ => none

/-- The well-formed texts: 32 digits, 36 hyphenated, 38 in braces, 45 after `urn:uuid:`
(lengths in bytes). -/
def parseWellFormed (s : String) : Option Uuid :=
  let cs := s.toList
  match hyphenatedBody s with
  | some body => parseHyphenated body
  | none => if s.utf8ByteSize = 32 && cs.length = 32 then ofHexChars cs else none

/-- The text inside its wrapping, how many bytes the wrapping takes before it, and whether it was
unwrapped (then only the simple form is possible). -/
def unwrap (cs : List Char) : List Char × Nat × Bool :=
  if cs.length ≥ 2 && cs.head? = some '\x7b' && cs.getLast? = some '\x7d' then
    ((cs.drop 1).dropLast, 1, false)
  else if hasUrnPrefix cs then (cs.drop 9, 9, false)
  else (cs, 0, true)

/-- Scans the unwrapped text: the first character that is neither a hexadecimal digit nor a
hyphen (with its byte index), else the byte indices of the hyphens. -/
def scanGroups (offset : Nat) : Nat → List Char → Except UuidFault (List Nat)
  | _, [] => .ok []
  | i, c :: rest =>
    if c = '-' then (scanGroups offset (i + 1) rest).map (i :: ·)
    else if (Text.hexValue? c).isSome then scanGroups offset (i + c.utf8Size) rest
    else .error (.character c (i + offset))

/-- The group lengths the hyphenated form requires, and where its groups start. -/
def groupLengths : List Nat := [8, 4, 4, 4, 12]

/-- The first fault of `body`, which stands `offset` bytes into a text of `size` bytes: a
character that is neither a digit nor a hyphen (its index counted in the text), a `bare` body
with no hyphen (a simple form of the wrong length), a wrong number of groups, or the first group
of the wrong length; the last group's length is measured on the whole text. -/
def groupsFault (body : List Char) (offset size : Nat) (bare : Bool) : UuidFault :=
  match scanGroups offset 0 body with
  | .error f => f
  | .ok hyphens =>
    if hyphens.isEmpty && bare then .simpleLength size
    else if hyphens.length ≠ 4 then .groupCount (hyphens.length + 1)
    else
      let starts := [0, 9, 14, 19, 24]
      let bad := (List.range 4).find? fun g => hyphens[g]? ≠ some (starts.getD (g + 1) 0 - 1)
      match bad with
      | some g => .groupLength g (groupLengths.getD g 0) (hyphens.getD g 0 - starts.getD g 0)
      | none => .groupLength 4 12 (size - 24)

/-- The first fault of a text that is not well-formed. A text longer than the longest form is
faulted by its length. A text of a hyphenated form's shape (36 bytes, 38 in braces or 45 after
the URN prefix) is read as that form: the 36 bytes in the hyphenated form's place, indices counted
from their start. Any other text, the simple form's 32 bytes included, is read after taking off
braces or the URN prefix, indices counted in the whole text. -/
def fault (s : String) : UuidFault :=
  let size := s.utf8ByteSize
  if 45 < size then .simpleLength size
  else match hyphenatedBody s with
    | some body => groupsFault body 0 36 false
    | none =>
      let (body, offset, bare) := unwrap s.toList
      groupsFault body offset size bare

/-- Reads a UUID, or says why the text is none. -/
def parse (s : String) : Except UuidFault Uuid :=
  match parseWellFormed s with
  | some u => .ok u
  | none => .error (fault s)

end Uuid

end FlowRegistry
