import FlowRegistry.Json.Write
import FlowRegistry.Ident.Uuid
import FlowRegistry.Time.Instant

/-!
# Shapes of typed JSON data

A `Shape` says what a typed value looks like in JSON: a string, a UUID or an instant written as a
string, an unsigned word of 32 or 64 bits, a boolean, one of a list of names, an optional value, a
list, a map from strings, or a record of named fields. A `Datum` is a value read against a
shape: the records of a datum hold every field, in the order the shape declares them.

`Datum.toJson` writes a datum as its shape says: record fields in declaration order, a field
that is absent and marked `omitNone` left out, map entries in the sorted order the datum keeps.
Readers of text and of values (`Json.Shape.Text`, `Json.Shape.Value`) go the other way.
-/

namespace FlowRegistry.Json

mutual

/-- What a typed value looks like in JSON. -/
inductive Shape where
  /-- A string. -/
  | text
  /-- A UUID, written hyphenated. -/
  | uuid
  /-- An instant, written in RFC 3339. -/
  | instant
  /-- An unsigned word below `2 ^ 32`. -/
  | word32
  /-- An unsigned word below `2 ^ 64`. -/
  | word64
  /-- A boolean. -/
  | flag
  /-- One of a list of names, written as a string. -/
  | choice (names : List String)
  /-- A value that may be absent, written `null` when it is. -/
  | optional (inner : Shape)
  /-- A list of values of one shape. -/
  | list (item : Shape)
  /-- A map from strings to values of one shape, written as an object sorted by key. -/
  | dict (item : Shape)
  /-- A record with a name and fields. -/
  | record (name : String) (fields : List Field)
  /-- The innermost record around this shape, for records that hold records of their own kind. -/
  | recur

/-- A field of a record. -/
structure Field where
  key : String
  shape : Shape
  /-- Whether reading fails when the field is missing; otherwise it takes the shape's default. -/
  required : Bool
  /-- Whether writing leaves the field out when it is absent. -/
  omitNone : Bool

end

/-- A field that must be present. -/
def Field.needed (key : String) (shape : Shape) : Field := ⟨key, shape, true, false⟩

/-- A field that takes its default when missing. -/
def Field.defaulted (key : String) (shape : Shape) : Field := ⟨key, shape, false, false⟩

/-- An optional field that takes its default when missing and is left out when absent. -/
def Field.omitted (key : String) (inner : Shape) : Field := ⟨key, .optional inner, false, true⟩

/-- A value read against a shape. -/
inductive Datum where
  | text (s : String)
  | uuid (u : Uuid)
  | instant (t : Time.Instant)
  | word (n : Nat)
  | flag (b : Bool)
  /-- The name at this position of a `choice`. -/
  | choice (index : Nat)
  | none
  | some (d : Datum)
  | list (items : List Datum)
  /-- Entries sorted by key, one per key. -/
  | dict (entries : List (String × Datum))
  /-- One datum per declared field, in order. -/
  | record (values : List Datum)
  deriving Repr, Inhabited

namespace Shape

/-- How a reader names what it expected of this shape. -/
def expecting : Shape → String
  | .text => "a string"
  | .uuid => "a UUID string"
  | .instant => "a formatted date and time string or a unix timestamp"
  | .word32 => "u32"
  | .word64 => "u64"
  | .flag => "a boolean"
  | .choice _ => "string or map"
  | .optional _ => "option"
  | .list _ => "a sequence"
  | .dict _ => "a map"
  | .record name _ => "struct " ++ name
  | .recur => "struct"

/-- The value a missing field that is not required takes. -/
def fallback : Shape → Datum
  | .text => .text ""
  | .uuid => .uuid ⟨0⟩
  | .instant => .instant ⟨0, 0, 0⟩
  | .word32 | .word64 => .word 0
  | .flag => .flag false
  | .choice _ => .choice 0
  | .optional _ => .none
  | .list _ => .list []
  | .dict _ => .dict []
  | .record _ _ | .recur => .record []

/-- The shape itself, or the record `home` when it stands for the innermost record around it. -/
def resolve (s home : Shape) : Shape :=
  match s with
  | .recur => home
  | s => s

/-- The largest word of a word shape. -/
def wordLimit : Shape → Nat
  | .word32 => Nat.pow 2 32 - 1
  | _ => Nat.pow 2 64 - 1

end Shape

/-- How the reader of a record with `n` fields names the length it expected. -/
def recordLength (name : String) (n : Nat) : String :=
  s!"struct {name} with {n} element" ++ (if n = 1 then "" else "s")

mutual

/-- Writes a datum as its shape says; `home` is the innermost record around it. -/
def Datum.toJson (home : Shape) : Shape → Datum → Json
  | _, .text s => .str s
  | _, .uuid u => .str u.text
  | _, .instant t => .str t.text
  | _, .word n => .num (.nat n)
  | _, .flag b => .bool b
  | .choice names, .choice i => .str (names.getD i "")
  | _, .choice _ => .null
  | _, .none => .null
  | .optional s, .some d => d.toJson home s
  | _, .some _ => .null
  | .list s, .list xs => .arr (Datum.listToJson home s xs)
  | _, .list _ => .null
  | .dict s, .dict kvs => .obj (Datum.entriesToJson home s kvs)
  | _, .dict _ => .null
  | .record n fs, .record ds => .obj (Datum.fieldsToJson (.record n fs) fs ds)
  | _, .record _ => .null

/-- Writes the items of a list. -/
def Datum.listToJson (home s : Shape) : List Datum → List Json
  | [] => []
  | d :: ds => d.toJson home (s.resolve home) :: Datum.listToJson home s ds

/-- Writes the entries of a map. -/
def Datum.entriesToJson (home s : Shape) : List (String × Datum) → List (String × Json)
  | [] => []
  | (k, d) :: rest => (k, d.toJson home (s.resolve home)) :: Datum.entriesToJson home s rest

/-- Writes the fields of a record, leaving out absent fields marked `omitNone`. -/
def Datum.fieldsToJson (home : Shape) : List Field → List Datum → List (String × Json)
  | f :: fs, d :: ds =>
    match d with
    | .none =>
      if f.omitNone then Datum.fieldsToJson home fs ds
      else (f.key, .null) :: Datum.fieldsToJson home fs ds
    | _ => (f.key, d.toJson home (f.shape.resolve home)) :: Datum.fieldsToJson home fs ds
  | _, _ => []

end

/-- Writes a datum of shape `s`. -/
def Datum.write (s : Shape) (d : Datum) : Json := d.toJson s s

end FlowRegistry.Json
