import FlowRegistry.Json.Shape.Text

/-!
# Reading typed data from JSON values

`Datum.ofJson s j` reads a JSON value already parsed against the shape `s`, with the faults of
`Datum.ofText` but without places. A value parsed into a map has sorted keys and no repeats, so a
record read from it meets its fields in key order and never twice. A record read from a list
takes one item per field and refuses a list with items left over. A choice is a string or an
object with a single member whose value is `null`.
-/

namespace FlowRegistry.Json

/-- The values of the fields of a record whose list ran out at field `index`: each remaining
field takes its default, or the first required one fails. -/
def fillDefaults (name : String) (count : Nat) : Nat → List Field → Except Mismatch (List Datum)
  | _, [] => .ok []
  | i, f :: fs =>
    if f.required then .error (.invalidLength i (recordLength name count))
    else (f.shape.fallback :: ·) <$> fillDefaults name count (i + 1) fs

/-- Reads a choice from its name and the value under it, if it came as an object. -/
def choiceOfName (names : List String) (v : String) (inner : Option Json) :
    Except Mismatch Datum :=
  match names.idxOf? v with
  | none => .error (.unknownVariant v names)
  | some i =>
    match inner with
    | none | some .null => .ok (.choice i)
    | some j => .error (.invalidType (Unexpected.ofJson j) "unit")

/-- Reads a string against a text-like shape. -/
def textOfString (s : Shape) (v : String) : Except Mismatch Datum :=
  match s with
  | .uuid =>
    match Uuid.parse v with
    | .ok u => .ok (.uuid u)
    | .error f => .error (.custom ("UUID parsing failed: " ++ f.message))
  | .instant =>
    match Time.parseInstant v with
    | .ok t => .ok (.instant t)
    | .error f => .error (.custom f.message)
  | _ => .ok (.text v)

mutual

/-- Reads a JSON value against a shape inside the record `home`. -/
def Datum.ofJson (home s : Shape) (j : Json) : Except Mismatch Datum :=
  match s, j with
  | .optional _, .null => .ok .none
  | .optional inner, j => Datum.some <$> Datum.ofJson home inner j
  | .text, .str v | .uuid, .str v | .instant, .str v => textOfString s v
  | .choice names, .str v => choiceOfName names v Option.none
  | .choice names, .obj [(k, j)] => choiceOfName names k (Option.some j)
  | .choice _, .obj _ => .error (.invalidValue .map "map with a single key")
  | .word32, .num n | .word64, .num n => Datum.word <$> wordOf s n
  | .flag, .bool b => .ok (.flag b)
  | .list item, .arr xs => Datum.list <$> Datum.ofJsonItems home item xs
  | .dict item, .obj kvs => Datum.dict <$> Datum.ofJsonEntries home item kvs
  | .record name fields, .arr xs => do
    let ds ← Datum.ofJsonFieldList s name fields.length 0 fields xs
    if fields.length < xs.length then .error (.invalidLength xs.length "fewer elements in array")
    else .ok (.record ds)
  | .record _ fields, .obj kvs => Datum.ofJsonFieldMap s fields (fields.map fun _ => Option.none) kvs
  | s, j => .error (.invalidType (Unexpected.ofJson j) s.expecting)
termination_by (sizeOf j, sizeOf s)

/-- Reads the items of a list. -/
def Datum.ofJsonItems (home item : Shape) : List Json → Except Mismatch (List Datum)
  | [] => .ok []
  | j :: js => do
    let d ← Datum.ofJson home (item.resolve home) j
    let ds ← Datum.ofJsonItems home item js
    pure (d :: ds)
termination_by js => (sizeOf js, 0)

/-- Reads the entries of a map. -/
def Datum.ofJsonEntries (home item : Shape) :
    List (String × Json) → Except Mismatch (List (String × Datum))
  | [] => .ok []
  | (k, j) :: rest => do
    let d ← Datum.ofJson home (item.resolve home) j
    let ds ← Datum.ofJsonEntries home item rest
    pure ((k, d) :: ds)
termination_by kvs => (sizeOf kvs, 0)

/-- Reads the fields of a record from a list, one item per field; `index` counts the fields
read so far. -/
def Datum.ofJsonFieldList (home : Shape) (name : String) (count index : Nat)
    (fields : List Field) : List Json → Except Mismatch (List Datum)
  | [] => fillDefaults name count index fields
  | j :: js =>
    match fields with
    | [] => .ok []
    | f :: fs => do
      let d ← Datum.ofJson home (f.shape.resolve home) j
      let ds ← Datum.ofJsonFieldList home name count (index + 1) fs js
      pure (d :: ds)
termination_by js => (sizeOf js, 0)

/-- Reads the fields of a record from the members of an object, in their order. -/
def Datum.ofJsonFieldMap (home : Shape) (fields : List Field) (slots : List (Option Datum)) :
    List (String × Json) → Except Mismatch Datum
  | [] =>
    match completeFields fields slots with
    | .ok ds => .ok (.record ds)
    | .error key => .error (.missingField key)
  | (k, j) :: rest =>
    match fieldIndex fields k with
    | Option.none => Datum.ofJsonFieldMap home fields slots rest
    | Option.some i => do
      let d ← Datum.ofJson home ((fields.getD i (Field.needed "" .text)).shape.resolve home) j
      Datum.ofJsonFieldMap home fields (slots.set i (Option.some d)) rest
termination_by kvs => (sizeOf kvs, 0)

end

/-- Reads a JSON value as a datum of shape `s`. -/
def Datum.read (s : Shape) (j : Json) : Except Mismatch Datum := Datum.ofJson s s j

end FlowRegistry.Json
