import FlowRegistry.Json.Shape
import FlowRegistry.Json.Read
import FlowRegistry.Time.Rfc3339

/-!
# Reading typed data from JSON text

`Datum.ofText s input` reads the text `input` against the shape `s`. A value of the wrong kind is
still read to its end when it is a scalar, and the fault names it ("invalid type: integer `5`,
expected a string"); a list or object of the wrong kind is named at its bracket. Records are read
from an object, where unknown keys are skipped, a repeated field is refused as soon as its key is
read, and the first missing required field in declaration order is reported at the closing brace;
or from a list, one item per field in order. Maps keep one entry per key, the last one read.

Faults of the text are placed where the reader stood; a mismatch is placed after the value it
concerns, after the closing bracket for records, lists and maps. Containers may nest 127 deep.
-/

namespace FlowRegistry.Json

/-- What a number is, as an unexpected value. -/
def Unexpected.ofNumber : JsonNumber → Unexpected
  | .nat n => .unsigned n
  | .neg n => .signed (-(Int.ofNat n))
  | .double d => .double d

/-- The word a number gives for a word shape. -/
def wordOf (s : Shape) : JsonNumber → Except Mismatch Nat
  | .nat n => if n ≤ s.wordLimit then .ok n else .error (.invalidValue (.unsigned n) s.expecting)
  | .neg n => .error (.invalidValue (.signed (-(Int.ofNat n))) s.expecting)
  | .double d => .error (.invalidType (.double d) s.expecting)

/-- The fault for a value of the wrong kind starting at `b`: a scalar is read to its end and
named there, a list or an object is named at its bracket. -/
def wrongKind (expected : String) (b : UInt8) (rest : Bytes) : ReadError :=
  let named (u : Unexpected) (after : Bytes) : ReadError :=
    (mismatch (.invalidType u expected)).placed after
  if b = 0x6E then
    match readWord [0x75, 0x6C, 0x6C] rest with
    | .ok r => named .null r
    | .error e => e
  else if b = 0x74 then
    match readWord [0x72, 0x75, 0x65] rest with
    | .ok r => named (.bool true) r
    | .error e => e
  else if b = 0x66 then
    match readWord [0x61, 0x6C, 0x73, 0x65] rest with
    | .ok r => named (.bool false) r
    | .error e => e
  else if b = 0x2D then
    match readNumber false rest with
    | .ok (n, r) => named (Unexpected.ofNumber n) r
    | .error e => e
  else if isDigitByte b then
    match readNumber true (b :: rest) with
    | .ok (n, r) => named (Unexpected.ofNumber n) r
    | .error e => e
  else if b = 0x22 then
    match readString rest with
    | .ok (s, r) => named (.str s) r
    | .error e => e
  else if b = 0x5B then named .seq (b :: rest)
  else if b = 0x7B then named .map (b :: rest)
  else faultPast .expectedValue (b :: rest)

/-- Reads a string that must be one of `names`, as its position. -/
def readName (names : List String) (b : UInt8) (rest : Bytes) (expected : String) :
    Except ReadError (Nat × Bytes) :=
  if b = 0x22 then
    match readString rest with
    | .error e => .error e
    | .ok (v, r) =>
      match names.idxOf? v with
      | some i => .ok (i, r)
      | none => .error ((mismatch (.unknownVariant v names)).placed r)
  else .error (wrongKind expected b rest)

/-- Reads the body of a one-member object naming a choice: the name, which must be a string,
a colon and `null`. An object closed at once names no choice, and a value is expected there. -/
def readVariant (names : List String) (r : Bytes) : Except ReadError (Nat × Bytes) := do
  let (i, r1) ← match skipBlank r with
    | [] => .error (faultPast .eofObject [])
    | b :: rest =>
      if b = 0x22 then readName names b rest "variant identifier"
      else if b = 0x7D then .error (faultPast .expectedValue (b :: rest))
      else .error (faultPast .keyMustBeString (b :: rest))
  let r2 ← readColon r1
  match skipBlank r2 with
  | [] => .error (faultPast .eofValue [])
  | b :: rest =>
    if b = 0x6E then
      match readWord [0x75, 0x6C, 0x6C] rest with
      | .ok r3 => .ok (i, r3)
      | .error e => .error e
    else .error (wrongKind "unit" b rest)

/-- Reads a string against a text-like shape. -/
def textDatum (s : Shape) (v : String) (after : Bytes) : Except ReadError Datum :=
  match s with
  | .uuid =>
    match Uuid.parse v with
    | .ok u => .ok (.uuid u)
    | .error f => .error ((mismatch (.custom ("UUID parsing failed: " ++ f.message))).placed after)
  | .instant =>
    match Time.parseInstant v with
    | .ok t => .ok (.instant t)
    | .error f => .error ((mismatch (.custom f.message)).placed after)
  | _ => .ok (.text v)

/-- Inserts an entry into a map sorted by key, replacing the value of an equal key. -/
def insertEntry (key : String) (d : Datum) : List (String × Datum) → List (String × Datum)
  | [] => [(key, d)]
  | (k, e) :: rest =>
    if key = k then (key, d) :: rest
    else if key < k then (key, d) :: (k, e) :: rest
    else (k, e) :: insertEntry key d rest

/-- The value of each field once a record's object has closed: the value read, its default, or
the first missing required field. -/
def completeFields : List Field → List (Option Datum) → Except String (List Datum)
  | f :: fs, slot :: slots => do
    let d ← match slot with
      | some d => pure d
      | none => if f.required then throw f.key else pure f.shape.fallback
    let ds ← completeFields fs slots
    pure (d :: ds)
  | _, _ => .ok []

/-- The position of the field with a key. -/
def fieldIndex (fields : List Field) (key : String) : Option Nat :=
  fields.findIdx? (·.key == key)

theorem elementStart_skip_length {first : Bool} {r t x : Bytes} {b : UInt8}
    (h : skipBlank r = b :: t) (hx : elementStart first (b :: t) = .ok x) :
    x.length ≤ r.length := by
  have h1 := elementStart_length hx
  have h2 := skipBlank_length_le r
  rw [h] at h2
  omega

mutual

/-- Reads a datum of shape `s` inside the record `home`; `depth` more containers may open. -/
def readDatum (depth : Nat) (home s : Shape) (r : Bytes) : Except ReadError (Datum × Bytes) :=
  match _h : skipBlank r with
  | [] => .error (faultPast .eofValue [])
  | b :: rest => readAt depth home (s.resolve home) b rest
termination_by (depth, 2 * r.length + 2, 0)
decreasing_by
  apply Prod.Lex.right; apply Prod.Lex.left
  have := skipBlank_length_le r
  rw [_h] at this
  simp only [List.length_cons] at this ⊢
  omega

/-- Reads a datum of shape `s` that starts at the byte `b`. -/
def readAt (depth : Nat) (home s : Shape) (b : UInt8) (rest : Bytes) :
    Except ReadError (Datum × Bytes) :=
  match s with
  | .text | .uuid | .instant =>
    if b = 0x22 then
      match readString rest with
      | .error e => .error e
      | .ok (v, r) => (textDatum s v r).map (·, r)
    else .error (wrongKind s.expecting b rest)
  | .word32 | .word64 =>
    let number :=
      if b = 0x2D then some (readNumber false rest)
      else if isDigitByte b then some (readNumber true (b :: rest)) else none
    match number with
    | none => .error (wrongKind s.expecting b rest)
    | some (.error e) => .error e
    | some (.ok (n, r)) =>
      match wordOf s n with
      | .ok w => .ok (.word w, r)
      | .error m => .error ((mismatch m).placed r)
  | .flag =>
    if b = 0x74 then (readWord [0x72, 0x75, 0x65] rest).map (.flag true, ·)
    else if b = 0x66 then (readWord [0x61, 0x6C, 0x73, 0x65] rest).map (.flag false, ·)
    else .error (wrongKind s.expecting b rest)
  | .choice names =>
    if b = 0x22 then (readName names b rest "variant identifier").map fun (i, r) => (.choice i, r)
    else if b = 0x7B then
      if depth ≤ 1 then .error (faultPast .recursionLimit (b :: rest))
      else
        match readVariant names rest with
        | .error e => .error e
        | .ok (i, r) =>
          match skipBlank r with
          | 0x7D :: r' => .ok (.choice i, r')
          | [] => .error (faultAt .eofObject [])
          | r' => .error (faultAt .expectedValue r')
    else .error (faultPast .expectedValue (b :: rest))
  | .optional inner =>
    if b = 0x6E then (readWord [0x75, 0x6C, 0x6C] rest).map (.none, ·)
    else (readAt depth home inner b rest).map fun (d, r) => (.some d, r)
  | .list item =>
    if b = 0x5B then
      if depth ≤ 1 then .error (faultPast .recursionLimit (b :: rest))
      else
        match readItems (depth - 1) home item true [] rest with
        | .error e => .error e
        | .ok (xs, r) => (closeList r).map (.list xs, ·)
    else .error (wrongKind s.expecting b rest)
  | .dict item =>
    if b = 0x7B then
      if depth ≤ 1 then .error (faultPast .recursionLimit (b :: rest))
      else
        match readEntries (depth - 1) home item true [] rest with
        | .error e => .error e
        | .ok (kvs, r) => (closeMap r).map (.dict kvs, ·)
    else .error (wrongKind s.expecting b rest)
  | .record name fields =>
    if b = 0x5B then
      if depth ≤ 1 then .error (faultPast .recursionLimit (b :: rest))
      else
        match readFieldList (depth - 1) s name fields fields.length true [] rest with
        | .error e => .error e
        | .ok (ds, r) => (closeList r).map (.record ds, ·)
    else if b = 0x7B then
      if depth ≤ 1 then .error (faultPast .recursionLimit (b :: rest))
      else
        match readFieldMap (depth - 1) s fields (fields.map fun _ => none) true rest with
        | .error e => .error e
        | .ok (ds, r) => (closeMap r).map (.record ds, ·)
    else .error (wrongKind s.expecting b rest)
  | .recur => .error (faultPast .expectedValue (b :: rest))
termination_by (depth, 2 * rest.length + 3, sizeOf s)
decreasing_by
  all_goals first
    | (apply Prod.Lex.left; omega)
    | (apply Prod.Lex.right; apply Prod.Lex.right; simp only [Shape.optional.sizeOf_spec]; omega)

/-- Reads the items of a list up to its closing bracket, which stays unread. -/
def readItems (depth : Nat) (home item : Shape) (first : Bool) (acc : List Datum) (r : Bytes) :
    Except ReadError (List Datum × Bytes) :=
  match _h : skipBlank r with
  | [] => .error (faultPast .eofList [])
  | 0x5D :: t => .ok (acc.reverse, 0x5D :: t)
  | b :: t =>
    match _hx : elementStart first (b :: t) with
    | .error e => .error e
    | .ok x =>
      match readDatum depth home item x with
      | .error e => .error e
      | .ok (d, r') =>
        if r'.length < r.length then readItems depth home item false (d :: acc) r'
        else .error (faultPast .eofList [])
termination_by (depth, 2 * r.length + 3, 0)
decreasing_by
  all_goals apply Prod.Lex.right; apply Prod.Lex.left
  · have := elementStart_skip_length _h _hx
    omega
  · omega

/-- Reads the entries of a map up to its closing brace, which stays unread. -/
def readEntries (depth : Nat) (home item : Shape) (first : Bool) (acc : List (String × Datum))
    (r : Bytes) : Except ReadError (List (String × Datum) × Bytes) :=
  match skipBlank r with
  | [] => .error (faultPast .eofObject [])
  | 0x7D :: t => .ok (acc, 0x7D :: t)
  | b :: t =>
    match keyStart first (b :: t) with
    | .error e => .error e
    | .ok [] => .error (faultPast .eofValue [])
    | .ok (0x22 :: x) =>
      match readString x with
      | .error e => .error e
      | .ok (k, r3) =>
        match readColon r3 with
        | .error e => .error e
        | .ok r4 =>
          if r4.length < r.length then
            match readDatum depth home item r4 with
            | .error e => .error e
            | .ok (d, r5) =>
              if r5.length < r.length then
                readEntries depth home item false (insertEntry k d acc) r5
              else .error (faultPast .eofObject [])
          else .error (faultPast .eofObject [])
    | .ok (0x7D :: x) => .error (faultPast .trailingComma (0x7D :: x))
    | .ok (c :: x) => .error (faultPast .keyMustBeString (c :: x))
termination_by (depth, 2 * r.length + 3, 0)
decreasing_by all_goals (apply Prod.Lex.right; apply Prod.Lex.left; omega)

/-- Reads the fields of a record written as a list, one item per field in order, up to the
closing bracket, which stays unread. `count` is the number of fields of the record. -/
def readFieldList (depth : Nat) (home : Shape) (name : String) (fields : List Field) (count : Nat)
    (first : Bool) (acc : List Datum) (r : Bytes) : Except ReadError (List Datum × Bytes) :=
  match fields with
  | [] => .ok (acc.reverse, r)
  | f :: fs =>
    match _h : skipBlank r with
    | [] => .error (faultPast .eofList [])
    | 0x5D :: _ =>
      if f.required then
        .error ((mismatch (.invalidLength acc.length (recordLength name count))).placed
          (afterCloseList r))
      else readFieldList depth home name fs count first (f.shape.fallback :: acc) r
    | b :: t =>
      match _hx : elementStart first (b :: t) with
      | .error e => .error e
      | .ok x =>
        match readDatum depth home f.shape x with
        | .error e => .error e
        | .ok (d, r') =>
          if r'.length < r.length then readFieldList depth home name fs count false (d :: acc) r'
          else .error (faultPast .eofList [])
termination_by (depth, 2 * r.length + 3, fields.length)
decreasing_by
  all_goals first
    | (apply Prod.Lex.right; apply Prod.Lex.left
       have := elementStart_skip_length _h _hx
       omega)
    | (apply Prod.Lex.right; apply Prod.Lex.left; omega)
    | (apply Prod.Lex.right; apply Prod.Lex.right; simp)

/-- Reads the fields of a record written as an object up to its closing brace, which stays
unread. `slots` holds what has been read so far, one slot per field. -/
def readFieldMap (depth : Nat) (home : Shape) (fields : List Field) (slots : List (Option Datum)) (first : Bool)
    (r : Bytes) : Except ReadError (List Datum × Bytes) :=
  match skipBlank r with
  | [] => .error (faultPast .eofObject [])
  | 0x7D :: t =>
    match completeFields fields slots with
    | .ok ds => .ok (ds, 0x7D :: t)
    | .error key => .error ((mismatch (.missingField key)).placed t)
  | b :: t =>
    match keyStart first (b :: t) with
    | .error e => .error e
    | .ok [] => .error (faultPast .eofValue [])
    | .ok (0x22 :: x) =>
      match readString x with
      | .error e => .error e
      | .ok (k, r3) =>
        match fieldIndex fields k with
        | some i =>
          if (slots.getD i none).isSome then
            .error ((mismatch (.duplicateField k)).placed (afterCloseMap r3))
          else
            match readColon r3 with
            | .error e => .error e
            | .ok r4 =>
              if r4.length < r.length then
                match readDatum depth home ((fields.getD i (Field.needed "" .text)).shape) r4 with
                | .error e => .error e
                | .ok (d, r5) =>
                  if r5.length < r.length then
                    readFieldMap depth home fields (slots.set i (some d)) false r5
                  else .error (faultPast .eofObject [])
              else .error (faultPast .eofObject [])
        | none =>
          match readColon r3 with
          | .error e => .error e
          | .ok r4 =>
            match skipValue r4 with
            | .error e => .error e
            | .ok r5 =>
              if r5.length < r.length then readFieldMap depth home fields slots false r5
              else .error (faultPast .eofObject [])
    | .ok (0x7D :: x) => .error (faultPast .trailingComma (0x7D :: x))
    | .ok (c :: x) => .error (faultPast .keyMustBeString (c :: x))
termination_by (depth, 2 * r.length + 3, 0)
decreasing_by all_goals (apply Prod.Lex.right; apply Prod.Lex.left; omega)

end

/-- Reads a whole text as one datum of shape `s`, with blanks only after it. -/
def Datum.ofText (s : Shape) (input : Bytes) : Except ReadError Datum := do
  let (d, rest) ← readDatum 128 s s input
  match skipBlank rest with
  | [] => pure d
  | r => throw (faultPast .trailingCharacters r)

end FlowRegistry.Json
