import FlowRegistry.Json.Lexeme

/-!
# Reading JSON values

`parse` reads a whole text as a `Json` value: objects become sorted maps in which a repeated key
keeps its last value, containers may nest 127 deep (the 128th is refused with the place of its
bracket), and only blanks may follow the value. `skipValue` passes over a value a type does not
know with the grammar checks of the skipping readers and no limit on nesting; it keeps the open
brackets on a stack instead of recursing.

The closing checks after a container (`closeList`, `closeMap`) are shared with the typed readers:
after a list, a comma before the bracket is a trailing comma and anything else trailing
characters; after an object, the brace must follow.
-/

namespace FlowRegistry.Json

/-- Checks and reads the bracket that closes a list. -/
def closeList (r : Bytes) : Except ReadError Bytes :=
  match skipBlank r with
  | 0x5D :: t => .ok t
  | 0x2C :: t =>
    match skipBlank t with
    | 0x5D :: t' => .error (faultPast .trailingComma (0x5D :: t'))
    | r2 => .error (faultPast .trailingCharacters r2)
  | [] => .error (faultPast .eofList [])
  | r1 => .error (faultPast .trailingCharacters r1)

/-- Where reading stands after the closing check of a list, whatever its outcome. -/
def afterCloseList (r : Bytes) : Bytes :=
  match skipBlank r with
  | 0x5D :: t => t
  | 0x2C :: t => skipBlank t
  | r1 => r1

/-- Checks and reads the brace that closes an object. -/
def closeMap (r : Bytes) : Except ReadError Bytes :=
  match skipBlank r with
  | 0x7D :: t => .ok t
  | 0x2C :: t => .error (faultPast .trailingComma (0x2C :: t))
  | [] => .error (faultPast .eofObject [])
  | r1 => .error (faultPast .trailingCharacters r1)

/-- Where reading stands after the closing check of an object, whatever its outcome. -/
def afterCloseMap (r : Bytes) : Bytes :=
  match skipBlank r with
  | 0x7D :: t => t
  | r1 => r1

/-- Reads the colon between a key and its value. -/
def readColon (r : Bytes) : Except ReadError Bytes :=
  match skipBlank r with
  | 0x3A :: t => .ok t
  | [] => .error (faultPast .eofObject [])
  | r1 => .error (faultPast .expectedColon r1)

theorem skipBlank_cons_length {r t : Bytes} {b : UInt8} (h : skipBlank r = b :: t) :
    t.length < r.length := by
  have := skipBlank_length_le r
  rw [h] at this
  simp at this
  omega

/-- Finds where the next element of a list starts: the first one right away, a later one after
its comma and blanks. The input starts at a byte that is not a blank and not the closing
bracket. -/
def elementStart (first : Bool) (s : Bytes) : Except ReadError Bytes :=
  if first then .ok s
  else
    match s with
    | 0x2C :: t =>
      match skipBlank t with
      | [] => .error (faultPast .eofValue [])
      | 0x5D :: t' => .error (faultPast .trailingComma (0x5D :: t'))
      | x => .ok x
    | _ => .error (faultPast .expectedListCommaOrEnd s)

theorem elementStart_length {first : Bool} {s x : Bytes} (h : elementStart first s = .ok x) :
    x.length ≤ s.length := by
  cases first with
  | true => simp [elementStart] at h; subst h; exact Nat.le_refl _
  | false =>
    simp only [elementStart, Bool.false_eq_true, ↓reduceIte] at h
    split at h
    · rename_i t
      have hle := skipBlank_length_le t
      split at h
      · cases h
      · cases h
      · cases h
        simp
        omega
    · cases h

/-- Finds where the next key of an object starts: the first one right away, a later one after
its comma and blanks. -/
def keyStart (first : Bool) (s : Bytes) : Except ReadError Bytes :=
  if first then .ok s
  else
    match s with
    | 0x2C :: t => .ok (skipBlank t)
    | _ => .error (faultPast .expectedObjectCommaOrEnd s)

mutual

/-- Reads a value; `depth` more containers may open (the limit is reached at 1). -/
def readValue (depth : Nat) (r : Bytes) : Except ReadError (Json × Bytes) :=
  match skipBlank r with
  | [] => .error (faultPast .eofValue [])
  | b :: rest =>
    if b = 0x6E then (readWord [0x75, 0x6C, 0x6C] rest).map (.null, ·)
    else if b = 0x74 then (readWord [0x72, 0x75, 0x65] rest).map (.bool true, ·)
    else if b = 0x66 then (readWord [0x61, 0x6C, 0x73, 0x65] rest).map (.bool false, ·)
    else if b = 0x2D then (readNumber false rest).map fun (n, r') => (.num n, r')
    else if isDigitByte b then (readNumber true (b :: rest)).map fun (n, r') => (.num n, r')
    else if b = 0x22 then (readString rest).map fun (s, r') => (.str s, r')
    else if b = 0x5B then
      if depth ≤ 1 then .error (faultPast .recursionLimit (b :: rest))
      else do
        let (xs, r') ← readElements (depth - 1) true [] rest
        let r'' ← closeList r'
        pure (.arr xs, r'')
    else if b = 0x7B then
      if depth ≤ 1 then .error (faultPast .recursionLimit (b :: rest))
      else do
        let (ms, r') ← readMembers (depth - 1) true [] rest
        let r'' ← closeMap r'
        pure (.obj ms, r'')
    else .error (faultPast .expectedValue (b :: rest))
termination_by (depth, 2 * r.length + 1)
decreasing_by all_goals (apply Prod.Lex.left; omega)

/-- Reads the elements of a list up to its closing bracket, which stays unread. -/
def readElements (depth : Nat) (first : Bool) (acc : List Json) (r : Bytes) :
    Except ReadError (List Json × Bytes) :=
  match _h : skipBlank r with
  | [] => .error (faultPast .eofList [])
  | 0x5D :: t => .ok (acc.reverse, 0x5D :: t)
  | b :: t =>
    match _hx : elementStart first (b :: t) with
    | .error e => .error e
    | .ok x =>
      match readValue depth x with
      | .error e => .error e
      | .ok (v, r') =>
        if r'.length < r.length then readElements depth false (v :: acc) r'
        else .error (faultPast .eofList [])
termination_by (depth, 2 * r.length + 2)
decreasing_by
  all_goals apply Prod.Lex.right
  · have h1 := elementStart_length _hx
    have h2 := skipBlank_length_le r
    rw [_h] at h2
    simp only [List.length_cons] at h1 h2
    omega
  · omega

/-- Reads the members of an object up to its closing brace, which stays unread, into a map
sorted by key in which a repeated key keeps its last value. -/
def readMembers (depth : Nat) (first : Bool) (acc : List (String × Json)) (r : Bytes) :
    Except ReadError (List (String × Json) × Bytes) :=
  match skipBlank r with
  | [] => .error (faultPast .eofObject [])
  | 0x7D :: t => .ok (acc, 0x7D :: t)
  | b :: t =>
    match keyStart first (b :: t) with
    | .error e => .error e
    | .ok [] => .error (faultPast .eofValue [])
    | .ok (0x22 :: x) =>
      match readString x with
      | .error e => .error e
      | .ok (k, r3) =>
        match readColon r3 with
        | .error e => .error e
        | .ok r4 =>
          if r4.length < r.length then
            match readValue depth r4 with
            | .error e => .error e
            | .ok (v, r5) =>
              if r5.length < r.length then
                readMembers depth false (Json.insertMember k v acc) r5
              else .error (faultPast .eofObject [])
          else .error (faultPast .eofObject [])
    | .ok (0x7D :: x) => .error (faultPast .trailingComma (0x7D :: x))
    | .ok (c :: x) => .error (faultPast .keyMustBeString (c :: x))
termination_by (depth, 2 * r.length + 2)
decreasing_by all_goals (apply Prod.Lex.right; omega)

end

/-- Reads a whole text as one value, with blanks only after it. -/
def parse (input : Bytes) : Except ReadError Json := do
  let (v, rest) ← readValue 128 input
  match skipBlank rest with
  | [] => pure v
  | r => throw (faultPast .trailingCharacters r)

/-! ### Skipping a value -/

/-- The fault for the end of input inside an open container. -/
def eofIn (inObject : Bool) : SyntaxFault := if inObject then .eofObject else .eofList

/-- The fault for a byte that neither separates nor closes inside an open container. -/
def expectedSeparator (inObject : Bool) : SyntaxFault :=
  if inObject then .expectedObjectCommaOrEnd else .expectedListCommaOrEnd

/-- The closing byte of a container. -/
def closer (inObject : Bool) : UInt8 := if inObject then 0x7D else 0x5D

/-- Skips a scalar that starts at `b`, or says which container `b` opens. -/
def skipScalar (b : UInt8) (rest : Bytes) : Except ReadError (Bytes ⊕ Bool) :=
  if b = 0x6E then .inl <$> readWord [0x75, 0x6C, 0x6C] rest
  else if b = 0x74 then .inl <$> readWord [0x72, 0x75, 0x65] rest
  else if b = 0x66 then .inl <$> readWord [0x61, 0x6C, 0x73, 0x65] rest
  else if b = 0x2D then .inl <$> skipNumber rest
  else if isDigitByte b then .inl <$> skipNumber (b :: rest)
  else if b = 0x22 then .inl <$> skipString rest
  else if b = 0x5B then .ok (.inr false)
  else if b = 0x7B then .ok (.inr true)
  else .error (faultPast .expectedValue (b :: rest))

mutual

/-- Skips a value inside the open containers `outer` (innermost first, `true` for an object). -/
def skipFrom (outer : List Bool) (r : Bytes) : Except ReadError Bytes :=
  match _h : skipBlank r with
  | [] => .error (faultPast .eofValue [])
  | b :: rest =>
    match skipScalar b rest with
    | .error e => .error e
    | .ok (.inr inObject) => skipClose false inObject outer rest
    | .ok (.inl r') =>
      match outer with
      | [] => .ok r'
      | inObject :: outer' =>
        if r'.length < r.length then skipClose true inObject outer' r'
        else .error (faultPast .eofValue [])
termination_by 3 * r.length
decreasing_by
  all_goals
    have := skipBlank_cons_length _h
    omega

/-- After a value or an opening bracket inside a container: reads separators and closing
brackets until the next value starts or the outermost container closes. -/
def skipClose (afterValue inObject : Bool) (outer : List Bool) (r : Bytes) :
    Except ReadError Bytes :=
  match _h : skipBlank r with
  | [] => .error (faultPast (eofIn inObject) [])
  | b :: rest =>
    if afterValue && b = 0x2C then skipKey inObject outer rest
    else if b = closer inObject then
      match outer with
      | [] => .ok rest
      | inObject' :: outer' => skipClose true inObject' outer' rest
    else if afterValue then .error (faultPast (expectedSeparator inObject) (b :: rest))
    else skipKey inObject outer (b :: rest)
termination_by 3 * r.length + 2
decreasing_by
  all_goals
    have := skipBlank_cons_length _h
    (try simp only [List.length_cons])
    omega

/-- Before a value inside a container: reads the key and colon first in an object. -/
def skipKey (inObject : Bool) (outer : List Bool) (r : Bytes) : Except ReadError Bytes :=
  if inObject then
    match skipBlank r with
    | 0x22 :: rest =>
      match skipString rest with
      | .error e => .error e
      | .ok r2 =>
        match readColon r2 with
        | .error e => .error e
        | .ok r3 =>
          if r3.length < r.length then skipFrom (inObject :: outer) r3
          else .error (faultPast .eofObject [])
    | [] => .error (faultPast .eofObject [])
    | r1 => .error (faultPast .keyMustBeString r1)
  else skipFrom (inObject :: outer) r
termination_by 3 * r.length + 1
decreasing_by all_goals omega

end

/-- Skips one value, of any nesting depth. -/
def skipValue (r : Bytes) : Except ReadError Bytes := skipFrom [] r

end FlowRegistry.Json
