import FlowRegistry.Decimal.Shortest

/-!
# JSON values

A JSON value as a reader produces it. Numbers keep the kind they were read as: a non-negative
integer below `2 ^ 64`, a negative integer from `-2 ^ 63`, or a binary64 number for anything with
a fraction or an exponent, for integers out of those ranges, and for `-0`. Objects are lists of
members; a reader that builds a map keeps them sorted by key with one member per key
(`Json.insertMember`), while a writer keeps them in the order given.
-/

namespace FlowRegistry

/-- A JSON number by the kind it was read as. -/
inductive JsonNumber where
  /-- A non-negative integer below `2 ^ 64`. -/
  | nat (n : Nat)
  /-- The negative integer `-n`, for `0 < n ≤ 2 ^ 63`. -/
  | neg (n : Nat)
  /-- A binary64 number. -/
  | double (d : Decimal.Double)
  deriving DecidableEq, Repr

/-- A JSON value. -/
inductive Json where
  | null
  | bool (b : Bool)
  | num (n : JsonNumber)
  | str (s : String)
  | arr (xs : List Json)
  | obj (members : List (String × Json))
  deriving Repr, Inhabited

namespace Json

/-- The member of an object under a key (the last one, if several). -/
def field? (j : Json) (key : String) : Option Json :=
  match j with
  | .obj ms => (ms.reverse.find? (·.1 == key)).map (·.2)
  | _ => none

/-- Inserts a member into a list sorted by key, replacing the value of an equal key. -/
def insertMember (key : String) (v : Json) : List (String × Json) → List (String × Json)
  | [] => [(key, v)]
  | (k, w) :: rest =>
    if key = k then (key, v) :: rest
    else if key < k then (key, v) :: (k, w) :: rest
    else (k, w) :: insertMember key v rest

/-- A natural number. -/
def ofNat (n : Nat) : Json := .num (.nat n)

/-- An optional value, `null` when absent. -/
def ofOption {α : Type} (f : α → Json) : Option α → Json
  | some a => f a
  | none => .null

end Json

end FlowRegistry
