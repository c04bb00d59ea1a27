import FlowRegistry.Text.CaseMapping
import FlowRegistry.Text.CaseContext
import FlowRegistry.Text.Ranges

/-!
# Lowercase and uppercase

Full Unicode case conversion of text: each character maps by `Text/CaseMapping`, and capital
sigma lowercases to final sigma `ς` at the end of a word, to `σ` elsewhere. Bucket and flow names
are compared through `toLower`; a test codec writes `toUpper`.
-/

namespace FlowRegistry.Text

/-- The image of a code point under a case mapping: a wide mapping, a run, or itself. -/
def mapCode (runs : Array CaseRun) (wide : Array (Nat × List Nat)) (n : Nat) : List Nat :=
  match wide.find? (·.1 == n) with
  | some (_, m) => m
  | none =>
    match runs.find? (·.holds n) with
    | some r => [(Int.ofNat n + r.shift).toNat]
    | none => [n]

/-- The lowercase of one character, without the sigma context. -/
def lowerChar (c : Char) : List Char :=
  if 'A' ≤ c && c ≤ 'Z' then [Char.ofNat (c.toNat + 32)]
  else if c.toNat < 0x80 then [c]
  else (mapCode lowerRuns lowerWide c.toNat).map Char.ofNat

/-- The uppercase of one character. -/
def upperChar (c : Char) : List Char :=
  if 'a' ≤ c && c ≤ 'z' then [Char.ofNat (c.toNat - 32)]
  else if c.toNat < 0x80 then [c]
  else (mapCode upperRuns upperWide c.toNat).map Char.ofNat

/-- `Case_Ignorable`. -/
def isCaseIgnorable (c : Char) : Bool :=
  inRanges caseIgnorableRanges c.toNat

/-- `Cased`, for characters that are not case-ignorable. -/
def isCased (c : Char) : Bool :=
  inRanges casedRanges c.toNat

/-- Whether, skipping case-ignorable characters, the first character is cased. -/
def casedAfterIgnorable (cs : List Char) : Bool :=
  match cs.dropWhile isCaseIgnorable with
  | c :: _ => isCased c
  | [] => false

/-- The lowercase of capital sigma between `before` (nearest first) and `after`. -/
def lowerSigma (before after : List Char) : Char :=
  if casedAfterIgnorable before && !casedAfterIgnorable after then 'ς' else 'σ'

/-- Lowercases `cs`; `before` holds the characters already passed, nearest first. -/
def lowerFrom (before : List Char) : List Char → List Char
  | [] => []
  | c :: rest =>
    (if c = 'Σ' then [lowerSigma before rest] else lowerChar c) ++ lowerFrom (c :: before) rest

/-- The full lowercase of a text. -/
def toLower (s : String) : String :=
  String.ofList (lowerFrom [] s.toList)

/-- The full uppercase of a text. -/
def toUpper (s : String) : String :=
  String.ofList (s.toList.flatMap upperChar)

end FlowRegistry.Text
