import FlowRegistry.Time.Instant
import FlowRegistry.Text.Blank

/-!
# Reading RFC 3339 timestamps

A relaxed RFC 3339 grammar, read left to right with blanks allowed before each number and around
the separators:

* a year of up to four digits, or a sign and any number of digits; `-`; a month of one or two
  digits; `-`; a day of one or two digits;
* `T`, `t` or a space;
* hour, `:`, minute, `:`, second (each one or two digits, the second up to 60 for a leap second),
  and optionally `.` with a fraction whose digits past the ninth are ignored;
* an offset: `Z`, `z`, `UTC` in any case, or a sign (`+`, `-` or U+2212), two digits of hours,
  any colons and blanks, and two digits of minutes.

Nothing but blanks may follow. Each field is checked as it is read (month 1 to 12, day 1 to 31,
hour 0 to 23, minute 0 to 59, second 0 to 60); then the date must exist in the calendar range,
the offset must be less than a day, and the instant in UTC must lie in the calendar range.
`TimeFault` names the first fault found.

The strict grammar of `parseStrictInstant` is RFC 3339 itself, with its allowances for a
lowercase `t` or `z`, a space between date and time, and any number of fraction digits: exactly
four digits of year and two of every other field, no blanks, an offset of `Z` or a sign (`+`,
`-` or U+2212), two digits of hours, a colon and two digits of minutes, and nothing after it.
-/

namespace FlowRegistry.Time

/-- Why a text is no timestamp. -/
inductive TimeFault where
  | invalid
  | outOfRange
  | tooShort
  | tooLong
  | impossible
  deriving DecidableEq, Repr

/-- The wording of a fault. -/
def TimeFault.message : TimeFault → String
  | .invalid => "input contains invalid characters"
  | .outOfRange => "input is out of range"
  | .tooShort => "premature end of input"
  | .tooLong => "trailing input"
  | .impossible => "no possible date and time matching input"

/-- The value of an ASCII digit. -/
def digitValue? (c : Char) : Option Nat :=
  if '0' ≤ c && c ≤ '9' then some (c.toNat - 48) else none

/-- Reads `min` to `max` digits (`min` at least one): too short at the end of the text, invalid
at another character before `min` digits, out of range past the signed 64-bit limit. -/
def number (min max : Nat) (cs : List Char) : Except TimeFault (Int × List Char) :=
  go 0 0 cs
where
  go (count : Nat) (acc : Nat) : List Char → Except TimeFault (Int × List Char)
    | [] => if count < min then (if count = 0 then .error .tooShort else .error .tooShort)
        else .ok (acc, [])
    | c :: rest =>
      if count ≥ max then .ok (acc, c :: rest)
      else match digitValue? c with
        | some v =>
          let acc' := acc * 10 + v
          if acc' ≥ Nat.pow 2 63 then .error .outOfRange else go (count + 1) acc' rest
        | none => if count < min then .error .invalid else .ok (acc, c :: rest)

/-- Skips leading blanks. -/
def blanks (cs : List Char) : List Char := Text.dropBlank cs

/-- Reads a literal character. -/
def literal (c : Char) : List Char → Except TimeFault (List Char)
  | [] => .error .tooShort
  | d :: rest => if d = c then .ok rest else .error .invalid

/-- Reads a signed year: a sign allows any number of digits, no sign at most four. -/
def year (cs : List Char) : Except TimeFault (Int × List Char) := do
  let cs := blanks cs
  match cs with
  | '-' :: rest =>
    let (v, rest) ← number 1 (Nat.pow 2 64) rest
    pure (-v, rest)
  | '+' :: rest => number 1 (Nat.pow 2 64) rest
  | _ => number 1 4 cs

/-- Reads an unsigned field of one or two digits within `[lo, hi]`. -/
def field (lo hi : Nat) (cs : List Char) : Except TimeFault (Nat × List Char) := do
  let (v, rest) ← number 1 2 (blanks cs)
  if lo ≤ v && v ≤ hi then pure (v.toNat, rest) else throw .outOfRange

/-- Reads the nanoseconds of a fraction after its point: one to nine digits, scaled, and any
further digits skipped. -/
def fraction (cs : List Char) : Except TimeFault (Nat × List Char) := do
  let (v, rest) ← number 1 9 cs
  let used := cs.length - rest.length
  let scaled := v.toNat * Nat.pow 10 (9 - used)
  pure (scaled, rest.dropWhile fun c => (digitValue? c).isSome)

/-- The UTF-8 length of a text. -/
def byteLength (cs : List Char) : Nat := (cs.map Char.utf8Size).foldl (· + ·) 0

/-- The first two characters when the text has at least two bytes. -/
def twoAhead (cs : List Char) : Except TimeFault (Char × Char) :=
  if byteLength cs < 2 then .error .tooShort
  else match cs with
    | a :: b :: _ => .ok (a, b)
    | a :: [] => .ok (a, a)
    | [] => .error .tooShort

/-- Reads an offset from UTC in seconds. -/
def offset (cs : List Char) : Except TimeFault (Int × List Char) := do
  match cs with
  | 'Z' :: rest | 'z' :: rest => pure (0, rest)
  | _ =>
    let upper := cs.take 3 |>.map Char.toUpper
    if byteLength cs ≥ 3 && upper = ['U', 'T', 'C'] then pure (0, cs.drop 3)
    else
      let (negative, rest) ← match cs with
        | '+' :: rest => pure (false, rest)
        | '-' :: rest => pure (true, rest)
        | '−' :: rest => pure (true, rest)
        | _ :: _ => throw .invalid
        | [] => throw .tooShort
      let (h1, h2) ← twoAhead rest
      let hours ← match digitValue? h1, digitValue? h2 with
        | some a, some b => pure (a * 10 + b)
        | _, _ => throw .invalid
      let rest := (rest.drop 2).dropWhile fun c => c = ':' || Text.isBlank c
      let minutes ← match twoAhead rest with
        | .error _ => throw .tooShort
        | .ok (m1, m2) =>
          match digitValue? m1, digitValue? m2 with
          | some a, some b => if a ≤ 5 then pure (a * 10 + b) else throw .outOfRange
          | _, _ => throw .invalid
      let seconds : Int := hours * 3600 + minutes * 60
      pure (if negative then -seconds else seconds, rest.drop 2)

/-- The fields of a timestamp as read, before they are checked against the calendar. -/
structure Fields where
  year : Int
  month : Nat
  day : Nat
  hour : Nat
  minute : Nat
  second : Nat
  nano : Nat
  offset : Int

/-- Reads the fields of a timestamp. -/
def fields (cs : List Char) : Except TimeFault Fields := do
  let (y, cs) ← year cs
  if y < -Int.pow 2 31 || y ≥ Int.pow 2 31 then throw .outOfRange
  let cs ← literal '-' (blanks cs)
  let (mo, cs) ← field 1 12 cs
  let cs ← literal '-' (blanks cs)
  let (d, cs) ← field 1 31 cs
  let cs ← match cs with
    | c :: rest => if c = 'T' || c = 't' || c = ' ' then pure rest else throw .invalid
    | [] => throw .tooShort
  let (h, cs) ← field 0 23 cs
  let cs ← literal ':' (blanks cs)
  let (mi, cs) ← field 0 59 cs
  let cs ← literal ':' (blanks cs)
  let (s, cs) ← field 0 60 cs
  let (nano, cs) ← match cs with
    | '.' :: rest => fraction rest
    | _ => pure (0, cs)
  let (off, cs) ← offset (blanks cs)
  if !(blanks cs).isEmpty then throw .tooLong
  pure ⟨y, mo, d, h, mi, s, nano, off⟩

/-- The instant of checked fields: the date must exist in the calendar range, the offset be
under a day, and the instant in UTC lie within the calendar range too. -/
def Fields.instant (f : Fields) : Except TimeFault Instant := do
  if f.year < minYear || f.year > maxYear || f.day > daysInMonth f.year f.month then
    throw .outOfRange
  if f.offset ≤ -86400 || f.offset ≥ 86400 then throw .outOfRange
  -- a leap second keeps its extra second in the fraction
  let (sec, nano) := if f.second = 60 then (59, f.nano + 1000000000) else (f.second, f.nano)
  let wall : Int := daysFromCivil f.year f.month f.day * 86400 + f.hour * 3600 + f.minute * 60 + sec
  let utc := wall - f.offset
  let day := utc.fdiv 86400
  if day < minDay || day > maxDay then throw .impossible
  pure ⟨day, (utc.fmod 86400).toNat, nano⟩

/-- Reads a timestamp, or names the first fault. -/
def parseInstant (s : String) : Except TimeFault Instant := do
  (← fields s.toList).instant

/-- Reads exactly `n` digits, whose value must lie within `[lo, hi]`. -/
def exactField (n lo hi : Nat) (cs : List Char) : Except TimeFault (Nat × List Char) := do
  let (v, rest) ← number n n cs
  if lo ≤ v && v ≤ hi then pure (v.toNat, rest) else throw .outOfRange

/-- Reads an offset of the strict grammar, in seconds: `Z` or `z`, or a sign, two digits of
hours, a colon and two digits of minutes. -/
def strictOffset (cs : List Char) : Except TimeFault (Int × List Char) := do
  match cs with
  | 'Z' :: rest | 'z' :: rest => pure (0, rest)
  | _ =>
    let (negative, rest) ← match cs with
      | '+' :: rest => pure (false, rest)
      | '-' :: rest => pure (true, rest)
      | '−' :: rest => pure (true, rest)
      | _ :: _ => throw .invalid
      | [] => throw .tooShort
    let (hours, rest) ← exactField 2 0 23 rest
    let rest ← literal ':' rest
    let (minutes, rest) ← exactField 2 0 59 rest
    let seconds : Int := hours * 3600 + minutes * 60
    pure (if negative then -seconds else seconds, rest)

/-- Reads the fields of a timestamp in the strict grammar. -/
def strictFields (cs : List Char) : Except TimeFault Fields := do
  let (y, cs) ← number 4 4 cs
  let cs ← literal '-' cs
  let (mo, cs) ← exactField 2 1 12 cs
  let cs ← literal '-' cs
  let (d, cs) ← exactField 2 1 31 cs
  let cs ← match cs with
    | c :: rest => if c = 'T' || c = 't' || c = ' ' then pure rest else throw .invalid
    | [] => throw .tooShort
  let (h, cs) ← exactField 2 0 23 cs
  let cs ← literal ':' cs
  let (mi, cs) ← exactField 2 0 59 cs
  let cs ← literal ':' cs
  let (s, cs) ← exactField 2 0 60 cs
  let (nano, cs) ← match cs with
    | '.' :: rest => fraction rest
    | _ => pure (0, cs)
  let (off, cs) ← strictOffset cs
  if !cs.isEmpty then throw .tooLong
  pure ⟨y, mo, d, h, mi, s, nano, off⟩

/-- Reads a timestamp in the strict grammar, or names the first fault. -/
def parseStrictInstant (s : String) : Except TimeFault Instant := do
  (← strictFields s.toList).instant

end FlowRegistry.Time
