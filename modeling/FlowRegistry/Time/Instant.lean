/-!
# Instants of UTC time

An instant is a day of the proleptic Gregorian calendar (counted from 1970-01-01), a second of
that day and a fraction in nanoseconds. A leap second is the last second of a minute with a
fraction of at least one second, so `23:59:60.5` is second `23:59:59` with fraction `1.5 s`.
Days run from -262143-01-01 to 262142-12-31.

`daysFromCivil` and `civilFromDays` convert between calendar dates and day numbers by the
400-year cycle; `Instant.text` writes RFC 3339 in UTC: four-digit years (a sign and at least four
digits outside 0 to 9999), `Z`, and 0, 3, 6 or 9 fraction digits, the fewest that keep the value.
-/

namespace FlowRegistry.Time

/-- Whether a year is a leap year of the Gregorian calendar. -/
def isLeapYear (y : Int) : Bool :=
  y % 4 == 0 && (y % 100 != 0 || y % 400 == 0)

/-- The number of days of a month (1 to 12) of a year. -/
def daysInMonth (y : Int) (m : Nat) : Nat :=
  match m with
  | 2 => if isLeapYear y then 29 else 28
  | 4 | 6 | 9 | 11 => 30
  | _ => 31

/-- The day number of a date, 1970-01-01 being day 0. -/
def daysFromCivil (y : Int) (m d : Nat) : Int :=
  let y := if m ≤ 2 then y - 1 else y
  let era := y.fdiv 400
  let yoe := y - era * 400
  let mp : Int := if m > 2 then m - 3 else m + 9
  let doy := (153 * mp + 2) / 5 + d - 1
  let doe := yoe * 365 + yoe / 4 - yoe / 100 + doy
  era * 146097 + doe - 719468

/-- The date of a day number: year, month, day. -/
def civilFromDays (z : Int) : Int × Nat × Nat :=
  let z := z + 719468
  let era := z.fdiv 146097
  let doe := z - era * 146097
  let yoe := (doe - doe / 1460 + doe / 36524 - doe / 146096) / 365
  let y := yoe + era * 400
  let doy := doe - (365 * yoe + yoe / 4 - yoe / 100)
  let mp := (5 * doy + 2) / 153
  let d := doy - (153 * mp + 2) / 5 + 1
  let m := if mp < 10 then mp + 3 else mp - 9
  (if m ≤ 2 then y + 1 else y, m.toNat, d.toNat)

/-- The least year of the calendar range. -/
def minYear : Int := -262143

/-- The greatest year of the calendar range. -/
def maxYear : Int := 262142

/-- The first day of the calendar range. -/
def minDay : Int := daysFromCivil minYear 1 1

/-- The last day of the calendar range. -/
def maxDay : Int := daysFromCivil maxYear 12 31

/-- An instant of UTC time. -/
structure Instant where
  day : Int
  second : Nat
  nano : Nat
  deriving DecidableEq, Repr

/-- Two decimal digits. -/
def twoDigits (n : Nat) : List Char :=
  [Char.ofNat (48 + n / 10 % 10), Char.ofNat (48 + n % 10)]

/-- At least `width` decimal digits of `n`, zeros in front. -/
def padDigits (width n : Nat) : List Char :=
  let ds := Nat.toDigits 10 n
  List.replicate (width - ds.length) '0' ++ ds

/-- The year as RFC 3339 writes it: four digits, or a sign and at least four digits. -/
def yearText (y : Int) : List Char :=
  if 0 ≤ y && y ≤ 9999 then padDigits 4 y.toNat
  else if y < 0 then '-' :: padDigits 4 (-y).toNat
  else '+' :: padDigits 4 y.toNat

/-- The fraction digits: none, or the fewest of 3, 6 and 9 that keep the value. -/
def fractionText (nano : Nat) : List Char :=
  if nano = 0 then []
  else if nano % 1000000 = 0 then '.' :: padDigits 3 (nano / 1000000)
  else if nano % 1000 = 0 then '.' :: padDigits 6 (nano / 1000)
  else '.' :: padDigits 9 nano

/-- The RFC 3339 text of an instant, in UTC. -/
def Instant.text (t : Instant) : String :=
  let (y, m, d) := civilFromDays t.day
  -- a leap second shows as second 60
  let (sec, nano) := if t.nano ≥ 1000000000 then (t.second % 60 + 1, t.nano - 1000000000)
    else (t.second % 60, t.nano)
  String.ofList (yearText y ++ '-' :: twoDigits m ++ '-' :: twoDigits d ++ 'T' ::
    twoDigits (t.second / 3600) ++ ':' :: twoDigits (t.second / 60 % 60) ++ ':' :: twoDigits sec ++
    fractionText nano ++ ['Z'])

/-- Orders instants by time: day, then second, then fraction. -/
def Instant.before (a b : Instant) : Bool :=
  a.day < b.day || (a.day == b.day && (a.second < b.second ||
    (a.second == b.second && a.nano < b.nano)))

/-- The instant `seconds` seconds earlier (no leap seconds in between). -/
def Instant.minusSeconds (t : Instant) (seconds : Nat) : Instant :=
  let total : Int := t.day * 86400 + t.second - seconds
  ⟨total.fdiv 86400, (total.fmod 86400).toNat, t.nano⟩


end FlowRegistry.Time
