import FlowRegistry.Decimal.Double

/-!
# Shortest decimal text of a double

`shortest` finds, for a finite nonzero double, the decimal `digits * 10 ^ exponent` with the
fewest significant digits that rounds back to the same double: the reals that round to a double
form an interval around it (its ends included when the significand is even), and for one digit,
then two, and so on up to seventeen, the two neighbours of the value on the decimal grid of that
many digits are tested for membership. Of two members the nearer is taken, a tie going to the
even one. `Double.render` lays the digits out positionally when the decimal point falls within
sixteen digits of the first one and five places after the point, and as `d.ddde±x` otherwise; a
`DoubleStyle` says whether a positive exponent shows its sign, which JSON numbers do not and
messages do.
-/

namespace FlowRegistry.Decimal

/-- The number of decimal digits of a positive number. -/
def digitCount (n : Nat) : Nat := (Nat.toDigits 10 n).length

/-- Whether `a / b ≤ c / d`, for positive denominators. -/
def fracLe (a b c d : Nat) : Bool := a * d ≤ c * b

/-- Whether `a / b < c / d`, for positive denominators. -/
def fracLt (a b c d : Nat) : Bool := a * d < c * b

/-- The decimal `c * 10 ^ e` as a fraction. -/
def gridValue (c : Nat) (e : Int) : Nat × Nat :=
  if 0 ≤ e then (c * Nat.pow 10 e.toNat, 1) else (c, Nat.pow 10 (-e).toNat)

/-- The interval of reals that round to the finite positive double with significand `m` and
exponent `q`: lower end, upper end (as fractions), and whether the ends belong to it. -/
def roundingInterval (m : Nat) (q : Int) : (Nat × Nat) × (Nat × Nat) × Bool :=
  let (a, b) : Nat × Nat := if 0 ≤ q then (Nat.pow 2 q.toNat, 1) else (1, Nat.pow 2 (-q).toNat)
  -- the gap below halves where the significand is the least of its binade
  let lower := if m = Nat.pow 2 52 && q > -1074 then ((4 * m - 1) * a, 4 * b) else ((2 * m - 1) * a, 2 * b)
  let upper := ((2 * m + 1) * a, 2 * b)
  (lower, upper, m % 2 == 0)

/-- Whether the decimal `c * 10 ^ e` lies in the rounding interval. -/
def inInterval (iv : (Nat × Nat) × (Nat × Nat) × Bool) (c : Nat) (e : Int) : Bool :=
  let (lo, hi, closed) := iv
  let (x, y) := gridValue c e
  if closed then fracLe lo.1 lo.2 x y && fracLe x y hi.1 hi.2
  else fracLt lo.1 lo.2 x y && fracLt x y hi.1 hi.2

/-- The floor of the decimal logarithm of `num / den`, both positive. -/
def log10Floor (num den : Nat) : Int :=
  if den ≤ num then Int.ofNat (digitCount (num / den)) - 1
  else
    -- the number of leading zeros after the point, plus one
    let k := digitCount ((den - 1) / num)
    if fracLt num den 1 (Nat.pow 10 k) then -(Int.ofNat k) - 1 else -(Int.ofNat k)

/-- Searches grids of `n`, `n + 1`, … significant digits (at most `fuel` more) for a decimal in
the interval; `top` is the decimal exponent of the value's leading digit. -/
def searchDigits (num den : Nat) (iv : (Nat × Nat) × (Nat × Nat) × Bool) (top : Int) :
    Nat → Nat → Option (Nat × Int)
  | 0, _ => none
  | fuel + 1, n =>
    let e := top - Int.ofNat n + 1
    let (gn, gd) := gridValue 1 e
    -- the value in units of the grid
    let c := (num * gd) / (den * gn)
    let lowIn := inInterval iv c e
    let highIn := inInterval iv (c + 1) e
    if lowIn && highIn then
      -- compare the distances to the value: value - c·g against (c+1)·g - value
      let below := num * gd - c * den * gn
      let above := (c + 1) * den * gn - num * gd
      if below < above then some (c, e)
      else if above < below then some (c + 1, e)
      else if c % 2 = 0 then some (c, e) else some (c + 1, e)
    else if lowIn then some (c, e)
    else if highIn then some (c + 1, e)
    else searchDigits num den iv top fuel (n + 1)

/-- Strips trailing zeros of the digits, raising the exponent. -/
def normalize : Nat → Nat × Int → Nat × Int
  | 0, p => p
  | fuel + 1, (c, e) => if c ≠ 0 && c % 10 = 0 then normalize fuel (c / 10, e + 1) else (c, e)

/-- The shortest decimal `digits * 10 ^ exponent` that rounds to the finite positive double. -/
def shortest (d : Double) : Nat × Int :=
  let (m, q) := d.parts
  let (num, den) := d.value
  let iv := roundingInterval m q
  match searchDigits num den iv (log10Floor num den) 17 1 with
  | some p => normalize 20 p
  | none => (m, 0)

/-- The digits of a number as characters. -/
def digitChars (n : Nat) : List Char := Nat.toDigits 10 n

/-- How a double is written where texts of doubles differ: whether a positive exponent shows
its sign. -/
structure DoubleStyle where
  plusExponent : Bool

/-- JSON numbers write a positive exponent bare: `1e16`. -/
def DoubleStyle.json : DoubleStyle := ⟨false⟩

/-- Messages write a positive exponent with its sign: `1e+16`. -/
def DoubleStyle.message : DoubleStyle := ⟨true⟩

/-- The text of a decimal exponent in a style. -/
def exponentChars (style : DoubleStyle) (k : Int) : List Char :=
  if k < 0 then '-' :: digitChars (-k).toNat
  else if style.plusExponent then '+' :: digitChars k.toNat
  else digitChars k.toNat

/-- The text of a finite double: positional from `1e-5` up to below `1e16` with at least one
digit after the point, scientific with `e` otherwise; zero is `0.0`. -/
def Double.render (style : DoubleStyle) (d : Double) : String :=
  let sign := if d.negative then ['-'] else []
  if d.isZero then String.ofList (sign ++ "0.0".toList)
  else
    let (c, k) := shortest d
    let ds := digitChars c
    let len : Int := ds.length
    let kk := len + k
    let body : List Char :=
      if 0 ≤ k && kk ≤ 16 then ds ++ List.replicate k.toNat '0' ++ ['.', '0']
      else if 0 < kk && kk ≤ 16 then ds.take kk.toNat ++ '.' :: ds.drop kk.toNat
      else if -5 < kk && kk ≤ 0 then '0' :: '.' :: List.replicate (-kk).toNat '0' ++ ds
      else if ds.length = 1 then ds ++ 'e' :: exponentChars style (kk - 1)
      else ds.take 1 ++ '.' :: ds.drop 1 ++ 'e' :: exponentChars style (kk - 1)
    String.ofList (sign ++ body)

/-- The text of a finite double as a JSON number. -/
def Double.text (d : Double) : String := d.render .json

/-- The text of a finite double inside a message. -/
def Double.messageText (d : Double) : String := d.render .message

end FlowRegistry.Decimal
