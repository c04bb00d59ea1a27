/-!
# Binary64 numbers as exact rationals

A binary64 floating-point number is kept as its 64 bits. `Double.value` reads the bits of a finite
number as an exact fraction, and `Double.nearest` rounds a non-negative fraction to the nearest
binary64 number, a tie going to the even significand and a magnitude past the largest finite
number becoming infinity, as IEEE 754 prescribes. Products and quotients of doubles are then the
rounding of the exact product or quotient, so no arithmetic of the machine is needed and every
result is a function of its inputs in the logic.
-/

namespace FlowRegistry.Decimal

/-- A binary64 number by its bits. -/
structure Double where
  bits : UInt64
  deriving DecidableEq, Repr

namespace Double

/-- The sign bit. -/
def negative (d : Double) : Bool := d.bits >>> 63 == 1

/-- The biased exponent field. -/
def exponentField (d : Double) : Nat := ((d.bits >>> 52) &&& 0x7FF).toNat

/-- The fraction field. -/
def fractionField (d : Double) : Nat := (d.bits &&& 0xFFFFFFFFFFFFF).toNat

/-- Whether the number is finite (neither infinite nor NaN). -/
def isFinite (d : Double) : Bool := d.exponentField != 0x7FF

/-- The significand and binary exponent of a finite number: its magnitude is
`significand * 2 ^ exponent`. -/
def parts (d : Double) : Nat × Int :=
  if d.exponentField = 0 then (d.fractionField, -1074)
  else (d.fractionField + Nat.pow 2 52, Int.ofNat d.exponentField - 1075)

/-- The magnitude of a finite number as a fraction `num / den`. -/
def value (d : Double) : Nat × Nat :=
  let (m, e) := d.parts
  if 0 ≤ e then (m * Nat.pow 2 e.toNat, 1) else (m, Nat.pow 2 (-e).toNat)

/-- The double with the given sign, exponent field and fraction field. -/
def pack (neg : Bool) (expField fraction : Nat) : Double :=
  let sign : UInt64 := if neg then 0x8000000000000000 else 0
  ⟨sign ||| (expField.toUInt64 <<< 52) ||| fraction.toUInt64⟩

/-- Positive infinity, or negative with `neg`. -/
def infinity (neg : Bool) : Double := pack neg 0x7FF 0

/-- Zero with the given sign. -/
def zero (neg : Bool) : Double := pack neg 0 0

/-- The floor of the binary logarithm of `num / den`, for positive `num` and `den`. -/
def log2Floor (num den : Nat) : Int :=
  let t : Int := Int.ofNat num.log2 - Int.ofNat den.log2
  -- `t` is right or one too large
  let below : Bool :=
    if 0 ≤ t then num < den * Nat.pow 2 t.toNat else num * Nat.pow 2 (-t).toNat < den
  if below then t - 1 else t

/-- `num / den` divided by `2 ^ e`, as a fraction. -/
def scaleDown (num den : Nat) (e : Int) : Nat × Nat :=
  if 0 ≤ e then (num, den * Nat.pow 2 e.toNat) else (num * Nat.pow 2 (-e).toNat, den)

/-- The nearest integer to `num / den`, a tie going to the even one. -/
def roundHalfEven (num den : Nat) : Nat :=
  let q := num / den
  let r := num % den
  if 2 * r < den then q
  else if 2 * r > den then q + 1
  else if q % 2 = 0 then q else q + 1

/-- The double nearest to `num / den` with the given sign. -/
def nearest (neg : Bool) (num den : Nat) : Double :=
  if num = 0 || den = 0 then zero neg
  else
    let e := max (log2Floor num den - 52) (-1074)
    let (n, d) := scaleDown num den e
    let q := roundHalfEven n d
    -- rounding may carry into a new binade
    let (q, e) := if q = Nat.pow 2 53 then (Nat.pow 2 52, e + 1) else (q, e)
    if q < Nat.pow 2 52 then pack neg 0 q
    else if e + 1075 ≥ 0x7FF then infinity neg
    else pack neg (e + 1075).toNat (q - Nat.pow 2 52)

/-- The double nearest to a natural number. -/
def ofNat (n : Nat) : Double := nearest false n 1

/-- The product of two finite doubles, rounded. -/
def mul (a b : Double) : Double :=
  let (an, ad) := a.value
  let (bn, bd) := b.value
  nearest (a.negative != b.negative) (an * bn) (ad * bd)

/-- The quotient of two finite doubles, rounded; the divisor is not zero. -/
def div (a b : Double) : Double :=
  let (an, ad) := a.value
  let (bn, bd) := b.value
  nearest (a.negative != b.negative) (an * bd) (ad * bn)

/-- The number with its sign flipped. -/
def neg (a : Double) : Double := ⟨a.bits ^^^ 0x8000000000000000⟩

/-- Whether the number is zero of either sign. -/
def isZero (a : Double) : Bool := a.bits &&& 0x7FFFFFFFFFFFFFFF == 0

end Double

end FlowRegistry.Decimal
