/-!
# Binary numbers of 53 significant bits

The finite numbers `± mantissa · 2 ^ exponent` of the 64-bit binary format, held as integers.
Every operation takes the exact result as a quotient of natural numbers and rounds it once, to
the nearest such number, a tie going to the even mantissa (`nearest?`). A result beyond the largest
number is refused, one below the smallest is a subnormal number or zero.
-/

namespace PanelClient

/-- The finite number `± mantissa · 2 ^ exponent`. -/
structure Binary64 where
  negative : Bool
  mantissa : Nat
  exponent : Int
deriving DecidableEq, Repr, Inhabited

namespace Binary64

/-- The quotient rounded to the nearest natural number, a tie going to the even one. -/
def roundQuotient (num den : Nat) : Nat :=
  let floor := num / den
  let twice := 2 * (num % den)
  if den < twice || (twice == den && floor % 2 == 1) then floor + 1 else floor

/-- The least exponent, that of the subnormal numbers. -/
def leastExponent : Int := -1074

def greatestExponent : Int := 971

/-- The quotient `num / den` over `2 ^ exponent`, as a numerator and a denominator. -/
def scaled (num den : Nat) (exponent : Int) : Nat × Nat :=
  if 0 ≤ exponent then (num, den <<< exponent.toNat) else (num <<< (-exponent).toNat, den)

/-- The exponent under which the quotient has 53 bits, or the least one. -/
def exponentOf (num den : Nat) : Int :=
  let guess : Int := (num.log2 : Int) - (den.log2 : Int) - 53
  let (n, d) := scaled num den guess
  max leastExponent (if n / d < 1 <<< 53 then guess else guess + 1)

/-- The number nearest to the quotient `num / den`, if that is not beyond the largest number. -/
def nearest? (negative : Bool) (num den : Nat) : Option Binary64 :=
  if num = 0 then
    some ⟨negative, 0, leastExponent⟩
  else
    let exponent := exponentOf num den
    let (n, d) := scaled num den exponent
    let mantissa := roundQuotient n d
    let (mantissa, exponent) :=
      if mantissa = 1 <<< 53 then (1 <<< 52, exponent + 1) else (mantissa, exponent)
    if greatestExponent < exponent then none else some ⟨negative, mantissa, exponent⟩

/-- The magnitude as a numerator and a denominator. -/
def quotient (x : Binary64) : Nat × Nat :=
  if 0 ≤ x.exponent then (x.mantissa <<< x.exponent.toNat, 1)
  else (x.mantissa, 1 <<< (-x.exponent).toNat)

/-- The number nearest to a natural number. -/
def ofNat? (n : Nat) : Option Binary64 :=
  nearest? false n 1

def mul? (x y : Binary64) : Option Binary64 :=
  let (a, b) := x.quotient
  let (c, d) := y.quotient
  nearest? (x.negative ^^ y.negative) (a * c) (b * d)

/-- The rounded quotient; there is none by zero. -/
def div? (x y : Binary64) : Option Binary64 :=
  let (a, b) := x.quotient
  let (c, d) := y.quotient
  if c = 0 then none else nearest? (x.negative ^^ y.negative) (a * d) (b * c)

/-- The number is a zero of either sign. -/
def isZero (x : Binary64) : Bool :=
  x.mantissa == 0

/-- The number with the sign changed. -/
def neg (x : Binary64) : Binary64 :=
  { x with negative := !x.negative }

/-- The whole part of the magnitude. -/
def floor (x : Binary64) : Nat :=
  let (a, b) := x.quotient
  a / b

end Binary64

end PanelClient
