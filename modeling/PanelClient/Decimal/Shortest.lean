import PanelClient.Decimal.Binary64

/-!
# Shortest decimal digits

The decimal text of a number of the 64-bit binary format is the shortest that reads back as that
number, and of those the nearest to it. `shortest` finds the digits: for one digit, two digits and
so on it looks at the two neighbours of the number on the decimal grid of that many digits, and
takes the first grid on which a neighbour lies in the interval of numbers that round to it.
`Layout` says how digits and exponent are written down.
-/

namespace PanelClient.Decimal

/-- The number `digits · 10 ^ exponent`. -/
structure Scientific where
  digits : Nat
  exponent : Int
deriving DecidableEq, Repr

/-- The quotient `num / den` over `10 ^ exponent`, as a numerator and a denominator. -/
def scaled10 (num den : Nat) (exponent : Int) : Nat × Nat :=
  if 0 ≤ exponent then (num, den * Nat.pow 10 exponent.toNat)
  else (num * Nat.pow 10 (-exponent).toNat, den)

/-- The numbers that round to a number: twice or four times its mantissa lies between `low` and
`high` in units of `2 ^ exponent`, the ends belonging to it when the mantissa is even. -/
structure Interval where
  low : Nat
  high : Nat
  exponent : Int
  closed : Bool

/-- The interval of a positive number. Below a power of two the numbers lie half as far apart. -/
def Interval.of (x : Binary64) : Interval :=
  let closed := x.mantissa % 2 == 0
  if x.mantissa = 1 <<< 52 ∧ Binary64.leastExponent < x.exponent then
    ⟨4 * x.mantissa - 1, 4 * x.mantissa + 2, x.exponent - 2, closed⟩
  else
    ⟨2 * x.mantissa - 1, 2 * x.mantissa + 1, x.exponent - 1, closed⟩

/-- The decimal number lies in the interval. -/
def Interval.contains (interval : Interval) (x : Scientific) : Bool :=
  let (n, d) := scaled10 1 1 x.exponent
  -- `x = digits · d / n`; both sides are multiplied out.
  let (p, q) := Binary64.scaled 1 1 interval.exponent
  let value := x.digits * d * p
  let low := interval.low * q * n
  let high := interval.high * q * n
  if interval.closed then low ≤ value && value ≤ high else low < value && value < high

/-- The exponent of the first digit of the positive quotient:
`10 ^ e ≤ num / den < 10 ^ (e + 1)`. -/
def leadingExponent (num den : Nat) : Int :=
  let guess : Int := ((num.log2 : Int) - (den.log2 : Int)) * 30103 / 100000
  let atLeast (e : Int) : Bool := let (n, d) := scaled10 num den e; d ≤ n
  if atLeast (guess + 1) then guess + 1 else if atLeast guess then guess else guess - 1

/-- The better of the two neighbours of the quotient on the grid `10 ^ exponent` that lie in the
interval: the nearer one, and on a tie the even one. -/
def neighbour? (interval : Interval) (num den : Nat) (exponent : Int) : Option Scientific :=
  let (n, d) := scaled10 num den exponent
  let floor := n / d
  let rest := 2 * (n % d)
  let below : Scientific := ⟨floor, exponent⟩
  let above : Scientific := ⟨floor + 1, exponent⟩
  match interval.contains below, interval.contains above with
  | true, true => some (if rest < d || (rest == d && floor % 2 == 0) then below else above)
  | true, false => some below
  | false, true => some above
  | false, false => none

/-- Drops zeros at the end of the digits. -/
def dropZeros : Nat → Scientific → Scientific
  | 0, x => x
  | fuel + 1, x =>
    if x.digits % 10 = 0 ∧ x.digits ≠ 0 then dropZeros fuel ⟨x.digits / 10, x.exponent + 1⟩ else x

/-- The shortest digits of a number that is not zero; seventeen always suffice. -/
def shortest (x : Binary64) : Scientific :=
  let (num, den) := x.quotient
  let interval := Interval.of x
  let lead := leadingExponent num den
  let found := (List.range 17).findSome? fun (places : Nat) =>
    neighbour? interval num den (lead - (places : Int))
  dropZeros 17 (found.getD ⟨0, 0⟩)

/-- How a number is written: the exponents of the first digit for which the notation is positional,
with at least one digit on each side of the point; the others are written with an exponent. -/
structure Layout where
  leastPositional : Int
  greatestPositional : Int
  /-- An exponent that is not negative has a plus sign. -/
  signedExponent : Bool

/-- The decimal digits of a natural number. -/
def natDigits (n : Nat) : List Char :=
  Nat.toDigits 10 n

/-- The decimal digits of an integer, with a minus sign if it is negative. -/
def intDigits (n : Int) : List Char :=
  if n < 0 then '-' :: natDigits n.natAbs else natDigits n.natAbs

/-- Digits and a point after the digit of exponent zero; `lead` is the exponent of the first
digit. -/
def positional (digits : List Char) (lead : Int) : List Char :=
  if lead < 0 then
    '0' :: '.' :: List.replicate ((-lead).toNat - 1) '0' ++ digits
  else
    let whole := lead.toNat + 1
    let head := digits.take whole
    let tail := digits.drop whole
    head ++ List.replicate (whole - head.length) '0' ++
      '.' :: (if tail.isEmpty then ['0'] else tail)

/-- Digits with the point after the first one, and the exponent of that digit. -/
def exponential (layout : Layout) (digits : List Char) (lead : Int) : List Char :=
  let fraction := digits.drop 1
  let point := if fraction.isEmpty then [] else '.' :: fraction
  let sign := if lead < 0 then ['-'] else if layout.signedExponent then ['+'] else []
  digits.take 1 ++ point ++ 'e' :: sign ++ natDigits lead.natAbs

def Layout.write (layout : Layout) (x : Binary64) : List Char :=
  let sign := if x.negative then ['-'] else []
  if x.isZero then
    sign ++ ['0', '.', '0']
  else
    let short := shortest x
    let digits := natDigits short.digits
    let lead := short.exponent + (digits.length : Int) - 1
    if layout.leastPositional ≤ lead ∧ lead ≤ layout.greatestPositional then
      sign ++ positional digits lead
    else
      sign ++ exponential layout digits lead

end PanelClient.Decimal
