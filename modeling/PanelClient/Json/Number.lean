import PanelClient.Json.Basic

/-!
# Numerals

A numeral is cut into its sign, whole digits, fraction digits and exponent (`Numeral.ofChars?`), and
then evaluated (`Numeral.value?`). Its digits are gathered in one unsigned word: a digit that no
longer fits is dropped, a whole one raising the exponent. A numeral without fraction and exponent
whose digits all fit is an integer; every other one is a binary number, made from the gathered
digits by rounded multiplications or divisions by powers of ten.
-/

namespace PanelClient.Json

/-- The value of a decimal digit. -/
def digitValue (c : Char) : Nat :=
  c.toNat - '0'.toNat

structure Numeral where
  negative : Bool
  whole : List Char
  /-- The digits after the point, none without a point. -/
  fraction : List Char
  /-- The sign and the digits of the exponent. -/
  exponent : Option (Bool × List Char)
deriving DecidableEq

def splitSign : List Char → Option Bool × List Char
  | '-' :: rest => (some true, rest)
  | '+' :: rest => (some false, rest)
  | cs => (none, cs)

def splitMinus : List Char → Bool × List Char
  | '-' :: rest => (true, rest)
  | cs => (false, cs)

/-- The whole part of a numeral is a zero or digits that do not start with one. -/
def isWholePart : List Char → Bool
  | [] => false
  | [_] => true
  | c :: _ => c != '0'

/-- Splits a fraction off: a point and at least one digit. Without a point there is none. -/
def splitFraction? : List Char → Option (List Char × List Char)
  | '.' :: rest =>
    match rest.takeWhile Char.isDigit with
    | [] => none
    | digits => some (digits, rest.dropWhile Char.isDigit)
  | cs => some ([], cs)

/-- The exponent that makes up the rest of a numeral: a letter, a sign or none, and digits. -/
def exponent? : List Char → Option (Option (Bool × List Char))
  | [] => some none
  | c :: rest =>
    let (sign, digits) := splitSign rest
    if (c == 'e' || c == 'E') && !digits.isEmpty && digits.all Char.isDigit then
      some (some (sign == some true, digits))
    else
      none

/-- Cuts a numeral into its parts. -/
def Numeral.ofChars? (cs : List Char) : Option Numeral := do
  let (negative, unsigned) := splitMinus cs
  let whole := unsigned.takeWhile Char.isDigit
  guard (isWholePart whole)
  let (fraction, rest) ← splitFraction? (unsigned.dropWhile Char.isDigit)
  let exponent ← exponent? rest
  return ⟨negative, whole, fraction, exponent⟩

/-- Whole digits gathered in a word, and how many had to be dropped. Once one is dropped, so are
all that follow. -/
def gatherWhole (digits : List Char) : Nat × Nat :=
  digits.foldl (fun (gathered, dropped) c =>
    let next := gathered * 10 + digitValue c
    if dropped = 0 ∧ next ≤ maxUnsigned then (next, 0) else (gathered, dropped + 1)) (0, 0)

/-- Fraction digits gathered after `start`, and how many of them were taken. The first that does not
fit ends the gathering. -/
def gatherFraction (start : Nat) : List Char → Nat × Nat
  | [] => (start, 0)
  | c :: rest =>
    let next := start * 10 + digitValue c
    if next ≤ maxUnsigned then
      let (gathered, taken) := gatherFraction next rest
      (gathered, taken + 1)
    else
      (start, 0)

/-- The power of ten with the given exponent, for the exponents that have one. -/
def powerOfTen? (exponent : Nat) : Option Binary64 :=
  if exponent ≤ 308 then Binary64.ofNat? (Nat.pow 10 exponent) else none

/-- The number divided by `10 ^ exponent`, in steps of at most 308 powers of ten. -/
def divideByPower (x : Binary64) (exponent : Nat) : Option Binary64 :=
  if exponent ≤ 308 then do x.div? (← powerOfTen? exponent)
  else if x.isZero then some x
  else do divideByPower (← x.div? (← powerOfTen? 308)) (exponent - 308)
termination_by exponent

/-- The binary number of gathered digits and an exponent; none if it is too large. -/
def scaleDigits (gathered : Nat) (exponent : Int) : Option Binary64 := do
  let x ← Binary64.ofNat? gathered
  if exponent < 0 then divideByPower x exponent.natAbs
  else if x.isZero then some x
  else x.mul? (← powerOfTen? exponent.natAbs)

/-- The greatest exponent that is counted out; a longer one only tells large from small. -/
def maxExponent : Nat := 0x7FFFFFFF

/-- The value of the exponent's digits. -/
def exponentValue (digits : List Char) : Nat :=
  digits.foldl (fun n c => n * 10 + digitValue c) 0

/-- The magnitude of a numeral as a binary number. -/
def Numeral.magnitude? (n : Numeral) : Option Binary64 :=
  let (whole, dropped) := gatherWhole n.whole
  let (gathered, taken) := gatherFraction whole n.fraction
  let shift : Int := (dropped : Int) - (taken : Int)
  match n.exponent with
  | none => scaleDigits gathered shift
  | some (negative, digits) =>
    let size := exponentValue digits
    if maxExponent < size then
      if gathered ≠ 0 ∧ ¬ negative then none else Binary64.ofNat? 0
    else
      scaleDigits gathered (if negative then shift - size else shift + size)

/-- The value of a numeral; none if it is too large. -/
def Numeral.value? (n : Numeral) : Option Json :=
  let (whole, dropped) := gatherWhole n.whole
  if n.fraction.isEmpty && n.exponent.isNone && dropped == 0 &&
      (!n.negative || (whole != 0 && whole ≤ 0x8000000000000000)) then
    some (.integer (if n.negative then -(whole : Int) else whole))
  else
    n.magnitude?.map fun x => .number (if n.negative then x.neg else x)

/-- The value of a text that is a numeral. -/
def number? (cs : List Char) : Option Json :=
  (Numeral.ofChars? cs).bind Numeral.value?

end PanelClient.Json
