import PanelClient.Decimal.Binary64
import PanelClient.Toml.Value

/-!
# Unquoted values

Truth values, integers in four bases, floats, dates and times (`scalar?`). Underscores may separate
digits. A time may leave out its seconds, and a date has to exist.
-/

namespace PanelClient.Toml

/-- The value of a digit in bases up to sixteen. -/
def digit? (base : Nat) (c : Char) : Option Nat :=
  let value :=
    if c.isDigit then c.toNat - '0'.toNat
    else if 'a' ≤ c ∧ c ≤ 'f' then c.toNat - 'a'.toNat + 10
    else if 'A' ≤ c ∧ c ≤ 'F' then c.toNat - 'A'.toNat + 10
    else base
  if value < base then some value else none

/-- The values of digits that underscores may separate; an underscore has a digit on each side. -/
def digits? (base : Nat) : List Char → Option (List Nat)
  | [] => none
  | [c] => (digit? base c).map fun d => [d]
  | c :: '_' :: rest => do return (← digit? base c) :: (← digits? base rest)
  | c :: rest => do return (← digit? base c) :: (← digits? base rest)

def ofDigits (base : Nat) (digits : List Nat) : Nat :=
  digits.foldl (fun n d => n * base + d) 0

/-- The digits do not start with a zero, unless that is all. -/
def noLeadingZero : List Nat → Bool
  | 0 :: _ :: _ => false
  | _ => true

/-- Splits a sign off: whether it is a minus, and whether there is one. -/
def splitSign : List Char → Bool × Bool × List Char
  | '-' :: rest => (true, true, rest)
  | '+' :: rest => (false, true, rest)
  | cs => (false, false, cs)

/-- An integer. A base other than ten has a letter after a zero, and no sign. -/
def integer? (cs : List Char) : Option Int :=
  match cs with
  | '0' :: 'x' :: rest => (digits? 16 rest).map fun ds => (ofDigits 16 ds : Int)
  | '0' :: 'o' :: rest => (digits? 8 rest).map fun ds => (ofDigits 8 ds : Int)
  | '0' :: 'b' :: rest => (digits? 2 rest).map fun ds => (ofDigits 2 ds : Int)
  | _ => do
    let (negative, _, rest) := splitSign cs
    let ds ← digits? 10 rest
    guard (noLeadingZero ds)
    let n : Int := ofDigits 10 ds
    return if negative then -n else n

/-- The characters before the first of a class, and those from it on. -/
def splitAt (p : Char → Bool) (cs : List Char) : List Char × List Char :=
  (cs.takeWhile fun c => !p c, cs.dropWhile fun c => !p c)

/-- The number `digits · 10 ^ exponent` is not beyond the largest binary number. -/
def isInRange (digits : List Nat) (exponent : Int) : Bool :=
  let digits := digits.dropWhile (· == 0)
  let lead : Int := (digits.length : Int) + exponent
  if digits.isEmpty || lead < 300 then true
  else if 400 < lead then false
  else
    let n := ofDigits 10 digits
    if 0 ≤ exponent then (Binary64.nearest? false (n * Nat.pow 10 exponent.toNat) 1).isSome
    else (Binary64.nearest? false n (Nat.pow 10 exponent.natAbs)).isSome

/-- The value of an exponent's characters after the letter. -/
def exponentOf? (cs : List Char) : Option Int := do
  let (negative, _, rest) := splitSign cs
  let n : Int := ofDigits 10 (← digits? 10 rest)
  return if negative then -n else n

/-- A float: whole digits and a fraction or an exponent or both; or a name. -/
def float? (cs : List Char) : Option Value :=
  let (_, _, unsigned) := splitSign cs
  if unsigned = ['i', 'n', 'f'] ∨ unsigned = ['n', 'a', 'n'] then some (.float true)
  else do
    let (mantissa, tail) := splitAt (fun c => c == 'e' || c == 'E') unsigned
    let (whole, point) := splitAt (· == '.') mantissa
    let ds ← digits? 10 whole
    guard (noLeadingZero ds)
    let fraction ← match point with
      | [] => some []
      | _ :: rest => digits? 10 rest
    let exponent ← match tail with
      | [] => if point.isEmpty then none else some 0
      | _ :: rest => exponentOf? rest
    return .float (isInRange (ds ++ fraction) (exponent - (fraction.length : Int)))

/-- The number of two decimal digits. -/
def twoDigits? : List Char → Option Nat
  | [a, b] => (([a, b].mapM (digit? 10)).map (ofDigits 10))
  | _ => none

/-- The number of days in a month. -/
def daysIn (year month : Nat) : Nat :=
  if month = 2 then
    if year % 4 = 0 ∧ (year % 100 ≠ 0 ∨ year % 400 = 0) then 29 else 28
  else if month = 4 ∨ month = 6 ∨ month = 9 ∨ month = 11 then 30
  else 31

def isDate : List Char → Bool
  | [a, b, c, d, '-', e, f, '-', g, h] =>
    match twoDigits? [a, b], twoDigits? [c, d], twoDigits? [e, f], twoDigits? [g, h] with
    | some century, some year, some month, some day =>
      1 ≤ month && month ≤ 12 && 1 ≤ day && day ≤ daysIn (century * 100 + year) month
    | _, _, _, _ => false
  | _ => false

/-- The characters are the fraction of a second. -/
def isFraction : List Char → Bool
  | [] => true
  | '.' :: rest => !rest.isEmpty && rest.all Char.isDigit
  | _ => false

/-- The characters are a time of day. -/
def isTime (cs : List Char) : Bool :=
  let inBounds (high : Nat) (cs : List Char) : Bool :=
    match twoDigits? cs with
    | some n => n ≤ high
    | none => false
  match cs with
  | [a, b, ':', c, d] => inBounds 23 [a, b] && inBounds 59 [c, d]
  | a :: b :: ':' :: c :: d :: ':' :: e :: f :: rest =>
    inBounds 23 [a, b] && inBounds 59 [c, d] && inBounds 60 [e, f] && isFraction rest
  | _ => false

/-- The characters are an offset from universal time. -/
def isOffset : List Char → Bool
  | [] | ['Z'] | ['z'] => true
  | [sign, a, b, ':', c, d] =>
    (sign == '+' || sign == '-') &&
      match twoDigits? [a, b], twoDigits? [c, d] with
      | some hours, some minutes => minutes ≤ 59 && hours * 60 + minutes ≤ 24 * 60
      | _, _ => false
  | _ => false

/-- The characters are a date, a time, or both with or without an offset. -/
def isDateTime (cs : List Char) : Bool :=
  let date := cs.take 10
  match cs.drop 10 with
  | [] => isDate date || isTime cs
  | c :: rest =>
    if c == 'T' || c == 't' || c == ' ' then
      let (time, offset) := splitAt (fun c => c == 'Z' || c == 'z' || c == '+' || c == '-') rest
      isDate date && isTime time && isOffset offset
    else
      isTime cs

/-- The value of an unquoted text. -/
def scalar? (cs : List Char) : Option Value :=
  if cs = ['t', 'r', 'u', 'e'] then some (.boolean true)
  else if cs = ['f', 'a', 'l', 's', 'e'] then some (.boolean false)
  else if isDateTime cs then some .time
  else ((integer? cs).map Value.integer).or (float? cs)

end PanelClient.Toml
