import PanelClient.Decimal.Binary64
import PanelClient.Inspect
import PanelClient.Json.Basic

/-!
# Usage

How much of a plan's traffic is used, in bytes, and as a percentage. The percentage is reckoned with
binary numbers: both counts are rounded to 53 bits, divided and multiplied by a hundred with one
rounding each, and then cut off.
-/

namespace PanelClient

structure Usage where
  used : Int
  total : Int
  /-- From 0 to 100, zero without an allowance. -/
  percent : Nat
deriving DecidableEq, Repr, Inhabited

namespace Usage

/-- The sum of two words, or the nearest word to it. -/
def saturatingAdd (a b : Int) : Int :=
  max Json.minSigned (min Json.maxSigned (a + b))

/-- The percentage of two counts, of which the second is not zero. -/
def percentOf (used total : Nat) : Nat :=
  let hundredfold := do
    let ratio ← (← Binary64.ofNat? used).div? (← Binary64.ofNat? total)
    ratio.mul? (← Binary64.ofNat? 100)
  min 100 ((hundredfold.map Binary64.floor).getD 0)

/-- The usage of traffic in both directions under an allowance. -/
def ofTraffic (upload download total : Int) : Usage :=
  let used := saturatingAdd upload download
  ⟨used, total, if 0 < total then percentOf used.toNat total.toNat else 0⟩

def initial : Usage := ⟨0, 0, 0⟩

end Usage

instance : Inspect.Shown Usage where
  shape usage := .record "Usage"
    [("used", .integer usage.used), ("total", .integer usage.total),
      ("percent", .integer usage.percent)]

end PanelClient
