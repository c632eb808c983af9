import PanelClient.Entries
import PanelClient.Decimal.Binary64

/-!
# JSON values

The values that requests carry and replies hold. An integer of the ranges of 64-bit words, signed or
unsigned, stays an integer; every other number is a binary one. The members of an object are
`Entries`: in the order of their names, each name once.
-/

namespace PanelClient

inductive Json where
  | null
  | bool (value : Bool)
  | integer (value : Int)
  | number (value : Binary64)
  | text (value : String)
  | array (items : List Json)
  | object (members : List (String × Json))
deriving Inhabited

namespace Json

/-- The greatest integer that fits a signed word. -/
def maxSigned : Int := 0x7FFFFFFFFFFFFFFF

/-- The least integer that fits a signed word. -/
def minSigned : Int := -0x8000000000000000

/-- The greatest integer that fits an unsigned word. -/
def maxUnsigned : Nat := 0xFFFFFFFFFFFFFFFF

/-- The members, if the value is an object. -/
def members? : Json → Option (Entries Json)
  | object members => some members
  | _ => none

/-- The items, if the value is an array. -/
def items? : Json → Option (List Json)
  | array items => some items
  | _ => none

/-- The text, if the value is one. -/
def text? : Json → Option String
  | text value => some value
  | _ => none

/-- The member of an object by name. -/
def member? (name : String) (value : Json) : Option Json :=
  value.members?.bind (Entries.get? name)

end Json

end PanelClient
