import PanelClient.Entries

/-!
# TOML values and tables

A table remembers how it came about, because that decides what may still be added to it: a table
with a header of its own or in braces is complete, one that only stands on the way to another, or
that dotted keys made, is not. `reach` walks down a path of keys and changes the table at its end.
-/

namespace PanelClient.Toml

inductive Origin where
  /-- By a header of its own, or as the document. -/
  | header
  /-- On the path of a header. -/
  | path
  /-- On the path of a dotted key. -/
  | dotted
  /-- In braces. -/
  | braces
deriving DecidableEq, Repr

/-- A value. Only what readers ask about is kept of floats and times. -/
inductive Value where
  | text (value : String)
  | integer (value : Int)
  /-- A float, and whether it is in range. -/
  | float (inRange : Bool)
  | boolean (value : Bool)
  | time
  | array (items : List Value)
  | table (origin : Origin) (members : List (String × Value))
  /-- The tables of headers in double brackets. -/
  | tables (items : List (List (String × Value)))
deriving Inhabited

abbrev Members := Entries Value

/-- Changes the table at the end of a path, making the tables that are missing on the way. A path of
dotted keys does not lead through tables with headers. -/
def reach (dotted : Bool) (change : Origin → Members → Option (Origin × Members)) :
    List String → Origin → Members → Option (Origin × Members)
  | [], origin, members => change origin members
  | key :: rest, origin, members =>
    match members.get? key with
    | none => do
      let (o, ms) ← reach dotted change rest (if dotted then .dotted else .path) []
      return (origin, members.insert key (.table o ms))
    | some (.table inner ms) =>
      if inner = .braces ∨ (dotted ∧ inner = .header) then none
      else do
        let (o, ms) ← reach dotted change rest inner ms
        return (origin, members.insert key (.table o ms))
    | some (.tables items) =>
      match items.reverse with
      | [] => none
      | last :: before => do
        let (_, ms) ← reach dotted change rest .header last
        return (origin, members.insert key (.tables (ms :: before).reverse))
    | some _ => none

/-- Gives a new key at the end of a path of dotted keys its value. -/
def assign (path : List String) (value : Value) (origin : Origin) (members : Members) :
    Option (Origin × Members) :=
  match path.reverse with
  | [] => none
  | key :: before =>
    reach true (fun origin members =>
      if (origin == .dotted) == before.isEmpty || members.contains key then none
      else some (origin, members.insert key value)) before.reverse origin members

/-- Begins the table of a header. -/
def openTable (path : List String) (members : Members) : Option Members :=
  match path.reverse with
  | [] => none
  | key :: before => do
    let (_, members) ← reach false (fun origin members =>
      match members.get? key with
      | none => some (origin, members.insert key (.table .header []))
      | some (.table .path ms) => some (origin, members.insert key (.table .header ms))
      | some _ => none) before.reverse .header members
    return members

/-- Begins one more table of a header in double brackets. -/
def openItem (path : List String) (members : Members) : Option Members :=
  match path.reverse with
  | [] => none
  | key :: before => do
    let (_, members) ← reach false (fun origin members =>
      match members.get? key with
      | none => some (origin, members.insert key (.tables [[]]))
      | some (.tables items) => some (origin, members.insert key (.tables (items ++ [[]])))
      | some _ => none) before.reverse .header members
    return members

/-- Gives a key of the table with the header its value. -/
def assignIn (header path : List String) (value : Value) (members : Members) : Option Members := do
  let (_, members) ← reach false (assign path value) header .header members
  return members

end PanelClient.Toml
