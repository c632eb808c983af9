import PanelClient.Decimal.Shortest
import PanelClient.Text.Quoted

/-!
# Showing values

Values are shown to people, in the log and on the command line, by their names and parts. `Shape`
is what is common to all of them; it is written on one line (`Shape.line`) or over several, each
part on a line of its own and indented under the whole (`Shape.block`).
-/

namespace PanelClient.Inspect

/-- What is shown of a value. -/
inductive Shape where
  /-- A name, number or quoted text. -/
  | plain (text : String)
  /-- A name with parts in parentheses. -/
  | call (name : String) (parts : List Shape)
  /-- A name with named parts in braces. -/
  | record (name : String) (fields : List (String × Shape))
  /-- Parts in brackets. -/
  | list (parts : List Shape)
  /-- Keys and values in braces. -/
  | entries (pairs : List (String × Shape))
deriving Inhabited

namespace Shape

def text (s : String) : Shape :=
  plain (Text.quote s)

def integer (n : Int) : Shape :=
  plain (String.ofList (Decimal.intDigits n))

def bool (b : Bool) : Shape :=
  plain (if b then "true" else "false")

/-- A value that may be missing. -/
def option {α : Type} (shape : α → Shape) : Option α → Shape
  | some value => call "Some" [shape value]
  | none => plain "None"

mutual

def line : Shape → String
  | plain text => text
  | call name parts => name ++ "(" ++ lineParts parts ++ ")"
  | record name [] => name
  | record name fields => name ++ " \x7b " ++ lineFields fields ++ " \x7d"
  | list parts => "[" ++ lineParts parts ++ "]"
  | entries pairs => "\x7b" ++ lineFields pairs ++ "\x7d"

/-- Parts on one line, with commas between them. -/
def lineParts : List Shape → String
  | [] => ""
  | [part] => line part
  | part :: rest => line part ++ ", " ++ lineParts rest

/-- Named parts on one line, with commas between them. -/
def lineFields : List (String × Shape) → String
  | [] => ""
  | [(name, part)] => name ++ ": " ++ line part
  | (name, part) :: rest => name ++ ": " ++ line part ++ ", " ++ lineFields rest

end

/-- The spaces at the beginning of a line. -/
def indent (depth : Nat) : String :=
  String.ofList (List.replicate (4 * depth) ' ')

mutual

/-- The value over several lines; those after the first stand `depth` steps to the right. -/
def block (depth : Nat) : Shape → String
  | plain text => text
  | call name parts => name ++ "(\n" ++ blockParts (depth + 1) parts ++ indent depth ++ ")"
  | record name [] => name
  | record name fields =>
    name ++ " \x7b\n" ++ blockFields (depth + 1) fields ++ indent depth ++ "\x7d"
  | list [] => "[]"
  | list parts => "[\n" ++ blockParts (depth + 1) parts ++ indent depth ++ "]"
  | entries [] => "\x7b\x7d"
  | entries pairs => "\x7b\n" ++ blockFields (depth + 1) pairs ++ indent depth ++ "\x7d"

/-- Parts on lines of their own. -/
def blockParts (depth : Nat) : List Shape → String
  | [] => ""
  | part :: rest => indent depth ++ block depth part ++ ",\n" ++ blockParts depth rest

/-- Named parts on lines of their own. -/
def blockFields (depth : Nat) : List (String × Shape) → String
  | [] => ""
  | (name, part) :: rest =>
    indent depth ++ name ++ ": " ++ block depth part ++ ",\n" ++ blockFields depth rest

end

end Shape

/-- A value that can be shown. -/
class Shown (α : Type) where
  shape : α → Shape

def line {α : Type} [Shown α] (value : α) : String :=
  (Shown.shape value).line

def block {α : Type} [Shown α] (value : α) : String :=
  (Shown.shape value).block 0

end PanelClient.Inspect
