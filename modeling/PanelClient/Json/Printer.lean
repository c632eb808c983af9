import PanelClient.Json.Basic
import PanelClient.Decimal.Shortest

/-!
# Writing JSON

The compact text of a value: no blanks, members in the order of their names. In a string only the
quotation mark, the backslash and the characters below U+0020 are escaped.
-/

namespace PanelClient.Json

/-- Binary numbers are positional from `0.00001` up to sixteen whole digits. -/
def layout : Decimal.Layout := ⟨-5, 15, true⟩

def hexDigit (n : Nat) : Char :=
  if n < 10 then Char.ofNat ('0'.toNat + n) else Char.ofNat ('a'.toNat + (n - 10))

/-- A character as it stands in a string. -/
def escapeChar (c : Char) : List Char :=
  match c with
  | '"' => ['\\', '"']
  | '\\' => ['\\', '\\']
  | '\x08' => ['\\', 'b']
  | '\x0c' => ['\\', 'f']
  | '\n' => ['\\', 'n']
  | '\r' => ['\\', 'r']
  | '\t' => ['\\', 't']
  | _ =>
    if c.toNat < 0x20 then
      ['\\', 'u', '0', '0', hexDigit (c.toNat / 16), hexDigit (c.toNat % 16)]
    else
      [c]

def quoted (s : String) : List Char :=
  '"' :: s.toList.flatMap escapeChar ++ ['"']

mutual

def chars : Json → List Char
  | null => ['n', 'u', 'l', 'l']
  | bool true => ['t', 'r', 'u', 'e']
  | bool false => ['f', 'a', 'l', 's', 'e']
  | integer n => Decimal.intDigits n
  | number x => layout.write x
  | text s => quoted s
  | array items => '[' :: itemsChars items ++ [']']
  | object members => '\x7b' :: membersChars members ++ ['\x7d']

/-- The characters of items, with commas between them. -/
def itemsChars : List Json → List Char
  | [] => []
  | [item] => chars item
  | item :: rest => chars item ++ ',' :: itemsChars rest

/-- The characters of members, with commas between them. -/
def membersChars : List (String × Json) → List Char
  | [] => []
  | [(name, value)] => quoted name ++ ':' :: chars value
  | (name, value) :: rest => quoted name ++ ':' :: chars value ++ ',' :: membersChars rest

end

def render (value : Json) : String :=
  String.ofList (chars value)

end PanelClient.Json
