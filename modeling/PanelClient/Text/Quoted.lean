import PanelClient.Text.Combining
import PanelClient.Text.Unprintable

/-!
# Quoted text

A text between quotation marks that shows every one of its characters: the quotation mark, the
backslash and five control characters by a letter, other characters that would not show, or would
join their neighbour, by their number in braces.
-/

namespace PanelClient.Text

/-- The number of a character, in braces. -/
def numberEscape (c : Char) : List Char :=
  '\\' :: 'u' :: '\x7b' :: Nat.toDigits 16 c.toNat ++ ['\x7d']

/-- The character has to be written as a number. -/
def needsNumber (c : Char) : Bool :=
  c.toNat < 0x20 || c.toNat == 0x7F || (0x80 ≤ c.toNat && (isCombining c || isUnprintable c))

/-- A character as it stands in a quoted text. -/
def quoteChar (c : Char) : List Char :=
  match c with
  | '\x00' => ['\\', '0']
  | '\t' => ['\\', 't']
  | '\r' => ['\\', 'r']
  | '\n' => ['\\', 'n']
  | '"' => ['\\', '"']
  | '\\' => ['\\', '\\']
  | _ => if needsNumber c then numberEscape c else [c]

def quote (s : String) : String :=
  String.ofList ('"' :: s.toList.flatMap quoteChar ++ ['"'])

end PanelClient.Text
