import PanelClient.Entries

/-!
# Writing TOML

A flat table of texts is written as one line per key, in the order of the keys. Each key and each
value takes the plainest of its written forms that can hold it (`keyChars`, `valueChars`).
-/

namespace PanelClient.Toml

/-- A control character; `spared` says which of them do not count. -/
def isControl (spared : List Char) (c : Char) : Bool :=
  (c.toNat < 0x20 || c.toNat == 0x7F) && !spared.contains c

/-- The characters have three of a kind in a row. -/
def hasRun (mark : Char) : List Char → Bool
  | [] => false
  | c :: rest =>
    (c == mark && match rest with
      | d :: e :: _ => d == mark && e == mark
      | _ => false) || hasRun mark rest

def hexDigit (n : Nat) : Char :=
  if n < 10 then Char.ofNat ('0'.toNat + n) else Char.ofNat ('A'.toNat + (n - 10))

/-- A character in a basic string on one line, quotation marks apart. -/
def escapeChar (c : Char) : List Char :=
  match c with
  | '\x08' => ['\\', 'b']
  | '\t' => ['\\', 't']
  | '\n' => ['\\', 'n']
  | '\x0c' => ['\\', 'f']
  | '\r' => ['\\', 'r']
  | '\\' => ['\\', '\\']
  | _ =>
    if isControl [] c then
      ['\\', 'u', '0', '0', hexDigit (c.toNat / 16), hexDigit (c.toNat % 16)]
    else
      [c]

/-- The inside of a basic string on one line. -/
def textChars (cs : List Char) : List Char :=
  cs.flatMap fun c => if c == '"' then ['\\', '"'] else escapeChar c

/-- The inside of a basic block, after some quotation marks in a row. Line ends stay, and of the
marks in a row every third is escaped. -/
def blockChars (marks : Nat) : List Char → List Char
  | [] => []
  | c :: rest =>
    if c == '"' then
      if marks = 2 then '\\' :: '"' :: blockChars 0 rest else '"' :: blockChars (marks + 1) rest
    else if c == '\n' then
      '\n' :: blockChars 0 rest
    else
      escapeChar c ++ blockChars 0 rest

/-- Characters between three quotation marks. What has line ends begins on a line of its own. -/
def between (mark : Char) (lines : Bool) (inside : List Char) : List Char :=
  let marks := [mark, mark, mark]
  marks ++ (if lines then '\n' :: inside else inside) ++ marks

/-- A value in the plainest form that holds it. -/
def valueChars (cs : List Char) : List Char :=
  let plain := !cs.any (isControl ['\t', '\n'])
  let lines := cs.contains '\n'
  if plain && !cs.contains '\\' && !cs.contains '"' && !lines then '"' :: textChars cs ++ ['"']
  else if plain && !cs.contains '\'' && !lines then '\'' :: cs ++ ['\'']
  else if plain && !cs.contains '\\' && !hasRun '"' cs then between '"' lines (blockChars 0 cs)
  else if plain && !hasRun '\'' cs then between '\'' lines cs
  else if lines then between '"' true (blockChars 0 cs)
  else '"' :: textChars cs ++ ['"']

/-- A character of a bare key. -/
def isBareChar (c : Char) : Bool :=
  c.isAlphanum || c == '_' || c == '-'

/-- A key in the plainest form that holds it. -/
def keyChars (cs : List Char) : List Char :=
  let plain := !cs.any (isControl ['\t'])
  if !cs.isEmpty && cs.all isBareChar then cs
  else if plain && !cs.contains '\\' && !cs.contains '"' then '"' :: textChars cs ++ ['"']
  else if plain && !cs.contains '\'' then '\'' :: cs ++ ['\'']
  else '"' :: textChars cs ++ ['"']

/-- The line of a key and its value. -/
def lineChars (key value : String) : List Char :=
  keyChars key.toList ++ ' ' :: '=' :: ' ' :: valueChars value.toList ++ ['\n']

/-- The text of a flat table. -/
def render (entries : Entries String) : String :=
  String.ofList (entries.flatMap fun (key, value) => lineChars key value)

end PanelClient.Toml
