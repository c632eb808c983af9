import PanelClient.Json.Number

/-!
# Reading JSON

The reader takes a text character by character. Its state holds the containers that are still
open, what may come next, and the lexeme that has begun. A text is read by folding `Reader.step`
over its characters (`parse?`); it is refused if it breaks the grammar, if a numeral is too large,
if a string holds half of a surrogate pair, or if containers nest too deeply.
-/

namespace PanelClient.Json

/-- A container that waits for the value now being read. -/
inductive Frame where
  /-- An array with the items before, newest first. -/
  | item (items : List Json)
  /-- An object with the members before and the name of the value. -/
  | member (members : Entries Json) (name : String)

/-- What may come next between two lexemes. -/
inductive Stage where
  | value
  | arrayStart
  | afterItem (items : List Json)
  | objectStart
  | name (members : Entries Json)
  | colon (members : Entries Json) (name : String)
  | afterMember (members : Entries Json)
  | finished (value : Json)

/-- The part of an escape that has been read. -/
inductive Escape where
  | none
  | backslash
  /-- The hexadecimal digits of a code unit: their value and how many are still to come. -/
  | unit (value : Nat) (missing : Nat)
  /-- The first half of a surrogate pair; a second escape has to follow. -/
  | high (unit : Nat)
  | highBackslash (unit : Nat)
  | low (unit : Nat) (value : Nat) (missing : Nat)

inductive Lexeme where
  | none
  | text (chars : List Char) (escape : Escape)
  | number (chars : List Char)
  | word (chars : List Char)

structure Reader where
  frames : List Frame
  stage : Stage
  lexeme : Lexeme

namespace Reader

/-- The state before the first character. -/
def start : Reader := ⟨[], .value, .none⟩

/-- The greatest number of containers that may be open at once. -/
def maxDepth : Nat := 127

def deliver (frames : List Frame) (value : Json) : Reader :=
  match frames with
  | [] => ⟨[], .finished value, .none⟩
  | .item items :: rest => ⟨rest, .afterItem (value :: items), .none⟩
  | .member members name :: rest => ⟨rest, .afterMember (members.insert name value), .none⟩

def isSpace (c : Char) : Bool :=
  c == ' ' || c == '\n' || c == '\t' || c == '\r'

def isNumeralChar (c : Char) : Bool :=
  c.isDigit || c == '-' || c == '+' || c == '.' || c == 'e' || c == 'E'

/-- The first character of a value. -/
def beginValue (frames : List Frame) (c : Char) : Option Reader :=
  if c == '"' then some ⟨frames, .value, .text [] .none⟩
  else if c == '[' then
    if frames.length < maxDepth then some ⟨frames, .arrayStart, .none⟩ else none
  else if c == '\x7b' then
    if frames.length < maxDepth then some ⟨frames, .objectStart, .none⟩ else none
  else if c == '-' || c.isDigit then some ⟨frames, .value, .number [c]⟩
  else if c.isLower then some ⟨frames, .value, .word [c]⟩
  else none

def between (frames : List Frame) (stage : Stage) (c : Char) : Option Reader :=
  if isSpace c then some ⟨frames, stage, .none⟩
  else match stage with
    | .value => beginValue frames c
    | .arrayStart =>
      if c == ']' then some (deliver frames (.array [])) else beginValue (.item [] :: frames) c
    | .afterItem items =>
      if c == ',' then some ⟨.item items :: frames, .value, .none⟩
      else if c == ']' then some (deliver frames (.array items.reverse))
      else none
    | .objectStart =>
      if c == '\x7d' then some (deliver frames (.object []))
      else if c == '"' then some ⟨frames, .name [], .text [] .none⟩
      else none
    | .name members => if c == '"' then some ⟨frames, .name members, .text [] .none⟩ else none
    | .colon members name =>
      if c == ':' then some ⟨.member members name :: frames, .value, .none⟩ else none
    | .afterMember members =>
      if c == ',' then some ⟨frames, .name members, .none⟩
      else if c == '\x7d' then some (deliver frames (.object members))
      else none
    | .finished _ => none

/-- A string is complete: a member's name or a value. -/
def endText (frames : List Frame) (stage : Stage) (chars : List Char) : Reader :=
  let value := String.ofList chars.reverse
  match stage with
  | .name members => ⟨frames, .colon members value, .none⟩
  | _ => deliver frames (.text value)

/-- The value of a hexadecimal digit. -/
def hexValue? (c : Char) : Option Nat :=
  if c.isDigit then some (c.toNat - '0'.toNat)
  else if 'a' ≤ c ∧ c ≤ 'f' then some (c.toNat - 'a'.toNat + 10)
  else if 'A' ≤ c ∧ c ≤ 'F' then some (c.toNat - 'A'.toNat + 10)
  else none

/-- The character that a one-letter escape stands for. -/
def escaped? (c : Char) : Option Char :=
  match c with
  | '"' => some '"'
  | '\\' => some '\\'
  | '/' => some '/'
  | 'b' => some '\x08'
  | 'f' => some '\x0c'
  | 'n' => some '\n'
  | 'r' => some '\r'
  | 't' => some '\t'
  | _ => none

/-- A code unit is the first half of a surrogate pair. -/
def isHigh (unit : Nat) : Bool := 0xD800 ≤ unit && unit < 0xDC00

/-- A code unit is the second half of a surrogate pair. -/
def isLow (unit : Nat) : Bool := 0xDC00 ≤ unit && unit < 0xE000

/-- The character of a surrogate pair. -/
def ofPair (high low : Nat) : Char :=
  Char.ofNat (0x10000 + (high - 0xD800) * 0x400 + (low - 0xDC00))

/-- A code unit outside a pair is complete: what has been read, and what may follow. -/
def endUnit (chars : List Char) (unit : Nat) : Option (List Char × Escape) :=
  if isHigh unit then some (chars, .high unit)
  else if isLow unit then none
  else some (Char.ofNat unit :: chars, .none)

/-- A character inside a string that does not end it. -/
def textStep (chars : List Char) (escape : Escape) (c : Char) : Option (List Char × Escape) :=
  match escape with
  | .none =>
    if c == '\\' then some (chars, .backslash)
    else if c.toNat < 0x20 then none
    else some (c :: chars, .none)
  | .backslash =>
    if c == 'u' then some (chars, .unit 0 4) else (escaped? c).map fun e => (e :: chars, .none)
  | .unit value missing => do
    let digit ← hexValue? c
    let value := value * 16 + digit
    if missing ≤ 1 then endUnit chars value else some (chars, .unit value (missing - 1))
  | .high unit => if c == '\\' then some (chars, .highBackslash unit) else none
  | .highBackslash unit => if c == 'u' then some (chars, .low unit 0 4) else none
  | .low unit value missing => do
    let digit ← hexValue? c
    let value := value * 16 + digit
    if 1 < missing then some (chars, .low unit value (missing - 1))
    else if isLow value then some (ofPair unit value :: chars, .none)
    else none

def word? : List Char → Option Json
  | ['t', 'r', 'u', 'e'] => some (.bool true)
  | ['f', 'a', 'l', 's', 'e'] => some (.bool false)
  | ['n', 'u', 'l', 'l'] => some .null
  | _ => none

/-- The state after one more character. -/
def step (r : Reader) (c : Char) : Option Reader :=
  match r.lexeme with
  | .none => between r.frames r.stage c
  | .text chars .none =>
    if c == '"' then some (endText r.frames r.stage chars)
    else (textStep chars .none c).map fun (chars, escape) => { r with lexeme := .text chars escape }
  | .text chars escape =>
    (textStep chars escape c).map fun (chars, escape) => { r with lexeme := .text chars escape }
  | .number chars =>
    if isNumeralChar c then some { r with lexeme := .number (c :: chars) }
    else do
      let next := deliver r.frames (← number? chars.reverse)
      between next.frames next.stage c
  | .word chars =>
    if c.isLower then some { r with lexeme := .word (c :: chars) }
    else do
      let next := deliver r.frames (← word? chars.reverse)
      between next.frames next.stage c

/-- The value that has been read when the text ends here. -/
def finish (r : Reader) : Option Json :=
  match r.frames, r.stage, r.lexeme with
  | [], .finished value, .none => some value
  | [], .value, .number chars => number? chars.reverse
  | [], .value, .word chars => word? chars.reverse
  | _, _, _ => none

end Reader

/-- The value that a list of characters denotes. -/
def parseChars? (cs : List Char) : Option Json :=
  (cs.foldlM Reader.step Reader.start).bind Reader.finish

/-- The value that a text denotes, if it is JSON. -/
def parse? (text : String) : Option Json :=
  parseChars? text.toList

end PanelClient.Json
