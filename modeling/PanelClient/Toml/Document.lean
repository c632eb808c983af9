import PanelClient.Toml.Scalar
import PanelClient.Toml.Token

/-!
# TOML documents

A document is read token by token. The state (`Reader`) holds the table built so far, the header in
force, the arrays and braces that are still open, and what may come next. `parse?` gives the members
of the document, or none if it breaks the grammar, defines something twice, extends what is
complete, or nests arrays and braces too deeply.
-/

namespace PanelClient.Toml

/-- An array or a table in braces that waits for the value now being read. -/
inductive Frame where
  /-- An array with the items before, newest first. -/
  | item (items : List Value)
  /-- A table with the members before and the key of the value. -/
  | member (members : Members) (path : List String)

inductive KeyUse where
  | assignment
  | header
  | itemHeader
  | member (members : Members)

inductive Stage where
  /-- A new line. -/
  | line
  /-- Directly after a bracket that begins a line. -/
  | headerStart
  /-- A part of a key; the parts before it, newest first. -/
  | key (use : KeyUse) (parts : List String)
  /-- After a part of a key. -/
  | keyEnd (use : KeyUse) (parts : List String)
  /-- After a whole key in braces. -/
  | keyGap (members : Members) (path : List String)
  /-- Directly after the first closing bracket of a header in double brackets. -/
  | headerEnd (path : List String)
  | lineEnd
  | value
  /-- Within an unquoted value; its characters. -/
  | scalar (chars : List Char)
  /-- After a date and a space, where a time may follow. -/
  | scalarGap (chars : List Char)
  /-- An item or the end of an array. -/
  | item (items : List Value)
  | afterItem (items : List Value)
  /-- A key or the end of a table in braces. -/
  | member (members : Members)
  | afterMember (members : Members)

structure Reader where
  root : Members
  /-- The header in force. -/
  header : List String
  /-- The key of the value being read on a line of its own. -/
  target : List String
  frames : List Frame
  stage : Stage

namespace Reader

/-- The state before the first token. -/
def start : Reader := ⟨[], [], [], [], .line⟩

/-- The greatest number of arrays and braces that may be open at once. -/
def maxDepth : Nat := 80

/-- A character of a bare key. -/
def isKeyChar (c : Char) : Bool :=
  c.isAlphanum || c == '_' || c == '-'

/-- The part of a key that a token is. -/
def keyPart? : Token → Option String
  | .atom chars => if chars.all isKeyChar then some (String.ofList chars) else none
  | .text value => some value
  | _ => none

def deliver (r : Reader) (value : Value) : Option Reader :=
  match r.frames with
  | [] => do
    let root ← assignIn r.header r.target value r.root
    return { r with root, stage := .lineEnd }
  | .item items :: frames => some { r with frames, stage := .afterItem (value :: items) }
  | .member members path :: frames => do
    let (_, members) ← assign path value .braces members
    return { r with frames, stage := .afterMember members }

/-- The first token of a value. -/
def beginValue (r : Reader) (t : Token) : Option Reader :=
  match t with
  | .text value | .block value => r.deliver (.text value)
  | .atom chars => some { r with stage := .scalar chars }
  | .dot => some { r with stage := .scalar ['.'] }
  | .openBracket => if r.frames.length < maxDepth then some { r with stage := .item [] } else none
  | .openBrace => if r.frames.length < maxDepth then some { r with stage := .member [] } else none
  | _ => none

/-- A key is complete: what follows it. -/
def endKey (r : Reader) (use : KeyUse) (path : List String) (t : Token) : Option Reader :=
  match use, t with
  | .assignment, .equals => some { r with target := path, stage := .value }
  | .header, .closeBracket => do
    let root ← openTable path r.root
    return { r with root, header := path, stage := .lineEnd }
  | .itemHeader, .closeBracket => some { r with stage := .headerEnd path }
  | .member members, .equals =>
    some { r with frames := .member members path :: r.frames, stage := .value }
  | .member members, .newline => some { r with stage := .keyGap members path }
  | _, _ => none

def between (r : Reader) (t : Token) : Option Reader :=
  match r.stage, t with
  | .headerStart, .openBracket => some { r with stage := .key .itemHeader [] }
  | .headerStart, .blank _ => some { r with stage := .key .header [] }
  | .headerStart, t => (keyPart? t).map fun part => { r with stage := .keyEnd .header [part] }
  | .headerEnd path, .closeBracket => do
    let root ← openItem path r.root
    return { r with root, header := path, stage := .lineEnd }
  | .headerEnd _, _ => none
  | _, .blank _ => some r
  | .line, .newline => some r
  | .line, .openBracket => some { r with stage := .headerStart }
  | .line, t => (keyPart? t).map fun part => { r with stage := .keyEnd .assignment [part] }
  | .key use parts, t =>
    (keyPart? t).map fun part => { r with stage := .keyEnd use (part :: parts) }
  | .keyEnd use parts, .dot => some { r with stage := .key use parts }
  | .keyEnd use parts, t => r.endKey use parts.reverse t
  | .keyGap _ _, .newline => some r
  | .keyGap members path, t => r.endKey (.member members) path t
  | .lineEnd, .newline => some { r with stage := .line }
  | .lineEnd, _ => none
  | .value, .newline => if r.frames.isEmpty then none else some r
  | .value, t => r.beginValue t
  | .item _, .newline => some r
  | .item items, .closeBracket => r.deliver (.array items.reverse)
  | .item items, t => { r with frames := .item items :: r.frames }.beginValue t
  | .afterItem _, .newline => some r
  | .afterItem items, .comma => some { r with stage := .item items }
  | .afterItem items, .closeBracket => r.deliver (.array items.reverse)
  | .afterItem _, _ => none
  | .member _, .newline => some r
  | .member members, .closeBrace => r.deliver (.table .braces members)
  | .member members, t =>
    (keyPart? t).map fun part => { r with stage := .keyEnd (.member members) [part] }
  | .afterMember _, .newline => some r
  | .afterMember members, .comma => some { r with stage := .member members }
  | .afterMember members, .closeBrace => r.deliver (.table .braces members)
  | .afterMember _, _ => none
  | .scalar _, _ | .scalarGap _, _ => none

def endScalar (r : Reader) (chars : List Char) : Option Reader := do
  r.deliver (← scalar? chars)

/-- The token continues a date as a time. -/
def beginsTime : List Char → Bool
  | [] => false
  | c :: _ => c.isDigit

/-- The state after one more token. -/
def step (r : Reader) (t : Token) : Option Reader :=
  match r.stage with
  | .scalar chars =>
    match t with
    | .atom more => some { r with stage := .scalar (chars ++ more) }
    | .dot => some { r with stage := .scalar (chars ++ ['.']) }
    | .blank single =>
      if single && isDate chars then some { r with stage := .scalarGap chars }
      else r.endScalar chars
    | t => do (← r.endScalar chars).between t
  | .scalarGap chars =>
    match t with
    | .atom more =>
      if beginsTime more then some { r with stage := .scalar (chars ++ ' ' :: more) }
      else do (← r.endScalar chars).between t
    | t => do (← r.endScalar chars).between t
  | _ => r.between t

/-- The document's members when the text ends here. -/
def finish (r : Reader) : Option Members := do
  let r ← match r.stage with
    | .scalar chars | .scalarGap chars => r.endScalar chars
    | _ => some r
  match r.stage with
  | .line | .lineEnd => some r.root
  | _ => none

end Reader

/-- The members of the document that a text denotes. -/
def parse? (text : String) : Option Members := do
  let tokens ← tokens? text
  let reader ← tokens.foldlM Reader.step Reader.start
  reader.finish

end PanelClient.Toml
