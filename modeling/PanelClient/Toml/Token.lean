/-!
# Tokens of TOML

A text is cut into tokens character by character. Strings are decoded on the way, comments leave no
token, and a run of blanks is one token. The state of the lexer (`Lexer`) is what has begun;
`tokens?` folds `Lexer.step` over the text and refuses characters and escapes that TOML does not
allow.
-/

namespace PanelClient.Toml

inductive Token where
  | dot
  | equals
  | comma
  | openBracket
  | closeBracket
  | openBrace
  | closeBrace
  /-- Blanks within a line, and whether they are a single space. -/
  | blank (single : Bool)
  | newline
  /-- Characters of a bare key or an unquoted value. -/
  | atom (chars : List Char)
  /-- A string on one line. -/
  | text (value : String)
  /-- A string with three quotation marks at each end. -/
  | block (value : String)
deriving DecidableEq

/-- The two kinds of strings: only the basic ones have escapes. -/
inductive Quote where
  | literal
  | basic
deriving DecidableEq

/-- The quotation mark of a kind of strings. -/
def Quote.mark : Quote → Char
  | literal => '\''
  | basic => '"'

/-- What has begun within a string. -/
inductive Escape where
  | none
  | backslash
  /-- The hexadecimal digits of a character: their value and how many are still to come. -/
  | code (value missing : Nat)
  /-- Nothing after the opening marks of a block: a line end here is dropped. -/
  | fresh
  | freshReturn
  /-- A carriage return, which has to be followed by a line feed. -/
  | carriage
  /-- A backslash and blanks: the line has to end here. -/
  | lineEnd
  | lineEndReturn
  /-- The blanks and line ends after a backslash at the end of a line. -/
  | skip
  | skipReturn

inductive Pending where
  | none
  | blank (single : Bool)
  | carriage
  | comment
  | atom (chars : List Char)
  /-- One opening mark, or two of them. -/
  | opened (quote : Quote) (second : Bool)
  | text (quote : Quote) (chars : List Char) (escape : Escape)
  /-- A block, with the marks at the end of what has been read. -/
  | block (quote : Quote) (chars : List Char) (marks : Nat) (escape : Escape)

/-- The state of the lexer; the tokens are in reverse. -/
structure Lexer where
  done : List Token
  pending : Pending

namespace Lexer

def isBlank (c : Char) : Bool :=
  c == ' ' || c == '\t'

/-- The character may stand in a comment or a string. -/
def isContent (c : Char) : Bool :=
  c == '\t' || (0x20 ≤ c.toNat && c.toNat != 0x7F)

def endsAtom (c : Char) : Bool :=
  isBlank c || c == '.' || c == '=' || c == ',' || c == '[' || c == ']' || c == '\x7b' ||
    c == '\x7d' || c == '#' || c == '\r' || c == '\n'

/-- A character at the beginning of a token. -/
def begin (done : List Token) (c : Char) : Lexer :=
  match c with
  | ' ' => ⟨done, .blank true⟩
  | '\t' => ⟨done, .blank false⟩
  | '\n' => ⟨.newline :: done, .none⟩
  | '\r' => ⟨done, .carriage⟩
  | '#' => ⟨done, .comment⟩
  | '.' => ⟨.dot :: done, .none⟩
  | '=' => ⟨.equals :: done, .none⟩
  | ',' => ⟨.comma :: done, .none⟩
  | '[' => ⟨.openBracket :: done, .none⟩
  | ']' => ⟨.closeBracket :: done, .none⟩
  | '\x7b' => ⟨.openBrace :: done, .none⟩
  | '\x7d' => ⟨.closeBrace :: done, .none⟩
  | '\'' => ⟨done, .opened .literal false⟩
  | '"' => ⟨done, .opened .basic false⟩
  | c => ⟨done, .atom [c]⟩

/-- The text of characters in reverse. -/
def textOf (chars : List Char) : String :=
  String.ofList chars.reverse

/-- The character that a one-letter escape stands for. -/
def escaped? (c : Char) : Option Char :=
  match c with
  | 'b' => some '\x08'
  | 't' => some '\t'
  | 'n' => some '\n'
  | 'f' => some '\x0c'
  | 'r' => some '\r'
  | 'e' => some '\x1b'
  | '"' => some '"'
  | '\\' => some '\\'
  | _ => none

/-- The number of hexadecimal digits after the letter of an escape. -/
def codeLength? (c : Char) : Option Nat :=
  match c with
  | 'x' => some 2
  | 'u' => some 4
  | 'U' => some 8
  | _ => none

/-- The value of a hexadecimal digit. -/
def hexValue? (c : Char) : Option Nat :=
  if c.isDigit then some (c.toNat - '0'.toNat)
  else if 'a' ≤ c ∧ c ≤ 'f' then some (c.toNat - 'a'.toNat + 10)
  else if 'A' ≤ c ∧ c ≤ 'F' then some (c.toNat - 'A'.toNat + 10)
  else none

def ofCode? (n : Nat) : Option Char :=
  if n.isValidChar then some (Char.ofNat n) else none

def escapeStep (chars : List Char) (c : Char) : Option (List Char × Escape) :=
  match codeLength? c with
  | some length => some (chars, .code 0 length)
  | none => (escaped? c).map fun e => (e :: chars, .none)

/-- A hexadecimal digit of an escape. -/
def codeStep (chars : List Char) (value missing : Nat) (c : Char) :
    Option (List Char × Escape) := do
  let digit ← hexValue? c
  let value := value * 16 + digit
  if 1 < missing then some (chars, .code value (missing - 1))
  else do return ((← ofCode? value) :: chars, .none)

/-- A character within a string on one line. -/
def textStep (done : List Token) (quote : Quote) (chars : List Char) (escape : Escape) (c : Char) :
    Option Lexer :=
  let goOn (next : List Char × Escape) : Lexer := ⟨done, .text quote next.1 next.2⟩
  match escape with
  | .backslash => (escapeStep chars c).map goOn
  | .code value missing => (codeStep chars value missing c).map goOn
  | _ =>
    if c == quote.mark then some ⟨.text (textOf chars) :: done, .none⟩
    else if c == '\\' && quote == .basic then some (goOn (chars, .backslash))
    else if isContent c then some (goOn (c :: chars, .none))
    else none

/-- A character of a block outside escapes, after some quotation marks that may end the block. -/
def blockChar (done : List Token) (quote : Quote) (chars : List Char) (marks : Nat) (c : Char) :
    Option Lexer :=
  let withMarks (n : Nat) := List.replicate n quote.mark ++ chars
  if c == quote.mark then
    if marks = 4 then some ⟨.block (textOf (withMarks 2)) :: done, .none⟩
    else some ⟨done, .block quote chars (marks + 1) .none⟩
  else if 3 ≤ marks then
    some (begin (.block (textOf (withMarks (marks - 3))) :: done) c)
  else
    let chars := withMarks marks
    if c == '\\' && quote == .basic then some ⟨done, .block quote chars 0 .backslash⟩
    else if c == '\r' then some ⟨done, .block quote chars 0 .carriage⟩
    else if c == '\n' || isContent c then some ⟨done, .block quote (c :: chars) 0 .none⟩
    else none

def blockStep (done : List Token) (quote : Quote) (chars : List Char) (marks : Nat)
    (escape : Escape) (c : Char) : Option Lexer :=
  let goOn (next : List Char × Escape) : Lexer := ⟨done, .block quote next.1 0 next.2⟩
  match escape with
  | .none => blockChar done quote chars marks c
  | .fresh =>
    if c == '\n' then some (goOn (chars, .none))
    else if c == '\r' then some (goOn (chars, .freshReturn))
    else blockChar done quote chars marks c
  | .freshReturn => if c == '\n' then some (goOn (chars, .none)) else none
  | .carriage => if c == '\n' then some (goOn ('\n' :: '\r' :: chars, .none)) else none
  | .backslash =>
    if isBlank c then some (goOn (chars, .lineEnd))
    else if c == '\n' then some (goOn (chars, .skip))
    else if c == '\r' then some (goOn (chars, .lineEndReturn))
    else (escapeStep chars c).map goOn
  | .code value missing => (codeStep chars value missing c).map goOn
  | .lineEnd =>
    if isBlank c then some (goOn (chars, .lineEnd))
    else if c == '\n' then some (goOn (chars, .skip))
    else if c == '\r' then some (goOn (chars, .lineEndReturn))
    else none
  | .lineEndReturn => if c == '\n' then some (goOn (chars, .skip)) else none
  | .skip =>
    if isBlank c || c == '\n' then some (goOn (chars, .skip))
    else if c == '\r' then some (goOn (chars, .skipReturn))
    else blockChar done quote chars 0 c
  | .skipReturn => if c == '\n' then some (goOn (chars, .skip)) else none

/-- The state after one more character. -/
def step (l : Lexer) (c : Char) : Option Lexer :=
  match l.pending with
  | .none => some (begin l.done c)
  | .blank single =>
    if isBlank c then some ⟨l.done, .blank false⟩ else some (begin (.blank single :: l.done) c)
  | .carriage => if c == '\n' then some ⟨.newline :: l.done, .none⟩ else none
  | .comment =>
    if c == '\n' || c == '\r' then some (begin l.done c)
    else if isContent c then some l
    else none
  | .atom chars =>
    if endsAtom c then some (begin (.atom chars.reverse :: l.done) c)
    else some ⟨l.done, .atom (c :: chars)⟩
  | .opened quote false =>
    if c == quote.mark then some ⟨l.done, .opened quote true⟩
    else textStep l.done quote [] .none c
  | .opened quote true =>
    if c == quote.mark then some ⟨l.done, .block quote [] 0 .fresh⟩
    else some (begin (.text "" :: l.done) c)
  | .text quote chars escape => textStep l.done quote chars escape c
  | .block quote chars marks escape => blockStep l.done quote chars marks escape c

/-- The tokens in reverse when the text ends here. -/
def finish (l : Lexer) : Option (List Token) :=
  match l.pending with
  | .none | .comment => some l.done
  | .blank single => some (.blank single :: l.done)
  | .atom chars => some (.atom chars.reverse :: l.done)
  | .opened _ true => some (.text "" :: l.done)
  | .block quote chars marks .none =>
    if 3 ≤ marks then
      some (.block (textOf (List.replicate (marks - 3) quote.mark ++ chars)) :: l.done)
    else
      none
  | _ => none

end Lexer

/-- Drops a byte order mark at the beginning. -/
def dropMark : List Char → List Char
  | '\ufeff' :: rest => rest
  | cs => cs

def tokens? (text : String) : Option (List Token) := do
  let lexer ← (dropMark text.toList).foldlM Lexer.step ⟨[], .none⟩
  let done ← lexer.finish
  return done.reverse

end PanelClient.Toml
