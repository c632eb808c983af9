import PanelClient.Http.Exchange
import PanelClient.Text.Blank
import PanelClient.Text.Unprintable

/-!
# Addresses that can be requested

An address can be requested if it names a host: after `http:` or `https:` and any number of
slashes, up to the first slash, question mark or hash sign, there stand an optional user, the
host, and an optional port. The host is a name, four numbers, or an address in brackets.
`Request.isSendable` asks the same of a whole request, whose headers must fit on lines.
-/

namespace PanelClient.Http

namespace Address

/-- The pieces of a text between the separators. -/
def pieces (isSeparator : Char → Bool) : List Char → List (List Char)
  | [] => [[]]
  | c :: rest =>
    if isSeparator c then [] :: pieces isSeparator rest
    else
      match pieces isSeparator rest with
      | [] => [[c]]
      | piece :: others => (c :: piece) :: others

/-- The character has a value as a hexadecimal digit. -/
def isHexDigit (c : Char) : Bool :=
  c.isDigit || ('a' ≤ c && c ≤ 'f') || ('A' ≤ c && c ≤ 'F')

/-- The value of a hexadecimal digit. -/
def digitValue (c : Char) : Nat :=
  if c.isDigit then c.toNat - '0'.toNat
  else if 'a' ≤ c then c.toNat - 'a'.toNat + 10
  else c.toNat - 'A'.toNat + 10

def number (base : Nat) (digits : List Char) : Nat :=
  digits.foldl (fun n c => base * n + digitValue c) 0

/-! ## Hosts of four numbers -/

/-- A number in decimal, octal or hexadecimal digits. -/
def hostNumber? : List Char → Option Nat
  | [] => none
  | ['0'] => some 0
  | '0' :: c :: rest =>
    if c == 'x' || c == 'X' then
      if rest.all isHexDigit then some (number 16 rest) else none
    else if (c :: rest).all fun d => '0' ≤ d && d ≤ '7' then some (number 8 (c :: rest))
    else none
  | digits => if digits.all Char.isDigit then some (number 10 digits) else none

/-- The labels of a name, without an empty one at its end. -/
def labels (host : List Char) : List (List Char) :=
  match (pieces (· == '.') host).reverse with
  | [] :: label :: before => (label :: before).reverse
  | all => all.reverse

def endsInNumber (host : List Char) : Bool :=
  match (labels host).getLast? with
  | none => false
  | some label => (!label.isEmpty && label.all Char.isDigit) || (hostNumber? label).isSome

/-- At most four numbers, of which the last fills what the others leave of 32 bits. -/
def isNumericHost (host : List Char) : Bool :=
  match (labels host).mapM hostNumber? with
  | none => false
  | some numbers =>
    numbers.length ≤ 4 && numbers.dropLast.all (· < 256) &&
      numbers.getLast?.any (· < 1 <<< (8 * (5 - numbers.length)))

/-! ## Hosts in brackets -/

/-- A number below 256 in decimal digits, without zeros before it. -/
def isByte (digits : List Char) : Bool :=
  !digits.isEmpty && digits.all Char.isDigit && number 10 digits < 256 &&
    (digits.length == 1 || digits.head? != some '0')

/-- How many groups of 16 bits a piece stands for, none if it is malformed. Only the last piece may
be four decimal numbers. -/
def groups? (isLast : Bool) (piece : List Char) : Option Nat :=
  if 1 ≤ piece.length ∧ piece.length ≤ 4 ∧ piece.all isHexDigit then some 1
  else
    let bytes := pieces (· == '.') piece
    if isLast ∧ bytes.length = 4 ∧ bytes.all isByte then some 2 else none

/-- How many groups of 16 bits a list of pieces stands for. -/
def countGroups? (isLast : Bool) : List (List Char) → Option Nat
  | [] => some 0
  | [piece] => groups? isLast piece
  | piece :: rest => do return (← groups? false piece) + (← countGroups? isLast rest)

/-- The pieces of one side of a gap; a side may be empty. -/
def sidePieces (side : List Char) : List (List Char) :=
  if side.isEmpty then [] else pieces (· == ':') side

/-- What stands before and after the first gap, two colons, if there is one. -/
def splitGap? : List Char → Option (List Char × List Char)
  | ':' :: ':' :: rest => some ([], rest)
  | c :: rest => (splitGap? rest).map fun (before, behind) => (c :: before, behind)
  | [] => none

/-- Eight groups of 16 bits, or fewer with a gap. -/
def isBracketedHost (host : List Char) : Bool :=
  match splitGap? host with
  | none => countGroups? true (pieces (· == ':') host) == some 8
  | some (before, behind) =>
    match countGroups? false (sidePieces before), countGroups? true (sidePieces behind) with
    | some m, some n => m + n ≤ 7
    | _, _ => false

/-! ## Hosts with names -/

/-- The character may not stand in the name of a host. -/
def isForbidden (c : Char) : Bool :=
  c.toNat ≤ 0x20 || c.toNat == 0x7F || "%#/:<>?@[\\]^|".toList.contains c ||
    (0x80 ≤ c.toNat && (Text.isBlankChar c || Text.isUnprintable c))

/-- The text with the characters that are written as numbers after a percent sign. -/
def decode : List Char → List Char
  | '%' :: a :: b :: rest =>
    if isHexDigit a && isHexDigit b && number 16 [a, b] < 0x80 then
      Char.ofNat (number 16 [a, b]) :: decode rest
    else '%' :: decode (a :: b :: rest)
  | c :: rest => c :: decode rest
  | [] => []

/-- A name that is not empty, and numbers if it looks like them. -/
def isNamedHost (host : List Char) : Bool :=
  let name := decode host
  !name.isEmpty && !name.any isForbidden && (!endsInNumber name || isNumericHost name)

/-! ## Addresses -/

/-- The host, with its brackets, and the port that stands after a colon. -/
def splitPort (isInside : Bool) : List Char → List Char × List Char
  | [] => ([], [])
  | c :: rest =>
    if c == ':' && !isInside then ([], rest)
    else
      let isInside := c == '[' || (c != ']' && isInside)
      let (host, port) := splitPort isInside rest
      (c :: host, port)

def isHost (host : List Char) : Bool :=
  match host with
  | '[' :: inner => inner.getLast? == some ']' && isBracketedHost inner.dropLast
  | _ => isNamedHost host

/-- The port is well-formed; it may be empty. -/
def isPort (port : List Char) : Bool :=
  port.all Char.isDigit && number 10 port < 65536

/-- What stands after the last at sign. -/
def withoutUser (authority : List Char) : List Char :=
  (authority.reverse.takeWhile (· != '@')).reverse

/-- What stands after the protocol and its slashes, if it is a known protocol. -/
def afterProtocol? (url : List Char) : Option (List Char) :=
  let lower := url.map Char.toLower
  let rest :=
    if "https:".toList.isPrefixOf lower then some (url.drop 6)
    else if "http:".toList.isPrefixOf lower then some (url.drop 5)
    else none
  rest.map (List.dropWhile fun c => c == '/' || c == '\\')

/-- A control character or space, which does not count at the ends of an address. -/
def isMargin (c : Char) : Bool := c.toNat ≤ 0x20

/-- The address without what does not count: margins, tabs and line breaks. -/
def bare (url : List Char) : List Char :=
  (((url.dropWhile isMargin).reverse.dropWhile isMargin).reverse).filter fun c =>
    !(c == '\t' || c == '\n' || c == '\r')

def isWellFormed (url : String) : Bool :=
  match afterProtocol? (bare url.toList) with
  | none => false
  | some rest =>
    let authority := rest.takeWhile fun c => !(c == '/' || c == '\\' || c == '?' || c == '#')
    let (host, port) := splitPort false (withoutUser authority)
    isHost host && isPort port

end Address

/-- The character may stand in a header. -/
def isHeaderChar (c : Char) : Bool :=
  c == '\t' || (0x20 ≤ c.toNat && c.toNat != 0x7F)

/-- The request can be sent: its address names a host, and its headers fit on lines. -/
def Request.isSendable (request : Request) : Bool :=
  Address.isWellFormed request.url &&
    request.headers.all fun header => header.2.toList.all isHeaderChar

end PanelClient.Http
