import PanelClient.Json.Printer
import PanelClient.Text.Quoted

/-!
# Reading records

A record is read from a JSON object, member by member, or from an array that holds the members in
their declared order. For a member that is missing the record has a value of its own, which has
nothing to do with how `null` is read there, and members that no record knows are passed over.
`RecordReader` is the description of a record: the names of its members in order, and how a value is
made of them. If several members are at fault, the first in the order of the source is reported.
-/

namespace PanelClient.Record

/-! ## Faults -/

/-- Why a value cannot be read. -/
inductive Reason where
  | invalidType (found : Json) (wanted : String)
  /-- An integer too large for a signed word. -/
  | tooLarge (value : Int)
  /-- An array with more items than the record has members. -/
  | tooLong (length : Nat)

/-- The decimal text of an integer. -/
def integerText (n : Int) : String :=
  String.ofList (Decimal.intDigits n)

/-- What is said about a value that was found. -/
def found : Json → String
  | .null => "null"
  | .bool b => "boolean `" ++ (if b then "true" else "false") ++ "`"
  | .integer n => "integer `" ++ integerText n ++ "`"
  | .number x => "floating point `" ++ String.ofList (Json.layout.write x) ++ "`"
  | .text s => "string " ++ Text.quote s
  | .array _ => "sequence"
  | .object _ => "map"

/-- What is said about a fault. -/
def Reason.message : Reason → String
  | invalidType value wanted => "invalid type: " ++ found value ++ ", expected " ++ wanted
  | tooLarge value => "invalid value: integer `" ++ integerText value ++ "`, expected i64"
  | tooLong length =>
    "invalid length " ++ integerText length ++ ", expected fewer elements in array"

/-- A member and what is wrong with it. -/
structure Fault where
  member : String
  reason : Reason

/-- The fault whose member comes first by name. -/
def firstByName : Fault → List Fault → Fault
  | first, [] => first
  | first, next :: rest => firstByName (if next.member < first.member then next else first) rest

/-! ## Members -/

/-- How the value of a member is read. -/
abbrev Kind (α : Type) := Json → Except Reason α

variable {α β : Type}

def signed : Kind Int
  | .integer n => if n ≤ Json.maxSigned then .ok n else .error (.tooLarge n)
  | value => .error (.invalidType value "i64")

def words : Kind String
  | .text s => .ok s
  | value => .error (.invalidType value "a string")

/-- A list; its first bad item decides. -/
def list (kind : Kind α) : Kind (List α)
  | .array items => items.mapM kind
  | value => .error (.invalidType value "a sequence")

/-- A value that may be `null`. -/
def optional (kind : Kind α) : Kind (Option α)
  | .null => .ok none
  | value => (kind value).map some

def withDefault (default : α) (kind : Kind α) : Kind α
  | .null => .ok default
  | value => kind value

/-- A truth value, as itself, a number or a text. -/
def truth? : Json → Option Bool
  | .bool b => some b
  | .integer n => if n ≤ Json.maxSigned then some (n != 0) else none
  | .text "1" => some true
  | .text "true" => some true
  | .text "0" => some false
  | .text "false" => some false
  | _ => none

/-- A truth value with a default for everything that is none. -/
def flag (default : Bool) : Kind Bool :=
  fun value => .ok ((truth? value).getD default)

/-- A text, or the text of a number; anything else counts as none. -/
def looseWords : Kind (Option String)
  | .text s => .ok (some s)
  | .integer n => .ok (some (Json.render (.integer n)))
  | .number x => .ok (some (Json.render (.number x)))
  | _ => .ok none

/-! ## Records -/

structure RecordReader (α : Type) where
  names : List String
  /-- Makes a record of the members that are there. -/
  read : (String → Option Json) → Except (List Fault) α

namespace RecordReader

protected def pure (value : α) : RecordReader α := ⟨[], fun _ => .ok value⟩

/-- The members of one record before those of another; the faults of both are collected. -/
protected def seq (f : RecordReader (α → β)) (x : RecordReader α) : RecordReader β where
  names := f.names ++ x.names
  read member :=
    match f.read member, x.read member with
    | .ok g, .ok value => .ok (g value)
    | .ok _, .error faults => .error faults
    | .error faults, .ok _ => .error faults
    | .error faults, .error more => .error (faults ++ more)

protected def map (f : α → β) (x : RecordReader α) : RecordReader β :=
  ⟨x.names, fun member => (x.read member).map f⟩

instance : Functor RecordReader where
  map := RecordReader.map

instance : Seq RecordReader where
  seq f x := RecordReader.seq f (x ())

/-- A member by its name, what the record has without it, and how its value is read. -/
def member (name : String) (absent : α) (kind : Kind α) : RecordReader α :=
  ⟨[name], fun value? =>
    match value? name with
    | none => .ok absent
    | some value =>
      match kind value with
      | .ok a => .ok a
      | .error reason => .error [⟨name, reason⟩]⟩

/-- If the record has without a member what `null` is read as, the member is as good as `null`. -/
theorem read_member {name : String} {absent : α} {kind : Kind α} (h : kind .null = .ok absent)
    (value? : String → Option Json) :
    (member name absent kind).read value? =
      match kind ((value? name).getD .null) with
      | .ok a => .ok a
      | .error reason => .error [⟨name, reason⟩] := by
  simp only [member]
  cases value? name with
  | none => rw [Option.getD_none, h]
  | some value => rfl

/-- The member of an object. -/
def ofMembers (members : Entries Json) (name : String) : Option Json :=
  members.get? name

/-- The member of an array of values by its place. -/
def ofItems (names : List String) (items : List Json) (name : String) : Option Json :=
  items[names.idxOf name]?

/-- Reads a record of the given title. -/
def decode (reader : RecordReader α) (title : String) : Kind α
  | .object members =>
    match reader.read (ofMembers members) with
    | .ok value => .ok value
    | .error (first :: rest) => .error (firstByName first rest).reason
    | .error [] => .error (.invalidType (.object members) title)
  | .array items =>
    match reader.read (ofItems reader.names items) with
    | .ok value =>
      if reader.names.length < items.length then .error (.tooLong items.length) else .ok value
    | .error (first :: _) => .error first.reason
    | .error [] => .error (.invalidType (.array items) title)
  | value => .error (.invalidType value title)

end RecordReader

class Readable (α : Type) where
  /-- What a reply should have held, for the words of a fault. -/
  title : String
  reader : RecordReader α

def decode [Readable α] : Kind α :=
  (Readable.reader : RecordReader α).decode (Readable.title α)

end PanelClient.Record
