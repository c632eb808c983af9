import PanelClient.Config.Basic
import PanelClient.Store.Disk
import PanelClient.Toml.Document

/-!
# Reading a configuration

A configuration is a document with four tables. Each has its fields by name, or is an array of them
in order; what is missing has its default, and what is unknown is passed over, as long as it can be
read at all.
-/

namespace PanelClient

open Toml (Value Members)

namespace Toml

mutual

/-- The numbers of a value are in range. -/
def Value.isReadable : Value → Bool
  | .integer n =>
    -0x80000000000000000000000000000000 ≤ n && n ≤ 0xFFFFFFFFFFFFFFFFFFFFFFFFFFFFFFFF
  | .float inRange => inRange
  | .array items => areReadable items
  | .table _ members => membersReadable members
  | .tables items => tablesReadable items
  | .text _ | .boolean _ | .time => true

/-- The numbers of all values are in range. -/
def areReadable : List Value → Bool
  | [] => true
  | value :: rest => value.isReadable && areReadable rest

/-- The numbers of all members are in range. -/
def membersReadable : List (String × Value) → Bool
  | [] => true
  | (_, value) :: rest => value.isReadable && membersReadable rest

/-- The numbers of all tables are in range. -/
def tablesReadable : List (List (String × Value)) → Bool
  | [] => true
  | members :: rest => membersReadable members && tablesReadable rest

end

end Toml

namespace Config

/-- The fields of a record: by name, or in order. -/
inductive Fields where
  | named (members : Members)
  | ordered (items : List Value)

namespace Fields

/-- The fields that a value holds. A time has none that anyone asks for. -/
def ofValue? : Value → Option Fields
  | .table _ members => some (named members)
  | .array items => some (ordered items)
  | .tables items => some (ordered (items.map (Value.table .header)))
  | .time => some (named [])
  | _ => none

/-- The value of the field that has a name and a place. -/
def value? (fields : Fields) (name : String) (place : Nat) : Option Value :=
  match fields with
  | named members => members.get? name
  | ordered items => items[place]?

/-- What is passed over can be read. -/
def restReadable (fields : Fields) (names : List String) : Bool :=
  match fields with
  | named members => members.all fun (name, value) => names.contains name || value.isReadable
  | ordered _ => true

/-- A field's value, or the default if it is missing. -/
def read {α : Type} (kind : Value → Option α) (fields : Fields) (name : String) (place : Nat)
    (default : α) : Option α :=
  match fields.value? name place with
  | none => some default
  | some value => kind value

end Fields

def text? : Value → Option String
  | .text text => some text
  | _ => none

def numberBelow? (bound : Nat) : Value → Option Nat
  | .integer n => if 0 ≤ n ∧ n < bound then some n.toNat else none
  | _ => none

/-- A record whose fields have these names, read by `fill`. A record that is missing is empty. -/
def record? (value : Option Value) (names : List String) (fill : Fields → Option Config) :
    Option Config := do
  let fields ← match value with
    | none => some (.named [])
    | some value => Fields.ofValue? value
  if fields.restReadable names then fill fields else none

/-- The names of the backend's fields, in order. -/
def backendNames : List String :=
  ["base_url", "connect_timeout_seconds", "read_timeout_seconds", "write_timeout_seconds"]

/-- With what a document says about the backend. -/
def readBackend (value : Option Value) (config : Config) : Option Config :=
  record? value backendNames fun fields => do
    let seconds := numberBelow? UInt64.size
    return { config with
      baseUrl := ← fields.read text? "base_url" 0 config.baseUrl
      timeouts :=
        { connect := ← fields.read seconds "connect_timeout_seconds" 1 config.timeouts.connect
          read := ← fields.read seconds "read_timeout_seconds" 2 config.timeouts.read
          write := ← fields.read seconds "write_timeout_seconds" 3 config.timeouts.write } }

/-- With what a document says about the session. -/
def readSession (value : Option Value) (config : Config) : Option Config :=
  record? value ["path"] fun fields => do
    let path := fun value => (text? value).map some
    return { config with sessionPath := ← fields.read path "path" 0 config.sessionPath }

/-- With what a document says about the screens. -/
def readScreens (value : Option Value) (config : Config) : Option Config :=
  record? value ["email_code_cooldown_seconds"] fun fields => do
    let seconds := numberBelow? UInt32.size
    return { config with
      emailCodeCooldown :=
        ← fields.read seconds "email_code_cooldown_seconds" 0 config.emailCodeCooldown }

/-- With what a document says about the log. -/
def readLogging (value : Option Value) (config : Config) : Option Config :=
  record? value ["filter"] fun fields => do
    return { config with logFilter := ← fields.read text? "filter" 0 config.logFilter }

def ofMembers? (members : Members) : Option Config := do
  let config ← readBackend (members.get? "api") {}
  let config ← readSession (members.get? "session") config
  let config ← readScreens (members.get? "ui") config
  let config ← readLogging (members.get? "logging") config
  if (Fields.named members).restReadable ["api", "session", "ui", "logging"] then some config
  else none

inductive LoadError where
  | unreadable (cause : String)
  | malformed
  | refused (objection : Objection)
deriving DecidableEq, Repr

def ofText (text : String) : Except LoadError Config :=
  match (Toml.parse? text).bind ofMembers? with
  | none => .error .malformed
  | some config =>
    match config.objection? with
    | none => .ok config
    | some objection => .error (.refused objection)

/-- The configuration at a place on the disk; where there is no file, all is as usual. -/
def load (disk : Disk) : Except LoadError Config :=
  match disk.read with
  | .error cause => .error (.unreadable cause)
  | .ok none => .ok {}
  | .ok (some text) => ofText text

end Config

end PanelClient
