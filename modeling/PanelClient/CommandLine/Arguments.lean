import PanelClient.Decimal.Shortest
import PanelClient.Entries

/-!
# Arguments

What a user asks for on the command line: a command with its options, each of them a name after two
dashes and a value, which stands behind an equals sign or is the next argument. The option
`--config` may stand anywhere.
-/

namespace PanelClient.CommandLine

/-- What a user can ask for. -/
inductive Command where
  | login (email password : String)
  | register (email password : String) (confirmPassword inviteCode emailCode : Option String)
  | sendCode (email : String)
  | resetPassword (email emailCode password : String)
  | logout
  | dashboard
  | plans
  | checkout (planId : Int) (period : String) (method : Int) (coupon : Option String)
  | userInfo
deriving DecidableEq, Repr

/-- A command, and the configuration to be used unless it is the usual one. -/
structure Invocation where
  config : Option String
  command : Command
deriving DecidableEq, Repr

inductive Asked where
  | run (invocation : Invocation)
  | help
  | version
  /-- The arguments make no sense. -/
  | refused
deriving DecidableEq, Repr

/-! ## Values -/

/-- An integer in decimal digits, with or without a sign. -/
def integer? (text : String) : Option Int :=
  let magnitude? (digits : List Char) : Option Int :=
    if !digits.isEmpty && digits.all Char.isDigit then
      some (digits.foldl (fun n c => 10 * n + (c.toNat - '0'.toNat)) 0)
    else none
  match text.toList with
  | '-' :: digits => (magnitude? digits).map fun n => -n
  | '+' :: digits => magnitude? digits
  | digits => magnitude? digits

/-- An integer of 64 bits. -/
def integer64? (text : String) : Option Int :=
  (integer? text).filter fun n => -0x8000000000000000 ≤ n && n ≤ 0x7FFFFFFFFFFFFFFF

/-- What an option may be given. -/
inductive Kind where
  | text
  | integer
  /-- A path, which is not empty. -/
  | path
deriving DecidableEq, Repr

/-- The option may be given the value. -/
def Kind.takes (kind : Kind) (value : String) : Bool :=
  match kind with
  | text => true
  | integer => (integer64? value).isSome
  | path => !value.isEmpty

/-- The options of a command that have been given. -/
abbrev Given := Entries String

/-- The value of an option that is an integer. -/
def Given.integer? (given : Given) (name : String) : Option Int :=
  (Entries.get? name given).bind integer64?

/-! ## Commands -/

/-- A command: its name, its options, and what it makes of those given. -/
structure Signature where
  name : String
  options : List (String × Kind)
  command? : Given → Option Command

def signatures : List Signature :=
  [{ name := "login"
     options := [("email", .text), ("password", .text)]
     command? := fun given => do
      return .login (← given.get? "email") (← given.get? "password") },
    { name := "register"
      options :=
        [("email", .text), ("password", .text), ("confirm-password", .text),
          ("invite-code", .text), ("email-code", .text)]
      command? := fun given => do
        return .register (← given.get? "email") (← given.get? "password")
          (given.get? "confirm-password") (given.get? "invite-code") (given.get? "email-code") },
    { name := "send-code"
      options := [("email", .text)]
      command? := fun given => do return .sendCode (← given.get? "email") },
    { name := "reset-password"
      options := [("email", .text), ("email-code", .text), ("password", .text)]
      command? := fun given => do
        return .resetPassword (← given.get? "email") (← given.get? "email-code")
          (← given.get? "password") },
    { name := "logout", options := [], command? := fun _ => some .logout },
    { name := "dashboard", options := [], command? := fun _ => some .dashboard },
    { name := "plans", options := [], command? := fun _ => some .plans },
    { name := "checkout"
      options :=
        [("plan-id", .integer), ("period", .text), ("method", .integer), ("coupon", .text)]
      command? := fun given => do
        return .checkout (← given.integer? "plan-id") (← given.get? "period")
          (← given.integer? "method") (given.get? "coupon") },
    { name := "user-info", options := [], command? := fun _ => some .userInfo }]

def signature? (name : String) : Option Signature :=
  signatures.find? fun signature => signature.name == name

/-! ## Reading -/

/-- The option that may stand anywhere. -/
def everywhere : List (String × Kind) := [("config", .path)]

inductive Argument where
  | word (text : String)
  /-- An option by its full name, with the value behind its equals sign. -/
  | option (name : String) (value : Option String)
  /-- Options of one letter. -/
  | letters (first : Char)
  /-- Two dashes: after them all arguments are words. -/
  | escape
deriving DecidableEq, Repr

/-- What stands before and after the first equals sign. -/
def splitEquals : List Char → List Char × Option (List Char)
  | [] => ([], none)
  | c :: rest =>
    if c == '=' then ([], some rest)
    else
      let (name, value) := splitEquals rest
      (c :: name, value)

def Argument.ofText (text : String) : Argument :=
  match text.toList with
  | ['-', '-'] => escape
  | '-' :: '-' :: rest =>
    let (name, value) := splitEquals rest
    option (String.ofList name) (value.map String.ofList)
  | '-' :: c :: _ => letters c
  | _ => word text

/-- How far the reading of a command's options got. -/
inductive Scanned where
  /-- There are no more arguments. -/
  | ended (given : Given)
  /-- A word that belongs to no option, and the arguments after it. -/
  | word (given : Given) (text : String) (rest : List String)
  | stopped (asked : Asked)

/-- Gives an option its value, once. -/
def give (options : List (String × Kind)) (given : Given) (name value : String) : Option Given := do
  let (_, kind) ← options.find? fun option => option.1 == name
  if kind.takes value && !given.contains name then some (given.insert name value) else none

/-- Reads options up to a word that belongs to none. Whether the version can be asked for depends on
the place. -/
def scan (options : List (String × Kind)) (hasVersion : Bool) (given : Given) :
    List String → Scanned
  | [] => .ended given
  | argument :: rest =>
    match Argument.ofText argument with
    | .word text => .word given text rest
    | .escape => if rest.isEmpty then .ended given else .stopped .refused
    | .letters 'h' => .stopped .help
    | .letters 'V' => .stopped (if hasVersion then .version else .refused)
    | .letters _ => .stopped .refused
    | .option "help" none => .stopped .help
    | .option "version" none => .stopped (if hasVersion then .version else .refused)
    | .option name (some value) =>
      match give options given name value with
      | some given => scan options hasVersion given rest
      | none => .stopped .refused
    | .option name none =>
      match rest with
      | [] => .stopped .refused
      | next :: rest =>
        match Argument.ofText next with
        | .word value =>
          match give options given name value with
          | some given => scan options hasVersion given rest
          | none => .stopped .refused
        | _ => .stopped .refused

/-- Reads the options of a command. -/
def askCommand (signature : Signature) (config : Option String) (arguments : List String) : Asked :=
  match scan (signature.options ++ everywhere) false [] arguments with
  | .ended given =>
    match signature.command? given with
    | some command => .run ⟨(given.get? "config").or config, command⟩
    | none => .refused
  | .word .. => .refused
  | .stopped asked => asked

def ask (arguments : List String) : Asked :=
  match scan everywhere true [] arguments with
  | .ended _ => .refused
  | .word given name rest =>
    match signature? name with
    | some signature => askCommand signature (given.get? "config") rest
    | none =>
      if name = "help" then
        match rest with
        | [] => .help
        | [command] => if (signature? command).isSome || command == "help" then .help else .refused
        | _ => .refused
      else .refused
  | .stopped asked => asked

end PanelClient.CommandLine
