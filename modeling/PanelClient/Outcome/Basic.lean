import PanelClient.Entries

/-!
# Outcomes

Every operation on the panel's backend ends in one of five ways, whatever it asked for; only the
value of a success differs.
-/

namespace PanelClient

/-- The messages about each input field, as the backend names the fields. -/
abbrev FieldErrors := Entries (List String)

inductive Outcome (α : Type) where
  | success (value : α)
  /-- The input was refused. There may be no field errors, then the message is all there is. -/
  | invalid (message : String) (fieldErrors : FieldErrors)
  /-- The credential or session was refused. -/
  | unauthorized (message : String)
  /-- The exchange could not be completed. -/
  | unreachable (message : String)
  /-- The backend failed, or its response fits nothing else. -/
  | serverError (message : String)
deriving DecidableEq, Repr

namespace Outcome

variable {α β : Type}

def invalidInput (message : String) : Outcome α :=
  invalid message []

/-- Goes on with the value of a success; a failure stays as it is. -/
def andThen (outcome : Outcome α) (next : α → Outcome β) : Outcome β :=
  match outcome with
  | success value => next value
  | invalid message fieldErrors => invalid message fieldErrors
  | unauthorized message => unauthorized message
  | unreachable message => unreachable message
  | serverError message => serverError message

/-- Changes the value of a success. -/
def map (f : α → β) (outcome : Outcome α) : Outcome β :=
  outcome.andThen fun value => success (f value)

def value? : Outcome α → Option α
  | success value => some value
  | _ => none

def isSuccess (outcome : Outcome α) : Bool :=
  outcome.value?.isSome

/-- The kind of the outcome, for the log. -/
def label : Outcome α → String
  | success _ => "success"
  | invalid .. => "validation_error"
  | unauthorized _ => "auth_error"
  | unreachable _ => "network_error"
  | serverError _ => "server_error"

end Outcome

end PanelClient
