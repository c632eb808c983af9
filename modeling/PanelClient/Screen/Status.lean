import PanelClient.Inspect
import PanelClient.Outcome.Basic

/-!
# Status of a view

What every view shows besides its own content: whether something is going on, an error at each input
field, and a general error. `Status.showing` says how a failed outcome is shown.
-/

namespace PanelClient

open Inspect (Shape Shown)

/-- An input that an error can point at. -/
inductive Field where
  | email
  | password
  | emailCode
  | inviteCode
deriving DecidableEq, Repr

namespace Field

/-- All inputs, in the order in which their errors are listed. -/
def all : List Field := [email, password, emailCode, inviteCode]

/-- How the backend names the input. -/
def key : Field → String
  | email => "email"
  | password => "password"
  | emailCode => "email_code"
  | inviteCode => "invite_code"

/-- The input that the backend names so. -/
def ofKey? (key : String) : Option Field :=
  all.find? fun field => field.key == key

/-- The name that is shown of an input. -/
def name : Field → String
  | email => "Email"
  | password => "Password"
  | emailCode => "EmailCode"
  | inviteCode => "InviteCode"

theorem mem_all (field : Field) : field ∈ all := by cases field <;> decide

@[simp] theorem ofKey?_key (field : Field) : ofKey? field.key = some field := by
  cases field <;> decide

end Field

structure Status where
  loading : Bool
  fieldError : Field → Option String
  /-- A message that belongs to no input. -/
  generalError : Option String

namespace Status

/-- Nothing going on and nothing wrong. -/
def initial : Status := ⟨false, fun _ => none, none⟩

instance : Inhabited Status := ⟨initial⟩

/-- The errors at inputs, in order. -/
def fieldErrors (status : Status) : List (Field × String) :=
  Field.all.filterMap fun field => (status.fieldError field).map fun text => (field, text)

/-- There is an error at an input. -/
def hasFieldErrors (status : Status) : Bool :=
  Field.all.any fun field => (status.fieldError field).isSome

def hasErrors (status : Status) : Bool :=
  status.hasFieldErrors || status.generalError.isSome

/-- Something is going on, or no longer. -/
def setLoading (loading : Bool) (status : Status) : Status :=
  { status with loading }

def clearErrors (status : Status) : Status :=
  { status with fieldError := fun _ => none, generalError := none }

/-- With an error at an input. -/
def setFieldError (field : Field) (message : String) (status : Status) : Status :=
  { status with fieldError := fun f => if f = field then some message else status.fieldError f }

def setGeneralError (message : String) (status : Status) : Status :=
  { status with generalError := some message }

/-- With a general error, and nothing going on. -/
def fail (message : String) (status : Status) : Status :=
  (status.setGeneralError message).setLoading false

/-- What is said when the network fails. -/
def networkError : String := "Network error, please check your connection"

/-- With the first message about each input that the view has. -/
def setFieldErrors (shown : List Field) (fieldErrors : FieldErrors) (status : Status) : Status :=
  fieldErrors.foldl (fun status (key, messages) =>
    match Field.ofKey? key, messages with
    | some field, first :: _ =>
      if shown.contains field then status.setFieldError field first else status
    | _, _ => status) status

/-- With the errors of a failed outcome. Field errors go to the inputs that the view has; if there
is none at any input, the general message is shown. -/
def showing {α : Type} (outcome : Outcome α) (shown : List Field) (status : Status) : Status :=
  match outcome with
  | .success _ => status
  | .invalid message fieldErrors =>
    let status := status.setFieldErrors shown fieldErrors
    if status.hasFieldErrors then status else status.setGeneralError message
  | .unauthorized message | .serverError message => status.setGeneralError message
  | .unreachable _ => status.setGeneralError networkError

end Status

instance : Shown Status where
  shape status := .record "ViewStatus"
    [("loading", .bool status.loading),
      ("field_errors",
        .entries (status.fieldErrors.map fun (field, text) => (field.name, .text text))),
      ("general_error", .option .text status.generalError)]

/-- A view state with a status. -/
class HasStatus (σ : Type) where
  status : σ → Status
  setStatus : Status → σ → σ

/-- Changes the status of a view. -/
def HasStatus.modify {σ : Type} [HasStatus σ] (change : Status → Status) (view : σ) : σ :=
  setStatus (change (status view)) view

end PanelClient
