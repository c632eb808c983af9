import PanelClient.Http.Exchange
import PanelClient.Json.Printer
import PanelClient.Json.Reader
import PanelClient.Outcome.Basic

/-!
# Outcomes of replies

Every reply has an outcome (`Outcome.ofReply`). The status alone decides which kind it is; the body
only supplies the value of a success, or the words of a failure.
-/

namespace PanelClient

/-- The value of a successful exchange: the whole body, and the part of it that was asked for. -/
structure Payload where
  /-- The member `data` of the body if there is one, or else the whole body. -/
  data : Json
  envelope : Json
deriving Inhabited

/-- The payload of a body with a value. -/
def Payload.ofEnvelope (envelope : Json) : Payload :=
  ⟨(envelope.member? "data").getD envelope, envelope⟩

/-- The payload of any body. One that is not JSON is taken as a text. -/
def Payload.ofBody (body : String) : Payload :=
  match Json.parse? body with
  | some envelope => .ofEnvelope envelope
  | none => ⟨.text body, .text body⟩

namespace Outcome

variable {α : Type}

/-- The members of a body that is a JSON object. -/
def bodyMembers? (body : String) : Option (Entries Json) :=
  (Json.parse? body).bind Json.members?

/-- The words of a member: a text as it is, a number or truth value as it is written. -/
def words? : Json → Option String
  | .text value => some value
  | .integer value => some (Json.render (.integer value))
  | .number value => some (Json.render (.number value))
  | .bool value => some (Json.render (.bool value))
  | _ => none

/-- The member `message` of a body. -/
def message? (body : String) : Option String :=
  ((bodyMembers? body).bind (Entries.get? "message")).bind words?

/-- The texts of an array of texts. -/
def texts? (value : Json) : Option (List String) :=
  value.items?.bind fun items => items.mapM Json.text?

/-- The field errors of an object whose members are all arrays of texts. -/
def fieldErrors? (value : Json) : Option FieldErrors :=
  value.members?.bind fun members =>
    members.mapM fun (field, messages) => (texts? messages).map fun texts => (field, texts)

/-- The member `errors` of a body, or none if it is malformed. -/
def bodyFieldErrors (body : String) : FieldErrors :=
  (((bodyMembers? body).bind (Entries.get? "errors")).bind fieldErrors?).getD []

/-- What is said of a failure without words of its own. -/
def fallback (status : Nat) : String :=
  let number := String.ofList (Decimal.natDigits status)
  if status = 401 ∨ status = 403 then "Authentication failed"
  else if status = 422 then "Validation error"
  else if 500 ≤ status ∧ status ≤ 599 then "Server error (" ++ number ++ ")"
  else "Request failed (" ++ number ++ ")"

def ofResponse (status : Nat) (body : String) : Outcome Payload :=
  let message := (message? body).getD (fallback status)
  if status = 200 then success (.ofBody body)
  else if status = 401 ∨ status = 403 then unauthorized message
  else if status = 422 then invalid message (bodyFieldErrors body)
  else serverError message

/-- The outcome of an exchange without a response. -/
def ofFailure (failure : Http.Failure) : Outcome α :=
  if failure.isNetwork then unreachable failure.message else serverError failure.message

def ofReply : Http.Reply → Outcome Payload
  | .response status body => ofResponse status body
  | .failure failure => ofFailure failure

end Outcome

end PanelClient
