import PanelClient.Backend.Endpoint
import PanelClient.Http.Exchange
import PanelClient.Outcome.OfReply
import PanelClient.Session.Basic

/-!
# Calls to the backend

A call is what is asked of the backend; the client makes the request of it (`Client.request`) with
the credential that the session holds at that moment, and the outcome of the reply
(`Client.outcome`), which it logs. There is one request to a call, and no second try.
-/

namespace PanelClient

/-- What is asked of the backend: with a body it is posted, without one it is fetched. -/
structure Call where
  path : String
  body : Option (Entries Json)

/-- What makes requests of calls: the base address, without slashes at its end. -/
structure Client where
  baseUrl : String
deriving Repr

namespace Client

/-- The text without the slashes at its end. -/
def dropSlashes (url : String) : String :=
  String.ofList (url.toList.reverse.dropWhile (· == '/')).reverse

/-- The client for a base address. -/
def ofUrl (url : String) : Client := ⟨dropSlashes url⟩

/-- The header with the credential, unless trimming it leaves nothing. It is sent as it is. -/
def authorization (session : Session) : List (String × String) :=
  let credential := session.authData.expose
  if Text.trim credential = "" then [] else [("Authorization", credential)]

def method (call : Call) : Http.Method :=
  if call.body.isSome then .post else .get

def url (client : Client) (call : Call) : String :=
  client.baseUrl ++ call.path

def request (client : Client) (session : Session) (call : Call) : Http.Request where
  method := method call
  url := client.url call
  headers :=
    [("Content-Type", "application/json"), ("Accept", "application/json")] ++
      authorization session
  body := call.body.map fun members => Json.render (.object members)

/-- The outcome of a call's reply. -/
def outcome (client : Client) (call : Call) (reply : Http.Reply) : SessionM (Outcome Payload) := do
  let outcome := Outcome.ofReply reply
  SessionM.log (.requestFinished (method call) (client.url call) outcome.label)
  return outcome

end Client

end PanelClient
