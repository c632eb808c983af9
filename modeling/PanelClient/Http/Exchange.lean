/-!
# Exchanges

What passes between the client and the network: a request with its method, address, headers and, for
a `post`, the text of the body; and a reply, which is a status with the text of a body, or the
reason why there is none. The phases of an exchange are limited in whole seconds. A duration holds
64 bits of seconds, so a sum of limits may not exist.
-/

namespace PanelClient.Http

/-! ## Requests -/

inductive Method where
  | get
  | post
deriving DecidableEq, Repr

def Method.name : Method → String
  | get => "GET"
  | post => "POST"

/-- A request with everything that is sent. -/
structure Request where
  method : Method
  url : String
  /-- Names and values in the order in which they are sent. -/
  headers : List (String × String)
  body : Option String
deriving DecidableEq, Repr

/-- Two header names agree up to the case of ASCII letters. -/
def sameHeaderName (a b : String) : Bool :=
  a.toList.map Char.toLower == b.toList.map Char.toLower

/-- The value of the first header with the name. -/
def Request.header? (request : Request) (name : String) : Option String :=
  (request.headers.find? fun header => sameHeaderName header.1 name).map Prod.snd

/-! ## Replies -/

/-- Why an exchange brought no response. -/
inductive Failure where
  | timeout (text : String)
  | connection (text : String)
  | inputOutput (text : String)
  /-- The request could not be sent at all. -/
  | invalidRequest (text : String)
deriving DecidableEq, Repr

/-- What is said about a failure. -/
def Failure.message : Failure → String
  | timeout text => "Request timed out: " ++ text
  | connection text => "Connection failed: " ++ text
  | inputOutput text => "I/O error: " ++ text
  | invalidRequest text => "Invalid request: " ++ text

/-- The network itself failed, rather than the request. -/
def Failure.isNetwork : Failure → Bool
  | invalidRequest _ => false
  | _ => true

/-- What comes back for a request. -/
inductive Reply where
  | response (status : Nat) (body : String)
  | failure (failure : Failure)
deriving DecidableEq, Repr

/-! ## Timeouts -/

/-- The greatest number of whole seconds in a duration. -/
def maxSeconds : Nat := 0xFFFFFFFFFFFFFFFF

/-- The sum of two durations, unless it is too long. -/
def addSeconds? (a b : Nat) : Option Nat :=
  if a + b ≤ maxSeconds then some (a + b) else none

/-- The limits of the phases, in seconds. -/
structure Timeouts where
  connect : Nat := 10
  read : Nat := 10
  write : Nat := 10
deriving DecidableEq, Repr

/-- The limit of an exchange once it is connected. -/
def Timeouts.request? (t : Timeouts) : Option Nat :=
  addSeconds? t.read t.write

/-- The limit of an exchange with its connection. -/
def Timeouts.total? (t : Timeouts) : Option Nat :=
  t.request?.bind (addSeconds? t.connect)

/-- What is reported when a sum of durations is too long. -/
def overflowMessage : String := "overflow when adding durations"

end PanelClient.Http
