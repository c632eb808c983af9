import PanelClient.Backend.Client
import PanelClient.Record.Account
import PanelClient.Record.Shop

/-!
# Operations

What a program does with the backend: sign in, read the account, order and pay. An operation is one
call and what is made of its outcome, which may change the session. A record that cannot be decoded
is a failure of the server; a list that cannot be decoded is taken as empty.
-/

namespace PanelClient

/-- One call to the backend and what becomes of its outcome. -/
structure Operation (α : Type) where
  call : Call
  complete : Outcome Payload → SessionM (Outcome α)

namespace Operation

variable {α : Type}

/-- The call that fetches an endpoint. -/
def fetch (endpoint : Endpoint) : Call := ⟨endpoint.path, none⟩

/-- The call that posts members to an endpoint. -/
def post (endpoint : Endpoint) (members : List (String × Json)) : Call :=
  ⟨endpoint.path, some (.ofPairs members)⟩

/-- A member that is left out if there is no text for it. -/
def optionalMember (name : String) (text : Option String) : List (String × Json) :=
  match text with
  | some text => [(name, .text text)]
  | none => []

/-- Works on the value of a success. -/
def onSuccess {β : Type} (next : β → SessionM (Outcome α)) (outcome : Outcome β) :
    SessionM (Outcome α) :=
  match outcome with
  | .success value => next value
  | .invalid message fieldErrors => pure (.invalid message fieldErrors)
  | .unauthorized message => pure (.unauthorized message)
  | .unreachable message => pure (.unreachable message)
  | .serverError message => pure (.serverError message)

/-- The record that a value holds. -/
def decodeRecord [Record.Readable α] (what : String) (value : Json) : SessionM (Outcome α) :=
  match (Record.decode value : Except Record.Reason α) with
  | .ok record => pure (.success record)
  | .error reason => do
    SessionM.log (.recordMalformed what reason.message)
    return .serverError ("Failed to decode " ++ what ++ ": " ++ reason.message)

/-- The records that a value lists. -/
def decodeList [Record.Readable α] (what : String) (value : Json) : SessionM (List α) :=
  match Record.list (Record.decode : Record.Kind α) value with
  | .ok records => pure records
  | .error reason => do
    SessionM.log (.listMalformed what reason.message)
    return []

def fetchRecord (α : Type) [Record.Readable α] (endpoint : Endpoint) (what : String) :
    Operation α where
  call := fetch endpoint
  complete := onSuccess fun payload => decodeRecord what payload.data

def fetchList (α : Type) [Record.Readable α] (endpoint : Endpoint) (what : String) :
    Operation (List α) where
  call := fetch endpoint
  complete := onSuccess fun payload => do return .success (← decodeList what payload.data)

/-- Posts members and wants no answer. -/
def command (endpoint : Endpoint) (members : List (String × Json)) : Operation Unit where
  call := post endpoint members
  complete := fun outcome => pure (outcome.map fun _ => ())

/-- Stores the credential of a sign-in, if there is one. -/
def remember (email : String) (signIn : SignIn) : SessionM (Outcome SignIn) :=
  if Text.isBlank signIn.credential then pure (.success signIn)
  else do
    match ← Session.storeCredentials signIn.credential (signIn.token.getD "") email with
    | .ok () => return .success signIn
    | .error error => do
      SessionM.log (.signInNotPersisted error.message)
      return .serverError ("Failed to save session: " ++ error.message)

def signIn (endpoint : Endpoint) (what email : String) (members : List (String × Json)) :
    Operation SignIn where
  call := post endpoint members
  complete := onSuccess fun payload => do
    onSuccess (remember email) (← decodeRecord what payload.data)

/-! ## The account -/

def login (email password : String) : Operation SignIn :=
  signIn .login "login response" email [("email", .text email), ("password", .text password)]

/-- Creates an account and signs in. -/
def register (email password : String) (inviteCode emailCode : Option String) :
    Operation SignIn :=
  signIn .register "register response" email
    ([("email", .text email), ("password", .text password)] ++
      optionalMember "invite_code" inviteCode ++ optionalMember "email_code" emailCode)

def forgotPassword (email password emailCode : String) : Operation Unit :=
  command .forgotPassword
    [("email", .text email), ("password", .text password), ("email_code", .text emailCode)]

def sendEmailVerify (email : String) : Operation Unit :=
  command .sendEmailVerify [("email", .text email)]

def getConfig : Operation SystemConfig :=
  fetchRecord SystemConfig .systemConfig "system config"

def getUserInfo : Operation UserInfo :=
  fetchRecord UserInfo .userInfo "user info"

/-- The subscription; its address is remembered unless it is blank. -/
def getSubscribe : Operation Subscription where
  call := fetch .subscription
  complete := onSuccess fun payload => do
    match ← decodeRecord "subscription" payload.data with
    | .success (subscription : Subscription) => do
      if !Text.isBlank subscription.subscribeUrl then
        Session.setSubscribeUrl subscription.subscribeUrl
      return .success subscription
    | failure => return failure

def getDashboardStats : Operation DashboardStats :=
  fetchRecord DashboardStats .dashboardStats "dashboard stats"

/-! ## The shop -/

/-- The plans for the signed-in user. -/
def getPlans : Operation (List Plan) := fetchList Plan .plans "plans"

/-- The plans that are shown to everyone. -/
def getPublicPlans : Operation (List Plan) := fetchList Plan .publicPlans "public plans"

/-- The servers that the user may use. -/
def getServers : Operation (List ServerNode) := fetchList ServerNode .servers "servers"

def getOrders : Operation (List Order) := fetchList Order .orders "orders"

def getPaymentMethods : Operation (List PaymentMethod) :=
  fetchList PaymentMethod .paymentMethods "payment methods"

/-- The number of an order: a text as it is, anything else as JSON. -/
def tradeNumber : Json → String
  | .text tradeNo => tradeNo
  | value => Json.render value

/-- Creates an order; the value is its number. -/
def createOrder (planId : Int) (period : String) (couponCode : Option String) :
    Operation String where
  call := post .createOrder
    ([("plan_id", .integer planId), ("period", .text period)] ++
      optionalMember "coupon_code" couponCode)
  complete := fun outcome => pure (outcome.map fun payload => tradeNumber payload.data)

/-- The part of a payload that says what is to be done about a payment: the whole body if it has a
member `type`, for that stands beside `data`. -/
def checkoutSource (payload : Payload) : Json :=
  if (payload.envelope.member? "type").isSome then payload.envelope else payload.data

def checkoutOrder (tradeNo : String) (method : Int) : Operation CheckoutResult where
  call := post .checkoutOrder [("trade_no", .text tradeNo), ("method", .integer method)]
  complete := onSuccess fun payload => decodeRecord "checkout result" (checkoutSource payload)

/-- Signs out. Nothing is sent, and it cannot fail. -/
def logout : SessionM Unit :=
  Session.clear

/-- What becomes of an operation when its call is answered. -/
def finish (operation : Operation α) (client : Client) (reply : Http.Reply) :
    SessionM (Outcome α) := do
  operation.complete (← client.outcome operation.call reply)

end Operation

end PanelClient
