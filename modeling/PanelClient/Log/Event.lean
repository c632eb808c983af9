import PanelClient.Http.Exchange
import PanelClient.Screen.Effect

/-!
# Log events

Everything the library writes to its log, as data: what happened, how important it is (`level`), and
the named texts that are written (`fields`).
-/

namespace PanelClient.Log

inductive Level where
  | error
  | warn
  | info
  | debug
  | trace
deriving DecidableEq, Repr

def Level.name : Level → String
  | error => "ERROR"
  | warn => "WARN"
  | info => "INFO"
  | debug => "DEBUG"
  | trace => "TRACE"

inductive Event where
  | requestFinished (method : Http.Method) (url outcome : String)
  /-- A record in a reply could not be decoded. -/
  | recordMalformed (what reason : String)
  /-- A list in a reply could not be decoded and is taken as empty. -/
  | listMalformed (what reason : String)
  | credentialsStored (email : String)
  /-- A session value could not be written and lasts for this process only. -/
  | valueNotPersisted (key error : String)
  | sessionCleared
  /-- The credentials of a sign-in could not be written. -/
  | signInNotPersisted (error : String)
  | subscriptionAvailable (profile origin : String)
  | importFailed (error : String)
  | nothingToImport
  | subscriptionUnavailable (outcome : String)
  | screenStarted (screen : String)
  | screenLeftWhileLoading (screen : String)
  | screenTerminated (screen : String)
  | lifecycleTaken (screen : String) (lifecycle : Lifecycle)
  /-- A screen begins to handle a request, which is shown on one line. -/
  | requestTaken (screen request : String)
  | effectEmitted (effect : Effect)
  | cooldownCancelled (generation : Nat)
  /-- A host waited for a screen that is gone. -/
  | settledByTermination
  /-- A handler broke off with a message. -/
  | screenBroken (message : String)
  | orderCreated (tradeNo : String)
  | orderFailed (outcome : String)
  | checkoutFailed (outcome : String)
  | checkoutUnexpected (kind : Int)
  | planNotListed (planId : Int)
  | userInfoUnavailable (outcome : String)
  | planNameUnavailable (planId : Int) (outcome : String)
  | registrationConfigUnavailable (outcome : String)
deriving DecidableEq

namespace Event

def level : Event → Level
  | signInNotPersisted _ => .error
  | recordMalformed .. | listMalformed .. | valueNotPersisted .. | importFailed _
  | subscriptionUnavailable _ | screenBroken _ | orderFailed _ | checkoutFailed _
  | checkoutUnexpected _ | planNotListed _ => .warn
  | credentialsStored _ | sessionCleared | subscriptionAvailable .. | screenStarted _
  | screenLeftWhileLoading _ | screenTerminated _ | orderCreated _ => .info
  | requestFinished .. | nothingToImport | lifecycleTaken .. | requestTaken .. | effectEmitted _
  | cooldownCancelled _ | userInfoUnavailable _ | planNameUnavailable ..
  | registrationConfigUnavailable _ => .debug
  | settledByTermination => .trace

def message : Event → String
  | requestFinished .. => "API request finished"
  | recordMalformed what _ => "Failed to decode " ++ what
  | listMalformed what _ => "Malformed " ++ what ++ " payload, treating as empty"
  | credentialsStored _ => "Session credentials stored"
  | valueNotPersisted .. => "Failed to persist session value"
  | sessionCleared => "Session cleared"
  | signInNotPersisted _ => "Failed to persist session"
  | subscriptionAvailable .. => "Subscription available for import"
  | importFailed _ => "Subscription import failed"
  | nothingToImport => "No subscription URL to import"
  | subscriptionUnavailable _ => "Subscription fetch failed"
  | screenStarted _ => "Screen started"
  | screenLeftWhileLoading _ => "Screen torn down while loading"
  | screenTerminated _ => "Screen terminated"
  | lifecycleTaken .. => "Lifecycle event"
  | requestTaken .. => "Screen request"
  | effectEmitted _ => "Screen effect"
  | cooldownCancelled _ => "Cooldown cancelled"
  | settledByTermination => "Screen settled by termination"
  | screenBroken _ => "Screen task ended abnormally"
  | orderCreated _ => "Order created"
  | orderFailed _ => "Order creation failed"
  | checkoutFailed _ => "Checkout failed"
  | checkoutUnexpected _ => "Unexpected checkout result"
  | planNotListed _ => "Plan not in plan list"
  | userInfoUnavailable _ => "User info unavailable"
  | planNameUnavailable .. => "Plan name lookup failed"
  | registrationConfigUnavailable _ => "Registration config unavailable"

/-- The decimal text of an integer. -/
def integerText (n : Int) : String :=
  String.ofList (Decimal.intDigits n)

/-- What is written beside the sentence. -/
def details : Event → List (String × String)
  | requestFinished method url outcome =>
    [("method", method.name), ("url", url), ("outcome", outcome)]
  | recordMalformed _ reason | listMalformed _ reason => [("error", reason)]
  | credentialsStored email => [("email", email)]
  | valueNotPersisted key error => [("key", key), ("error", error)]
  | signInNotPersisted error | importFailed error => [("error", error)]
  | subscriptionAvailable profile origin => [("origin", origin), ("profile", profile)]
  | screenStarted screen | screenLeftWhileLoading screen | screenTerminated screen =>
    [("screen", screen)]
  | lifecycleTaken screen lifecycle =>
    [("screen", screen), ("event", Inspect.line lifecycle)]
  | requestTaken screen request => [("screen", screen), ("request", request)]
  | effectEmitted effect => [("effect", Inspect.line effect)]
  | cooldownCancelled generation => [("generation", integerText generation)]
  | screenBroken message =>
    [("error", "task N panicked with message " ++ Text.quote message)]
  | orderCreated tradeNo => [("trade_no", tradeNo)]
  | subscriptionUnavailable outcome | orderFailed outcome | checkoutFailed outcome
  | userInfoUnavailable outcome | registrationConfigUnavailable outcome =>
    [("outcome", outcome)]
  | checkoutUnexpected kind => [("kind", integerText kind)]
  | planNotListed planId => [("plan_id", integerText planId)]
  | planNameUnavailable planId outcome =>
    [("plan_id", integerText planId), ("outcome", outcome)]
  | sessionCleared | nothingToImport | settledByTermination => []

def fields (event : Event) : List (String × String) :=
  ("message", event.message) :: event.details

end Event

end PanelClient.Log
