import PanelClient.Inspect
import PanelClient.Log.Event
import PanelClient.Store.Basic
import PanelClient.Text.Blank

/-!
# The session

The session is the credential of the signed-in user, who that is, and what goes with it, kept in a
store. A credential is a secret: showing it reveals nothing, and only `Secret.expose` gives the text
itself. Work on the session (`SessionM`) may change it and writes events to the log. A failure to
write the credentials of a sign-in is reported; other changes that cannot be written are only
logged.
-/

namespace PanelClient

open Log (Event)

/-! ## Secrets -/

/-- A text that is not shown. -/
structure Secret where
  expose : String
deriving DecidableEq

namespace Secret

/-- The secret has no character that is not blank. -/
def isBlank (secret : Secret) : Bool :=
  Text.isBlank secret.expose

def display (_ : Secret) : String :=
  "••••••••"

/-- What is shown of a secret among other values. -/
def inspect (secret : Secret) : String :=
  "SecureString(" ++ secret.display ++ ")"

end Secret

/-! ## What a session holds -/

structure Session where
  store : Store
deriving Repr

namespace Session

/-- The name of the credential in the store. -/
def authDataKey : String := "auth_data"

/-- The name of the token in the store. -/
def tokenKey : String := "token"

/-- The name of the user's address in the store. -/
def userEmailKey : String := "user_email"

/-- The name of the subscription's address in the store. -/
def subscribeUrlKey : String := "subscribe_url"

/-- The name of the language in the store. -/
def languageKey : String := "language"

/-- What logging out blanks: everything but the language. -/
def clearedKeys : List String :=
  [authDataKey, tokenKey, userEmailKey, subscribeUrlKey]

/-- The value under a name, empty if there is none. -/
def value (session : Session) (key : String) : String :=
  (session.store.get? key).getD ""

/-- The credential, which requests carry as it is. -/
def authData (session : Session) : Secret := ⟨session.value authDataKey⟩

/-- The token of the last sign-in. -/
def token (session : Session) : Secret := ⟨session.value tokenKey⟩

/-- The address of the signed-in user. -/
def userEmail (session : Session) : String := session.value userEmailKey

/-- The address of the user's subscription. -/
def subscribeUrl (session : Session) : String := session.value subscribeUrlKey

/-- The preferred language; blank means the system's. -/
def language (session : Session) : String := session.value languageKey

def isLoggedIn (session : Session) : Bool :=
  !session.authData.isBlank

/-- What is shown of a session. -/
def shape (session : Session) : Inspect.Shape :=
  .record "Session"
    [("logged_in", .bool session.isLoggedIn), ("user_email", .text session.userEmail)]

end Session

/-! ## Work on the session -/

/-- What work on a session leaves: its value, the session afterwards, and what it logged. -/
structure Worked (α : Type) where
  value : α
  session : Session
  events : List Event

def SessionM (α : Type) : Type := Session → Worked α

namespace SessionM

variable {α β : Type}

protected def pure (value : α) : SessionM α := fun session => ⟨value, session, []⟩

/-- One piece of work after the other. -/
protected def bind (work : SessionM α) (next : α → SessionM β) : SessionM β := fun session =>
  let first := work session
  let second := next first.value first.session
  ⟨second.value, second.session, first.events ++ second.events⟩

instance : Monad SessionM where
  pure := SessionM.pure
  bind := SessionM.bind

/-- Writes an event to the log. -/
def log (event : Event) : SessionM Unit := fun session => ⟨(), session, [event]⟩

/-- Puts a value into the session's store. -/
def set (key text : String) : SessionM (Except StoreError Unit) := fun session =>
  let (result, store) := session.store.set key text
  ⟨result, ⟨store⟩, []⟩

@[simp] theorem pure_apply (value : α) (session : Session) :
    (pure value : SessionM α) session = ⟨value, session, []⟩ := rfl

@[simp] theorem bind_apply (work : SessionM α) (next : α → SessionM β) (session : Session) :
    (work >>= next) session =
      ⟨(next (work session).value (work session).session).value,
        (next (work session).value (work session).session).session,
        (work session).events ++ (next (work session).value (work session).session).events⟩ := rfl

end SessionM

namespace Session

open SessionM (log set)

/-- Puts a value into the store; if it cannot be written, it lasts for this process. -/
def put (key text : String) : SessionM Unit := do
  match ← set key text with
  | .ok () => pure ()
  | .error error => log (.valueNotPersisted key error.message)

/-- Remembers a sign-in. The first value that cannot be written ends it. -/
def storeCredentials (authData token email : String) : SessionM (Except StoreError Unit) := do
  match ← set authDataKey authData with
  | .error error => pure (.error error)
  | .ok () =>
    match ← set tokenKey token with
    | .error error => pure (.error error)
    | .ok () =>
      match ← set userEmailKey email with
      | .error error => pure (.error error)
      | .ok () => do
        log (.credentialsStored email)
        pure (.ok ())

/-- Remembers the address of the subscription. -/
def setSubscribeUrl (url : String) : SessionM Unit :=
  put subscribeUrlKey url

def setLanguage (code : String) : SessionM Unit :=
  put languageKey code

/-- Forgets the user. The language outlives the session. -/
def clear : SessionM Unit := do
  clearedKeys.forM fun key => put key ""
  log .sessionCleared

end Session

end PanelClient
