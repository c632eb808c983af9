import PanelClient.Screen.Basic

/-!
# Forms

What the screens with inputs have in common: the messages about missing input, handing the
subscription on after a sign-in, and having a verification code mailed.
-/

namespace PanelClient.Form

/-- What is said about an empty address. -/
def emailRequired : String := "Please enter your email"

/-- What is said about an empty password. -/
def passwordRequired : String := "Please enter your password"

/-- What is said about two passwords that differ. -/
def passwordsDiffer : String := "Passwords do not match"

/-- What is said about an empty verification code. -/
def emailCodeRequired : String := "Please enter the email verification code"

/-- What is said when no code could be sent. -/
def sendCodeFailed : String := "Failed to send verification code"

/-- The name under which a subscription is handed on. -/
def profileName : String := "Panel"

variable {σ : Type}

/-- Fetches the subscription and hands its address on. Whatever fails is only logged, for the
sign-in before it has succeeded. -/
def importSubscription (client : Client) : Program σ Unit := do
  match ← Program.perform client Operation.getSubscribe with
  | .success subscription =>
    if Text.isBlank subscription.subscribeUrl then
      Program.log .nothingToImport
    else
      Program.handOff profileName subscription.subscribeUrl fun
        | some failure => Program.log (.importFailed ("Profile import failed: " ++ failure))
        | none => .done ()
  | failure => Program.log (.subscriptionUnavailable failure.label)

/-- What is still to be said about a request before it may be sent: the first check that fails. -/
inductive Complaint where
  | field (field : Field) (message : String)
  | general (message : String)

def complain [HasStatus σ] : Complaint → Program σ Unit
  | .field field message => Program.setFieldError field message
  | .general message => Program.setGeneralError message

/-- Takes the errors away, and goes on if there is nothing to complain about. -/
def checked [HasStatus σ] (complaint : Option Complaint) (next : Program σ Unit) :
    Program σ Unit := do
  Program.clearErrors
  match complaint with
  | some complaint => complain complaint
  | none => next

/-- The first complaint of a list. -/
def firstOf (checks : List (Bool × Complaint)) : Option Complaint :=
  (checks.find? Prod.fst).map Prod.snd

def checkEmail (email : String) : Bool × Complaint :=
  (Text.isBlank email, .field .email emailRequired)

def checkPassword (password : String) : Bool × Complaint :=
  (Text.isBlank password, .field .password passwordRequired)

/-- The password was not repeated exactly. -/
def checkRepeated (password again : String) : Bool × Complaint :=
  (password != again, .field .password passwordsDiffer)

/-- Ends a sign-in: hands the subscription on and closes the screen, or shows the failure. -/
def finishSignIn [HasStatus σ] (client : Client) (shown : List Field) (outcome : Outcome SignIn) :
    Program σ Unit :=
  match outcome with
  | .success _ => do
    importSubscription client
    Program.setLoading false
    Program.ask (.finish .ok)
  | failure => Program.showFailure failure shown

/-- Has a verification code mailed, and starts the countdown to the next one. -/
def sendEmailCode [HasStatus σ] (client : Client) (email : String) : Program σ Unit :=
  checked (firstOf [checkEmail email]) do
    Program.setLoading true
    match ← Program.perform client (Operation.sendEmailVerify (Text.trim email)) with
    | .success () => do
      Program.setLoading false
      Program.startCooldown (.done ())
    | .invalid message _ => Program.fail message
    | _ => Program.fail sendCodeFailed

end PanelClient.Form
