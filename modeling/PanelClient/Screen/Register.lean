import PanelClient.Screen.Form

/-!
# The screen for a new account

Creates an account, with an invitation and a mailed code if the backend wants them.
-/

namespace PanelClient.Register

open Inspect (Shape Shown)

inductive Request where
  | register (email password confirmPassword : String) (inviteCode emailCode : Option String)
  | sendEmailCode (email : String)
  | openLogin
deriving DecidableEq, Repr

structure View where
  status : Status := .initial
  /-- Which inputs the backend wants. -/
  config : SystemConfig := {}
  /-- Seconds until another code may be mailed. -/
  emailCodeCooldown : Nat := 0
deriving Inhabited

def View.canSendCode (view : View) : Bool :=
  view.emailCodeCooldown == 0 && !view.status.loading

instance : HasStatus View where
  status := View.status
  setStatus status view := { view with status }

instance : Shown Request where
  shape
    | .register email password confirmPassword inviteCode emailCode =>
      .record "Register"
        [("email", .text email), ("password", .text password),
          ("confirm_password", .text confirmPassword),
          ("invite_code", .option .text inviteCode), ("email_code", .option .text emailCode)]
    | .sendEmailCode email => .record "SendEmailCode" [("email", .text email)]
    | .openLogin => .plain "OpenLogin"

instance : Shown View where
  shape view := .record "RegisterState"
    [("status", Shown.shape view.status), ("config", Shown.shape view.config),
      ("email_code_cooldown", .integer view.emailCodeCooldown)]

def fields : List Field := [.email, .password, .inviteCode, .emailCode]

def register (client : Client) (email password confirmPassword : String)
    (inviteCode emailCode : Option String) : Program View Unit :=
  Form.checked
    (Form.firstOf
      [Form.checkEmail email, Form.checkPassword password,
        Form.checkRepeated password confirmPassword]) do
    Program.setLoading true
    let outcome ← Program.perform client
      (Operation.register (Text.trim email) password (inviteCode.bind Text.trimmed?)
        (emailCode.bind Text.trimmed?))
    Form.finishSignIn client fields outcome

/-- Learns which inputs the backend wants. Without an answer, none of the optional ones is shown. -/
def load (client : Client) : Program View Unit := do
  match ← Program.perform client Operation.getConfig with
  | .success config => Program.change fun view => { view with config }
  | failure => Program.log (.registrationConfigUnavailable failure.label)

def screen (client : Client) : Screen Request View where
  name := "register"
  initial := {}
  load := load client
  handle
    | .register email password confirmPassword inviteCode emailCode =>
      register client email password confirmPassword inviteCode emailCode
    | .sendEmailCode email => Form.sendEmailCode client email
    | .openLogin => Program.ask (.finish .cancelled)
  onTick remaining view := { view with emailCodeCooldown := remaining }
  describe := Inspect.line

end PanelClient.Register
