import PanelClient.Screen.Form

/-!
# The screen for a new password

Sets a new password with the help of a mailed code.
-/

namespace PanelClient.ForgotPassword

open Inspect (Shape Shown)

inductive Request where
  | resetPassword (email emailCode password confirmPassword : String)
  | sendEmailCode (email : String)
  | openLogin
deriving DecidableEq, Repr

structure View where
  status : Status := .initial
  /-- Seconds until another code may be mailed. -/
  emailCodeCooldown : Nat := 0
deriving Inhabited

instance : HasStatus View where
  status := View.status
  setStatus status view := { view with status }

instance : Shown Request where
  shape
    | .resetPassword email emailCode password confirmPassword =>
      .record "ResetPassword"
        [("email", .text email), ("email_code", .text emailCode), ("password", .text password),
          ("confirm_password", .text confirmPassword)]
    | .sendEmailCode email => .record "SendEmailCode" [("email", .text email)]
    | .openLogin => .plain "OpenLogin"

instance : Shown View where
  shape view := .record "ForgotPasswordState"
    [("status", Shown.shape view.status),
      ("email_code_cooldown", .integer view.emailCodeCooldown)]

def fields : List Field := [.email, .password, .emailCode]

/-- What is said when the password is set. -/
def succeeded : String := "Password reset successfully"

def checkCode (emailCode : String) : Bool × Form.Complaint :=
  (Text.isBlank emailCode, .general Form.emailCodeRequired)

def resetPassword (client : Client) (email emailCode password confirmPassword : String) :
    Program View Unit :=
  Form.checked
    (Form.firstOf
      [Form.checkEmail email, checkCode emailCode, Form.checkPassword password,
        Form.checkRepeated password confirmPassword]) do
    Program.setLoading true
    match ← Program.perform client
      (Operation.forgotPassword (Text.trim email) password (Text.trim emailCode)) with
    | .success () => do
      Program.setLoading false
      Program.ask (.toast succeeded)
      Program.ask (.finish .ok)
    | failure => Program.showFailure failure fields

def screen (client : Client) : Screen Request View where
  name := "forgot_password"
  initial := {}
  handle
    | .resetPassword email emailCode password confirmPassword =>
      resetPassword client email emailCode password confirmPassword
    | .sendEmailCode email => Form.sendEmailCode client email
    | .openLogin => Program.ask (.finish .cancelled)
  onTick remaining view := { view with emailCodeCooldown := remaining }
  describe := Inspect.line

end PanelClient.ForgotPassword
