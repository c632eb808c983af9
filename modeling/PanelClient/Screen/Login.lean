import PanelClient.Screen.Form

/-!
# The login screen

Signs in with address and password, leads to the screens for a new account and a new password, and
changes the language. The languages that can be chosen have a code and a label.
-/

namespace PanelClient.Language

/-- The code for the system's language, which is stored as blank. -/
def system : String := "system"

def labels : List (String × String) :=
  [(system, "System default"), ("en", "English"), ("zh", "简体中文"), ("zh-TW", "繁體中文"),
    ("ja", "日本語"), ("ko", "한국어"), ("ru", "Русский"), ("vi", "Tiếng Việt")]

/-- The label of a stored code; an unknown code is its own label. -/
def label (code : String) : String :=
  let code := if Text.isBlank code then system else code
  (labels.lookup code).getD code

/-- What is stored for a chosen code. -/
def stored (code : String) : String :=
  if code = system then "" else code

end PanelClient.Language

namespace PanelClient.Login

open Inspect (Shape Shown)

inductive Request where
  | login (email password : String)
  | openRegister
  | openForgotPassword
  | changeLanguage (code : String)
deriving DecidableEq, Repr

structure View where
  status : Status := .initial
  languageLabel : String := ""
deriving Inhabited

instance : HasStatus View where
  status := View.status
  setStatus status view := { view with status }

instance : Shown Request where
  shape
    | .login email password =>
      .record "Login" [("email", .text email), ("password", .text password)]
    | .openRegister => .plain "OpenRegister"
    | .openForgotPassword => .plain "OpenForgotPassword"
    | .changeLanguage code => .record "ChangeLanguage" [("code", .text code)]

instance : Shown View where
  shape view := .record "LoginState"
    [("status", Shown.shape view.status), ("language_label", .text view.languageLabel)]

def fields : List Field := [.email, .password]

def login (client : Client) (email password : String) : Program View Unit :=
  Form.checked (Form.firstOf [Form.checkEmail email, Form.checkPassword password]) do
    Program.setLoading true
    let outcome ← Program.perform client (Operation.login (Text.trim email) password)
    Form.finishSignIn client fields outcome

def showLanguage (code : String) : Program View Unit :=
  Program.change fun view => { view with languageLabel := Language.label code }

def changeLanguage (code : String) : Program View Unit := do
  Program.onSession (Session.setLanguage (Language.stored code))
  showLanguage (Language.stored code)
  Program.ask .recreate

def screen (client : Client) : Screen Request View where
  name := "login"
  initial := {}
  load := do showLanguage (← Program.read Session.language)
  handle
    | .login email password => login client email password
    | .openRegister => Program.ask (.navigate .register)
    | .openForgotPassword => Program.ask (.navigate .forgotPassword)
    | .changeLanguage code => changeLanguage code
  describe := Inspect.line

end PanelClient.Login
