import PanelClient.Screen.Basic
import PanelClient.Screen.Usage

/-!
# The account screen

Shows the signed-in user's account and signs out. Signing out leads to the login screen; who signs
in again sees the account anew, who does not leaves the program.
-/

namespace PanelClient.Account

open Inspect (Shape Shown)

inductive Request where
  | logout
deriving DecidableEq, Repr

structure View where
  status : Status := .initial
  email : String := ""
  usage : Usage := .initial
  expiredAt : Option Int := none
  /-- In cents. -/
  balance : Int := 0
  planName : Option String := none
deriving Inhabited

instance : HasStatus View where
  status := View.status
  setStatus status view := { view with status }

instance : Shown Request where
  shape
    | .logout => .plain "Logout"

instance : Shown View where
  shape view := .record "UserInfoState"
    [("status", Shown.shape view.status), ("email", .text view.email),
      ("usage", Shown.shape view.usage), ("expired_at", .option .integer view.expiredAt),
      ("balance", .integer view.balance), ("plan_name", .option .text view.planName)]

/-- Shows the account; an empty address does not replace the one that is shown. -/
def showInfo (info : UserInfo) (view : View) : View :=
  { view with
    usage := .ofTraffic info.upload info.download info.transferEnable
    expiredAt := info.expiredAt
    balance := info.balance
    email := if info.email.isEmpty then view.email else info.email }

/-- Shows the stored address, then fetches the account and the name of its plan. -/
def load (client : Client) : Program View Unit := do
  Program.clearErrors
  let email ← Program.read Session.userEmail
  Program.change fun view => { view with email, status := view.status.setLoading true }
  let planId ← match ← Program.perform client Operation.getUserInfo with
    | .success info => do
      Program.change (showInfo info)
      pure info.planId
    | failure => do
      Program.recordFailure failure []
      pure none
  let planName ← resolvePlanName client planId
  Program.change fun view => { view with planName, status := view.status.setLoading false }

/-- Signs out and asks for another sign-in. -/
def logout : Program View Unit := do
  Program.onSession Operation.logout
  Program.change fun _ => {}
  Program.ask (.navigateForResult .login)

def screen (client : Client) : Screen Request View where
  name := "user_info"
  initial := {}
  load := load client
  handle
    | .logout => logout
  onLifecycle
    | .resumed | .returned .ok => load client
    | .returned .cancelled => Program.ask .finishAll
  describe := Inspect.line

end PanelClient.Account
