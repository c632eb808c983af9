import PanelClient.Screen.Basic
import PanelClient.Screen.Usage

/-!
# The dashboard

Usage, expiry, plan and servers of the signed-in user.
-/

namespace PanelClient.Dashboard

open Inspect (Shape Shown)

inductive Request where
  | refresh
  | openPurchase
deriving DecidableEq, Repr

structure View where
  status : Status := .initial
  usage : Usage := .initial
  /-- Seconds of Unix time; none for a plan that does not expire. -/
  expiredAt : Option Int := none
  planName : Option String := none
  servers : List ServerNode := []
deriving Inhabited

instance : HasStatus View where
  status := View.status
  setStatus status view := { view with status }

instance : Shown Request where
  shape
    | .refresh => .plain "Refresh"
    | .openPurchase => .plain "OpenPurchase"

instance : Shown View where
  shape view := .record "DashboardState"
    [("status", Shown.shape view.status), ("usage", Shown.shape view.usage),
      ("expired_at", .option .integer view.expiredAt),
      ("plan_name", .option .text view.planName),
      ("servers", .list (view.servers.map Shown.shape))]

def showSubscription (subscription : Subscription) (view : View) : View :=
  { view with
    usage := .ofTraffic subscription.upload subscription.download subscription.transferEnable
    expiredAt := subscription.expiredAt }

/-- Fetches everything that is shown. What fails does not keep the rest from being fetched. -/
def load (client : Client) : Program View Unit := do
  Program.clearErrors
  Program.setLoading true
  match ← Program.perform client Operation.getSubscribe with
  | .success subscription => Program.change (showSubscription subscription)
  | failure => Program.recordFailure failure []
  let planId ← match ← Program.perform client Operation.getUserInfo with
    | .success info => pure info.planId
    | failure => do
      Program.log (.userInfoUnavailable failure.label)
      pure none
  let planName ← resolvePlanName client planId
  Program.change fun view => { view with planName }
  match ← Program.perform client Operation.getServers with
  | .success servers => Program.change fun view => { view with servers }
  | failure => Program.recordFailure failure []
  Program.setLoading false

def screen (client : Client) : Screen Request View where
  name := "dashboard"
  initial := {}
  load := load client
  handle
    | .refresh => load client
    | .openPurchase => Program.ask (.navigate .purchase)
  describe := Inspect.line

end PanelClient.Dashboard
