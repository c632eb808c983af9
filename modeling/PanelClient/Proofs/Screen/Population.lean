import PanelClient.Screen.Account
import PanelClient.Screen.Dashboard

/-!
# Populating a screen, step by step

What the dashboard and the account fetch when they load, cut after every reply: each step goes on
with one outcome and makes the next call. The steps together are the load (`Dashboard.load_eq`,
`Account.load_eq`).
-/

namespace PanelClient

open Program

namespace Dashboard

/-- Goes on with the servers. -/
def goOnServers (outcome : Outcome (List ServerNode)) : Program View Unit := do
  match outcome with
  | .success servers => change fun view => { view with servers }
  | failure => recordFailure failure []
  setLoading false

/-- Goes on with the number of the plan. -/
def goOnPlan (client : Client) (planId : Option Int) : Program View Unit := do
  let planName ← resolvePlanName client planId
  change fun view => { view with planName }
  goOnServers (← perform client Operation.getServers)

/-- Goes on with the account. -/
def goOnInfo (client : Client) : Outcome UserInfo → Program View Unit
  | .success info => goOnPlan client info.planId
  | failure => do
    log (.userInfoUnavailable failure.label)
    goOnPlan client none

/-- Goes on with the subscription. -/
def goOnSubscription (client : Client) (outcome : Outcome Subscription) : Program View Unit := do
  match outcome with
  | .success subscription => change (showSubscription subscription)
  | failure => recordFailure failure []
  goOnInfo client (← perform client Operation.getUserInfo)

theorem load_eq (client : Client) :
    load client = clearErrors.bind fun _ => (setLoading true).bind fun _ =>
      (perform client Operation.getSubscribe).bind (goOnSubscription client) := rfl

end Dashboard

namespace Account

/-- Goes on with the number of the plan. -/
def goOnPlan (client : Client) (planId : Option Int) : Program View Unit := do
  let planName ← resolvePlanName client planId
  change fun view => { view with planName, status := view.status.setLoading false }

/-- Goes on with the account. -/
def goOnInfo (client : Client) : Outcome UserInfo → Program View Unit
  | .success info => do
    change (showInfo info)
    goOnPlan client info.planId
  | failure => do
    recordFailure failure []
    goOnPlan client none

theorem load_eq (client : Client) :
    load client = clearErrors.bind fun _ => (read Session.userEmail).bind fun email =>
      (change fun view => { view with email, status := view.status.setLoading true }).bind fun _ =>
        (perform client Operation.getUserInfo).bind (goOnInfo client) := rfl

end Account

end PanelClient
