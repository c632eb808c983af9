import PanelClient.Screen.Basic

/-!
# The plan list

Lists the plans that can be bought and leads to the checkout of the chosen one.
-/

namespace PanelClient.Purchase

open Inspect (Shape Shown)

inductive Request where
  | selectPlan (plan : Plan)
deriving DecidableEq, Repr

structure View where
  status : Status := .initial
  plans : List Plan := []
deriving Inhabited

instance : HasStatus View where
  status := View.status
  setStatus status view := { view with status }

instance : Shown Request where
  shape
    | .selectPlan plan => .call "SelectPlan" [Shown.shape plan]

instance : Shown View where
  shape view := .record "PurchaseState"
    [("status", Shown.shape view.status), ("plans", .list (view.plans.map Shown.shape))]

def load (client : Client) : Program View Unit := do
  Program.clearErrors
  Program.setLoading true
  match ← Program.perform client Operation.getPlans with
  | .success plans =>
    Program.change fun view => { view with plans, status := view.status.setLoading false }
  | failure => Program.showFailure failure []

def screen (client : Client) : Screen Request View where
  name := "purchase"
  initial := {}
  load := load client
  handle
    | .selectPlan plan => Program.ask (.navigate (.checkout plan.id plan.name))
  describe := Inspect.line

end PanelClient.Purchase
