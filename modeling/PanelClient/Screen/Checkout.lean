import PanelClient.Screen.Basic

/-!
# The checkout

Orders one plan and pays for it: first the order is created, and only an order that exists is paid.
-/

namespace PanelClient.Checkout

open Inspect (Shape Shown)

inductive Request where
  /-- The period is one of the plan's keys, such as `month_price`. -/
  | checkout (period : String) (couponCode : Option String) (paymentMethodId : Int)
deriving DecidableEq, Repr

structure View where
  status : Status := .initial
  planName : String := ""
  /-- The periods that the plan is offered for, with prices in cents. -/
  periods : List PlanPeriod := []
  paymentMethods : List PaymentMethod := []
deriving Inhabited

instance : HasStatus View where
  status := View.status
  setStatus status view := { view with status }

instance : Shown Request where
  shape
    | .checkout period couponCode paymentMethodId =>
      .record "Checkout"
        [("period", .text period), ("coupon_code", .option .text couponCode),
          ("payment_method_id", .integer paymentMethodId)]

instance : Shown View where
  shape view := .record "CheckoutState"
    [("status", Shown.shape view.status), ("plan_name", .text view.planName),
      ("periods", .list (view.periods.map Shown.shape)),
      ("payment_methods", .list (view.paymentMethods.map Shown.shape))]

/-- What is said when no order could be created. -/
def orderFailed : String := "Failed to create order"

/-- What is said when an order could not be paid. -/
def checkoutFailed : String := "Checkout failed"

/-- What is said when an order is paid. -/
def paymentSucceeded : String := "Payment successful"

/-- Shows what is to be done about the payment. -/
def settle (result : CheckoutResult) : Program View Unit :=
  match result.paymentUrl? with
  | some url => do
    Program.setLoading false
    Program.ask (.openUrl url)
  | none =>
    if result.isCompleted then do
      Program.setLoading false
      Program.ask (.toast paymentSucceeded)
      Program.ask (.finish .ok)
    else do
      Program.log (.checkoutUnexpected result.kind)
      Program.fail checkoutFailed

def conclude : Outcome CheckoutResult → Program View Unit
  | .success result => settle result
  | .invalid message _ => Program.fail message
  | failure => do
    Program.log (.checkoutFailed failure.label)
    Program.fail checkoutFailed

def pay (client : Client) (tradeNo : String) (paymentMethodId : Int) : Program View Unit := do
  conclude (← Program.perform client (Operation.checkoutOrder tradeNo paymentMethodId))

/-- Goes on after an order was created, or was not. -/
def payOrder (client : Client) (paymentMethodId : Int) : Outcome String → Program View Unit
  | .success tradeNo => do
    Program.log (.orderCreated tradeNo)
    pay client tradeNo paymentMethodId
  | .invalid message _ => Program.fail message
  | .unreachable _ => Program.fail Status.networkError
  | failure => do
    Program.log (.orderFailed failure.label)
    Program.fail orderFailed

/-- Creates an order and pays it. -/
def order (client : Client) (planId : Int) (period : String) (couponCode : Option String)
    (paymentMethodId : Int) : Program View Unit := do
  Program.clearErrors
  Program.setLoading true
  payOrder client paymentMethodId (← Program.perform client
    (Operation.createOrder planId period (couponCode.bind Text.trimmed?)))

/-- Shows a plan; an empty name does not replace the one that is shown. -/
def showPlan (plan : Plan) (view : View) : View :=
  { view with
    periods := plan.periods
    planName := if plan.name.isEmpty then view.planName else plan.name }

/-- Goes on with the ways to pay. -/
def showMethods (outcome : Outcome (List PaymentMethod)) : Program View Unit := do
  match outcome with
  | .success paymentMethods => Program.change fun view => { view with paymentMethods }
  | failure => Program.recordFailure failure []
  Program.setLoading false

/-- Goes on with the plans, and fetches the ways to pay. -/
def showPlans (client : Client) (planId : Int) (outcome : Outcome (List Plan)) :
    Program View Unit := do
  match outcome with
  | .success plans =>
    match findPlan planId plans with
    | some plan => Program.change (showPlan plan)
    | none => Program.log (.planNotListed planId)
  | failure => Program.recordFailure failure []
  showMethods (← Program.perform client Operation.getPaymentMethods)

/-- Fetches the plan and the ways to pay. -/
def load (client : Client) (planId : Int) : Program View Unit := do
  Program.clearErrors
  Program.setLoading true
  showPlans client planId (← Program.perform client Operation.getPlans)

def screen (client : Client) (planId : Int) (planName : String) : Screen Request View where
  name := "checkout"
  initial := { planName }
  load := load client planId
  handle
    | .checkout period couponCode paymentMethodId =>
      order client planId period couponCode paymentMethodId
  describe := Inspect.line

end PanelClient.Checkout
