import PanelClient.Proofs.Screen.Likeness
import PanelClient.Proofs.Screen.Population

/-!
# The pages are steady

No page makes anything of a session, a request or a reply beyond what a lawful comparison counts,
and of the clock it shows nothing but the seconds until another code may be mailed (`Page.steady`).
-/

namespace PanelClient

namespace Page

/-- A view without the seconds that the countdown shows. -/
def timeless : (page : Page) → page.View → page.View
  | register => fun view : Register.View => { view with emailCodeCooldown := 0 }
  | forgotPassword => fun view : ForgotPassword.View => { view with emailCodeCooldown := 0 }
  | login | dashboard | purchase | checkout .. | account => id

/-- Runs of a page are compared by a comparison and by what they show. -/
def likeness (page : Page) (comparison : Comparison) (timed : Prop) : Likeness page.View :=
  { comparison with timeless := page.timeless, timed }

end Page

open Program

section Pages

variable {comparison : Comparison} (hlike : comparison.Lawful) (timed : Prop) (client : Client)

include hlike

theorem steady_login_load : (Login.screen client).load.Steady (Page.login.likeness comparison timed) :=
  (steady_read hlike.language).bind fun _ => steady_change fun _ => rfl

theorem steady_login (input : Input Login.Request) :
    ((Login.screen client).program input).Steady (Page.login.likeness comparison timed) := by
  have hload := steady_login_load hlike timed client
  have hlabel (code : String) :
      (Login.showLanguage code).Steady (Page.login.likeness comparison timed) :=
    steady_change fun _ => rfl
  cases input with
  | load => exact hload
  | signal signal => cases signal <;> first | exact hload | exact steady_done ()
  | request request =>
    cases request with
    | login email password =>
      refine steady_checked (fun _ _ => rfl) _ ((steady_changeStatus (fun _ _ => rfl) _).bind
        fun _ => ?_)
      exact (alike_query hlike client (.login (Text.trim email) password)).bind
        fun _ _ => steady_finishSignIn hlike client (fun _ _ => rfl) _
    | changeLanguage code =>
      refine Steady.bind (alike_onSession (hlike.setLanguage _)) fun _ => ?_
      exact (hlabel _).bind fun _ => steady_ask _
    | _ => exact steady_ask _

theorem steady_register (input : Input Register.Request) :
    ((Register.screen client).program input).Steady (Page.register.likeness comparison timed) := by
  have hload : (Register.load client).Steady (Page.register.likeness comparison timed) := by
    refine (steady_query hlike client .getConfig rfl).bind fun outcome => ?_
    cases outcome with
    | success config => exact steady_change fun _ => rfl
    | _ => exact steady_log _
  cases input with
  | load => exact hload
  | signal signal => cases signal <;> first | exact hload | exact steady_done ()
  | request request =>
    cases request with
    | register email password confirmPassword inviteCode emailCode =>
      refine steady_checked (fun _ _ => rfl) _ ((steady_changeStatus (fun _ _ => rfl) _).bind
        fun _ => ?_)
      exact (alike_query hlike client (.register (Text.trim email) password _ _)).bind
        fun _ _ => steady_finishSignIn hlike client (fun _ _ => rfl) _
    | sendEmailCode email => exact steady_sendEmailCode hlike client (fun _ _ => rfl) email
    | openLogin => exact steady_ask _

theorem steady_forgotPassword (input : Input ForgotPassword.Request) :
    ((ForgotPassword.screen client).program input).Steady
      (Page.forgotPassword.likeness comparison timed) := by
  cases input with
  | load => exact steady_done ()
  | signal signal => cases signal <;> exact steady_done ()
  | request request =>
    cases request with
    | resetPassword email emailCode password confirmPassword =>
      refine steady_checked (fun _ _ => rfl) _ ((steady_changeStatus (fun _ _ => rfl) _).bind
        fun _ => ?_)
      refine (steady_query hlike client
        (.forgotPassword (Text.trim email) password (Text.trim emailCode)) rfl).bind
        fun outcome => ?_
      cases outcome with
      | success done =>
        refine (steady_changeStatus (fun _ _ => rfl) _).bind fun _ => ?_
        exact (steady_ask _).bind fun _ => steady_ask _
      | _ => exact steady_changeStatus (fun _ _ => rfl) _
    | sendEmailCode email => exact steady_sendEmailCode hlike client (fun _ _ => rfl) email
    | openLogin => exact steady_ask _

theorem steady_dashboard_load :
    (Dashboard.load client).Steady (Page.dashboard.likeness comparison timed) := by
  have hchange (change : Dashboard.View → Dashboard.View) :
      (Program.change change).Steady (Page.dashboard.likeness comparison timed) :=
    steady_change fun _ => rfl
  have hservers (outcome : Outcome (List ServerNode)) :
      (Dashboard.goOnServers outcome).Steady (Page.dashboard.likeness comparison timed) := by
    cases outcome with
    | success servers => exact (hchange _).bind fun _ => hchange _
    | _ => exact (hchange _).bind fun _ => hchange _
  have hplan (planId : Option Int) :
      (Dashboard.goOnPlan client planId).Steady (Page.dashboard.likeness comparison timed) := by
    refine (steady_resolvePlanName hlike client planId).bind fun planName => ?_
    refine (hchange _).bind fun _ => ?_
    exact (steady_query hlike client .getServers rfl).bind hservers
  have hinfo (outcome : Outcome UserInfo) :
      (Dashboard.goOnInfo client outcome).Steady (Page.dashboard.likeness comparison timed) := by
    cases outcome with
    | success info => exact hplan _
    | _ => exact (steady_log _).bind fun _ => hplan none
  rw [Dashboard.load_eq]
  refine (hchange _).bind fun _ => (hchange _).bind fun _ => ?_
  refine (steady_query hlike client .getSubscribe rfl).bind fun outcome => ?_
  have hrest := (steady_query hlike client .getUserInfo rfl).bind hinfo
  cases outcome with
  | success subscription => exact (hchange _).bind fun _ => hrest
  | _ => exact (hchange _).bind fun _ => hrest

theorem steady_dashboard (input : Input Dashboard.Request) :
    ((Dashboard.screen client).program input).Steady
      (Page.dashboard.likeness comparison timed) := by
  have hload := steady_dashboard_load hlike timed client
  cases input with
  | load => exact hload
  | signal signal => cases signal <;> first | exact hload | exact steady_done ()
  | request request => cases request <;> first | exact hload | exact steady_ask _

theorem steady_purchase (input : Input Purchase.Request) :
    ((Purchase.screen client).program input).Steady (Page.purchase.likeness comparison timed) := by
  have hchange (change : Purchase.View → Purchase.View) :
      (Program.change change).Steady (Page.purchase.likeness comparison timed) :=
    steady_change fun _ => rfl
  have hload : (Purchase.load client).Steady (Page.purchase.likeness comparison timed) := by
    refine (hchange _).bind fun _ => (hchange _).bind fun _ => ?_
    refine (steady_query hlike client .getPlans rfl).bind fun outcome => ?_
    cases outcome with
    | success plans => exact hchange _
    | _ => exact hchange _
  cases input with
  | load => exact hload
  | signal signal => cases signal <;> first | exact hload | exact steady_done ()
  | request request => cases request; exact steady_ask _

section Checkout

variable (planId : Int) (planName : String)

theorem steady_checkout_load : (Checkout.load client planId).Steady
    ((Page.checkout planId planName).likeness comparison timed) := by
  have hchange (change : Checkout.View → Checkout.View) :
      (Program.change change).Steady ((Page.checkout planId planName).likeness comparison timed) :=
    steady_change fun _ => rfl
  have hmethods (outcome : Outcome (List PaymentMethod)) : (Checkout.showMethods outcome).Steady
      ((Page.checkout planId planName).likeness comparison timed) := by
    cases outcome with
    | success paymentMethods => exact (hchange _).bind fun _ => hchange _
    | _ => exact (hchange _).bind fun _ => hchange _
  refine (hchange _).bind fun _ => (hchange _).bind fun _ => ?_
  refine (steady_query hlike client .getPlans rfl).bind fun outcome => ?_
  have hrest := (steady_query hlike client .getPaymentMethods rfl).bind hmethods
  cases outcome with
  | success plans =>
    unfold Checkout.showPlans
    dsimp only
    cases findPlan planId plans with
    | some plan => exact (hchange _).bind fun _ => hrest
    | none => exact (steady_log _).bind fun _ => hrest
  | _ => exact (hchange _).bind fun _ => hrest

theorem steady_checkout_order (period : String) (couponCode : Option String) (method : Int) :
    (Checkout.order client planId period couponCode method).Steady
      ((Page.checkout planId planName).likeness comparison timed) := by
  have hchange (change : Checkout.View → Checkout.View) :
      (Program.change change).Steady ((Page.checkout planId planName).likeness comparison timed) :=
    steady_change fun _ => rfl
  have hconclude (outcome : Outcome CheckoutResult) : (Checkout.conclude outcome).Steady
      ((Page.checkout planId planName).likeness comparison timed) := by
    cases outcome with
    | success result =>
      unfold Checkout.conclude Checkout.settle
      dsimp only
      split
      · exact (hchange _).bind fun _ => steady_ask _
      · split
        · exact (hchange _).bind fun _ => (steady_ask _).bind fun _ => steady_ask _
        · exact (steady_log _).bind fun _ => hchange _
    | invalid message fieldErrors => exact hchange _
    | _ => exact (steady_log _).bind fun _ => hchange _
  refine (hchange _).bind fun _ => (hchange _).bind fun _ => ?_
  refine (steady_query hlike client (.createOrder planId period (couponCode.bind Text.trimmed?))
    rfl).bind fun outcome => ?_
  cases outcome with
  | success tradeNo =>
    refine (steady_log _).bind fun _ => ?_
    exact (steady_query hlike client (.checkoutOrder tradeNo method) rfl).bind hconclude
  | invalid message fieldErrors => exact hchange _
  | unreachable message => exact hchange _
  | _ => exact (steady_log _).bind fun _ => hchange _

theorem steady_checkout (input : Input Checkout.Request) :
    ((Checkout.screen client planId planName).program input).Steady
      ((Page.checkout planId planName).likeness comparison timed) := by
  have hload := steady_checkout_load hlike timed client planId planName
  cases input with
  | load => exact hload
  | signal signal => cases signal <;> first | exact hload | exact steady_done ()
  | request request =>
    cases request
    exact steady_checkout_order hlike timed client planId planName _ _ _

end Checkout

theorem steady_account (input : Input Account.Request) :
    ((Account.screen client).program input).Steady (Page.account.likeness comparison timed) := by
  have hchange (change : Account.View → Account.View) :
      (Program.change change).Steady (Page.account.likeness comparison timed) :=
    steady_change fun _ => rfl
  have hplan (planId : Option Int) :
      (Account.goOnPlan client planId).Steady (Page.account.likeness comparison timed) :=
    (steady_resolvePlanName hlike client planId).bind fun _ => hchange _
  have hload : (Account.load client).Steady (Page.account.likeness comparison timed) := by
    rw [Account.load_eq]
    refine (hchange _).bind fun _ => (steady_read hlike.userEmail).bind fun email => ?_
    refine (hchange _).bind fun _ => ?_
    refine (steady_query hlike client .getUserInfo rfl).bind fun outcome => ?_
    cases outcome with
    | success info => exact (hchange _).bind fun _ => hplan _
    | _ => exact (hchange _).bind fun _ => hplan none
  cases input with
  | load => exact hload
  | signal signal =>
    cases signal with
    | resumed => exact hload
    | returned ending => cases ending <;> first | exact hload | exact steady_ask _
  | request request =>
    cases request
    refine Steady.bind (alike_onSession hlike.logout) fun _ => ?_
    exact (hchange _).bind fun _ => steady_ask _

/-- Every page is steady under every lawful comparison, whether the clocks agree or not. -/
theorem Page.steady (page : Page) :
    (page.screen client).Steady (page.likeness comparison timed) where
  program input := by
    cases page with
    | login => exact steady_login hlike timed client input
    | register => exact steady_register hlike timed client input
    | forgotPassword => exact steady_forgotPassword hlike timed client input
    | dashboard => exact steady_dashboard hlike timed client input
    | purchase => exact steady_purchase hlike timed client input
    | checkout planId planName => exact steady_checkout hlike timed client planId planName input
    | account => exact steady_account hlike timed client input
  onTick remaining view := by cases page <;> rfl

end Pages

end PanelClient
