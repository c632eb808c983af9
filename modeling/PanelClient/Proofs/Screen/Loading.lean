import PanelClient.Proofs.Backend.Query
import PanelClient.Proofs.Controller.Service
import PanelClient.Proofs.Screen.Page
import PanelClient.Proofs.Screen.Population
import PanelClient.Proofs.Screen.Status

/-!
# Whether something is going on

Every page shows that something is going on exactly while a reply or the importer is waited for,
with one exception: the inputs of a new account are fetched unnoticed (`loading_iff_busy`). Between
two waits a program may fail in part and go on, so what is kept is said of the programs piece by
piece (`Occupied`), and a controller that serves them is as they ensure.
-/

namespace PanelClient

open Program

variable {ρ σ : Type}

section Loading

variable [HasStatus σ]

/-- The view shows that something is going on. -/
def IsLoading (p : Progress σ) : Prop := (HasStatus.status p.view).loading = true

/-- The view shows that nothing is going on. -/
def IsQuiet (p : Progress σ) : Prop := (HasStatus.status p.view).loading = false

/-- A reply or the importer is waited for, and the view shows that something is going on. -/
structure Occupied (errand : Errand) (p : Progress σ) : Prop where
  not_waking : errand ≠ .waking
  not_config : ∀ call, errand = .exchange call → call.path ≠ Endpoint.systemConfig.path
  loading : IsLoading p

variable {p : Progress σ} (client : Client)

/-! ## What the screens have in common -/

/-- While something is shown to be going on, any reply may be waited for but that about the inputs
of a new account. -/
theorem occupied_perform {α β : Type} {operation : Operation α} {next : Outcome α → Program σ β}
    {post : β → Progress σ → Prop} (h : IsLoading p) (endpoint : Endpoint)
    (hcall : operation.call.path = endpoint.path) (hother : endpoint ≠ .systemConfig)
    (hnext : ∀ outcome (q : Progress σ), IsLoading q → (next outcome).Ensures Occupied post q) :
    ((perform client operation).bind next).Ensures Occupied post p := by
  rw [ensures_bind, ensures_perform]
  refine ⟨⟨nofun, fun call hsame => ?_, h⟩, fun reply => hnext _ _ h⟩
  obtain rfl := Errand.exchange.inj hsame
  rw [hcall]
  exact mt Endpoint.path_inj.1 hother

theorem occupied_importSubscription (h : IsLoading p) :
    (Form.importSubscription client).Ensures Occupied (fun _ => IsLoading) p := by
  refine occupied_perform client h .subscription rfl (by decide) fun outcome q hq => ?_
  split
  · split
    · exact hq
    · refine ⟨⟨nofun, nofun, hq⟩, fun failure => ?_⟩
      cases failure <;> exact hq
  · exact hq

theorem occupied_resolvePlanName (h : IsLoading p) (planId : Option Int) :
    (resolvePlanName client planId : Program σ (Option String)).Ensures Occupied
      (fun _ => IsLoading) p := by
  cases planId with
  | none => exact h
  | some planId =>
    refine occupied_perform client h .plans rfl (by decide) fun outcome q hq => ?_
    cases outcome <;> exact hq

variable [HasStatus.Lawful σ]

/-- A program that takes the errors away first and then shows that something is going on. -/
theorem occupied_begin {next : Program σ Unit}
    (hnext : ∀ q : Progress σ, IsLoading q → next.Ensures Occupied (fun _ => IsQuiet) q)
    (p : Progress σ) :
    (clearErrors.bind fun _ => (setLoading true).bind fun _ => next).Ensures Occupied
      (fun _ => IsQuiet) p := by
  simp only [clearErrors, setLoading, ensures_bind, ensures_changeStatus]
  refine hnext _ ?_
  simp [IsLoading]

theorem occupied_finishSignIn (h : IsLoading p) (shown : List Field) (outcome : Outcome SignIn) :
    (Form.finishSignIn client shown outcome).Ensures Occupied (fun _ => IsQuiet) p := by
  cases outcome with
  | success signIn =>
    refine (occupied_importSubscription client h).bind fun _ q _ => ?_
    simp [setLoading, IsQuiet]
  | _ => simp [Form.finishSignIn, showFailure, IsQuiet]

/-- A request that is complained about goes no further, and nothing else does change whether
something is going on. -/
theorem occupied_checked (h : IsQuiet p) (complaint : Option Form.Complaint)
    {next : Program σ Unit}
    (hnext : ∀ q : Progress σ, IsLoading q → next.Ensures Occupied (fun _ => IsQuiet) q) :
    (Form.checked complaint ((setLoading true).bind fun _ => next)).Ensures Occupied
      (fun _ => IsQuiet) p := by
  cases complaint with
  | some complaint =>
    have hcleared : (HasStatus.status p.view).clearErrors.loading = false := h
    cases complaint <;>
      simpa [Form.checked, Form.complain, clearErrors, setFieldError, setGeneralError, IsQuiet]
        using hcleared
  | none => exact occupied_begin hnext p

theorem occupied_sendEmailCode (h : IsQuiet p) (email : String) :
    (Form.sendEmailCode client email).Ensures Occupied (fun _ => IsQuiet) p := by
  refine occupied_checked h _ fun q hq => ?_
  refine occupied_perform client hq .sendEmailVerify rfl (by decide) fun outcome _ _ => ?_
  cases outcome <;> simp [setLoading, fail, IsQuiet]

end Loading

/-! ## What the screens do -/

section Screens

variable (client : Client)

theorem occupied_dashboard_goOnPlan {p : Progress Dashboard.View} (h : IsLoading p)
    (planId : Option Int) :
    (Dashboard.goOnPlan client planId).Ensures Occupied (fun _ => IsQuiet) p := by
  refine (occupied_resolvePlanName client h planId).bind fun planName q hq => ?_
  have hshown : (change fun view : Dashboard.View => { view with planName }).Ensures Occupied
      (fun _ => IsLoading) q := hq
  refine hshown.bind fun _ r hr => ?_
  refine occupied_perform client hr .servers rfl (by decide) fun outcome _ _ => ?_
  cases outcome <;> simp [Dashboard.goOnServers, recordFailure, setLoading, IsQuiet]

/-- Whatever fails on the way, the dashboard goes on being populated. -/
theorem occupied_dashboard_goOnSubscription {p : Progress Dashboard.View} (h : IsLoading p)
    (outcome : Outcome Subscription) :
    (Dashboard.goOnSubscription client outcome).Ensures Occupied (fun _ => IsQuiet) p := by
  have hrest : ∀ q : Progress Dashboard.View, IsLoading q →
      ((perform client Operation.getUserInfo).bind (Dashboard.goOnInfo client)).Ensures Occupied
        (fun _ => IsQuiet) q := by
    intro q hq
    refine occupied_perform client hq .userInfo rfl (by decide) fun info r hr => ?_
    cases info <;> exact occupied_dashboard_goOnPlan client hr _
  cases outcome with
  | success subscription => exact hrest _ h
  | _ =>
    refine hrest _ ?_
    simpa [IsLoading] using h

theorem occupied_dashboard_load (p : Progress Dashboard.View) :
    (Dashboard.load client).Ensures Occupied (fun _ => IsQuiet) p := by
  rw [Dashboard.load_eq]
  refine occupied_begin (fun q hq => ?_) p
  exact occupied_perform client hq .subscription rfl (by decide) fun outcome r hr =>
    occupied_dashboard_goOnSubscription client hr outcome

theorem occupied_purchase_load (p : Progress Purchase.View) :
    (Purchase.load client).Ensures Occupied (fun _ => IsQuiet) p := by
  refine occupied_begin (fun q hq => ?_) p
  refine occupied_perform client hq .plans rfl (by decide) fun outcome _ _ => ?_
  cases outcome with
  | success plans => rfl
  | _ => simp [showFailure, IsQuiet]

theorem occupied_checkout_load (planId : Int) (p : Progress Checkout.View) :
    (Checkout.load client planId).Ensures Occupied (fun _ => IsQuiet) p := by
  have hrest : ∀ q : Progress Checkout.View, IsLoading q →
      ((perform client Operation.getPaymentMethods).bind Checkout.showMethods).Ensures Occupied
        (fun _ => IsQuiet) q := by
    intro q hq
    refine occupied_perform client hq .paymentMethods rfl (by decide) fun methods _ _ => ?_
    cases methods <;> simp [Checkout.showMethods, recordFailure, setLoading, IsQuiet]
  refine occupied_begin (fun q hq => ?_) p
  refine occupied_perform client hq .plans rfl (by decide) fun outcome r hr => ?_
  cases outcome with
  | success plans =>
    unfold Checkout.showPlans
    dsimp only
    cases findPlan planId plans <;> exact hrest _ hr
  | _ =>
    refine hrest _ ?_
    simpa [IsLoading] using hr

theorem occupied_checkout_order (planId : Int) (period : String) (couponCode : Option String)
    (method : Int) (p : Progress Checkout.View) :
    (Checkout.order client planId period couponCode method).Ensures Occupied (fun _ => IsQuiet)
      p := by
  refine occupied_begin (fun q hq => ?_) p
  refine occupied_perform client hq .createOrder rfl (by decide) fun outcome r hr => ?_
  cases outcome with
  | success tradeNo =>
    refine occupied_perform client hr .checkoutOrder rfl (by decide) fun payment _ _ => ?_
    cases payment with
    | success result =>
      unfold Checkout.conclude Checkout.settle
      dsimp only
      split
      · rfl
      · split <;> rfl
    | _ => rfl
  | _ => rfl

theorem occupied_account_load (p : Progress Account.View) :
    (Account.load client).Ensures Occupied (fun _ => IsQuiet) p := by
  have hrest : ∀ (q : Progress Account.View) (planId : Option Int), IsLoading q →
      (Account.goOnPlan client planId).Ensures Occupied (fun _ => IsQuiet) q :=
    fun q planId hq => (occupied_resolvePlanName client hq planId).bind fun _ _ _ => rfl
  have hfirst : IsLoading { p with
      view := { HasStatus.modify Status.clearErrors p.view with
        email := p.session.userEmail
        status := (HasStatus.modify Status.clearErrors p.view).status.setLoading true } } := rfl
  rw [Account.load_eq]
  refine occupied_perform client hfirst .userInfo rfl (by decide) fun outcome r hr => ?_
  cases outcome with
  | success info => exact hrest _ _ hr
  | _ =>
    refine hrest _ _ ?_
    simpa [IsLoading] using hr

theorem occupied_login {p : Progress Login.View} (h : IsQuiet p) (input : Input Login.Request) :
    ((Login.screen client).program input).Ensures Occupied (fun _ => IsQuiet) p := by
  cases input with
  | load => exact h
  | signal signal => cases signal <;> exact h
  | request request =>
    cases request with
    | login email password =>
      refine occupied_checked h _ fun q hq => ?_
      exact occupied_perform client hq .login rfl (by decide) fun outcome r hr =>
        occupied_finishSignIn client hr _ outcome
    | _ => exact h

theorem occupied_forgotPassword {p : Progress ForgotPassword.View} (h : IsQuiet p)
    (input : Input ForgotPassword.Request) :
    ((ForgotPassword.screen client).program input).Ensures Occupied (fun _ => IsQuiet) p := by
  cases input with
  | load => exact h
  | signal signal => cases signal <;> exact h
  | request request =>
    cases request with
    | resetPassword email emailCode password confirmPassword =>
      refine occupied_checked h _ fun q hq => ?_
      refine occupied_perform client hq .forgotPassword rfl (by decide) fun outcome _ _ => ?_
      cases outcome with
      | success value => rfl
      | _ => simp [showFailure, IsQuiet]
    | sendEmailCode email => exact occupied_sendEmailCode client h email
    | openLogin => exact h

theorem occupied_dashboard {p : Progress Dashboard.View} (h : IsQuiet p)
    (input : Input Dashboard.Request) :
    ((Dashboard.screen client).program input).Ensures Occupied (fun _ => IsQuiet) p := by
  cases input with
  | load => exact occupied_dashboard_load client p
  | signal signal =>
    cases signal with
    | resumed => exact occupied_dashboard_load client p
    | returned ending => exact h
  | request request =>
    cases request with
    | refresh => exact occupied_dashboard_load client p
    | openPurchase => exact h

theorem occupied_purchase {p : Progress Purchase.View} (h : IsQuiet p)
    (input : Input Purchase.Request) :
    ((Purchase.screen client).program input).Ensures Occupied (fun _ => IsQuiet) p := by
  cases input with
  | load => exact occupied_purchase_load client p
  | signal signal =>
    cases signal with
    | resumed => exact occupied_purchase_load client p
    | returned ending => exact h
  | request request => cases request; exact h

theorem occupied_checkout (planId : Int) (planName : String) {p : Progress Checkout.View}
    (h : IsQuiet p) (input : Input Checkout.Request) :
    ((Checkout.screen client planId planName).program input).Ensures Occupied (fun _ => IsQuiet)
      p := by
  cases input with
  | load => exact occupied_checkout_load client planId p
  | signal signal =>
    cases signal with
    | resumed => exact occupied_checkout_load client planId p
    | returned ending => exact h
  | request request => cases request; exact occupied_checkout_order client planId _ _ _ p

theorem occupied_account {p : Progress Account.View} (h : IsQuiet p)
    (input : Input Account.Request) :
    ((Account.screen client).program input).Ensures Occupied (fun _ => IsQuiet) p := by
  cases input with
  | load => exact occupied_account_load client p
  | signal signal =>
    cases signal with
    | resumed => exact occupied_account_load client p
    | returned ending =>
      cases ending with
      | ok => exact occupied_account_load client p
      | cancelled => exact h
  | request request => cases request; rfl

end Screens

/-! ## Every page -/

/-- Between programs nothing is shown to be going on. While a program waits, something is, unless it
fetches the inputs of a new account and may do so unnoticed. -/
def loadingConduct (ρ : Type) {σ : Type} [HasStatus σ] (unnoticed : Prop) : Conduct ρ σ where
  idle view := (HasStatus.status view).loading = false
  wait _ _ errand p := errand ≠ .waking ∧
    (IsLoading p ↔ ¬ (unnoticed ∧ errand = .exchange Operation.getConfig.call))
  post _ _ _ := True

section Conduct

variable [HasStatus σ] {unnoticed : Prop}

theorem ensures_of_occupied {p first : Progress σ} {program : Program σ Unit} {input : Input ρ}
    (h : program.Ensures Occupied (fun _ => IsQuiet) p) :
    program.Ensures ((loadingConduct ρ unnoticed).wait input first)
      (fun _ q => (loadingConduct ρ unnoticed).post input first q ∧
        (loadingConduct ρ unnoticed).idle q.view) p := by
  refine h.mono (fun errand q hq => ?_) fun _ q hq => ⟨trivial, hq⟩
  refine ⟨hq.not_waking, iff_of_true hq.loading ?_⟩
  rintro ⟨-, hconfig⟩
  exact hq.not_config _ hconfig rfl

theorem keeps_of_occupied {screen : Screen ρ σ}
    (hinitial : (HasStatus.status screen.initial).loading = false)
    (htick : ∀ remaining view,
      HasStatus.status (screen.onTick remaining view) = HasStatus.status view)
    (hprogram : ∀ input (p : Progress σ), IsQuiet p →
      (screen.program input).Ensures Occupied (fun _ => IsQuiet) p) :
    screen.Keeps (loadingConduct ρ unnoticed) where
  initial := hinitial
  onTick remaining view h := (congrArg Status.loading (htick remaining view)).trans h
  program input first _ _ h := ensures_of_occupied (hprogram input first h)

end Conduct

/-- Only the load of the screen for a new account goes unnoticed. -/
theorem keeps_loading_register (client : Client) :
    (Register.screen client).Keeps (loadingConduct Register.Request True) where
  initial := rfl
  onTick _ _ h := h
  program input first _ _ h := by
    -- nothing is shown to be going on while the load waits, so the pieces above do not apply to it
    have hload : (Register.load client).Ensures
        ((loadingConduct Register.Request True).wait input first)
        (fun _ q => (loadingConduct Register.Request True).post input first q ∧
          (loadingConduct Register.Request True).idle q.view) first := by
      have hquiet : (HasStatus.status first.view).loading = false := h
      simp only [Register.load, bind_eq, ensures_bind, ensures_perform]
      refine ⟨⟨by simp, by simp [IsLoading, hquiet]⟩, fun reply => ?_⟩
      split <;> exact ⟨trivial, h⟩
    cases input with
    | load => exact hload
    | signal signal =>
      cases signal with
      | resumed => exact hload
      | returned ending => exact ⟨trivial, h⟩
    | request request =>
      refine ensures_of_occupied ?_
      cases request with
      | register email password confirmPassword inviteCode emailCode =>
        refine occupied_checked h _ fun q hq => ?_
        exact occupied_perform client hq .register rfl (by decide) fun outcome r hr =>
          occupied_finishSignIn client hr _ outcome
      | sendEmailCode email => exact occupied_sendEmailCode client h email
      | openLogin => exact h

theorem keeps_loading (client : Client) (page : Page) :
    (page.screen client).Keeps (loadingConduct page.Request (page = .register)) := by
  cases page with
  | register =>
    rw [eq_self]
    exact keeps_loading_register client
  | login =>
    exact keeps_of_occupied rfl (fun _ _ => rfl) fun input _ h => occupied_login client h input
  | forgotPassword =>
    exact keeps_of_occupied rfl (fun _ _ => rfl) fun input _ h =>
      occupied_forgotPassword client h input
  | dashboard =>
    exact keeps_of_occupied rfl (fun _ _ => rfl) fun input _ h => occupied_dashboard client h input
  | purchase =>
    exact keeps_of_occupied rfl (fun _ _ => rfl) fun input _ h => occupied_purchase client h input
  | checkout planId planName =>
    exact keeps_of_occupied rfl (fun _ _ => rfl) fun input _ h =>
      occupied_checkout client planId planName h input
  | account =>
    exact keeps_of_occupied rfl (fun _ _ => rfl) fun input _ h => occupied_account client h input

/-- A request tells whether it fetches an endpoint. -/
theorem request_eq_fetch_iff {client : Client} {session : Session} {call : Call}
    {endpoint : Endpoint} :
    client.request session call = client.request session (Operation.fetch endpoint) ↔
      call = Operation.fetch endpoint := by
  constructor
  · intro h
    have hpath : call.path = endpoint.path :=
      String.append_right_inj _ |>.1 (congrArg Http.Request.url h)
    have hbody : call.body = none := Option.map_eq_none_iff.1 (congrArg Http.Request.body h)
    cases call
    simp_all [Operation.fetch]
  · rintro rfl
    rfl

/-- What the view shows while a program waits, if the conduct was kept up to there. -/
theorem loading_of_leads [HasStatus σ] {c : Controller ρ σ} {job : Job} {paused : Paused σ}
    (hbusy : c.activity = .busy job paused) {unnoticed : Prop} {input : Input ρ}
    {first : Progress σ} {post : Progress σ → Prop} {errand : Errand} {effects : List Effect}
    {answers : List Answer}
    (hleads : paused.Leads ((loadingConduct ρ unnoticed).wait input first) post errand
      (c.scene.progress effects answers))
    (hsent : errand.IsSent c.setting.client c.scene) :
    (∀ next, paused ≠ .waking next) ∧
      ((HasStatus.status c.scene.view).loading = true ↔
        ¬ (unnoticed ∧
          c.Awaits (c.setting.client.request c.scene.session Operation.getConfig.call))) := by
  cases hleads with
  | @reply call next _ hwait hnext =>
    have hawaits : c.Awaits (c.setting.client.request c.scene.session call) :=
      ⟨⟨job, next, hbusy⟩, hsent⟩
    refine ⟨nofun, hwait.2.trans (not_congr (and_congr_right fun _ => ?_))⟩
    rw [Errand.exchange.injEq]
    constructor
    · rintro rfl
      exact hawaits
    · intro hconfig
      exact request_eq_fetch_iff.1 (hawaits.request_eq hconfig)
  | handover hwait hnext =>
    refine ⟨nofun, hwait.2.trans (not_congr (and_congr_right fun _ => ?_))⟩
    refine iff_of_false nofun ?_
    rintro ⟨⟨other, next, hactivity⟩, -⟩
    rw [hbusy] at hactivity
    cases hactivity
  | waking hwait hnext => exact absurd rfl hwait.1

/-- On every page and in every run, as long as the screen is not torn down: the controller runs;
between programs nothing is shown to be going on; while a program is being served, it waits for a
reply or for the importer, and something is shown to be going on unless the screen for a new account
waits for the reply about its inputs. -/
theorem loading_iff_busy (page : Page) (setting : Setting) (session : Session)
    (moves : List (Controller.Move page.Request)) :
    let c := (Controller.opening (page.screen setting.client) setting session).steps moves
    c.scene.tornDown = false →
      c.isRunning = true ∧
      (c.activity = .fresh ∨ c.activity = .waiting → (page.status c.scene.view).loading = false) ∧
      ∀ job paused, c.activity = .busy job paused →
        (∀ next, paused ≠ .waking next) ∧
        ((page.status c.scene.view).loading = true ↔
          ¬ (page = .register ∧
            c.Awaits (setting.client.request c.scene.session Operation.getConfig.call))) := by
  intro c hup
  have hattends : c.Attends (loadingConduct page.Request (page = .register)) _ :=
    Controller.attends_steps (keeps_loading setting.client page) setting session hup
  have hsetting : c.setting = setting := Controller.steps_setting ..
  unfold Controller.Attends at hattends
  unfold Controller.isRunning
  cases hactivity : c.activity with
  | fresh | waiting =>
    simp only [hactivity] at hattends
    exact ⟨rfl, fun _ => hattends, fun _ _ hbusy => by cases hbusy⟩
  | busy job paused =>
    simp only [hactivity] at hattends
    obtain ⟨input, -, first, effects, answers, hstands⟩ := hattends
    simp only [Controller.Stands, hactivity] at hstands
    obtain ⟨errand, hleads, hsent⟩ := hstands
    refine ⟨rfl, fun hidle => by simp at hidle, ?_⟩
    rintro _ _ ⟨⟩
    rw [← hsetting]
    exact loading_of_leads hactivity hleads hsent
  | _ => simp [hactivity] at hattends

/-- The dashboard goes on showing that something is going on after the first of its calls failed. -/
theorem loading_of_dashboard :
    let c := (Controller.opening (Page.dashboard.screen ⟨"https://panel.example"⟩)
      ⟨⟨"https://panel.example"⟩, 60⟩ ⟨.memory []⟩).steps
        [.start, .reply (.failure (.timeout "no answer"))]
    c.scene.tornDown = false ∧ (Page.dashboard.status c.scene.view).loading = true := by
  intro c
  have hup : c.scene.tornDown = false := rfl
  obtain ⟨-, -, hbusy⟩ := loading_iff_busy .dashboard ⟨⟨"https://panel.example"⟩, 60⟩
    ⟨.memory []⟩ _ hup
  exact ⟨hup, (hbusy _ _ rfl).2.2 (by simp)⟩

end PanelClient
