import PanelClient.Proofs.Backend.Reading
import PanelClient.Proofs.Screen.Population
import PanelClient.Proofs.Screen.SignIn

/-!
# What a page fetches

Four pages fetch what they show. Which calls a page makes depends on its replies only by the plan of
the account (`Page.calls`), and what fails does not keep the rest from being fetched. In the end the
page shows what the replies brought, what it showed before in place of what failed, and the last of
the failures that it reports (`Page.populated`). Their loads do so whatever the replies are: each
has its steps as functions of the outcomes, which come to what is shown (`Dashboard.shows_eq`,
`Dashboard.ensures_load` and those of the other pages).
-/

namespace PanelClient

open Program

deriving instance DecidableEq for Query

/-! ## What is fetched, and what is shown then -/

/-- The number of the plan that a reply tells of the account, if any. -/
def UserInfo.plan? (reply : Http.Reply) : Option Int :=
  (Query.getUserInfo.outcome reply).value?.bind UserInfo.planId

namespace Page

/-- The call for the name of the plan, if the reply about the account tells of one. -/
def planCalls (reply? : Option Http.Reply) : List Query :=
  ((reply?.bind UserInfo.plan?).map fun _ => .getPlans).toList

/-- The calls that populate a page, in order, with the replies so far. -/
def calls : Page → List Http.Reply → List Query
  | dashboard, replies =>
    [.getSubscribe, .getUserInfo] ++ planCalls replies[1]? ++ [.getServers]
  | account, replies => [.getUserInfo] ++ planCalls replies[0]?
  | purchase, _ => [.getPlans]
  | checkout .., _ => [.getPlans, .getPaymentMethods]
  | _, _ => []

/-- The calls of which a failure is shown. -/
def reports : Page → List Query
  | dashboard => [.getSubscribe, .getServers]
  | account => [.getUserInfo]
  | purchase => [.getPlans]
  | checkout .. => [.getPlans, .getPaymentMethods]
  | _ => []

/-- What a call came to, if the page has made it and there is a reply. -/
def outcome? (page : Page) (replies : List Http.Reply) (query : Query) :
    Option (Outcome query.Value) :=
  (((page.calls replies).zip replies).lookup query).map query.outcome

/-- What a call brought. -/
def fetched? (page : Page) (replies : List Http.Reply) (query : Query) : Option query.Value :=
  (page.outcome? replies query).bind Outcome.value?

/-- The last failure among those that are shown. -/
def error? (page : Page) (replies : List Http.Reply) : Option String :=
  (page.reports.filterMap fun query =>
    (page.outcome? replies query).bind Outcome.rendering?).getLast?

/-- The name of the plan, if all calls that it takes have succeeded and it is listed. -/
def planName? (page : Page) (replies : List Http.Reply) : Option String :=
  let info? : Option UserInfo := page.fetched? replies .getUserInfo
  let plans? : Option (List Plan) := page.fetched? replies .getPlans
  (info?.bind UserInfo.planId).bind fun planId => (plans?.bind (findPlan planId)).map Plan.name

/-- Nothing goes on, and no more than one failure is shown. -/
def settled (error? : Option String) : Status := ⟨false, fun _ => none, error?⟩

variable {page : Page} {replies : List Http.Reply} {queries : List Query}

theorem outcome?_of_calls (h : page.calls replies = queries) (query : Query) :
    page.outcome? replies query = ((queries.zip replies).lookup query).map query.outcome := by
  rw [outcome?, h]

/-- The name of the plan depends on the account's plan, and then on the plans that are listed. -/
theorem planName?_of_info {reply : Http.Reply}
    (h : page.outcome? replies .getUserInfo = some (Query.getUserInfo.outcome reply)) :
    page.planName? replies = (UserInfo.plan? reply).bind fun planId =>
      ((page.fetched? replies .getPlans : Option (List Plan)).bind (findPlan planId)).map
        Plan.name := by
  rw [planName?, fetched?, h]
  rfl

end Page

/-- The dashboard with what the replies brought. -/
def Dashboard.populated (replies : List Http.Reply) (view : View) : View :=
  let subscription? : Option Subscription := Page.dashboard.fetched? replies .getSubscribe
  { status := Page.settled (Page.dashboard.error? replies)
    usage := (subscription?.map fun subscription =>
      .ofTraffic subscription.upload subscription.download subscription.transferEnable).getD
        view.usage
    expiredAt := (subscription?.map Subscription.expiredAt).getD view.expiredAt
    planName := Page.dashboard.planName? replies
    servers := (Page.dashboard.fetched? replies .getServers : Option (List ServerNode)).getD
      view.servers }

/-- The account with what the replies brought. -/
def Account.populated (replies : List Http.Reply) (session : Session) (view : View) : View :=
  let info? : Option UserInfo := Page.account.fetched? replies .getUserInfo
  { status := Page.settled (Page.account.error? replies)
    email := ((info?.map UserInfo.email).filter fun email => !email.isEmpty).getD session.userEmail
    usage := (info?.map fun info =>
      .ofTraffic info.upload info.download info.transferEnable).getD view.usage
    expiredAt := (info?.map UserInfo.expiredAt).getD view.expiredAt
    balance := (info?.map UserInfo.balance).getD view.balance
    planName := Page.account.planName? replies }

/-- The plans that the replies brought. -/
def Purchase.populated (replies : List Http.Reply) (view : View) : View where
  status := Page.settled (Page.purchase.error? replies)
  plans := (Page.purchase.fetched? replies .getPlans : Option (List Plan)).getD view.plans

/-- The checkout of a plan with what the replies brought. -/
def Checkout.populated (planId : Int) (planName : String) (replies : List Http.Reply)
    (view : View) : View :=
  let page : Page := .checkout planId planName
  let plan? := (page.fetched? replies .getPlans : Option (List Plan)).bind (findPlan planId)
  { status := Page.settled (page.error? replies)
    planName := ((plan?.map Plan.name).filter fun name => !name.isEmpty).getD view.planName
    periods := (plan?.map Plan.periods).getD view.periods
    paymentMethods :=
      (page.fetched? replies .getPaymentMethods : Option (List PaymentMethod)).getD
        view.paymentMethods }

/-- A view of a page with what the replies to its calls brought. -/
def Page.populated : (page : Page) → List Http.Reply → Session → page.View → page.View
  | dashboard, replies, _, view => Dashboard.populated replies view
  | account, replies, session, view => Account.populated replies session view
  | purchase, replies, _, view => Purchase.populated replies view
  | checkout planId planName, replies, _, view => Checkout.populated planId planName replies view
  | login, _, _, view | register, _, _, view | forgotPassword, _, _, view => view

/-- The input has the page populated. -/
def Page.populates : (page : Page) → Input page.Request → Bool
  | dashboard, .load | dashboard, .signal .resumed | dashboard, .request .refresh => true
  | account, .load | account, .signal .resumed | account, .signal (.returned .ok) => true
  | purchase, .load | purchase, .signal .resumed => true
  | checkout .., .load | checkout .., .signal .resumed => true
  | _, _ => false

/-! ## The course of the programs -/

/-- An empty text does not count. -/
theorem getD_filter_isEmpty (text other : String) :
    ((some text).filter fun found => !found.isEmpty).getD other =
      if text.isEmpty then other else text := by
  cases hempty : text.isEmpty <;> simp [Option.filter, hempty]

theorem getLast?_filterMap_singleton {α β : Type} (f : α → Option β) (only : α) :
    ([only].filterMap f).getLast? = f only := by
  cases honly : f only <;> simp [honly]

/-- Of two failures the second is the last. -/
theorem getLast?_filterMap_pair {α β : Type} (f : α → Option β) (first second : α) :
    ([first, second].filterMap f).getLast? = (f second).or (f first) := by
  cases hfirst : f first <;> cases hsecond : f second <;> simp [hfirst, hsecond]

section Fetching

variable {σ : Type}

/-- These replies have come so far, nothing else has come of it, and the credential is still the
same. -/
structure Fetched (first : Progress σ) (replies : List Http.Reply) (p : Progress σ) : Prop where
  answers : p.answers = replies.map .reply
  effects : p.effects = []
  credential : p.session.authData = first.session.authData

/-- The reply to the next of the calls is waited for. -/
def AwaitsCall (calls : List Http.Reply → List Query) (first : Progress σ) (errand : Errand)
    (p : Progress σ) : Prop :=
  Fetched first p.replies p ∧ ∃ query, (calls p.replies)[p.replies.length]? = some query ∧
    errand = .exchange query.operation.call

/-- All calls are answered, and what is shown is what that makes of the view at first. -/
def EndsPopulated (calls : List Http.Reply → List Query)
    (populated : List Http.Reply → Session → σ → σ) (first p : Progress σ) : Prop :=
  Fetched first p.replies p ∧ p.replies.length = (calls p.replies).length ∧
    p.view = populated p.replies first.session first.view

variable {first p : Progress σ} {replies : List Http.Reply}

/-- What is shown has no part in it. -/
theorem Fetched.viewing (h : Fetched first replies p) (view : σ) :
    Fetched first replies { p with view } :=
  ⟨h.answers, h.effects, h.credential⟩

/-- The credential outlasts every call but a sign-in. -/
theorem Query.authData_finish {query : Query} (h : query.signsInAs? = none) (client : Client)
    (session : Session) (reply : Http.Reply) :
    (query.operation.finish client reply session).session.authData = session.authData := by
  cases hremembered : query.isRemembered with
  | false => rw [query.keeps_finish hremembered client reply session]
  | true =>
    cases query with
    | getSubscribe =>
      exact (congrArg Session.authData
        (Operation.getSubscribe_session_eq client session reply)).trans
          (session.authData_importing reply)
    | login | register => cases h
    | _ => cases hremembered

variable {calls : List Http.Reply → List Query} {post : Progress σ → Prop}

/-- The next call is made, and the program goes on with what the reply brings. -/
theorem Fetched.ensures_perform (h : Fetched first replies p) (client : Client) (query : Query)
    (hquery : (calls replies)[replies.length]? = some query) (hsignsIn : query.signsInAs? = none)
    {next : Outcome query.Value → Program σ Unit}
    (hnext : ∀ reply (q : Progress σ), q.view = p.view → Fetched first (replies ++ [reply]) q →
      (next (query.outcome reply)).Ensures (AwaitsCall calls first) (fun _ => post) q) :
    ((perform client query.operation).bind next).Ensures (AwaitsCall calls first) (fun _ => post)
      p := by
  rw [ensures_bind, Program.ensures_perform]
  refine ⟨?_, fun reply => ?_⟩
  · rw [AwaitsCall, Progress.replies_of_answers h.answers]
    exact ⟨h, query, hquery, rfl⟩
  · rw [Query.value_finish hsignsIn]
    refine hnext reply _ rfl ⟨?_, h.effects, ?_⟩
    · simp [Progress.replied, Progress.told, h.answers]
    · exact (Query.authData_finish hsignsIn client p.session reply).trans h.credential

theorem Fetched.ends {populated : List Http.Reply → Session → σ → σ} (h : Fetched first replies p)
    (hlength : replies.length = (calls replies).length) {view : σ}
    (hview : view = populated replies first.session first.view) :
    EndsPopulated calls populated first { p with view } := by
  have hreplies : Progress.replies { p with view } = replies :=
    Progress.replies_of_answers h.answers
  rw [EndsPopulated, hreplies]
  exact ⟨h.viewing view, hlength, hview⟩

/-- Without a plan there is no call, with one there is, and what fails costs the name only. -/
theorem ensures_resolvePlanName {wait : Errand → Progress σ → Prop} (client : Client)
    (planId : Int) (next : Option String → Program σ Unit) :
    ((resolvePlanName client (some planId)).bind next).Ensures wait (fun _ => post) p ↔
      ((perform client Operation.getPlans).bind fun outcome =>
        next ((outcome.value?.bind (findPlan planId)).map Plan.name)).Ensures wait (fun _ => post)
          p := by
  simp only [resolvePlanName, bind_eq, ensures_bind, ensures_perform]
  refine and_congr_right fun _ => forall_congr' fun reply => ?_
  cases (Operation.getPlans.finish client reply p.session).value <;> rfl

end Fetching

namespace Dashboard

/-- A view with the outcome of the call for the subscription. -/
def afterSubscription (outcome : Outcome Subscription) (view : View) : View :=
  match outcome with
  | .success subscription => showSubscription subscription view
  | failure => HasStatus.modify (.showing failure []) view

/-- A view with the outcome of the call for the servers. -/
def afterServers (outcome : Outcome (List ServerNode)) (view : View) : View :=
  match outcome with
  | .success servers => { view with servers }
  | failure => HasStatus.modify (.showing failure []) view

section Rules

variable {wait : Errand → Progress View → Prop} {post : Progress View → Prop} {p : Progress View}
  (client : Client)

theorem ensures_goOnSubscription (outcome : Outcome Subscription) :
    (goOnSubscription client outcome).Ensures wait (fun _ => post) p ↔
      ((perform client Operation.getUserInfo).bind (goOnInfo client)).Ensures wait (fun _ => post)
        { p with view := afterSubscription outcome p.view } := by
  cases outcome <;> rfl

theorem ensures_goOnInfo (outcome : Outcome UserInfo) :
    (goOnInfo client outcome).Ensures wait (fun _ => post) p ↔
      (goOnPlan client (outcome.value?.bind UserInfo.planId)).Ensures wait (fun _ => post) p := by
  cases outcome <;> rfl

theorem ensures_goOnServers (outcome : Outcome (List ServerNode)) :
    (goOnServers outcome).Ensures wait (fun _ => post) p ↔
      post { p with
        view := HasStatus.modify (.setLoading false) (afterServers outcome p.view) } := by
  cases outcome <;> rfl

end Rules

/-- What is shown, with the outcomes of the calls and the name of the plan. -/
def shows (subscription : Outcome Subscription) (planName : Option String)
    (servers : Outcome (List ServerNode)) (view : View) : View where
  status := Page.settled (servers.rendering?.or subscription.rendering?)
  usage := (subscription.value?.map fun subscription =>
    .ofTraffic subscription.upload subscription.download subscription.transferEnable).getD
      view.usage
  expiredAt := (subscription.value?.map Subscription.expiredAt).getD view.expiredAt
  planName
  servers := servers.value?.getD view.servers

theorem afterSubscription_eq (outcome : Outcome Subscription) {view : View}
    (h : view.status.fieldError = fun _ => none) :
    afterSubscription outcome view =
      { view with
        status := { view.status with
          generalError := outcome.rendering?.or view.status.generalError }
        usage := (outcome.value?.map fun subscription =>
          .ofTraffic subscription.upload subscription.download subscription.transferEnable).getD
            view.usage
        expiredAt := (outcome.value?.map Subscription.expiredAt).getD view.expiredAt } := by
  rw [← Status.showing_nil outcome h]
  cases outcome <;> rfl

theorem afterServers_eq (outcome : Outcome (List ServerNode)) {view : View}
    (h : view.status.fieldError = fun _ => none) :
    afterServers outcome view =
      { view with
        status := { view.status with
          generalError := outcome.rendering?.or view.status.generalError }
        servers := outcome.value?.getD view.servers } := by
  rw [← Status.showing_nil outcome h]
  cases outcome <;> rfl

/-- The steps of a load come to what is shown. -/
theorem shows_eq (subscription : Outcome Subscription) (planName : Option String)
    (servers : Outcome (List ServerNode)) (view : View) :
    HasStatus.modify (.setLoading false)
        (afterServers servers { afterSubscription subscription
          (HasStatus.modify (.setLoading true) (HasStatus.modify .clearErrors view)) with
            planName }) =
      shows subscription planName servers view := by
  rw [afterSubscription_eq subscription rfl, afterServers_eq servers rfl]
  cases hrendering : subscription.rendering? <;> simp only [shows, hrendering] <;> rfl

theorem populated_eq {replies : List Http.Reply} {subscription : Outcome Subscription}
    {servers : Outcome (List ServerNode)}
    (hsubscription : Page.dashboard.outcome? replies .getSubscribe = some subscription)
    (hservers : Page.dashboard.outcome? replies .getServers = some servers) (view : View) :
    populated replies view =
      shows subscription (Page.dashboard.planName? replies) servers view := by
  have herror : Page.dashboard.error? replies =
      servers.rendering?.or subscription.rendering? := by
    refine (getLast?_filterMap_pair ..).trans ?_
    rw [hsubscription, hservers]
    rfl
  simp only [populated, Page.fetched?, hsubscription, hservers, herror]
  rfl

/-- With the servers the dashboard has all that it shows. -/
theorem ensures_servers (client : Client) {first p : Progress View} {replies : List Http.Reply}
    (h : Fetched first replies p) (subscription : Outcome Subscription) (planName : Option String)
    (hview : p.view = { afterSubscription subscription
      (HasStatus.modify (.setLoading true) (HasStatus.modify .clearErrors first.view)) with
        planName })
    (hnext : (Page.dashboard.calls replies)[replies.length]? = some .getServers)
    (hlast : ∀ reply,
      (replies ++ [reply]).length = (Page.dashboard.calls (replies ++ [reply])).length ∧
      Page.dashboard.outcome? (replies ++ [reply]) .getSubscribe = some subscription ∧
      Page.dashboard.planName? (replies ++ [reply]) = planName ∧
      Page.dashboard.outcome? (replies ++ [reply]) .getServers =
        some (Query.getServers.outcome reply)) :
    ((perform client Operation.getServers).bind goOnServers).Ensures
      (AwaitsCall Page.dashboard.calls first)
      (fun _ => EndsPopulated Page.dashboard.calls (fun replies _ => populated replies) first)
      p := by
  refine h.ensures_perform client .getServers hnext rfl fun reply q hq hfetched => ?_
  obtain ⟨hlength, hsubscription, hname, hservers⟩ := hlast reply
  refine (ensures_goOnServers _).2 (hfetched.ends hlength ?_)
  rw [populated_eq hsubscription hservers, hname, hq, hview]
  exact shows_eq ..

/-- The dashboard makes its calls whatever becomes of them, and shows what they brought. -/
theorem ensures_load (client : Client) {first : Progress View} (heffects : first.effects = [])
    (hanswers : first.answers = []) :
    (load client).Ensures (AwaitsCall Page.dashboard.calls first)
      (fun _ => EndsPopulated Page.dashboard.calls (fun replies _ => populated replies) first)
      first := by
  rw [load_eq]
  have h₀ : Fetched first [] first := ⟨hanswers, heffects, rfl⟩
  refine (h₀.viewing _).ensures_perform client .getSubscribe rfl rfl fun r₁ p₁ hview₁ h₁ => ?_
  refine (ensures_goOnSubscription client _).2 ?_
  refine (h₁.viewing _).ensures_perform client .getUserInfo rfl rfl fun r₂ p₂ hview₂ h₂ => ?_
  refine (ensures_goOnInfo client _).2 ?_
  have h₂ : Fetched first [r₁, r₂] p₂ := h₂
  have hview₂ : p₂.view = afterSubscription (Query.getSubscribe.outcome r₁)
      (HasStatus.modify (.setLoading true) (HasStatus.modify .clearErrors first.view)) :=
    hview₂.trans (congrArg (afterSubscription (Query.getSubscribe.outcome r₁)) hview₁)
  show (goOnPlan client (UserInfo.plan? r₂)).Ensures _ _ _
  cases hplan : UserInfo.plan? r₂ with
  | none =>
    have hcalls (more : List Http.Reply) : Page.dashboard.calls (r₁ :: r₂ :: more) =
        [.getSubscribe, .getUserInfo, .getServers] := by
      simp [Page.calls, Page.planCalls, hplan]
    refine ensures_servers client (h₂.viewing _) (Query.getSubscribe.outcome r₁) none
      (by rw [hview₂]) (by rw [hcalls]; rfl) fun r₃ => ?_
    have houtcome := Page.outcome?_of_calls (hcalls [r₃])
    refine ⟨(congrArg List.length (hcalls [r₃])).symm, houtcome _, ?_, houtcome _⟩
    exact (Page.planName?_of_info (houtcome .getUserInfo)).trans (by rw [hplan]; rfl)
  | some planId =>
    have hcalls (more : List Http.Reply) : Page.dashboard.calls (r₁ :: r₂ :: more) =
        [.getSubscribe, .getUserInfo, .getPlans, .getServers] := by
      simp [Page.calls, Page.planCalls, hplan]
    refine (ensures_resolvePlanName client planId _).2 ?_
    refine h₂.ensures_perform client .getPlans (by rw [hcalls]; rfl) rfl fun r₃ p₃ hview₃ h₃ => ?_
    have h₃ : Fetched first [r₁, r₂, r₃] p₃ := h₃
    refine ensures_servers client (h₃.viewing _) (Query.getSubscribe.outcome r₁) _
      (by rw [hview₃, hview₂]) (by rw [hcalls]; rfl) fun r₄ => ?_
    have houtcome := Page.outcome?_of_calls (hcalls [r₃, r₄])
    refine ⟨(congrArg List.length (hcalls [r₃, r₄])).symm, houtcome _, ?_, houtcome _⟩
    refine (Page.planName?_of_info (houtcome .getUserInfo)).trans ?_
    rw [hplan, Page.fetched?, houtcome]
    rfl

end Dashboard

namespace Account

/-- A view with the outcome of the call for the account. -/
def afterInfo (outcome : Outcome UserInfo) (view : View) : View :=
  match outcome with
  | .success info => showInfo info view
  | failure => HasStatus.modify (.showing failure []) view

/-- What is shown, with the outcome of the call for the account and the name of the plan. -/
def shows (info : Outcome UserInfo) (planName : Option String) (session : Session) (view : View) :
    View where
  status := Page.settled info.rendering?
  email := ((info.value?.map UserInfo.email).filter fun email => !email.isEmpty).getD
    session.userEmail
  usage := (info.value?.map fun info =>
    .ofTraffic info.upload info.download info.transferEnable).getD view.usage
  expiredAt := (info.value?.map UserInfo.expiredAt).getD view.expiredAt
  balance := (info.value?.map UserInfo.balance).getD view.balance
  planName

/-- What is shown before the first reply: the address that the session holds. -/
def begun (session : Session) (view : View) : View :=
  { HasStatus.modify .clearErrors view with
    email := session.userEmail
    status := (HasStatus.modify .clearErrors view).status.setLoading true }

theorem ensures_goOnInfo {wait : Errand → Progress View → Prop} {post : Progress View → Prop}
    {p : Progress View} (client : Client) (outcome : Outcome UserInfo) :
    (goOnInfo client outcome).Ensures wait (fun _ => post) p ↔
      (goOnPlan client (outcome.value?.bind UserInfo.planId)).Ensures wait (fun _ => post)
        { p with view := afterInfo outcome p.view } := by
  cases outcome <;> rfl

/-- The steps of a load come to what is shown. -/
theorem shows_eq (info : Outcome UserInfo) (planName : Option String) (session : Session)
    (view : View) :
    { afterInfo info (begun session view) with
      planName, status := (afterInfo info (begun session view)).status.setLoading false } =
      shows info planName session view := by
  cases info with
  | success info =>
    simp only [shows, Outcome.value?, Option.map_some, getD_filter_isEmpty]
    rfl
  | _ =>
    simp only [afterInfo, HasStatus.modify]
    rw [show HasStatus.status (begun session view) = ⟨true, fun _ => none, none⟩ from rfl,
      Status.showing_nil _ rfl]
    rfl

theorem populated_eq {replies : List Http.Reply} {info : Outcome UserInfo}
    (hinfo : Page.account.outcome? replies .getUserInfo = some info) (session : Session)
    (view : View) :
    populated replies session view =
      shows info (Page.account.planName? replies) session view := by
  have herror : Page.account.error? replies = info.rendering? := by
    refine (getLast?_filterMap_singleton ..).trans ?_
    rw [hinfo]
    rfl
  simp only [populated, Page.fetched?, hinfo, herror]
  rfl

/-- The account makes its calls whatever becomes of them, and shows what they brought. -/
theorem ensures_load (client : Client) {first : Progress View} (heffects : first.effects = [])
    (hanswers : first.answers = []) :
    (load client).Ensures (AwaitsCall Page.account.calls first)
      (fun _ => EndsPopulated Page.account.calls populated first) first := by
  rw [load_eq]
  have h₀ : Fetched first [] first := ⟨hanswers, heffects, rfl⟩
  refine (h₀.viewing (begun first.session first.view)).ensures_perform client .getUserInfo rfl rfl
    fun r₁ p₁ hview₁ h₁ => ?_
  have h₁ : Fetched first [r₁] p₁ := h₁
  refine (ensures_goOnInfo client _).2 ?_
  show (goOnPlan client (UserInfo.plan? r₁)).Ensures _ _ _
  cases hplan : UserInfo.plan? r₁ with
  | none =>
    have hcalls : Page.account.calls [r₁] = [.getUserInfo] := by
      simp [Page.calls, Page.planCalls, hplan]
    have hinfo := Page.outcome?_of_calls hcalls .getUserInfo
    have hname : Page.account.planName? [r₁] = none :=
      (Page.planName?_of_info hinfo).trans (by rw [hplan]; rfl)
    refine h₁.ends (congrArg List.length hcalls).symm ?_
    rw [populated_eq hinfo, hname, hview₁]
    exact shows_eq ..
  | some planId =>
    have hcalls (more : List Http.Reply) : Page.account.calls (r₁ :: more) =
        [.getUserInfo, .getPlans] := by
      simp [Page.calls, Page.planCalls, hplan]
    refine (ensures_resolvePlanName client planId _).2 ?_
    refine (h₁.viewing _).ensures_perform client .getPlans (by rw [hcalls]; rfl) rfl
      fun r₂ p₂ hview₂ h₂ => ?_
    have houtcome := Page.outcome?_of_calls (hcalls [r₂])
    have hname : Page.account.planName? [r₁, r₂] =
        ((Query.getPlans.outcome r₂).value?.bind (findPlan planId)).map Plan.name := by
      refine (Page.planName?_of_info (houtcome .getUserInfo)).trans ?_
      rw [hplan, Page.fetched?, houtcome]
      rfl
    have h₂ : Fetched first [r₁, r₂] p₂ := h₂
    refine h₂.ends (congrArg List.length (hcalls [r₂])).symm ?_
    rw [populated_eq (houtcome .getUserInfo), hname, hview₂, hview₁]
    exact shows_eq ..

end Account

namespace Purchase

/-- What is shown, with the outcome of the call for the plans. -/
def shows (plans : Outcome (List Plan)) (view : View) : View :=
  ⟨Page.settled plans.rendering?, plans.value?.getD view.plans⟩

theorem populated_eq {replies : List Http.Reply} {plans : Outcome (List Plan)}
    (hplans : Page.purchase.outcome? replies .getPlans = some plans) (view : View) :
    populated replies view = shows plans view := by
  have herror : Page.purchase.error? replies = plans.rendering? := by
    refine (getLast?_filterMap_singleton ..).trans ?_
    rw [hplans]
    rfl
  simp only [populated, Page.fetched?, hplans, herror]
  rfl

/-- A view with the outcome of the call for the plans, and nothing going on. -/
def afterPlans (outcome : Outcome (List Plan)) (view : View) : View :=
  match outcome with
  | .success plans => { view with plans, status := view.status.setLoading false }
  | failure => HasStatus.modify (fun status => (status.showing failure []).setLoading false) view

/-- The steps of a load come to what is shown. -/
theorem shows_eq (plans : Outcome (List Plan)) (view : View) :
    afterPlans plans (HasStatus.modify (.setLoading true) (HasStatus.modify .clearErrors view)) =
      shows plans view := by
  cases plans with
  | success plans => rfl
  | _ =>
    simp only [afterPlans, HasStatus.modify]
    rw [Status.showing_nil _ rfl]
    rfl

/-- The plan list makes its one call, and shows what that brought. -/
theorem ensures_load (client : Client) {first : Progress View} (heffects : first.effects = [])
    (hanswers : first.answers = []) :
    (load client).Ensures (AwaitsCall Page.purchase.calls first)
      (fun _ => EndsPopulated Page.purchase.calls (fun replies _ => populated replies) first)
      first := by
  have h₀ : Fetched first [] first := ⟨hanswers, heffects, rfl⟩
  refine (h₀.viewing _).ensures_perform client .getPlans rfl rfl fun r₁ p₁ hview₁ h₁ => ?_
  have h₁ : Fetched first [r₁] p₁ := h₁
  have hlength : [r₁].length = (Page.purchase.calls [r₁]).length := rfl
  have hplans : Page.purchase.outcome? [r₁] .getPlans = some (Query.getPlans.outcome r₁) := rfl
  have hends : EndsPopulated Page.purchase.calls (fun replies _ => populated replies) first
      { p₁ with view := afterPlans (Query.getPlans.outcome r₁) p₁.view } := by
    refine h₁.ends hlength ?_
    rw [populated_eq hplans, hview₁]
    exact shows_eq ..
  generalize Query.getPlans.outcome r₁ = outcome at hends ⊢
  cases outcome <;> exact hends

end Purchase

namespace Checkout

/-- A view with the outcome of the call for the plans. -/
def afterPlans (planId : Int) (outcome : Outcome (List Plan)) (view : View) : View :=
  match outcome with
  | .success plans => ((findPlan planId plans).map fun plan => showPlan plan view).getD view
  | failure => HasStatus.modify (.showing failure []) view

/-- A view with the outcome of the call for the ways to pay. -/
def afterMethods (outcome : Outcome (List PaymentMethod)) (view : View) : View :=
  match outcome with
  | .success paymentMethods => { view with paymentMethods }
  | failure => HasStatus.modify (.showing failure []) view

/-- What is shown, with the outcomes of the calls. -/
def shows (planId : Int) (plans : Outcome (List Plan)) (methods : Outcome (List PaymentMethod))
    (view : View) : View :=
  let plan? := plans.value?.bind (findPlan planId)
  { status := Page.settled (methods.rendering?.or plans.rendering?)
    planName := ((plan?.map Plan.name).filter fun name => !name.isEmpty).getD view.planName
    periods := (plan?.map Plan.periods).getD view.periods
    paymentMethods := methods.value?.getD view.paymentMethods }

section Rules

variable {wait : Errand → Progress View → Prop} {post : Progress View → Prop} {p : Progress View}
  (client : Client) (planId : Int)

theorem ensures_showPlans (outcome : Outcome (List Plan)) :
    (showPlans client planId outcome).Ensures wait (fun _ => post) p ↔
      ((perform client Operation.getPaymentMethods).bind showMethods).Ensures wait (fun _ => post)
        { p with view := afterPlans planId outcome p.view } := by
  cases outcome with
  | success plans =>
    simp only [showPlans, afterPlans]
    cases findPlan planId plans <;> rfl
  | _ => rfl

theorem ensures_showMethods (outcome : Outcome (List PaymentMethod)) :
    (showMethods outcome).Ensures wait (fun _ => post) p ↔
      post { p with
        view := HasStatus.modify (.setLoading false) (afterMethods outcome p.view) } := by
  cases outcome <;> rfl

end Rules

theorem afterPlans_eq (planId : Int) (outcome : Outcome (List Plan)) {view : View}
    (h : view.status.fieldError = fun _ => none) :
    afterPlans planId outcome view =
      let plan? := outcome.value?.bind (findPlan planId)
      { view with
        status := { view.status with
          generalError := outcome.rendering?.or view.status.generalError }
        planName := ((plan?.map Plan.name).filter fun name => !name.isEmpty).getD view.planName
        periods := (plan?.map Plan.periods).getD view.periods } := by
  rw [← Status.showing_nil outcome h]
  cases outcome with
  | success plans =>
    simp only [afterPlans, Outcome.value?, Option.bind_some]
    cases findPlan planId plans with
    | none => rfl
    | some plan =>
      simp only [Option.map_some, getD_filter_isEmpty]
      rfl
  | _ => rfl

theorem afterMethods_eq (outcome : Outcome (List PaymentMethod)) {view : View}
    (h : view.status.fieldError = fun _ => none) :
    afterMethods outcome view =
      { view with
        status := { view.status with
          generalError := outcome.rendering?.or view.status.generalError }
        paymentMethods := outcome.value?.getD view.paymentMethods } := by
  rw [← Status.showing_nil outcome h]
  cases outcome <;> rfl

/-- The steps of a load come to what is shown. -/
theorem shows_eq (planId : Int) (plans : Outcome (List Plan))
    (methods : Outcome (List PaymentMethod)) (view : View) :
    HasStatus.modify (.setLoading false) (afterMethods methods (afterPlans planId plans
      (HasStatus.modify (.setLoading true) (HasStatus.modify .clearErrors view)))) =
      shows planId plans methods view := by
  rw [afterPlans_eq planId plans rfl, afterMethods_eq methods rfl]
  cases hrendering : plans.rendering? <;> simp only [shows, hrendering] <;> rfl

theorem populated_eq {planId : Int} {planName : String} {replies : List Http.Reply}
    {plans : Outcome (List Plan)} {methods : Outcome (List PaymentMethod)}
    (hplans : (Page.checkout planId planName).outcome? replies .getPlans = some plans)
    (hmethods : (Page.checkout planId planName).outcome? replies .getPaymentMethods =
      some methods) (view : View) :
    populated planId planName replies view = shows planId plans methods view := by
  have herror : (Page.checkout planId planName).error? replies =
      methods.rendering?.or plans.rendering? := by
    refine (getLast?_filterMap_pair ..).trans ?_
    rw [hplans, hmethods]
    rfl
  simp only [populated, Page.fetched?, hplans, hmethods, herror]
  rfl

/-- The checkout makes its calls whatever becomes of them, and shows what they brought. -/
theorem ensures_load (client : Client) (planId : Int) (planName : String) {first : Progress View}
    (heffects : first.effects = []) (hanswers : first.answers = []) :
    (load client planId).Ensures (AwaitsCall (Page.checkout planId planName).calls first)
      (fun _ => EndsPopulated (Page.checkout planId planName).calls
        (fun replies _ => populated planId planName replies) first) first := by
  have h₀ : Fetched first [] first := ⟨hanswers, heffects, rfl⟩
  refine (h₀.viewing (HasStatus.modify (.setLoading true)
    (HasStatus.modify .clearErrors first.view))).ensures_perform client .getPlans rfl rfl
      fun r₁ p₁ hview₁ h₁ => ?_
  refine (ensures_showPlans client planId _).2 ?_
  refine (h₁.viewing _).ensures_perform client .getPaymentMethods rfl rfl fun r₂ p₂ hview₂ h₂ => ?_
  have h₂ : Fetched first [r₁, r₂] p₂ := h₂
  have hlength : [r₁, r₂].length = ((Page.checkout planId planName).calls [r₁, r₂]).length := rfl
  refine (ensures_showMethods _).2 (h₂.ends hlength ?_)
  have hplans : (Page.checkout planId planName).outcome? [r₁, r₂] .getPlans =
      some (Query.getPlans.outcome r₁) := rfl
  have hmethods : (Page.checkout planId planName).outcome? [r₁, r₂] .getPaymentMethods =
      some (Query.getPaymentMethods.outcome r₂) := rfl
  rw [populated_eq hplans hmethods, hview₂, hview₁]
  exact shows_eq ..

end Checkout

/-- What is shown for a new account, with the outcome of the call for the inputs that are wanted. -/
def Register.shows (config : Outcome SystemConfig) (view : View) : View :=
  { view with config := config.value?.getD view.config }

end PanelClient
