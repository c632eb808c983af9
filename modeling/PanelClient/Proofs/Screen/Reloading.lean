import PanelClient.Proofs.Screen.Populated

/-!
# Loading a page again

A backend that gives the same answer to the same request (`Outside.answering`) lets a load run to
its end at once. What a program comes to then is told by what it makes of the view and the session
(`Program.Answered`), and for the load of a page that is a function of the outcomes of its calls
(`Page.shown`, `Page.left`, `Page.answered_load`). A second load finds the same answers and has
nothing left to change (`Page.shown_shown`, `Page.lasting_left_left`): that is `Page.loaded_twice`.
-/

namespace PanelClient

open Program

/-- Every request is answered at once, and nothing else is there. -/
def Outside.answering {σ : Type} (answer : Http.Request → Http.Reply) : Outside σ Unit where
  reply request state := (state, some (answer request))
  handover _ _ state := (state, none)
  waking _ state := (state, false)

namespace Program

variable {σ α β : Type}

/-- Where requests are all that a program waits for, the condition holds of its result, the view and
the session when they have been answered. -/
def Answered (client : Client) (answer : Http.Request → Http.Reply) :
    Program σ α → (α → σ → Session → Prop) → σ → Session → Prop
  | done result, post, view, session => post result view session
  | update change next, post, view, session =>
    next.Answered client answer post (change view) session
  | emit _ next, post, view, session => next.Answered client answer post view session
  | work change _ next, post, view, session =>
    (next session).Answered client answer post view (change session)
  | exchange call next, post, view, session =>
    (next (answer (client.request session call))).Answered client answer post view session
  | startCooldown next, post, view, session => next.Answered client answer post view session
  | handOff .., _, _, _ | sleep .., _, _, _ | crash _, _, _, _ => False

section Rules

variable {client : Client} {answer : Http.Request → Http.Reply} {view : σ} {session : Session}

theorem answered_bind (program : Program σ α) (next : α → Program σ β)
    (post : β → σ → Session → Prop) :
    (program.bind next).Answered client answer post view session ↔
      program.Answered client answer (fun result => (next result).Answered client answer post) view
        session := by
  induction program generalizing view session with
  | work change events rest ih => exact ih ..
  | exchange call rest ih => exact ih ..
  | _ => first | rfl | next ih => exact ih ..

/-- The last scene is as one with that view and session, but a screen that is torn down still shows
what it showed. -/
structure Leaves (scene last : Scene σ) (shown : σ) (left : Session) : Prop where
  tornDown : last.tornDown = scene.tornDown
  session : last.session = left
  view : last.view = if scene.tornDown then scene.view else shown

theorem Leaves.congr {scene next last : Scene σ} {shown : σ} {left : Session}
    (h : Leaves next last shown left) (htornDown : next.tornDown = scene.tornDown)
    (hview : scene.tornDown = true → next.view = scene.view) : Leaves scene last shown left := by
  refine ⟨h.tornDown.trans htornDown, h.session, h.view.trans ?_⟩
  rw [htornDown]
  cases htorn : scene.tornDown with
  | true => rw [if_pos rfl, if_pos rfl, hview htorn]
  | false => rfl

/-- A program that is answered runs to its end. -/
theorem Answered.run (setting : Setting) {program : Program σ Unit} {shown : σ} {left : Session}
    (h : program.Answered setting.client answer
      (fun _ view session => view = shown ∧ session = left) view session)
    (scene : Scene σ) (hsession : scene.session = session)
    (hview : scene.tornDown = false → scene.view = view) :
    ∃ last, program.run setting (.answering answer) (scene, ()) = ((last, ()), .finished) ∧
      Leaves scene last shown left := by
  induction program generalizing view session scene with
  | done result =>
    obtain ⟨rfl, rfl⟩ := h
    refine ⟨scene, rfl, rfl, hsession, ?_⟩
    cases htorn : scene.tornDown with
    | true => rfl
    | false => exact hview htorn
  | update change rest ih =>
    have hchanged : (scene.update change).tornDown = false →
        (scene.update change).view = change view := by
      rw [Scene.update_tornDown]
      intro hup
      simp [Scene.update, hup, hview hup]
    obtain ⟨last, hrun, hleaves⟩ := ih h _ ((scene.update_session change).trans hsession) hchanged
    refine ⟨last, hrun, hleaves.congr (scene.update_tornDown change) fun htorn => ?_⟩
    simp [Scene.update, htorn]
  | emit effect rest ih =>
    obtain ⟨last, hrun, hleaves⟩ := ih h (scene.emit effect)
      ((scene.emit_session effect).trans hsession) (by simpa using hview)
    exact ⟨last, hrun, hleaves.congr (scene.emit_tornDown effect) fun _ => scene.emit_view effect⟩
  | work change events rest ih =>
    subst hsession
    obtain ⟨last, hrun, hleaves⟩ := ih _ h (scene.work change events) rfl hview
    exact ⟨last, hrun, hleaves.congr rfl fun _ => rfl⟩
  | exchange call rest ih =>
    subst hsession
    let request := setting.client.request scene.session call
    obtain ⟨last, hrun, hleaves⟩ := ih _ h (scene.send request) rfl hview
    exact ⟨last, hrun, hleaves.congr rfl fun _ => rfl⟩
  | startCooldown rest ih =>
    obtain ⟨last, hrun, hleaves⟩ := ih h (scene.startCountdown setting.cooldownSeconds)
      hsession hview
    exact ⟨last, hrun, hleaves.congr rfl fun _ => rfl⟩
  | handOff => cases h
  | sleep => cases h
  | crash => cases h

end Rules

section Instructions

variable {client : Client} {answer : Http.Request → Http.Reply} {post : Unit → σ → Session → Prop}
  {view : σ} {session : Session}

@[simp] theorem answered_change (f : σ → σ) :
    (change f).Answered client answer post view session ↔ post () (f view) session := Iff.rfl

@[simp] theorem answered_read (held : Session → α) (post : α → σ → Session → Prop) :
    (read held).Answered client answer post view session ↔ post (held session) view session :=
  Iff.rfl

@[simp] theorem answered_changeStatus [HasStatus σ] (f : Status → Status) :
    (changeStatus f).Answered client answer post view session ↔
      post () (HasStatus.modify f view) session := Iff.rfl

end Instructions

end Program

/-! ## What is answered -/

/-- What a query comes to with the answer to its request. -/
def Client.ask (client : Client) (answer : Http.Request → Http.Reply) (session : Session)
    (query : Query) : Outcome query.Value :=
  query.outcome (answer (client.request session query.operation.call))

section Asking

variable {σ α : Type} (client : Client) (answer : Http.Request → Http.Reply)

/-- No more of the session than the credential has a part in an answer. -/
theorem Client.ask_congr {session other : Session} (h : session.authData = other.authData) :
    client.ask answer session = client.ask answer other := by
  funext query
  rw [ask, ask, client.request_congr h]

variable {client answer} {view : σ} {session : Session}

theorem Query.signsInAs?_of_not_isRemembered {query : Query} (h : query.isRemembered = false) :
    query.signsInAs? = none := by
  cases query <;> first | rfl | cases h

/-- Most queries do no more than bring what they come to. -/
theorem answered_query (query : Query) (h : query.isRemembered = false)
    (post : Outcome query.Value → σ → Session → Prop) :
    (perform client query.operation).Answered client answer post view session ↔
      post (client.ask answer session query) view session := by
  show post (query.operation.finish client _ session).value view
    (query.operation.finish client _ session).session ↔ _
  rw [query.keeps_finish h client _ session,
    Query.value_finish (Query.signsInAs?_of_not_isRemembered h)]
  rfl

/-- The subscription brings its address to the session. -/
theorem answered_getSubscribe (post : Outcome Subscription → σ → Session → Prop) :
    (perform client Operation.getSubscribe).Answered client answer post view session ↔
      post (client.ask answer session .getSubscribe) view
        (session.importing (answer (client.request session Operation.getSubscribe.call))) := by
  have hvalue (reply : Http.Reply) :
      (Query.getSubscribe.operation.finish client reply session).value =
        Query.getSubscribe.outcome reply :=
    Query.value_finish rfl client reply session
  show post (Query.getSubscribe.operation.finish client _ session).value view
    (Operation.getSubscribe.finish client _ session).session ↔ _
  rw [Operation.getSubscribe_session_eq, hvalue]
  rfl

/-- The name of a plan, as far as it can be told. -/
def planName? (ask : (query : Query) → Outcome query.Value) (planId? : Option Int) :
    Option String :=
  planId?.bind fun planId =>
    ((ask .getPlans : Outcome (List Plan)).value?.bind (findPlan planId)).map Plan.name

theorem answered_resolvePlanName (planId? : Option Int)
    (post : Option String → σ → Session → Prop) :
    (resolvePlanName client planId?).Answered client answer post view session ↔
      post (planName? (client.ask answer session) planId?) view session := by
  cases planId? with
  | none => rfl
  | some planId =>
    simp only [resolvePlanName, bind_eq, answered_bind]
    refine (answered_query .getPlans rfl _).trans ?_
    simp only [planName?, Option.bind_some]
    generalize client.ask answer session .getPlans = plans
    cases plans <;> rfl

/-- The name of the account's plan. -/
def accountPlanName? (ask : (query : Query) → Outcome query.Value) : Option String :=
  planName? ask ((ask .getUserInfo : Outcome UserInfo).value?.bind UserInfo.planId)

end Asking

/-! ## What a load makes of a page -/

/-- A value that is there is there again, and one that was kept is kept again. -/
theorem getD_getD_self {α : Type} (value? : Option α) (old : α) :
    value?.getD (value?.getD old) = value?.getD old := by
  cases value? <;> rfl

namespace Dashboard

variable {client : Client} {answer : Http.Request → Http.Reply}
  {post : Unit → View → Session → Prop} {view : View} {session : Session}

theorem answered_goOnSubscription (outcome : Outcome Subscription) :
    (goOnSubscription client outcome).Answered client answer post view session ↔
      ((perform client Operation.getUserInfo).bind (goOnInfo client)).Answered client answer post
        (afterSubscription outcome view) session := by
  cases outcome <;> rfl

theorem answered_goOnInfo (outcome : Outcome UserInfo) :
    (goOnInfo client outcome).Answered client answer post view session ↔
      (goOnPlan client (outcome.value?.bind UserInfo.planId)).Answered client answer post view
        session := by
  cases outcome <;> rfl

theorem answered_goOnServers (outcome : Outcome (List ServerNode)) :
    (goOnServers outcome).Answered client answer post view session ↔
      post () (HasStatus.modify (.setLoading false) (afterServers outcome view)) session := by
  cases outcome <;> rfl

theorem answered_goOnPlan (planId? : Option Int) :
    (goOnPlan client planId?).Answered client answer post view session ↔
      post () (HasStatus.modify (.setLoading false)
        (afterServers (client.ask answer session .getServers)
          { view with planName := planName? (client.ask answer session) planId? })) session := by
  simp only [goOnPlan, bind_eq, answered_bind]
  refine (answered_resolvePlanName planId? _).trans ?_
  rw [answered_bind, answered_change, answered_bind]
  exact (answered_query .getServers rfl _).trans (answered_goOnServers _)

theorem answered_load :
    (load client).Answered client answer post view session ↔
      post () (shows (client.ask answer session .getSubscribe)
          (accountPlanName? (client.ask answer session)) (client.ask answer session .getServers)
            view)
        (session.importing (answer (client.request session Operation.getSubscribe.call))) := by
  have hsame (reply : Http.Reply) :
      client.ask answer (session.importing reply) = client.ask answer session :=
    client.ask_congr answer (session.authData_importing reply)
  rw [load_eq]
  simp only [answered_bind, clearErrors, setLoading, answered_changeStatus]
  refine (answered_getSubscribe _).trans ?_
  refine (answered_goOnSubscription _).trans ?_
  rw [answered_bind]
  refine (answered_query .getUserInfo rfl _).trans ?_
  refine (answered_goOnInfo _).trans ?_
  refine (answered_goOnPlan _).trans ?_
  rw [hsame]
  exact iff_of_eq (congrArg (post () · _) (shows_eq ..))

theorem shows_shows (subscription : Outcome Subscription) (planName : Option String)
    (servers : Outcome (List ServerNode)) (view : View) :
    shows subscription planName servers (shows subscription planName servers view) =
      shows subscription planName servers view := by
  simp only [shows, getD_getD_self]

theorem shows_of_isSuccess {subscription : Outcome Subscription}
    {servers : Outcome (List ServerNode)} (hsubscription : subscription.isSuccess = true)
    (hservers : servers.isSuccess = true) (planName : Option String) (view other : View) :
    shows subscription planName servers view = shows subscription planName servers other := by
  obtain ⟨_, hsubscription⟩ := Option.isSome_iff_exists.1 hsubscription
  obtain ⟨_, hservers⟩ := Option.isSome_iff_exists.1 hservers
  simp only [shows, hsubscription, hservers, Option.map_some, Option.getD_some]

end Dashboard

namespace Account

variable {client : Client} {answer : Http.Request → Http.Reply}
  {post : Unit → View → Session → Prop} {view : View} {session : Session}

theorem answered_goOnInfo (outcome : Outcome UserInfo) :
    (goOnInfo client outcome).Answered client answer post view session ↔
      (goOnPlan client (outcome.value?.bind UserInfo.planId)).Answered client answer post
        (afterInfo outcome view) session := by
  cases outcome <;> rfl

theorem answered_load :
    (load client).Answered client answer post view session ↔
      post () (shows (client.ask answer session .getUserInfo)
        (accountPlanName? (client.ask answer session)) session view) session := by
  rw [load_eq]
  simp only [answered_bind, clearErrors, answered_changeStatus, answered_read, answered_change]
  refine (answered_query .getUserInfo rfl _).trans ?_
  refine (answered_goOnInfo _).trans ?_
  simp only [goOnPlan, bind_eq, answered_bind]
  refine (answered_resolvePlanName _ _).trans ?_
  exact iff_of_eq (congrArg (post () · _) (shows_eq ..))

theorem shows_shows (info : Outcome UserInfo) (planName : Option String) (session : Session)
    (view : View) :
    shows info planName session (shows info planName session view) =
      shows info planName session view := by
  simp only [shows, getD_getD_self]

theorem shows_of_isSuccess {info : Outcome UserInfo} (h : info.isSuccess = true)
    (planName : Option String) (session : Session) (view other : View) :
    shows info planName session view = shows info planName session other := by
  obtain ⟨_, hinfo⟩ := Option.isSome_iff_exists.1 h
  simp only [shows, hinfo, Option.map_some, Option.getD_some]

end Account

namespace Purchase

variable {client : Client} {answer : Http.Request → Http.Reply}
  {post : Unit → View → Session → Prop} {view : View} {session : Session}

theorem answered_load :
    (load client).Answered client answer post view session ↔
      post () (shows (client.ask answer session .getPlans) view) session := by
  simp only [load, bind_eq, answered_bind, clearErrors, setLoading, answered_changeStatus]
  refine (answered_query .getPlans rfl _).trans (Iff.trans ?_ (iff_of_eq (congrArg (post () · _)
    (shows_eq (client.ask answer session .getPlans) view))))
  generalize client.ask answer session .getPlans = plans
  cases plans <;> rfl

theorem shows_shows (plans : Outcome (List Plan)) (view : View) :
    shows plans (shows plans view) = shows plans view := by
  simp only [shows, getD_getD_self]

theorem shows_of_isSuccess {plans : Outcome (List Plan)} (h : plans.isSuccess = true)
    (view other : View) : shows plans view = shows plans other := by
  obtain ⟨_, hplans⟩ := Option.isSome_iff_exists.1 h
  simp only [shows, hplans, Option.getD_some]

end Purchase

namespace Checkout

variable {client : Client} {answer : Http.Request → Http.Reply}
  {post : Unit → View → Session → Prop} {view : View} {session : Session}

theorem answered_showPlans (planId : Int) (outcome : Outcome (List Plan)) :
    (showPlans client planId outcome).Answered client answer post view session ↔
      ((perform client Operation.getPaymentMethods).bind showMethods).Answered client answer post
        (afterPlans planId outcome view) session := by
  cases outcome with
  | success plans =>
    simp only [showPlans, afterPlans]
    cases findPlan planId plans <;> rfl
  | _ => rfl

theorem answered_showMethods (outcome : Outcome (List PaymentMethod)) :
    (showMethods outcome).Answered client answer post view session ↔
      post () (HasStatus.modify (.setLoading false) (afterMethods outcome view)) session := by
  cases outcome <;> rfl

theorem answered_load (planId : Int) :
    (load client planId).Answered client answer post view session ↔
      post () (shows planId (client.ask answer session .getPlans)
        (client.ask answer session .getPaymentMethods) view) session := by
  simp only [load, bind_eq, answered_bind, clearErrors, setLoading, answered_changeStatus]
  refine (answered_query .getPlans rfl _).trans ?_
  refine (answered_showPlans planId _).trans ?_
  rw [answered_bind]
  refine (answered_query .getPaymentMethods rfl _).trans ?_
  refine (answered_showMethods _).trans ?_
  exact iff_of_eq (congrArg (post () · _) (shows_eq ..))

theorem shows_shows (planId : Int) (plans : Outcome (List Plan))
    (methods : Outcome (List PaymentMethod)) (view : View) :
    shows planId plans methods (shows planId plans methods view) =
      shows planId plans methods view := by
  simp only [shows, getD_getD_self]

end Checkout

namespace Register

variable {client : Client} {answer : Http.Request → Http.Reply}
  {post : Unit → View → Session → Prop} {view : View} {session : Session}

theorem answered_load :
    (load client).Answered client answer post view session ↔
      post () (shows (client.ask answer session .getConfig) view) session := by
  simp only [load, bind_eq, answered_bind]
  refine (answered_query .getConfig rfl _).trans ?_
  generalize client.ask answer session .getConfig = config
  cases config <;> rfl

theorem shows_shows (config : Outcome SystemConfig) (view : View) :
    shows config (shows config view) = shows config view := by
  simp only [shows, getD_getD_self]

end Register

namespace Page

/-- What a page shows after a load, with what its queries come to. -/
def shown : (page : Page) → ((query : Query) → Outcome query.Value) → Session → page.View →
    page.View
  | dashboard, ask, _, view =>
    Dashboard.shows (ask .getSubscribe) (accountPlanName? ask) (ask .getServers) view
  | account, ask, session, view =>
    Account.shows (ask .getUserInfo) (accountPlanName? ask) session view
  | purchase, ask, _, view => Purchase.shows (ask .getPlans) view
  | checkout planId _, ask, _, view =>
    Checkout.shows planId (ask .getPlans) (ask .getPaymentMethods) view
  | login, _, session, (view : Login.View) =>
    { view with languageLabel := Language.label session.language }
  | register, ask, _, view => Register.shows (ask .getConfig) view
  | forgotPassword, _, _, view => view

/-- The session after a load, if the fetch of the subscription is answered so. -/
def left : Page → Http.Reply → Session → Session
  | dashboard, reply, session => session.importing reply
  | _, _, session => session

variable {client : Client} {answer : Http.Request → Http.Reply}

/-- Whatever the answers are, a load shows what they bring. -/
theorem answered_load (page : Page) {view : page.View} {session : Session}
    {post : Unit → page.View → Session → Prop} :
    (page.screen client).load.Answered client answer post view session ↔
      post () (page.shown (client.ask answer session) session view)
        (page.left (answer (client.request session Operation.getSubscribe.call)) session) := by
  cases page with
  | dashboard => exact Dashboard.answered_load
  | account => exact Account.answered_load
  | purchase => exact Purchase.answered_load
  | checkout planId planName => exact Checkout.answered_load planId
  | register => exact Register.answered_load
  | login | forgotPassword => rfl

/-! ## A second load -/

section Again

variable (page : Page) (ask : (query : Query) → Outcome query.Value)

/-- No more of the session than the user's address and the language has a part in what is shown. -/
theorem shown_congr {session other : Session} (hemail : other.userEmail = session.userEmail)
    (hlanguage : other.language = session.language) (view : page.View) :
    page.shown ask other view = page.shown ask session view := by
  cases page with
  | account =>
    simp only [shown, Account.shows, hemail]
    rfl
  | login =>
    simp only [shown, hlanguage]
    rfl
  | _ => rfl

/-- What a load brings it brings again, and what it leaves alone it leaves alone again. -/
theorem shown_shown (session : Session) (view : page.View) :
    page.shown ask session (page.shown ask session view) = page.shown ask session view := by
  cases page with
  | dashboard => exact Dashboard.shows_shows ..
  | account => exact Account.shows_shows ..
  | purchase => exact Purchase.shows_shows ..
  | checkout => exact Checkout.shows_shows ..
  | register => exact Register.shows_shows ..
  | login | forgotPassword => rfl

theorem value_left (reply : Http.Reply) (session : Session) {key : String}
    (h : key ≠ Session.subscribeUrlKey) :
    (page.left reply session).value key = session.value key := by
  cases page with
  | dashboard =>
    rw [left, Session.value_importing, if_neg fun hwritten => h hwritten.1]
  | _ => rfl

/-- The address of the subscription is written again as it was. -/
theorem lasting_left_left (reply : Http.Reply) {session : Session}
    (h : session.store.IsReliable) :
    (page.left reply (page.left reply session)).store.lasting =
      (page.left reply session).store.lasting := by
  cases page with
  | dashboard =>
    cases hoffered : Subscription.offered? reply with
    | none => simp only [left, Session.importing_of_none hoffered]
    | some url =>
      simp only [left, Session.importing_of_some hoffered]
      exact h.lasting_set_set Session.subscribeUrlKey url
  | _ => rfl

/-- Nothing stale is left where every call that is reported has succeeded. -/
theorem shown_of_success {page : Page} {ask : (query : Query) → Outcome query.Value}
    (h : page ∈ [dashboard, account, purchase])
    (hsuccess : ∀ query ∈ page.reports, (ask query).isSuccess = true)
    (session : Session) (view other : page.View) :
    page.shown ask session view = page.shown ask session other := by
  cases page with
  | dashboard =>
    exact Dashboard.shows_of_isSuccess (hsuccess .getSubscribe (by decide))
      (hsuccess .getServers (by decide)) _ view other
  | account =>
    exact Account.shows_of_isSuccess (hsuccess .getUserInfo (by decide)) _ session view other
  | purchase => exact Purchase.shows_of_isSuccess (hsuccess .getPlans (by decide)) view other
  | _ => simp at h

end Again

/-- Where a load comes to, and how it ends, if its requests are answered so. -/
def loaded (page : Page) (setting : Setting) (answer : Http.Request → Http.Reply)
    (scene : Scene page.View) : Scene page.View × Halt page.View :=
  let ((last, ()), halt) :=
    (page.screen setting.client).load.run setting (.answering answer) (scene, ())
  (last, halt)

theorem loaded_eq (page : Page) (setting : Setting) (answer : Http.Request → Http.Reply)
    (scene : Scene page.View) :
    ∃ last, page.loaded setting answer scene = (last, .finished) ∧
      Leaves scene last
        (page.shown (setting.client.ask answer scene.session) scene.session scene.view)
        (page.left (answer (setting.client.request scene.session Operation.getSubscribe.call))
          scene.session) := by
  obtain ⟨last, hrun, hleaves⟩ :=
    ((answered_load page).2 ⟨rfl, rfl⟩).run setting scene rfl fun _ => rfl
  exact ⟨last, by rw [loaded, hrun], hleaves⟩

/-- If the same requests are answered the same way, a second load comes to an end like the first one
and changes neither what is shown nor what the session keeps. And if every call that is reported has
succeeded, nothing of what a page showed before is left on the dashboard, with the account and with
the plans. -/
theorem loaded_twice (page : Page) (setting : Setting) (answer : Http.Request → Http.Reply)
    (scene : Scene page.View) (hreliable : scene.session.store.IsReliable) :
    let once := page.loaded setting answer scene
    let twice := page.loaded setting answer once.1
    (once.2 = .finished ∧ twice.2 = .finished ∧ twice.1.view = once.1.view ∧
      twice.1.session.store.lasting = once.1.session.store.lasting) ∧
    (page ∈ [dashboard, account, purchase] → scene.tornDown = false →
      (∀ query ∈ page.reports,
        (setting.client.ask answer scene.session query).isSuccess = true) →
      ∀ other : Scene page.View, other.tornDown = false → other.session = scene.session →
        (page.loaded setting answer other).1.view = once.1.view ∧
          (page.loaded setting answer other).1.session = once.1.session) := by
  obtain ⟨once, honce, hleaves⟩ := page.loaded_eq setting answer scene
  obtain ⟨twice, htwice, hagain⟩ := page.loaded_eq setting answer once
  have hkept {key : String} (hkey : key ≠ Session.subscribeUrlKey) :
      once.session.value key = scene.session.value key := by
    rw [hleaves.session, page.value_left _ _ hkey]
  have hcredential : once.session.authData = scene.session.authData :=
    congrArg Secret.mk (hkept (by decide))
  have hemail : once.session.userEmail = scene.session.userEmail := hkept (by decide)
  have hlanguage : once.session.language = scene.session.language := hkept (by decide)
  rw [setting.client.ask_congr answer hcredential, page.shown_congr _ hemail hlanguage,
    setting.client.request_congr hcredential] at hagain
  rw [honce]
  dsimp only
  rw [htwice]
  refine ⟨⟨rfl, rfl, ?_, ?_⟩, fun hpage hup hsuccess other hother hsession => ?_⟩
  · rw [hagain.view, hleaves.tornDown]
    cases htorn : scene.tornDown with
    | true => rfl
    | false =>
      have honceView := hleaves.view
      rw [htorn] at honceView
      exact (congrArg _ honceView).trans ((page.shown_shown _ _ _).trans honceView.symm)
  · rw [hagain.session, hleaves.session]
    exact page.lasting_left_left _ hreliable
  · obtain ⟨last, hlast, hsame⟩ := page.loaded_eq setting answer other
    rw [hlast, hsame.view, hsame.session, hleaves.view, hleaves.session, hup, hother, hsession]
    exact ⟨shown_of_success hpage hsuccess _ _ _, rfl⟩

/-- A dashboard that showed the name of a plan and a date shows what an empty one shows, and keeps
the address of the subscription. -/
theorem loaded_twice_of_dashboard :
    let setting : Setting := ⟨⟨"https://panel.example"⟩, 60⟩
    let answer (_ : Http.Request) : Http.Reply :=
      .response 200 "\x7b\"subscribe_url\":\"https://s.example\",\"plan_id\":null\x7d"
    let stale : Dashboard.View := { planName := some "Basic", expiredAt := some 5 }
    let scene : Scene dashboard.View := .initial stale ⟨.memory []⟩
    let fresh : Scene dashboard.View := .initial (default : Dashboard.View) ⟨.memory []⟩
    let once := dashboard.loaded setting answer scene
    let twice := dashboard.loaded setting answer once.1
    twice.1.view = once.1.view ∧
      twice.1.session.store.lasting = once.1.session.store.lasting ∧
      (dashboard.loaded setting answer fresh).1.view = once.1.view ∧
      once.1.session.subscribeUrl = "https://s.example" := by
  intro setting answer stale scene fresh
  have hsuccess : ∀ query ∈ dashboard.reports,
      (setting.client.ask answer scene.session query).isSuccess = true := by
    decide +kernel
  obtain ⟨⟨-, -, hview, hsession⟩, hfresh⟩ := dashboard.loaded_twice setting answer scene trivial
  obtain ⟨hsame, -⟩ := hfresh (by decide) rfl hsuccess fresh rfl rfl
  exact ⟨hview, hsession, hsame, by decide +kernel⟩

end Page

end PanelClient
