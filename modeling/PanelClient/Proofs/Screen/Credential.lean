import PanelClient.Proofs.Controller.Retention
import PanelClient.Proofs.Screen.Import
import PanelClient.Proofs.Screen.Population
import PanelClient.Proofs.Session.FailedSignIn
import PanelClient.Proofs.Session.History

/-!
# Who is signed in

On every page only a sign-in or signing out changes the credential, and a sign-in never to a blank
one (`retains_program`). So a sign-in whose record has a credential lasts: until someone signs out
every request carries a credential, and until someone signs in again it is the same
(`signed_in_of_finish`).
-/

namespace PanelClient

open Session Controller SigningIn Program

/-! ## What leaves the credential alone -/

/-- The credential of the session is acceptable. -/
def Session.Holds (accepts : Secret → Prop) (session : Session) : Prop :=
  accepts session.authData

/-- Every credential that a sign-in may write is acceptable: all but blank ones. -/
def AcceptsNew (accepts : Secret → Prop) : Prop :=
  ∀ secret : Secret, secret.isBlank = false → accepts secret

variable {accepts : Secret → Prop}

theorem Session.Holds.of_value {session other : Session} (h : session.Holds accepts)
    (hsame : other.value authDataKey = session.value authDataKey) : other.Holds accepts := by
  rw [Holds, authData, hsame]
  exact h

theorem Operation.not_isBlank_of_mem_granted {email text : String} {record? : Option SignIn}
    (h : (authDataKey, text) ∈ granted email record?) : Text.isBlank text = false := by
  unfold granted at h
  split at h
  · next record =>
    split at h
    · cases h
    · next hblank =>
      have hdistinct : authDataKey ≠ tokenKey ∧ authDataKey ≠ userEmailKey := by decide
      simp only [credentials, List.mem_cons, List.not_mem_nil, or_false, Prod.mk.injEq, true_and,
        hdistinct, false_and] at h
      rw [h]
      exact Bool.eq_false_iff.2 hblank
  · cases h

theorem retains_put {key : String} (hkey : key ≠ authDataKey) (text : String) :
    (put key text).Retains (Session.Holds accepts) := by
  intro session hsession
  refine hsession.of_value ?_
  rw [put_session, value, Store.get?_set, if_neg fun h => hkey h.1]
  rfl

/-- A sign-in leaves the credential as it was or writes one that is not blank, whether or not it
succeeds. -/
theorem retains_finish_signIn (hnew : AcceptsNew accepts) (endpoint : Endpoint)
    (what email : String) (members : List (String × Json)) (client : Client) (reply : Http.Reply) :
    ((Operation.signIn endpoint what email members).finish client reply).Retains
      (Session.Holds accepts) := by
  intro session hsession
  rw [Operation.signIn_session]
  by_cases hmem : authDataKey ∈ (session.store.reached
      (Operation.granted email (Record.ofReply? SignIn reply))).map Prod.fst
  · obtain ⟨⟨key, text⟩, hpair, hkey⟩ := List.mem_map.1 hmem
    obtain rfl : key = authDataKey := hkey
    have hwritten := Store.get?_setAll_of_mem (Operation.nodup_granted ..) hpair
    have hblank := Operation.not_isBlank_of_mem_granted (Store.reached_subset _ _ hpair)
    rw [Holds, authData, value, hwritten]
    exact hnew ⟨text⟩ hblank
  · refine hsession.of_value ?_
    rw [value, Store.get?_setAll_of_not_mem hmem]
    rfl

/-- Only a sign-in among the operations of the backend changes the credential. -/
theorem retains_finish (query : Query) (h : query.signsInAs? = none) (client : Client)
    (reply : Http.Reply) :
    (query.operation.finish client reply).Retains (Session.Holds accepts) := by
  cases hremembered : query.isRemembered with
  | false => exact (query.keeps_finish hremembered client reply).retains
  | true =>
    cases query with
    | getSubscribe =>
      intro session hsession
      have hkey : authDataKey ≠ subscribeUrlKey := by decide
      refine hsession.of_value ?_
      rw [show (Query.operation .getSubscribe).finish client reply session =
          Operation.getSubscribe.finish client reply session from rfl,
        Operation.getSubscribe_session_eq, value_importing, if_neg fun h => hkey h.1]
    | login => cases h
    | register => cases h
    | _ => cases hremembered

section Programs

variable {σ : Type} (client : Client)

theorem retains_query (query : Query) (h : query.signsInAs? = none) :
    (perform client query.operation : Program σ (Outcome query.Value)).Retains
      (Session.Holds accepts) :=
  retains_perform fun reply => retains_finish query h client reply

theorem retains_resolvePlanName (planId : Option Int) :
    (resolvePlanName client planId : Program σ (Option String)).Retains
      (Session.Holds accepts) := by
  cases planId with
  | none => exact trivial
  | some planId =>
    refine (retains_query client .getPlans rfl).bind fun outcome => ?_
    cases outcome with
    | success plans => exact trivial
    | _ => exact (retains_log _).bind fun _ => trivial

theorem retains_sendEmailCode [HasStatus σ] (email : String) :
    (Form.sendEmailCode client email : Program σ Unit).Retains (Session.Holds accepts) := by
  unfold Form.sendEmailCode Form.checked
  cases Form.firstOf [Form.checkEmail email] with
  | some complaint => cases complaint <;> exact trivial
  | none =>
    refine (retains_query client (.sendEmailVerify (Text.trim email)) rfl).bind fun outcome => ?_
    cases outcome <;> exact trivial

theorem retains_importSubscription :
    (Form.importSubscription client : Program σ Unit).Retains (Session.Holds accepts) := by
  refine (retains_query client .getSubscribe rfl).bind fun outcome => ?_
  cases outcome with
  | success subscription =>
    dsimp only
    split
    · exact retains_log _
    · intro failure
      cases failure with
      | none => exact trivial
      | some message => exact retains_log _
  | _ => exact retains_log _

theorem retains_signIn [HasStatus σ] (submission : Submission) (hnew : AcceptsNew accepts)
    {email : String} {operation : Operation SignIn}
    (hsignIn : submission.signIn? = some (email, operation)) (complaint? : Option Form.Complaint)
    (shown : List Field) :
    (Form.signIn client complaint? operation shown : Program σ Unit).Retains
      (Session.Holds accepts) := by
  obtain ⟨endpoint, what, members, rfl⟩ := Submission.operation_of_signIn? hsignIn
  unfold Form.signIn Form.checked
  cases complaint? with
  | some complaint => cases complaint <;> exact trivial
  | none =>
    have hfinish := retains_finish_signIn hnew endpoint what email members client
    refine (retains_perform hfinish).bind fun outcome => ?_
    cases outcome with
    | success record => exact (retains_importSubscription client).bind fun _ => trivial
    | _ => exact trivial

end Programs

/-! ## The pages -/

/-- Someone signs in with the input. -/
def Page.signsIn (page : Page) : Input page.Request → Bool
  | .request request => ((page.submission? request).bind Submission.signIn?).isSome
  | _ => false

/-- Someone signs out with the input. -/
def Page.signsOut : (page : Page) → Input page.Request → Bool
  | .account, .request .logout => true
  | _, _ => false

section Pages

variable (client : Client)

theorem retains_dashboard_goOnPlan (planId : Option Int) :
    (Dashboard.goOnPlan client planId).Retains (Session.Holds accepts) := by
  refine (retains_resolvePlanName client planId).bind fun planName => ?_
  refine (retains_query client .getServers rfl).bind fun outcome => ?_
  cases outcome <;> exact trivial

theorem retains_dashboard_load :
    (Dashboard.load client).Retains (Session.Holds accepts) := by
  have hinfo : ((perform client Operation.getUserInfo).bind (Dashboard.goOnInfo client)).Retains
      (Session.Holds accepts) := by
    refine (retains_query client .getUserInfo rfl).bind fun outcome => ?_
    cases outcome with
    | success info => exact retains_dashboard_goOnPlan client _
    | _ => exact (retains_log _).bind fun _ => retains_dashboard_goOnPlan client none
  rw [Dashboard.load_eq]
  refine (retains_query client .getSubscribe rfl).bind fun outcome => ?_
  cases outcome <;> exact hinfo

theorem retains_account_load :
    (Account.load client).Retains (Session.Holds accepts) := by
  have hplan (planId : Option Int) :
      (Account.goOnPlan client planId).Retains (Session.Holds accepts) :=
    (retains_resolvePlanName client planId).bind fun _ => trivial
  have hread : (read userEmail : Program Account.View String).Retains (Session.Holds accepts) :=
    retains_onSession fun _ hsession => hsession
  rw [Account.load_eq]
  refine hread.bind fun email => (retains_query client .getUserInfo rfl).bind fun outcome => ?_
  cases outcome <;> exact hplan _

theorem retains_purchase_load :
    (Purchase.load client).Retains (Session.Holds accepts) := by
  refine (retains_query client .getPlans rfl).bind fun outcome => ?_
  cases outcome <;> exact trivial

theorem retains_checkout_load (planId : Int) :
    (Checkout.load client planId).Retains (Session.Holds accepts) := by
  have hmethods : ((perform client Operation.getPaymentMethods).bind Checkout.showMethods).Retains
      (Session.Holds accepts) := by
    refine (retains_query client .getPaymentMethods rfl).bind fun outcome => ?_
    cases outcome <;> exact trivial
  refine (retains_query client .getPlans rfl).bind fun outcome => ?_
  cases outcome with
  | success plans =>
    unfold Checkout.showPlans
    dsimp only
    cases findPlan planId plans with
    | some plan => exact hmethods
    | none => exact (retains_log _).bind fun _ => hmethods
  | _ => exact hmethods

theorem retains_checkout_order (planId : Int) (period : String) (couponCode : Option String)
    (method : Int) :
    (Checkout.order client planId period couponCode method).Retains
      (Session.Holds accepts) := by
  refine (retains_query client (.createOrder planId period (couponCode.bind Text.trimmed?))
    rfl).bind fun outcome => ?_
  cases outcome with
  | success tradeNo =>
    refine (retains_log _).bind fun _ => ?_
    refine (retains_query client (.checkoutOrder tradeNo method) rfl).bind fun payment => ?_
    cases payment with
    | success result =>
      unfold Checkout.conclude Checkout.settle
      dsimp only
      split
      · exact trivial
      · split
        · exact trivial
        · exact (retains_log _).bind fun _ => trivial
    | invalid message fieldErrors => exact trivial
    | _ => exact (retains_log _).bind fun _ => trivial
  | serverError message => exact (retains_log _).bind fun _ => trivial
  | unauthorized message => exact (retains_log _).bind fun _ => trivial
  | _ => exact trivial

theorem retains_register_load :
    (Register.load client).Retains (Session.Holds accepts) := by
  refine (retains_query client .getConfig rfl).bind fun outcome => ?_
  cases outcome with
  | success config => exact trivial
  | _ => exact retains_log _

theorem retains_resetPassword (email emailCode password confirmPassword : String) :
    (ForgotPassword.resetPassword client email emailCode password confirmPassword).Retains
      (Session.Holds accepts) := by
  unfold ForgotPassword.resetPassword Form.checked
  cases Form.firstOf [Form.checkEmail email, ForgotPassword.checkCode emailCode,
    Form.checkPassword password, Form.checkRepeated password confirmPassword] with
  | some complaint => cases complaint <;> exact trivial
  | none =>
    refine (retains_query client (.forgotPassword (Text.trim email) password (Text.trim emailCode))
      rfl).bind fun outcome => ?_
    cases outcome <;> exact trivial

theorem retains_login (input : Input Page.login.Request)
    (hsignsIn : Page.login.signsIn input = true → AcceptsNew accepts) :
    ((Page.login.screen client).program input).Retains (Session.Holds accepts) := by
  have hread : (read language : Program Login.View String).Retains (Session.Holds accepts) :=
    retains_onSession fun _ hsession => hsession
  have hload : (Login.screen client).load.Retains (Session.Holds accepts) :=
    hread.bind fun _ => trivial
  have hlanguage (code : String) : (onSession (setLanguage code) : Program Login.View Unit).Retains
      (Session.Holds accepts) :=
    retains_onSession (retains_put (by decide) code)
  cases input with
  | load => exact hload
  | signal signal => cases signal <;> first | exact hload | exact trivial
  | request request =>
    cases request with
    | login email password =>
      exact retains_signIn client (.login email password) (hsignsIn rfl) rfl _ _
    | changeLanguage code => exact (hlanguage _).bind fun _ => trivial
    | _ => exact trivial

theorem retains_register (input : Input Page.register.Request)
    (hsignsIn : Page.register.signsIn input = true → AcceptsNew accepts) :
    ((Page.register.screen client).program input).Retains (Session.Holds accepts) := by
  cases input with
  | load => exact retains_register_load client
  | signal signal => cases signal <;> first | exact retains_register_load client | exact trivial
  | request request =>
    cases request with
    | register email password confirmPassword inviteCode emailCode =>
      exact retains_signIn client
        (.register email password confirmPassword inviteCode emailCode) (hsignsIn rfl) rfl _ _
    | sendEmailCode email => exact retains_sendEmailCode client email
    | openLogin => exact trivial

theorem retains_forgotPassword (input : Input Page.forgotPassword.Request) :
    ((Page.forgotPassword.screen client).program input).Retains (Session.Holds accepts) := by
  cases input with
  | load => exact trivial
  | signal signal => cases signal <;> exact trivial
  | request request =>
    cases request with
    | resetPassword => exact retains_resetPassword client _ _ _ _
    | sendEmailCode email => exact retains_sendEmailCode client email
    | openLogin => exact trivial

theorem retains_dashboard (input : Input Page.dashboard.Request) :
    ((Page.dashboard.screen client).program input).Retains (Session.Holds accepts) := by
  have hload : (Dashboard.load client).Retains (Session.Holds accepts) :=
    retains_dashboard_load client
  cases input with
  | load => exact hload
  | signal signal => cases signal <;> first | exact hload | exact trivial
  | request request => cases request <;> first | exact hload | exact trivial

theorem retains_purchase (input : Input Page.purchase.Request) :
    ((Page.purchase.screen client).program input).Retains (Session.Holds accepts) := by
  cases input with
  | load => exact retains_purchase_load client
  | signal signal => cases signal <;> first | exact retains_purchase_load client | exact trivial
  | request request => cases request; exact trivial

theorem retains_checkout (planId : Int) (planName : String)
    (input : Input (Page.checkout planId planName).Request) :
    (((Page.checkout planId planName).screen client).program input).Retains
      (Session.Holds accepts) := by
  cases input with
  | load => exact retains_checkout_load client planId
  | signal signal =>
    cases signal <;> first | exact retains_checkout_load client planId | exact trivial
  | request request => cases request; exact retains_checkout_order client planId _ _ _

theorem retains_account (input : Input Page.account.Request)
    (hsignsOut : Page.account.signsOut input = false) :
    ((Page.account.screen client).program input).Retains (Session.Holds accepts) := by
  cases input with
  | load => exact retains_account_load client
  | signal signal =>
    cases signal with
    | resumed => exact retains_account_load client
    | returned ending =>
      cases ending with
      | ok => exact retains_account_load client
      | cancelled => exact trivial
  | request request => cases request; cases hsignsOut

/-- On every page the credential stays as it is unless someone signs in or out, and a sign-in does
not make it blank. -/
theorem retains_program (page : Page) (input : Input page.Request)
    (hsignsOut : page.signsOut input = false)
    (hsignsIn : page.signsIn input = true → AcceptsNew accepts) :
    ((page.screen client).program input).Retains (Session.Holds accepts) := by
  cases page with
  | login => exact retains_login client input hsignsIn
  | register => exact retains_register client input hsignsIn
  | forgotPassword => exact retains_forgotPassword client input
  | dashboard => exact retains_dashboard client input
  | purchase => exact retains_purchase client input
  | checkout planId planName => exact retains_checkout client planId planName input
  | account => exact retains_account client input hsignsOut

end Pages

/-! ## Screens one after the other -/

/-- What screens send that are shown one after the other, each as long as none of its inputs is a
stop, from one session to another. A screen has not begun or waits when it is shown. -/
inductive Visits (client : Client) (stops : (page : Page) → Input page.Request → Bool) :
    Session → List Http.Request → Session → Prop
  | nil (session : Session) : Visits client stops session [] session
  | cons {page : Page} {c : Controller page.Request page.View} {moves : List (Move page.Request)}
      {sent : List Http.Request} {last : Session} (screen : c.screen = page.screen client)
      (setting : c.setting.client = client) (idle : c.activity = .fresh ∨ c.activity = .waiting)
      (goesOn : ∀ input ∈ c.along begins moves, stops page input = false)
      (rest : Visits client stops (c.steps moves).scene.session sent last) :
      Visits client stops c.scene.session
        ((c.steps moves).scene.sent.drop c.scene.sent.length ++ sent) last

section Visits

variable {page : Page} {client : Client} {stops : (page : Page) → Input page.Request → Bool}

/-- No input but a stop makes the credential unacceptable. -/
def Page.Guards (accepts : Secret → Prop) (stops : (page : Page) → Input page.Request → Bool) :
    Prop :=
  ∀ (page : Page) (input : Input page.Request), stops page input = false →
    page.signsOut input = false ∧ (page.signsIn input = true → AcceptsNew accepts)

theorem holds_of_steps {c : Controller page.Request page.View} {moves : List (Move page.Request)}
    (hguards : Page.Guards accepts stops) (hscreen : c.screen = page.screen client)
    (hsetting : c.setting.client = client) (hidle : c.activity = .fresh ∨ c.activity = .waiting)
    (hgoesOn : ∀ input ∈ c.along begins moves, stops page input = false)
    (hsession : c.scene.session.Holds accepts) :
    (c.steps moves).scene.session.Holds accepts ∧
      ∀ request ∈ (c.steps moves).scene.sent.drop c.scene.sent.length,
        ∃ session call, session.Holds accepts ∧ request = client.request session call := by
  have hretains : c.Retains (Session.Holds accepts) := by
    refine ⟨hsession, fun job paused hbusy => ?_⟩
    rcases hidle with hfresh | hwaiting
    · cases hbusy.symm.trans hfresh
    · cases hbusy.symm.trans hwaiting
  obtain ⟨hlast, herrands⟩ : (c.steps moves).Retains (Session.Holds accepts) ∧
      ∀ entry ∈ c.along errands moves, entry.2.Holds accepts :=
    hretains.steps fun input hinput => by
      obtain ⟨hsignsOut, hsignsIn⟩ := hguards page input (hgoesOn input hinput)
      rw [hscreen]
      exact retains_program client page input hsignsOut hsignsIn
  refine ⟨hlast.session, fun request hrequest => ?_⟩
  rw [(c.steps_adds moves).sent, List.drop_left, hsetting] at hrequest
  obtain ⟨⟨errand, session⟩, hentry, hrequest⟩ := List.mem_filterMap.1 hrequest
  cases errand with
  | exchange call =>
    cases hrequest
    exact ⟨session, call, herrands _ hentry, rfl⟩
  | _ => cases hrequest

theorem Visits.holds {session last : Session} {sent : List Http.Request}
    (h : Visits client stops session sent last) (hguards : Page.Guards accepts stops)
    (hsession : session.Holds accepts) :
    last.Holds accepts ∧
      ∀ request ∈ sent, ∃ session call, session.Holds accepts ∧
        request = client.request session call := by
  induction h with
  | nil => exact ⟨hsession, nofun⟩
  | cons screen setting idle goesOn rest ih =>
    obtain ⟨hnext, hfirst⟩ := holds_of_steps hguards screen setting idle goesOn hsession
    obtain ⟨hlast, hrest⟩ := ih hnext
    refine ⟨hlast, fun request hrequest => ?_⟩
    rcases List.mem_append.1 hrequest with hmem | hmem
    · exact hfirst request hmem
    · exact hrest request hmem

end Visits

/-! ## After a sign-in -/

section SignedIn

variable {client : Client} {submission : Submission} {email : String}
  {operation : Operation SignIn} {session : Session} {reply : Http.Reply} {record : SignIn}

theorem SigningIn.granted_of_blank (hsignIn : submission.signIn? = some (email, operation))
    (hrecord : Record.ofReply? SignIn reply = some record)
    (hblank : Text.isBlank record.credential = true) :
    granted client operation session reply = session := by
  rw [granted_eq hsignIn, hrecord]
  dsimp only [Operation.granted]
  rw [hblank]
  rfl

theorem SigningIn.value_granted (hsignIn : submission.signIn? = some (email, operation))
    (hstore : session.store.IsReliable) (hrecord : Record.ofReply? SignIn reply = some record)
    (hblank : Text.isBlank record.credential = false) {key text : String}
    (hpair : (key, text) ∈ credentials record.credential (record.token.getD "") email) :
    (granted client operation session reply).value key = text := by
  have hgranted : Operation.granted email (Record.ofReply? SignIn reply) =
      credentials record.credential (record.token.getD "") email := by
    rw [hrecord]
    dsimp only [Operation.granted]
    rw [hblank]
    rfl
  rw [granted_eq hsignIn, hgranted, value, Store.get?_setAll_of_mem (nodup_credentials ..)]
  · rfl
  · rw [hstore.reached_eq]
    exact hpair

theorem SigningIn.record_of_succeeds (hsignIn : submission.signIn? = some (email, operation))
    (h : succeeds client operation session reply = true) :
    ∃ record, Record.ofReply? SignIn reply = some record := by
  obtain ⟨endpoint, what, members, rfl⟩ := Submission.operation_of_signIn? hsignIn
  exact Option.isSome_iff_exists.1 ((Operation.signIn_isSuccess ..).1 h).1

section Later

variable {after last : Session} {sent : List Http.Request}

/-- Until someone signs out, whoever is logged in stays so. -/
theorem Visits.isLoggedIn (h : Visits client Page.signsOut after sent last)
    (hafter : after.isLoggedIn = true) :
    last.isLoggedIn = true ∧ ∀ request ∈ sent, ∃ credential,
      Text.isBlank credential = false ∧
        (request.headers.filter fun header => Http.sameHeaderName header.1 "Authorization") =
          [("Authorization", credential)] := by
  have hguards : Page.Guards (fun secret => (!secret.isBlank) = true) Page.signsOut :=
    fun page input hstop => ⟨hstop, fun _ secret hblank => by simp [hblank]⟩
  obtain ⟨hlast, hsent⟩ := h.holds hguards hafter
  refine ⟨hlast, fun request hrequest => ?_⟩
  obtain ⟨session, call, hsession, rfl⟩ := hsent request hrequest
  have hloggedIn : session.isLoggedIn = true := hsession
  refine ⟨session.authData.expose, Bool.not_eq_eq_eq_not.1 hloggedIn, ?_⟩
  rw [authorization_of_request, if_pos hloggedIn]

/-- Until someone signs in or out, every request carries the same credential. -/
theorem Visits.authData
    (h : Visits client (fun page input => page.signsOut input || page.signsIn input) after sent
      last) {credential : String} (hafter : after.authData = ⟨credential⟩)
    (hblank : Text.isBlank credential = false) :
    last.authData = ⟨credential⟩ ∧ ∀ request ∈ sent,
      (request.headers.filter fun header => Http.sameHeaderName header.1 "Authorization") =
        [("Authorization", credential)] := by
  have hguards : Page.Guards (· = ⟨credential⟩)
      (fun page input => page.signsOut input || page.signsIn input) := by
    intro page input hstop
    obtain ⟨hsignsOut, hsignsIn⟩ := Bool.or_eq_false_iff.1 hstop
    refine ⟨hsignsOut, fun hstops => ?_⟩
    cases hsignsIn.symm.trans hstops
  obtain ⟨hlast, hsent⟩ := h.holds hguards hafter
  refine ⟨hlast, fun request hrequest => ?_⟩
  obtain ⟨session, call, hsession, rfl⟩ := hsent request hrequest
  have hcredential : session.authData = ⟨credential⟩ := hsession
  have hloggedIn : session.isLoggedIn = true := by
    rw [Session.isLoggedIn, hcredential, Secret.isBlank, hblank]
    rfl
  rw [authorization_of_request, if_pos hloggedIn, hcredential]

end Later

/-- A sign-in is served over a store that takes every write, and it asks to end with success. Then
its first reply has a record. With a blank credential there the session knows the same user as
before. Otherwise it is logged in with that credential and the trimmed address that was submitted.
Whatever screens are shown from then on, until someone signs out every request carries one
credential, which is not blank, and until someone signs in or out it is this credential. -/
theorem signed_in_of_finish (page : Page) (submission : Submission) (email : String)
    (operation : Operation SignIn) (c : Controller page.Request page.View)
    (moves : List (Move page.Request)) (hdue : c.Due submission)
    (hsignIn : submission.signIn? = some (email, operation))
    (hserves : (c.step .serveRequest).Serves moves) (hstore : c.scene.session.store.IsReliable)
    (hfinish : Effect.finish .ok ∈ c.along emitted (.serveRequest :: moves)) :
    let client := c.setting.client
    let before := c.scene.session
    let after := (c.steps (.serveRequest :: moves)).scene.session
    let carried (request : Http.Request) :=
      request.headers.filter fun header => Http.sameHeaderName header.1 "Authorization"
    ∃ reply record, (c.along told (.serveRequest :: moves)).head? = some (.reply reply) ∧
      Record.ofReply? SignIn reply = some record ∧
      if Text.isBlank record.credential then
        after.authData = before.authData ∧ after.token = before.token ∧
          after.userEmail = before.userEmail
      else
        after.isLoggedIn = true ∧ after.authData = ⟨record.credential⟩ ∧ after.userEmail = email ∧
        (∀ sent last, Visits client Page.signsOut after sent last →
          last.isLoggedIn = true ∧ ∀ request ∈ sent, ∃ credential,
            Text.isBlank credential = false ∧
              carried request = [("Authorization", credential)]) ∧
        ∀ sent last,
          Visits client (fun page input => page.signsOut input || page.signsIn input) after sent
            last →
          last.authData = ⟨record.credential⟩ ∧ ∀ request ∈ sent,
            carried request = [("Authorization", record.credential)] := by
  intro client before after carried
  obtain ⟨reply, hsuccess, hout⟩ := serves_out_of_emitted hdue hsignIn hserves fun hnone => by
    rw [hnone] at hfinish
    cases hfinish
  obtain ⟨fetched, hcompleted⟩ := completed hdue hsignIn hsuccess hout
  obtain ⟨record, hrecord⟩ := record_of_succeeds hsignIn hsuccess
  -- the import that follows changes the address of the subscription only
  have hkept {key : String} (hkey : key ≠ subscribeUrlKey) :
      after.value key = (granted client operation before reply).value key := by
    rw [show after = _ from hcompleted.session, value_importing, if_neg fun h => hkey h.1]
  refine ⟨reply, record, hout.first, hrecord, ?_⟩
  cases hblank : Text.isBlank record.credential with
  | true =>
    rw [if_pos rfl]
    have hsame {key : String} (hkey : key ≠ subscribeUrlKey) :
        after.value key = before.value key := by
      rw [hkept hkey, granted_of_blank hsignIn hrecord hblank]
    exact ⟨congrArg Secret.mk (hsame (by decide)), congrArg Secret.mk (hsame (by decide)),
      hsame (by decide)⟩
  | false =>
    rw [if_neg Bool.false_ne_true]
    have hwritten {key text : String} (hkey : key ≠ subscribeUrlKey)
        (hpair : (key, text) ∈ credentials record.credential (record.token.getD "") email) :
        after.value key = text := by
      rw [hkept hkey, value_granted hsignIn hstore hrecord hblank hpair]
    have hauthData : after.authData = ⟨record.credential⟩ :=
      congrArg Secret.mk (hwritten (by decide) (by simp [credentials]))
    have huserEmail : after.userEmail = email := hwritten (by decide) (by simp [credentials])
    have hloggedIn : after.isLoggedIn = true := by
      rw [Session.isLoggedIn, hauthData, Secret.isBlank, hblank]
      rfl
    exact ⟨hloggedIn, hauthData, huserEmail, fun sent last h => h.isLoggedIn hloggedIn,
      fun sent last h => h.authData hauthData hblank⟩

/-- Someone signs in and comes to the dashboard. -/
theorem signed_in_of_finish_of_login :
    let setting : Setting := ⟨⟨"https://panel.example"⟩, 60⟩
    let opening := Controller.opening (Page.login.screen setting.client) setting ⟨.memory []⟩
    let c := opening.steps [.start, .send (Login.Request.login " a@b.c " "secret")]
    let moves : List (Move Page.login.Request) :=
      [.reply (.response 200 "\x7b\"data\":\x7b\"auth_data\":\"Bearer x\"\x7d\x7d"),
        .reply (.response 404 "")]
    let after := (c.steps (.serveRequest :: moves)).scene.session
    let dashboard := Controller.opening (Page.dashboard.screen setting.client) setting after
    after.isLoggedIn = true ∧ after.userEmail = "a@b.c" ∧
      ∀ request ∈ (dashboard.steps [.start]).scene.sent,
        (request.headers.filter fun header => Http.sameHeaderName header.1 "Authorization") =
          [("Authorization", "Bearer x")] := by
  intro setting opening c moves after dashboard
  have hserves : (c.step .serveRequest).Serves moves := ⟨⟨_, _, rfl⟩, ⟨_, _, rfl⟩, trivial⟩
  have hfinish : Effect.finish .ok ∈ c.along emitted (.serveRequest :: moves) := by decide +kernel
  obtain ⟨reply, record, hfirst, hrecord, hsignedIn⟩ := signed_in_of_finish .login
    (.login " a@b.c " "secret") _ _ c moves ⟨rfl, rfl, rfl⟩ rfl hserves trivial hfinish
  have hcredential : (Record.ofReply? SignIn (.response 200
      "\x7b\"data\":\x7b\"auth_data\":\"Bearer x\"\x7d\x7d")).map SignIn.credential =
        some "Bearer x" := by
    decide +kernel
  cases hfirst
  rw [hrecord] at hcredential
  have hx : record.credential = "Bearer x" := Option.some.inj hcredential
  rw [hx, if_neg (by decide)] at hsignedIn
  obtain ⟨hloggedIn, -, huserEmail, -, hlater⟩ := hsignedIn
  have hvisits (session : Session) :
      let shown := Controller.opening (Page.dashboard.screen setting.client) setting session
      Visits setting.client (fun page input => page.signsOut input || page.signsIn input) session
        ((shown.steps [.start]).scene.sent ++ []) (shown.steps [.start]).scene.session := by
    intro shown
    refine .cons (c := shown) rfl rfl (.inl rfl) (fun input hinput => ?_) (.nil _)
    cases List.mem_singleton.1 hinput
    rfl
  obtain ⟨-, hsent⟩ := hlater _ _ (hvisits after)
  refine ⟨hloggedIn, huserEmail.trans (by decide +kernel), fun request hrequest => ?_⟩
  exact hsent request (List.mem_append_left _ hrequest)

/-- An empty object is a record without a credential: the screen ends with success, but nobody is
logged in, or still the user of before. -/
theorem finish_without_credential :
    let setting : Setting := ⟨⟨"https://panel.example"⟩, 60⟩
    let begun (values : Entries String) :=
      (Controller.opening (Page.login.screen setting.client) setting ⟨.memory values⟩).steps
        [.start, .send (Login.Request.login "a@b.c" "secret")]
    let moves : List (Move Page.login.Request) :=
      [.serveRequest, .reply (.response 200 "\x7b\x7d"), .reply (.response 404 "")]
    let unknown := begun []
    let known := begun [("auth_data", "Bearer old"), ("user_email", "old@b.c")]
    unknown.along emitted moves = [.finish .ok] ∧
      (unknown.steps moves).scene.session.isLoggedIn = false ∧
      known.along emitted moves = [.finish .ok] ∧
      (known.steps moves).scene.session.userEmail = "old@b.c" := by
  decide +kernel

end SignedIn

end PanelClient
