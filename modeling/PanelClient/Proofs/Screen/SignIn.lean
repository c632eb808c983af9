import PanelClient.Proofs.Controller.Errands
import PanelClient.Proofs.Screen.Submission

/-!
# Signing in

A sign-in on the login page or on the page for a new account waits for the reply to its own call,
then for the subscription, and for the importer if the subscription has an address
(`SigningIn.Waits`). Only the first of these decides; how it ends is `SigningIn.Ends`.
-/

namespace PanelClient

open Program Session

/-! ## The subscription -/

/-- The address that a reply brings of a subscription, unless it is blank. -/
def Subscription.offered? (reply : Http.Reply) : Option String :=
  (Record.ofReply? Subscription reply).bind fun subscription =>
    if Text.isBlank subscription.subscribeUrl then none else some subscription.subscribeUrl

/-- The session with the address that a reply brings. -/
def Session.importing (reply : Http.Reply) (session : Session) : Session :=
  match Subscription.offered? reply with
  | some url => ⟨(session.store.set subscribeUrlKey url).2⟩
  | none => session

theorem Session.importing_of_some {reply : Http.Reply} {url : String}
    (h : Subscription.offered? reply = some url) (session : Session) :
    session.importing reply = ⟨(session.store.set subscribeUrlKey url).2⟩ := by
  rw [importing, h]

theorem Session.importing_of_none {reply : Http.Reply} (h : Subscription.offered? reply = none)
    (session : Session) : session.importing reply = session := by
  rw [importing, h]

/-- The address is the only value that the subscription may change. -/
theorem Session.value_importing (session : Session) (reply : Http.Reply) (key : String) :
    (session.importing reply).value key =
      if key = subscribeUrlKey ∧ session.store.takes subscribeUrlKey then
        (Subscription.offered? reply).getD (session.value key)
      else session.value key := by
  cases hoffered : Subscription.offered? reply with
  | none => rw [importing_of_none hoffered, Option.getD_none, ite_self]
  | some url =>
    rw [importing_of_some hoffered, value, Store.get?_set, Option.getD_some]
    by_cases hkey : key = subscribeUrlKey
    · subst hkey
      simp only [true_and]
      split <;> rfl
    · rw [if_neg fun h => hkey h.1.symm, if_neg fun h => hkey h.1]
      rfl

/-- The address is no part of the credential. -/
theorem Session.authData_importing (session : Session) (reply : Http.Reply) :
    (session.importing reply).authData = session.authData := by
  have hkey : authDataKey ≠ subscribeUrlKey := by decide
  rw [authData, value_importing, if_neg fun h => hkey h.1]
  rfl

theorem Operation.getSubscribe_session_eq (client : Client) (session : Session)
    (reply : Http.Reply) :
    (Operation.getSubscribe.finish client reply session).session = session.importing reply := by
  cases hrecord : Record.ofReply? Subscription reply with
  | none =>
    rw [(getSubscribe_of_none client session hrecord).2, importing_of_none]
    rw [Subscription.offered?, hrecord, Option.bind_none]
  | some subscription =>
    rw [(getSubscribe_of_some client session hrecord).2, importing, Subscription.offered?, hrecord,
      Option.bind_some]
    cases Text.isBlank subscription.subscribeUrl <;> rfl

section Programs

variable {σ : Type} {wait : Errand → Progress σ → Prop} {post : Unit → Progress σ → Prop}
  {p : Progress σ}

/-- The importer is waited for if there is an address, and what it says is of no consequence. -/
theorem ensures_importSubscription (client : Client)
    (hfetch : wait (.exchange Operation.getSubscribe.call) p)
    (hnone : ∀ fetched, Subscription.offered? fetched = none →
      post () (p.replied fetched (p.session.importing fetched)))
    (hsome : ∀ fetched url, Subscription.offered? fetched = some url →
      wait (.handover Form.profileName url) (p.replied fetched (p.session.importing fetched)) ∧
        ∀ failure,
          post () ((p.replied fetched (p.session.importing fetched)).told (.handover failure))) :
    (Form.importSubscription client).Ensures wait post p := by
  unfold Form.importSubscription
  rw [bind_eq, ensures_bind, ensures_perform]
  refine ⟨hfetch, fun fetched => ?_⟩
  rw [Operation.getSubscribe_session_eq]
  cases hrecord : Record.ofReply? Subscription fetched with
  | none =>
    have hoffered : Subscription.offered? fetched = none := by
      rw [Subscription.offered?, hrecord, Option.bind_none]
    have hfailed := (Operation.getSubscribe_of_none client p.session hrecord).1
    split
    · next hvalue =>
      rw [hvalue] at hfailed
      cases hfailed
    · exact hnone fetched hoffered
  | some subscription =>
    rw [(Operation.getSubscribe_of_some client p.session hrecord).1]
    dsimp only
    cases hblank : Text.isBlank subscription.subscribeUrl with
    | true =>
      rw [if_pos rfl]
      refine hnone fetched ?_
      rw [Subscription.offered?, hrecord, Option.bind_some, hblank, if_pos rfl]
    | false =>
      rw [if_neg (by decide)]
      have hoffered : Subscription.offered? fetched = some subscription.subscribeUrl := by
        rw [Subscription.offered?, hrecord, Option.bind_some, hblank, if_neg (by decide)]
      obtain ⟨hwait, hpost⟩ := hsome fetched _ hoffered
      refine ⟨hwait, fun failure => ?_⟩
      cases failure <;> exact hpost _

end Programs

/-! ## A sign-in -/

/-- What is submitted signs in, by an address and with an operation. -/
def Submission.signIn? : Submission → Option (String × Operation SignIn)
  | login email password =>
    some (Text.trim email, Operation.login (Text.trim email) password)
  | register email password _ inviteCode emailCode =>
    some (Text.trim email, Operation.register (Text.trim email) password
      (inviteCode.bind Text.trimmed?) (emailCode.bind Text.trimmed?))
  | _ => none

/-- What the pages do to sign in. -/
def Form.signIn {σ : Type} [HasStatus σ] (client : Client) (complaint? : Option Form.Complaint)
    (operation : Operation SignIn) (shown : List Field) : Program σ Unit :=
  Form.checked complaint? do
    Program.setLoading true
    Form.finishSignIn client shown (← Program.perform client operation)

theorem handle_of_signIn (client : Client) (page : Page) {request : page.Request}
    {submission : Submission} {email : String} {operation : Operation SignIn}
    (hsubmission : page.submission? request = some submission)
    (hsignIn : submission.signIn? = some (email, operation)) :
    ∃ shown, (page.screen client).handle request =
      Form.signIn client submission.complaint? operation shown := by
  cases page with
  | login =>
    cases request with
    | login email password =>
      cases hsubmission
      cases hsignIn
      exact ⟨Login.fields, rfl⟩
    | _ => cases hsubmission
  | register =>
    cases request with
    | register email password confirmPassword inviteCode emailCode =>
      cases hsubmission
      cases hsignIn
      exact ⟨Register.fields, rfl⟩
    | sendEmailCode email =>
      cases hsubmission
      cases hsignIn
    | openLogin => cases hsubmission
  | forgotPassword =>
    cases request with
    | openLogin => cases hsubmission
    | _ =>
      cases hsubmission
      cases hsignIn
  | checkout planId planName =>
    cases request
    cases hsubmission
    cases hsignIn
  | _ => cases hsubmission

namespace SigningIn

variable {σ : Type}

section Conditions

variable (client : Client) (complaint? : Option Form.Complaint) (operation : Operation SignIn)
  (first : Progress σ)

/-- The session after the reply to the sign-in's own call. -/
def granted (session : Session) (reply : Http.Reply) : Session :=
  (operation.finish client reply session).session

/-- The reply to the sign-in's own call makes it a success. -/
def succeeds (session : Session) (reply : Http.Reply) : Bool :=
  (operation.finish client reply session).value.isSuccess

/-- What a view shows after a sign-in. -/
def finalView [HasStatus σ] (view : σ) : σ :=
  HasStatus.modify (.setLoading false)
    (HasStatus.modify (.setLoading true) (HasStatus.modify .clearErrors view))

/-- What a sign-in waits for, and when. -/
inductive Waits : Errand → Progress σ → Prop
  | signIn {p : Progress σ} (complete : complaint? = none) (effects : p.effects = [])
      (answers : p.answers = []) (session : p.session = first.session) :
      Waits (.exchange operation.call) p
  | fetch {p : Progress σ} {reply : Http.Reply}
      (success : succeeds client operation first.session reply = true) (effects : p.effects = [])
      (answers : p.answers = [.reply reply])
      (session : p.session = granted client operation first.session reply) :
      Waits (.exchange Operation.getSubscribe.call) p
  | handover {p : Progress σ} {reply fetched : Http.Reply} {url : String}
      (success : succeeds client operation first.session reply = true)
      (offered : Subscription.offered? fetched = some url) (effects : p.effects = [])
      (answers : p.answers = [.reply reply, .reply fetched])
      (session : p.session = (granted client operation first.session reply).importing fetched) :
      Waits (.handover Form.profileName url) p

/-- How a sign-in ends. -/
inductive Ends [HasStatus σ] : Progress σ → Prop
  | incomplete {p : Progress σ} (complaint : complaint? ≠ none) (effects : p.effects = [])
      (answers : p.answers = []) : Ends p
  | refused {p : Progress σ} {reply : Http.Reply}
      (failure : succeeds client operation first.session reply = false) (effects : p.effects = [])
      (answers : p.answers = [.reply reply]) : Ends p
  | accepted {p : Progress σ} {reply fetched : Http.Reply}
      (success : succeeds client operation first.session reply = true)
      (effects : p.effects = [.finish .ok])
      (answers : Subscription.offered? fetched = none ∧
          p.answers = [.reply reply, .reply fetched] ∨
        ∃ url failure, Subscription.offered? fetched = some url ∧
          p.answers = [.reply reply, .reply fetched, .handover failure])
      (session : p.session = (granted client operation first.session reply).importing fetched)
      (view : p.view = finalView first.view) : Ends p

end Conditions

variable {client : Client} {complaint? : Option Form.Complaint} {operation : Operation SignIn}

/-- A sign-in waits and ends as is said here, wherever it begins. -/
theorem ensures_signIn [HasStatus σ] {first : Progress σ} (heffects : first.effects = [])
    (hanswers : first.answers = []) (shown : List Field) :
    (Form.signIn client complaint? operation shown).Ensures
      (Waits client complaint? operation first)
      (fun _ => Ends client complaint? operation first) first := by
  simp only [Form.signIn, Form.checked, clearErrors, bind_eq, ensures_bind, ensures_changeStatus]
  cases complaint? with
  | some complaint =>
    have hcomplaint : some complaint ≠ none := Option.some_ne_none complaint
    cases complaint <;> exact .incomplete hcomplaint heffects hanswers
  | none =>
    dsimp only
    simp only [setLoading, ensures_bind, ensures_changeStatus, ensures_perform]
    refine ⟨.signIn rfl heffects hanswers rfl, fun reply => ?_⟩
    have hreply : first.answers ++ [.reply reply] = [.reply reply] := by rw [hanswers]; rfl
    cases hvalue : (operation.finish client reply first.session).value with
    | success record =>
      have hsuccess : succeeds client operation first.session reply = true := by
        rw [succeeds, hvalue]
        rfl
      simp only [Form.finishSignIn, setLoading, bind_eq, ensures_bind]
      refine ensures_importSubscription client (.fetch hsuccess heffects hreply rfl)
        (fun fetched hnone => ?_) fun fetched url hsome => ⟨?_, fun failure => ?_⟩
      · refine .accepted hsuccess ?_ (.inl ⟨hnone, ?_⟩) rfl rfl
        · simp [Progress.replied, Progress.told, heffects]
        · simp [Progress.replied, Progress.told, hanswers]
      · refine .handover hsuccess hsome heffects ?_ rfl
        simp [Progress.replied, Progress.told, hanswers]
      · refine .accepted hsuccess ?_ (.inr ⟨url, failure, hsome, ?_⟩) rfl rfl
        · simp [Progress.replied, Progress.told, heffects]
        · simp [Progress.replied, Progress.told, hanswers]
    | _ =>
      refine .refused ?_ heffects hreply
      rw [succeeds, hvalue]
      rfl

theorem Waits.of_nil {first p : Progress σ} {errand : Errand}
    (h : Waits client complaint? operation first errand p) (hanswers : p.answers = []) :
    errand = .exchange operation.call ∧ p.session = first.session := by
  cases h with
  | signIn complete effects answers session => exact ⟨rfl, session⟩
  | fetch success effects answers session => cases hanswers.symm.trans answers
  | handover success offered effects answers session => cases hanswers.symm.trans answers

theorem Waits.of_reply {first p : Progress σ} {errand : Errand} {reply : Http.Reply}
    (h : Waits client complaint? operation first errand p) (hanswers : p.answers = [.reply reply]) :
    errand = .exchange Operation.getSubscribe.call ∧
      p.session = granted client operation first.session reply := by
  cases h with
  | signIn complete effects answers session => cases hanswers.symm.trans answers
  | fetch success effects answers session =>
    cases hanswers.symm.trans answers
    exact ⟨rfl, session⟩
  | handover success offered effects answers session => cases hanswers.symm.trans answers

theorem Waits.of_replies {first p : Progress σ} {errand : Errand} {reply fetched : Http.Reply}
    (h : Waits client complaint? operation first errand p)
    (hanswers : p.answers = [.reply reply, .reply fetched]) :
    ∃ url, Subscription.offered? fetched = some url ∧
      errand = .handover Form.profileName url ∧
      p.session = (granted client operation first.session reply).importing fetched := by
  cases h with
  | signIn complete effects answers session => cases hanswers.symm.trans answers
  | fetch success effects answers session => cases hanswers.symm.trans answers
  | handover success offered effects answers session =>
    cases hanswers.symm.trans answers
    exact ⟨_, offered, rfl, session⟩

theorem Waits.answers_length {first p : Progress σ} {errand : Errand}
    (h : Waits client complaint? operation first errand p) : p.answers.length < 3 := by
  cases h with
  | signIn complete effects answers session => simp [answers]
  | fetch success effects answers session => simp [answers]
  | handover success offered effects answers session => simp [answers]

theorem Waits.effects_eq {first p : Progress σ} {errand : Errand}
    (h : Waits client complaint? operation first errand p) : p.effects = [] := by
  cases h <;> assumption

section Ends

variable [HasStatus σ] {first p : Progress σ}

theorem Ends.of_nil (h : Ends client complaint? operation first p) (hanswers : p.answers = []) :
    complaint? ≠ none := by
  cases h with
  | incomplete complaint effects answers => exact complaint
  | refused failure effects answers => cases hanswers.symm.trans answers
  | accepted success effects answers session view =>
    rcases answers with ⟨-, answers⟩ | ⟨_, _, -, answers⟩ <;> cases hanswers.symm.trans answers

theorem Ends.of_reply {reply : Http.Reply} (h : Ends client complaint? operation first p)
    (hanswers : p.answers = [.reply reply]) :
    succeeds client operation first.session reply = false := by
  cases h with
  | incomplete complaint effects answers => cases hanswers.symm.trans answers
  | refused failure effects answers =>
    cases hanswers.symm.trans answers
    exact failure
  | accepted success effects answers session view =>
    rcases answers with ⟨-, answers⟩ | ⟨_, _, -, answers⟩ <;> cases hanswers.symm.trans answers

theorem Ends.of_replies {reply fetched : Http.Reply} (h : Ends client complaint? operation first p)
    (hanswers : p.answers = [.reply reply, .reply fetched]) :
    Subscription.offered? fetched = none := by
  cases h with
  | incomplete complaint effects answers => cases hanswers.symm.trans answers
  | refused failure effects answers => cases hanswers.symm.trans answers
  | accepted success effects answers session view =>
    rcases answers with ⟨hnone, answers⟩ | ⟨_, _, -, answers⟩
    · cases hanswers.symm.trans answers
      exact hnone
    · cases hanswers.symm.trans answers

end Ends

/-- The errands of a sign-in that was told two replies, and what the importer said if there was an
address for it. -/
theorem errands_eq {first : Progress σ} {reply fetched : Http.Reply} {rest : List Answer}
    {errands : List (Errand × Session)}
    (hfollow : Errand.Follow (Waits client complaint? operation first)
      (.reply reply :: .reply fetched :: rest) errands)
    (hlength : errands.length = (Subscription.offered? fetched).toList.length + 2) :
    errands = (.exchange operation.call, first.session) ::
      (.exchange Operation.getSubscribe.call, granted client operation first.session reply) ::
      (Subscription.offered? fetched).toList.map fun url =>
        (.handover Form.profileName url,
          (granted client operation first.session reply).importing fetched) := by
  match errands, hlength with
  | (signIn, before) :: (fetch, after) :: more, hlength =>
    obtain ⟨p, hp, hbefore, hnil⟩ := hfollow 0 signIn before rfl
    obtain ⟨q, hq, hafter, hone⟩ := hfollow 1 fetch after rfl
    obtain ⟨hsignIn, hfirst⟩ := hp.of_nil hnil
    obtain ⟨hfetch, hgranted⟩ := hq.of_reply hone
    rw [hbefore] at hfirst
    rw [hafter] at hgranted
    rw [hsignIn, hfirst, hfetch, hgranted]
    congr 2
    cases hoffered : Subscription.offered? fetched with
    | none =>
      rw [hoffered] at hlength
      exact List.length_eq_zero_iff.1 (by simpa using hlength)
    | some url =>
      rw [hoffered] at hlength
      obtain ⟨⟨errand, session⟩, rfl⟩ := List.length_eq_one_iff.1
        (show more.length = 1 by simpa using hlength)
      obtain ⟨r, hr, hsession, htwo⟩ := hfollow 2 errand session rfl
      obtain ⟨other, hother, rfl, himported⟩ := hr.of_replies htwo
      cases hoffered.symm.trans hother
      rw [← hsession, himported]
      rfl

end SigningIn

/-! ## Serving a sign-in -/

namespace Controller

/-- The page waits, and what is submitted comes next. -/
structure Due {page : Page} (submission : Submission) (c : Controller page.Request page.View) :
    Prop where
  screen : c.screen = page.screen c.setting.client
  waiting : c.activity = .waiting
  next : c.requests.head?.bind page.submission? = some submission

/-- The next request is served to its end, and this is the first reply. -/
structure ServesOut {ρ σ : Type} (reply : Http.Reply) (moves : List (Move ρ))
    (c : Controller ρ σ) : Prop where
  serves : (c.step .serveRequest).Serves moves
  up : (c.steps (.serveRequest :: moves)).scene.tornDown = false
  ended : (c.steps (.serveRequest :: moves)).activity = .waiting
  first : (c.along told (.serveRequest :: moves)).head? = some (.reply reply)

end Controller

namespace SigningIn

open Controller

section Serving

variable {page : Page} {submission : Submission} {email : String} {operation : Operation SignIn}
  {c : Controller page.Request page.View} {moves : List (Move page.Request)}

/-- With its first move on, a sign-in that is served waits and ends as is said of its program. -/
theorem stands_begin (hdue : c.Due submission)
    (hsignIn : submission.signIn? = some (email, operation))
    (hup : c.scene.tornDown = false) :
    (c.step .serveRequest).Stands
        (Waits c.setting.client submission.complaint? operation (c.scene.progress [] []))
        (Ends c.setting.client submission.complaint? operation (c.scene.progress [] []))
        (c.emitted .serveRequest) [] ∧
      (c.step .serveRequest).Tracked
        (Waits c.setting.client submission.complaint? operation (c.scene.progress [] [])) []
        (c.errands .serveRequest) := by
  obtain ⟨request, hrequest, hsubmission⟩ := Option.bind_eq_some_iff.1 hdue.next
  have hbegins : c.begins .serveRequest = [.request request] := by
    simp [begins, hdue.waiting, hrequest]
  obtain ⟨shown, hhandle⟩ := handle_of_signIn c.setting.client page hsubmission hsignIn
  have hprogram : (c.screen.program (.request request)).Ensures
      (Waits c.setting.client submission.complaint? operation (c.scene.progress [] []))
      (fun _ => Ends c.setting.client submission.complaint? operation (c.scene.progress [] []))
      (c.scene.progress [] []) := by
    rw [hdue.screen, Screen.program, hhandle]
    exact ensures_signIn rfl rfl shown
  exact ⟨stands_of_begins hbegins hup hprogram, tracked_of_begins hbegins hprogram⟩

theorem stands_steps (hdue : c.Due submission)
    (hsignIn : submission.signIn? = some (email, operation))
    (hserves : (c.step .serveRequest).Serves moves)
    (hup : (c.steps (.serveRequest :: moves)).scene.tornDown = false) :
    (c.steps (.serveRequest :: moves)).Stands
        (Waits c.setting.client submission.complaint? operation (c.scene.progress [] []))
        (Ends c.setting.client submission.complaint? operation (c.scene.progress [] []))
        (c.along emitted (.serveRequest :: moves)) (c.along told (.serveRequest :: moves)) ∧
      (c.steps (.serveRequest :: moves)).Tracked
        (Waits c.setting.client submission.complaint? operation (c.scene.progress [] []))
        (c.along told (.serveRequest :: moves)) (c.along errands (.serveRequest :: moves)) := by
  obtain ⟨hstands, htracked⟩ := stands_begin hdue hsignIn (up_of_steps hup)
  exact ⟨hstands.steps hserves hup, hstands.tracked_steps htracked hserves hup⟩

/-- What a sign-in that succeeds has done when it is over, with the reply to its own call and the
one to the fetch of the subscription. -/
structure Completed (operation : Operation SignIn) (reply fetched : Http.Reply)
    (c : Controller page.Request page.View) (served : List (Move page.Request)) : Prop where
  replies : (c.along told served).filterMap Answer.reply? = [reply, fetched]
  view : (c.steps served).scene.view = finalView c.scene.view
  emitted : c.along emitted served = [.finish .ok]
  session : (c.steps served).scene.session =
    (granted c.setting.client operation c.scene.session reply).importing fetched
  sent : (c.steps served).scene.sent = c.scene.sent ++
    [c.setting.client.request c.scene.session operation.call,
      c.setting.client.request (granted c.setting.client operation c.scene.session reply)
        Operation.getSubscribe.call]
  handedOn : (c.steps served).scene.handedOn = c.scene.handedOn ++
    (Subscription.offered? fetched).toList.map fun url => (Form.profileName, url)

/-- A sign-in whose first reply makes it a success ends in the same way whatever else it is told. -/
theorem completed (hdue : c.Due submission) (hsignIn : submission.signIn? = some (email, operation))
    {reply : Http.Reply}
    (hsuccess : succeeds c.setting.client operation c.scene.session reply = true)
    (h : c.ServesOut reply moves) :
    ∃ fetched, Completed operation reply fetched c (.serveRequest :: moves) := by
  obtain ⟨hstands, htracked⟩ := stands_steps hdue hsignIn h.serves h.up
  obtain ⟨hsent, hhandedOn⟩ := c.steps_adds (.serveRequest :: moves)
  have hfollow := htracked.follow
  have hlength := htracked.length_eq
  have hfirst := h.first
  rw [h.ended] at hlength
  simp only [Stands, h.ended] at hstands
  cases hstands with
  | incomplete complaint effects answers =>
    have hnone : c.along told (.serveRequest :: moves) = [] := answers
    rw [hnone] at hfirst
    cases hfirst
  | refused failure effects answers =>
    have hanswers : c.along told (.serveRequest :: moves) = _ := answers
    rw [hanswers] at hfirst
    cases hfirst
    cases failure.symm.trans hsuccess
  | @accepted other fetched success effects answers session view =>
    have hanswers : ∃ rest, c.along told (.serveRequest :: moves) =
        .reply other :: .reply fetched :: rest ∧ rest.filterMap Answer.reply? = [] ∧
          rest.length = (Subscription.offered? fetched).toList.length := by
      rcases answers with ⟨hnone, hanswers⟩ | ⟨url, failure, hsome, hanswers⟩
      · exact ⟨[], hanswers, rfl, by rw [hnone]; rfl⟩
      · exact ⟨[.handover failure], hanswers, rfl, by rw [hsome]; rfl⟩
    obtain ⟨rest, hanswers, hreplies, hrest⟩ := hanswers
    rw [hanswers] at hfirst hfollow hlength
    cases hfirst
    have herrands := errands_eq hfollow (by simpa [hrest] using hlength)
    rw [herrands] at hsent hhandedOn
    refine ⟨fetched, ?_, view, effects, session, hsent.trans ?_, hhandedOn.trans ?_⟩
    · rw [hanswers]
      simp [Answer.reply?, hreplies]
    · cases Subscription.offered? fetched <;> rfl
    · cases Subscription.offered? fetched <;> rfl

/-- After its own call and the fetch of the subscription are answered, and the importer has said
something if there was an address, a sign-in that succeeds is over. -/
theorem serves_out (hdue : c.Due submission)
    (hsignIn : submission.signIn? = some (email, operation))
    (hcomplete : submission.complaint? = none) (hup : c.scene.tornDown = false) {reply : Http.Reply}
    (hsuccess : succeeds c.setting.client operation c.scene.session reply = true)
    (fetched : Http.Reply) (handover : Handover) :
    c.ServesOut reply (.reply reply :: .reply fetched ::
      (Subscription.offered? fetched).toList.map fun _ => .handover handover) := by
  obtain ⟨hstands, -⟩ := stands_begin hdue hsignIn hup
  have hup₁ : (c.step .serveRequest).scene.tornDown = false := (tornDown_of_turn rfl).trans hup
  rcases hstands.waits_or_ends with ⟨-, hends⟩ | ⟨_, _, errand, hbusy₁, hleads⟩
  · exact absurd hcomplete (hends.of_nil rfl)
  obtain ⟨rfl, -⟩ := hleads.holds.of_nil rfl
  obtain ⟨htold, hup₂, hstands⟩ := hstands.replied hbusy₁ hleads hup₁ reply
  have hfirst (more : List (Move page.Request)) :
      (c.along told (.serveRequest :: .reply reply :: more)).head? = some (.reply reply) := by
    have hnone : c.told .serveRequest = [] := rfl
    rw [along, hnone, List.nil_append, along, htold]
    rfl
  rcases hstands.waits_or_ends with ⟨-, hends⟩ | ⟨_, _, errand, hbusy₂, hleads⟩
  · cases hsuccess.symm.trans (hends.of_reply rfl)
  obtain ⟨rfl, -⟩ := hleads.holds.of_reply rfl
  obtain ⟨-, hup₃, hstands⟩ := hstands.replied hbusy₂ hleads hup₂ fetched
  rcases hstands.waits_or_ends with ⟨hended, hends⟩ | ⟨_, _, errand, hbusy₃, hleads⟩
  · rw [hends.of_replies rfl]
    exact ⟨⟨⟨_, _, hbusy₁⟩, ⟨_, _, hbusy₂⟩, trivial⟩, hup₃, hended, hfirst _⟩
  obtain ⟨url, hoffered, rfl, -⟩ := hleads.holds.of_replies rfl
  rw [hoffered]
  obtain ⟨-, hup₄, hstands⟩ := hstands.handedOver hbusy₃ hleads hup₃ handover
  rcases hstands.waits_or_ends with ⟨hended, -⟩ | ⟨_, _, errand, -, hleads⟩
  · exact ⟨⟨⟨_, _, hbusy₁⟩, ⟨_, _, hbusy₂⟩, ⟨_, _, hbusy₃⟩, trivial⟩, hup₄, hended, hfirst _⟩
  · exact absurd hleads.holds.answers_length (Nat.lt_irrefl 3)

/-- A sign-in that asks for anything has succeeded and is over. -/
theorem serves_out_of_emitted (hdue : c.Due submission)
    (hsignIn : submission.signIn? = some (email, operation))
    (hserves : (c.step .serveRequest).Serves moves)
    (hemitted : c.along emitted (.serveRequest :: moves) ≠ []) :
    ∃ reply, succeeds c.setting.client operation c.scene.session reply = true ∧
      c.ServesOut reply moves := by
  have hup : c.scene.tornDown = false := by
    cases htorn : c.scene.tornDown with
    | false => rfl
    | true => exact absurd (emitted_of_tornDown htorn) hemitted
  obtain ⟨hbegin, -⟩ := stands_begin hdue hsignIn hup
  obtain ⟨hlast, hended⟩ := hbegin.over_of_emitted (fun _ _ hwait => hwait.effects_eq) hserves
    ((tornDown_of_turn rfl).trans hup) hemitted
  have hstands := (stands_steps hdue hsignIn hserves hlast).1
  rcases hstands.waits_or_ends with ⟨-, hends⟩ | ⟨_, _, _, hbusy, -⟩
  · cases hends with
    | incomplete complaint effects answers => exact absurd effects hemitted
    | refused failure effects answers => exact absurd effects hemitted
    | accepted success effects answers session view =>
      refine ⟨_, success, hserves, hlast, hended, ?_⟩
      rcases answers with ⟨-, answers⟩ | ⟨_, _, -, answers⟩ <;> exact congrArg List.head? answers
  · cases hended.symm.trans hbusy

end Serving

end SigningIn

end PanelClient
