import PanelClient.Proofs.Backend.Wording
import PanelClient.Proofs.Screen.Populated
import PanelClient.Proofs.Screen.Rendering
import PanelClient.Proofs.Screen.Submission

/-!
# Errors without words

A page that is populated, or that serves a submission, takes all errors away first. From there on it
shows the empty text only where a reply that it was told says so: what a program shows comes from
its own words or from a reply (`Program.KeepsWorded`), and with that the controller of the page does
so at every moment until something else is begun (`failure_has_words`).
-/

namespace PanelClient

open Program

/-! ## What a status shows -/

namespace Status

/-- Where the status shows the empty text, one of the replies says it. -/
structure WordedBy (replies : List Http.Reply) (status : Status) : Prop where
  general : status.generalError = some "" → ∃ reply ∈ replies, reply.IsSilent
  field : ∀ field, status.fieldError field = some "" → ∃ reply ∈ replies, reply.IsSilentAt field

variable {replies : List Http.Reply} {status : Status}

theorem WordedBy.mono {more : List Http.Reply} (h : status.WordedBy replies)
    (hmore : replies ⊆ more) : status.WordedBy more where
  general hempty := (h.general hempty).imp fun _ => .imp_left (hmore ·)
  field field hempty := (h.field field hempty).imp fun _ => .imp_left (hmore ·)

theorem wordedBy_clearErrors (status : Status) : status.clearErrors.WordedBy replies :=
  ⟨nofun, fun _ => nofun⟩

theorem WordedBy.setLoading (h : status.WordedBy replies) (loading : Bool) :
    (status.setLoading loading).WordedBy replies :=
  ⟨h.general, h.field⟩

theorem WordedBy.setGeneralError (h : status.WordedBy replies) {message : String}
    (hmessage : message = "" → ∃ reply ∈ replies, reply.IsSilent) :
    (status.setGeneralError message).WordedBy replies :=
  ⟨fun hempty => hmessage (Option.some.inj hempty), h.field⟩

theorem WordedBy.setFieldError (h : status.WordedBy replies) {field : Field} {message : String}
    (hmessage : message = "" → ∃ reply ∈ replies, reply.IsSilentAt field) :
    (status.setFieldError field message).WordedBy replies where
  general := h.general
  field other hempty := by
    simp only [Status.setFieldError] at hempty
    split at hempty
    · next hother =>
      subst hother
      exact hmessage (Option.some.inj hempty)
    · exact h.field other hempty

theorem WordedBy.takeMessages (h : status.WordedBy replies) (shown : List Field)
    {entry : String × List String}
    (hentry : ∀ (field : Field) more, (field.key, "" :: more) = entry →
      ∃ reply ∈ replies, reply.IsSilentAt field) :
    (status.takeMessages shown entry).WordedBy replies := by
  unfold Status.takeMessages
  split
  · next field first more hfield hmessages =>
    split
    · refine h.setFieldError ?_
      rintro rfl
      exact hentry field more (Prod.ext (Field.key_of_ofKey? hfield) hmessages.symm)
    · exact h
  · exact h

theorem WordedBy.setFieldErrors (h : status.WordedBy replies) (shown : List Field)
    {fieldErrors : FieldErrors}
    (herrors : ∀ (field : Field) more, (field.key, "" :: more) ∈ fieldErrors →
      ∃ reply ∈ replies, reply.IsSilentAt field) :
    (status.setFieldErrors shown fieldErrors).WordedBy replies := by
  induction fieldErrors generalizing status with
  | nil => exact h
  | cons entry rest ih =>
    rw [setFieldErrors_cons]
    refine ih (h.takeMessages shown fun field more hentry => ?_) fun field more hmem => ?_
    · exact herrors field more (hentry ▸ List.mem_cons_self)
    · exact herrors field more (List.mem_cons_of_mem _ hmem)

/-- A failure adds no empty text but its own. -/
theorem WordedBy.showing {α : Type} {outcome : Outcome α} (h : status.WordedBy replies)
    (houtcome : outcome.WordedBy replies) (shown : List Field) :
    (status.showing outcome shown).WordedBy replies := by
  have hsaid {message : String} (hmessage : outcome.said? = some message)
      (hempty : message = "") : ∃ reply ∈ replies, reply.IsSilent :=
    houtcome.said (hmessage.trans (congrArg some hempty))
  cases outcome with
  | success value => exact h
  | invalid message fieldErrors =>
    have hfields := h.setFieldErrors shown houtcome.field
    simp only [Status.showing]
    split
    · exact hfields
    · exact hfields.setGeneralError (hsaid rfl)
  | unauthorized message | serverError message => exact h.setGeneralError (hsaid rfl)
  | unreachable message => exact h.setGeneralError fun hempty => absurd hempty (by decide)

end Status

/-! ## What programs show -/

section Programs

variable {σ α β : Type} [HasStatus σ]

/-- Where the view shows the empty text, a reply that the program was told says it. -/
def IsWorded (p : Progress σ) : Prop := (HasStatus.status p.view).WordedBy p.replies

/-- From there on, while the program waits and when it is done, the view shows the empty text only
where a reply says it. -/
def Program.WordedFrom (program : Program σ α) (p : Progress σ) : Prop :=
  program.Ensures (fun _ => IsWorded) (fun _ => IsWorded) p

/-- The program shows the empty text only where a reply says it, if nothing else was shown so. -/
def Program.KeepsWorded (program : Program σ α) : Prop :=
  ∀ p, IsWorded p → program.WordedFrom p

variable {p : Progress σ} {client : Client}

theorem IsWorded.told (h : IsWorded p) (answer : Answer) : IsWorded (p.told answer) := by
  refine h.mono ?_
  show p.replies ⊆ (p.answers ++ [answer]).filterMap Answer.reply?
  rw [List.filterMap_append]
  exact List.subset_append_left ..

/-- With a reply comes an outcome that says the empty text only where a reply does. -/
theorem wordedFrom_perform (h : IsWorded p) (query : Query)
    {next : Outcome query.Value → Program σ β}
    (hnext : ∀ outcome (q : Progress σ), IsWorded q → outcome.WordedBy q.replies →
      (next outcome).WordedFrom q) :
    ((perform client query.operation).bind next).WordedFrom p := by
  rw [WordedFrom, ensures_bind, ensures_perform]
  refine ⟨h, fun reply => hnext _ _ (h.told (.reply reply)) ?_⟩
  refine (query.wordedBy_finish client reply p.session).mono fun only honly => ?_
  obtain rfl := List.mem_singleton.1 honly
  simp [Progress.replies, Progress.replied, Progress.told, Answer.reply?]

theorem Program.KeepsWorded.bind {program : Program σ α} {next : α → Program σ β}
    (h : program.KeepsWorded) (hnext : ∀ result, (next result).KeepsWorded) :
    (program.bind next).KeepsWorded :=
  fun p hp => (h p hp).bind fun result q hq => hnext result q hq

theorem keepsWorded_log (event : Log.Event) : (log event : Program σ Unit).KeepsWorded :=
  fun _ h => h

theorem keepsWorded_ask (effect : Effect) : (ask effect : Program σ Unit).KeepsWorded :=
  fun _ h => h

theorem keepsWorded_importSubscription (client : Client) :
    (Form.importSubscription client : Program σ Unit).KeepsWorded := by
  refine fun p hp => wordedFrom_perform hp .getSubscribe
    fun (outcome : Outcome Subscription) q hq _ => ?_
  split
  · split
    · exact hq
    · refine ⟨hq, fun failure => ?_⟩
      cases failure <;> exact hq.told _
  · exact hq

theorem keepsWorded_resolvePlanName (client : Client) (planId : Option Int) :
    (resolvePlanName client planId : Program σ (Option String)).KeepsWorded := by
  cases planId with
  | none => exact fun _ h => h
  | some planId =>
    refine fun p hp => wordedFrom_perform hp .getPlans fun outcome q hq _ => ?_
    cases outcome <;> exact hq

variable [HasStatus.Lawful σ]

/-- A change of the status that adds no empty text but those of the replies so far. -/
theorem wordedFrom_changeStatus {f : Status → Status}
    (h : (f (HasStatus.status p.view)).WordedBy p.replies) :
    (changeStatus f).WordedFrom p := by
  rw [WordedFrom, ensures_changeStatus, IsWorded, HasStatus.status_modify]
  exact h

theorem keepsWorded_changeStatus {f : Status → Status}
    (h : ∀ status replies, status.WordedBy replies → (f status).WordedBy replies) :
    (changeStatus f : Program σ Unit).KeepsWorded :=
  fun _ hp => wordedFrom_changeStatus (h _ _ hp)

theorem keepsWorded_setLoading (loading : Bool) :
    (setLoading loading : Program σ Unit).KeepsWorded :=
  keepsWorded_changeStatus fun _ _ h => h.setLoading loading

/-- Words of its own are no empty text. -/
theorem keepsWorded_fail {message : String} (h : message ≠ "") :
    (fail message : Program σ Unit).KeepsWorded :=
  keepsWorded_changeStatus fun _ _ hstatus =>
    (hstatus.setGeneralError fun hempty => absurd hempty h).setLoading false

theorem wordedFrom_recordFailure {outcome : Outcome α} (h : IsWorded p)
    (houtcome : outcome.WordedBy p.replies) (shown : List Field) :
    (recordFailure outcome shown).WordedFrom p :=
  wordedFrom_changeStatus (h.showing houtcome shown)

theorem wordedFrom_showFailure {outcome : Outcome α} (h : IsWorded p)
    (houtcome : outcome.WordedBy p.replies) (shown : List Field) :
    (showFailure outcome shown).WordedFrom p :=
  wordedFrom_changeStatus ((h.showing houtcome shown).setLoading false)

/-- The message of a refusal. -/
theorem wordedFrom_fail {message : String} {fieldErrors : FieldErrors} (h : IsWorded p)
    (houtcome : (.invalid message fieldErrors : Outcome α).WordedBy p.replies) :
    (fail message).WordedFrom p :=
  wordedFrom_changeStatus
    ((h.setGeneralError fun hempty => houtcome.said (congrArg some hempty)).setLoading false)

/-- A program that takes the errors away first shows nothing of what was shown before. -/
theorem wordedFrom_clearErrors {next : Program σ β} (h : next.KeepsWorded) (p : Progress σ) :
    (clearErrors.bind fun _ => next).WordedFrom p :=
  (wordedFrom_changeStatus (Status.wordedBy_clearErrors _)).bind fun _ q hq => h q hq

theorem wordedFrom_finishSignIn {outcome : Outcome SignIn} (h : IsWorded p)
    (houtcome : outcome.WordedBy p.replies) (shown : List Field) :
    (Form.finishSignIn client shown outcome).WordedFrom p := by
  cases outcome with
  | success signIn =>
    exact ((keepsWorded_importSubscription client).bind fun _ =>
      (keepsWorded_setLoading false).bind fun _ => keepsWorded_ask _) p h
  | _ => exact wordedFrom_showFailure h houtcome shown

end Programs

/-! ## What forms show -/

namespace Form

/-- What a complaint says. -/
def Complaint.text : Complaint → String
  | .field _ message | .general message => message

theorem mem_of_firstOf {checks : List (Bool × Complaint)} {complaint : Complaint}
    (h : firstOf checks = some complaint) : complaint ∈ checks.map Prod.snd := by
  obtain ⟨check, hcheck, rfl⟩ := Option.map_eq_some_iff.1 h
  exact List.mem_map_of_mem (List.mem_of_find?_eq_some hcheck)

variable {σ : Type} [HasStatus σ] [HasStatus.Lawful σ] {client : Client}

/-- A form complains in words, or goes on. -/
theorem wordedFrom_checked {checks : List (Bool × Complaint)} {next : Program σ Unit}
    (hchecks : ∀ check ∈ checks, check.2.text ≠ "") (hnext : next.KeepsWorded)
    (p : Progress σ) :
    (checked (firstOf checks) next).WordedFrom p := by
  cases hfirst : firstOf checks with
  | none => exact wordedFrom_clearErrors hnext p
  | some complaint =>
    refine wordedFrom_clearErrors ?_ p
    obtain ⟨check, hcheck, rfl⟩ := List.mem_map.1 (mem_of_firstOf hfirst)
    have htext := hchecks check hcheck
    cases hcomplaint : check.2 with
    | field field message =>
      rw [hcomplaint] at htext
      exact keepsWorded_changeStatus fun _ _ h => h.setFieldError fun hempty => absurd hempty htext
    | general message =>
      rw [hcomplaint] at htext
      exact keepsWorded_changeStatus fun _ _ h =>
        h.setGeneralError fun hempty => absurd hempty htext

theorem wordedFrom_sendEmailCode (email : String) (p : Progress σ) :
    (sendEmailCode client email).WordedFrom p := by
  refine wordedFrom_checked (by simp [checkEmail, Complaint.text, emailRequired]) ?_ p
  refine (keepsWorded_setLoading true).bind fun _ q hq => ?_
  refine wordedFrom_perform hq (.sendEmailVerify (Text.trim email))
    fun outcome r hr houtcome => ?_
  cases outcome with
  | success value => exact keepsWorded_setLoading false r hr
  | invalid message fieldErrors => exact wordedFrom_fail hr houtcome
  | _ => exact keepsWorded_fail (by decide) r hr

end Form

/-! ## What the pages show -/

section Pages

variable (client : Client)

theorem wordedFrom_login (email password : String) (p : Progress Login.View) :
    (Login.login client email password).WordedFrom p := by
  refine Form.wordedFrom_checked ?_ ?_ p
  · simp [Form.checkEmail, Form.checkPassword, Form.Complaint.text, Form.emailRequired,
      Form.passwordRequired]
  · refine (keepsWorded_setLoading true).bind fun _ q hq => ?_
    exact wordedFrom_perform hq (.login (Text.trim email) password) fun _ _ hr houtcome =>
      wordedFrom_finishSignIn hr houtcome _

theorem wordedFrom_register (email password confirmPassword : String)
    (inviteCode emailCode : Option String) (p : Progress Register.View) :
    (Register.register client email password confirmPassword inviteCode
      emailCode).WordedFrom p := by
  refine Form.wordedFrom_checked ?_ ?_ p
  · simp [Form.checkEmail, Form.checkPassword, Form.checkRepeated, Form.Complaint.text,
      Form.emailRequired, Form.passwordRequired, Form.passwordsDiffer]
  · refine (keepsWorded_setLoading true).bind fun _ q hq => ?_
    exact wordedFrom_perform hq
      (.register (Text.trim email) password (inviteCode.bind Text.trimmed?)
        (emailCode.bind Text.trimmed?))
      fun _ _ hr houtcome => wordedFrom_finishSignIn hr houtcome _

theorem wordedFrom_resetPassword (email emailCode password confirmPassword : String)
    (p : Progress ForgotPassword.View) :
    (ForgotPassword.resetPassword client email emailCode password
      confirmPassword).WordedFrom p := by
  refine Form.wordedFrom_checked ?_ ?_ p
  · simp [Form.checkEmail, ForgotPassword.checkCode, Form.checkPassword, Form.checkRepeated,
      Form.Complaint.text, Form.emailRequired, Form.emailCodeRequired, Form.passwordRequired,
      Form.passwordsDiffer]
  · refine (keepsWorded_setLoading true).bind fun _ q hq => ?_
    refine wordedFrom_perform hq
      (.forgotPassword (Text.trim email) password (Text.trim emailCode))
      fun outcome r hr houtcome => ?_
    cases outcome with
    | success value =>
      exact ((keepsWorded_setLoading false).bind fun _ =>
        (keepsWorded_ask _).bind fun _ => keepsWorded_ask _) r hr
    | _ => exact wordedFrom_showFailure hr houtcome _

theorem wordedFrom_conclude {outcome : Outcome CheckoutResult} {p : Progress Checkout.View}
    (h : IsWorded p) (houtcome : outcome.WordedBy p.replies) :
    (Checkout.conclude outcome).WordedFrom p := by
  cases outcome with
  | success result =>
    have hsettle : (Checkout.settle result).KeepsWorded := by
      unfold Checkout.settle
      split
      · exact (keepsWorded_setLoading false).bind fun _ => keepsWorded_ask _
      · split
        · exact (keepsWorded_setLoading false).bind fun _ =>
            (keepsWorded_ask _).bind fun _ => keepsWorded_ask _
        · exact (keepsWorded_log _).bind fun _ => keepsWorded_fail (by decide)
    exact hsettle p h
  | invalid message fieldErrors => exact wordedFrom_fail h houtcome
  | _ => exact (keepsWorded_log _).bind (fun _ => keepsWorded_fail (by decide)) p h

theorem wordedFrom_order (planId : Int) (period : String) (couponCode : Option String)
    (method : Int) (p : Progress Checkout.View) :
    (Checkout.order client planId period couponCode method).WordedFrom p := by
  refine wordedFrom_clearErrors ((keepsWorded_setLoading true).bind fun _ q hq => ?_) p
  refine wordedFrom_perform hq (.createOrder planId period (couponCode.bind Text.trimmed?))
    fun outcome r hr houtcome => ?_
  cases outcome with
  | success tradeNo =>
    have hpay : (Checkout.pay client tradeNo method).KeepsWorded := fun s hs =>
      wordedFrom_perform hs (.checkoutOrder tradeNo method) fun _ _ ht hpayment =>
        wordedFrom_conclude ht hpayment
    exact (keepsWorded_log _).bind (fun _ => hpay) r hr
  | invalid message fieldErrors => exact wordedFrom_fail hr houtcome
  | unreachable message => exact keepsWorded_fail (by decide) r hr
  | _ => exact (keepsWorded_log _).bind (fun _ => keepsWorded_fail (by decide)) r hr

/-- Whatever becomes of the call, the program goes on, with the failure shown if it is one. -/
theorem wordedFrom_dashboard_load (p : Progress Dashboard.View) :
    (Dashboard.load client).WordedFrom p := by
  have hservers (outcome : Outcome (List ServerNode)) (q : Progress Dashboard.View)
      (hq : IsWorded q) (houtcome : outcome.WordedBy q.replies) :
      (Dashboard.goOnServers outcome).WordedFrom q := by
    cases outcome with
    | success servers =>
      exact hq.setLoading false
    | _ =>
      exact (wordedFrom_recordFailure hq houtcome []).bind fun _ r hr => hr.setLoading false
  have hplan (planId : Option Int) : (Dashboard.goOnPlan client planId).KeepsWorded := by
    refine (keepsWorded_resolvePlanName client planId).bind fun planName => ?_
    intro q hq
    have hshown : IsWorded { q with view := { q.view with planName } } := hq
    exact wordedFrom_perform hshown .getServers hservers
  have hinfo : ((perform client Operation.getUserInfo).bind
      (Dashboard.goOnInfo client)).KeepsWorded := by
    refine fun q hq => wordedFrom_perform hq .getUserInfo fun outcome r hr _ => ?_
    cases outcome <;> exact hplan _ r hr
  rw [Dashboard.load_eq]
  refine wordedFrom_clearErrors ((keepsWorded_setLoading true).bind fun _ q hq => ?_) p
  refine wordedFrom_perform hq .getSubscribe fun outcome r hr houtcome => ?_
  cases outcome with
  | success subscription => exact hinfo _ hr
  | _ => exact (wordedFrom_recordFailure hr houtcome []).bind fun _ => hinfo

theorem wordedFrom_account_load (p : Progress Account.View) :
    (Account.load client).WordedFrom p := by
  have hplan (planId : Option Int) : (Account.goOnPlan client planId).KeepsWorded :=
    (keepsWorded_resolvePlanName client planId).bind fun _ _ hq => hq.setLoading false
  rw [Account.load_eq]
  refine wordedFrom_clearErrors (fun q hq => ?_) p
  have hshown : IsWorded { q with
      view := { q.view with
        email := q.session.userEmail
        status := q.view.status.setLoading true } } := hq.setLoading true
  refine wordedFrom_perform hshown .getUserInfo fun outcome r hr houtcome => ?_
  cases outcome with
  | success info => exact hplan _ _ hr
  | _ => exact (wordedFrom_recordFailure hr houtcome []).bind fun _ => hplan none

theorem wordedFrom_purchase_load (p : Progress Purchase.View) :
    (Purchase.load client).WordedFrom p := by
  refine wordedFrom_clearErrors ((keepsWorded_setLoading true).bind fun _ q hq => ?_) p
  refine wordedFrom_perform hq .getPlans fun outcome r hr houtcome => ?_
  cases outcome with
  | success plans => exact hr.setLoading false
  | _ => exact wordedFrom_showFailure hr houtcome []

theorem wordedFrom_checkout_load (planId : Int) (p : Progress Checkout.View) :
    (Checkout.load client planId).WordedFrom p := by
  have hmethods : ((perform client Operation.getPaymentMethods).bind
      Checkout.showMethods).KeepsWorded := by
    refine fun q hq => wordedFrom_perform hq .getPaymentMethods fun outcome r hr houtcome => ?_
    cases outcome with
    | success methods =>
      exact hr.setLoading false
    | _ =>
      exact (wordedFrom_recordFailure hr houtcome []).bind fun _ s hs => hs.setLoading false
  refine wordedFrom_clearErrors ((keepsWorded_setLoading true).bind fun _ q hq => ?_) p
  refine wordedFrom_perform hq .getPlans fun outcome r hr houtcome => ?_
  cases outcome with
  | success plans =>
    unfold Checkout.showPlans
    dsimp only
    cases findPlan planId plans <;> exact hmethods _ hr
  | _ => exact (wordedFrom_recordFailure hr houtcome []).bind fun _ => hmethods

/-- The input has the page populated, or submits something on it. -/
def Page.Tries (page : Page) (input : Input page.Request) : Prop :=
  page.populates input = true ∨
    ∃ request submission, input = .request request ∧ page.submission? request = some submission

theorem wordedFrom_populated (page : Page) {input : Input page.Request}
    (h : page.populates input = true) (p : Progress page.View) :
    ((page.screen client).program input).WordedFrom p := by
  rw [Page.program_of_populates client page h]
  cases page with
  | dashboard => exact wordedFrom_dashboard_load client p
  | account => exact wordedFrom_account_load client p
  | purchase => exact wordedFrom_purchase_load client p
  | checkout planId planName => exact wordedFrom_checkout_load client planId p
  | _ => cases h

theorem wordedFrom_submission (page : Page) {request : page.Request} {submission : Submission}
    (h : page.submission? request = some submission) (p : Progress page.View) :
    ((page.screen client).handle request).WordedFrom p := by
  cases page with
  | login =>
    cases request with
    | login email password => exact wordedFrom_login client _ _ p
    | _ => cases h
  | register =>
    cases request with
    | register email password confirmPassword inviteCode emailCode =>
      exact wordedFrom_register client _ _ _ _ _ p
    | sendEmailCode email => exact Form.wordedFrom_sendEmailCode _ p
    | openLogin => cases h
  | forgotPassword =>
    cases request with
    | resetPassword email emailCode password confirmPassword =>
      exact wordedFrom_resetPassword client _ _ _ _ p
    | sendEmailCode email => exact Form.wordedFrom_sendEmailCode _ p
    | openLogin => cases h
  | checkout planId planName =>
    cases request with
    | checkout period couponCode method => exact wordedFrom_order client _ _ _ _ p
  | _ => cases h

theorem Page.Tries.wordedFrom {page : Page} {input : Input page.Request} (h : page.Tries input)
    (p : Progress page.View) :
    ((page.screen client).program input).WordedFrom p := by
  rcases h with hpopulates | ⟨request, submission, rfl, hsubmission⟩
  · exact wordedFrom_populated client page hpopulates p
  · exact wordedFrom_submission client page hsubmission p

end Pages

/-! ## What is shown until something else is begun -/

namespace Controller

variable {ρ σ : Type} [HasStatus σ]

/-- Where the empty text is shown, one of the replies says it, and a program that is being served
goes on so. -/
structure Speaks (replies : List Http.Reply) (c : Controller ρ σ) : Prop where
  shown : (HasStatus.status c.scene.view).WordedBy replies
  served : c.scene.tornDown = false → ∀ job paused, c.activity = .busy job paused →
    ∃ effects answers, answers.filterMap Answer.reply? = replies ∧
      c.Stands (fun _ => IsWorded) IsWorded effects answers

variable {c : Controller ρ σ} {move : Move ρ} {replies : List Http.Reply}

theorem Stands.speaks {effects : List Effect} {answers : List Answer}
    (h : c.Stands (fun _ => IsWorded) IsWorded effects answers) :
    c.Speaks (answers.filterMap Answer.reply?) where
  shown := by
    unfold Stands at h
    split at h
    · exact h
    · obtain ⟨errand, hleads, -⟩ := h
      exact hleads.holds
    · exact h.elim
  served := fun _ _ _ _ => ⟨effects, answers, rfl, h⟩

/-- As long as nothing else is begun, every move keeps to the replies that were told. -/
theorem Speaks.step (h : c.Speaks replies)
    (honTick : ∀ remaining view,
      HasStatus.status (c.screen.onTick remaining view) = HasStatus.status view)
    (hbegins : c.begins move = []) :
    (c.step move).Speaks (replies ++ (c.told move).filterMap Answer.reply?) := by
  cases hup : (c.step move).scene.tornDown with
  | true =>
    refine ⟨?_, fun hopen => absurd (hup.symm.trans hopen) nofun⟩
    rw [view_of_tornDown hup]
    exact h.shown.mono (List.subset_append_left ..)
  | false =>
    cases hprogram : c.program? move with
    | some served =>
      obtain ⟨job, program⟩ := served
      rcases turn_cases hprogram with ⟨input, hinput, -⟩ | ⟨paused, -, hbusy, -⟩
      · simp [hbegins] at hinput
      · obtain ⟨effects, answers, rfl, hstands⟩ := h.served (up_of_step hup) _ _ hbusy
        rw [← List.filterMap_append]
        exact (hstands.step hbusy hup).speaks
    | none =>
      have hrests := rests_of_no_program hprogram hup
      rw [told_of_no_program hprogram, List.filterMap_nil, List.append_nil]
      refine ⟨?_, fun _ job paused hbusy => ?_⟩
      · rw [hrests.view]
        refine List.foldlRecOn (motive := fun view => (HasStatus.status view).WordedBy replies) _ _
          h.shown fun view hview remaining _ => ?_
        rw [honTick]
        exact hview
      · rw [hrests.activity] at hbusy
        obtain ⟨effects, answers, hreplies, hstands⟩ := h.served (up_of_step hup) _ _ hbusy
        exact ⟨effects, answers, hreplies, hrests.stands hbusy hstands⟩

theorem Speaks.steps {moves : List (Move ρ)} (h : c.Speaks replies)
    (honTick : ∀ remaining view,
      HasStatus.status (c.screen.onTick remaining view) = HasStatus.status view)
    (hbegins : c.along begins moves = []) :
    (c.steps moves).Speaks (replies ++ (c.along told moves).filterMap Answer.reply?) := by
  induction moves generalizing c replies with
  | nil =>
    rw [along, List.filterMap_nil, List.append_nil]
    exact h
  | cons move rest ih =>
    rw [along, List.append_eq_nil_iff] at hbegins
    rw [along, List.filterMap_append, ← List.append_assoc]
    exact ih (h.step honTick hbegins.1) (by rwa [step_screen]) hbegins.2

end Controller

/-- The countdown has no part in the status of a view. -/
theorem Page.status_onTick (client : Client) (page : Page) (remaining : Nat) (view : page.View) :
    HasStatus.status ((page.screen client).onTick remaining view) = HasStatus.status view := by
  cases page <;> rfl

open Controller

/-- A failure has something to say, unless the backend says the empty text itself. Every reply that
is no success has an outcome with a message, and that is empty exactly if the body has the empty
text for it. When a page is populated or serves a submission, then at every moment until something
else is begun, an empty error at an input is one that a reply has put first among those about it,
and an empty general error is the message of a reply. -/
theorem failure_has_words (reply : Http.Reply) (page : Page) (input : Input page.Request)
    (c : Controller page.Request page.View) (move : Controller.Move page.Request)
    (moves : List (Controller.Move page.Request)) :
    ((∀ body, reply ≠ .response 200 body) →
      ∃ message, (Outcome.ofReply reply).said? = some message ∧
        (message = "" ↔ reply.IsSilent)) ∧
    (c.screen = page.screen c.setting.client → c.scene.tornDown = false →
      c.begins move = [input] → page.Tries input → (c.step move).along begins moves = [] →
        let replies := (c.along told (move :: moves)).filterMap Answer.reply?
        (page.status (c.steps (move :: moves)).scene.view).WordedBy replies) := by
  refine ⟨Outcome.said?_ofReply, ?_⟩
  intro hscreen hup hbegins htries hnothing replies
  have hprogram : (c.screen.program input).WordedFrom (c.scene.progress [] []) := by
    rw [hscreen]
    exact htries.wordedFrom c.setting.client _
  have honTick : ∀ remaining view,
      HasStatus.status ((c.step move).screen.onTick remaining view) = HasStatus.status view := by
    rw [step_screen, hscreen]
    exact page.status_onTick c.setting.client
  have hbegun : (c.step move).Speaks [] := (stands_of_begins hbegins hup hprogram).speaks
  have hreplies : replies = ((c.step move).along told moves).filterMap Answer.reply? := by
    show (c.told move ++ (c.step move).along told moves).filterMap Answer.reply? = _
    rw [told_of_begins hbegins, List.nil_append]
  rw [hreplies]
  exact (hbegun.steps honTick hnothing).shown

/-- A reply without a body is not silent, and of three such replies the dashboard shows the last, in
words. -/
theorem failure_has_words_of_dashboard :
    let setting : Setting := ⟨⟨"https://panel.example"⟩, 60⟩
    let c := Controller.opening (Page.dashboard.screen setting.client) setting ⟨.memory []⟩
    let last := c.steps [.start, .reply (.response 401 ""), .reply (.response 500 ""),
      .reply (.failure (.timeout "late"))]
    (∃ message, (Outcome.ofReply (.response 500 "")).said? = some message ∧ message ≠ "") ∧
      ∃ text, (Page.dashboard.status last.scene.view).generalError = some text ∧ text ≠ "" := by
  intro setting c last
  have hspoken (status : Nat) : ¬ (Http.Reply.response status "").IsSilent := by
    rintro ⟨_, _, ⟨⟩, -, members, hbody, -⟩
    have hnone : Json.parse? "" = none := Option.isNone_iff_eq_none.1 (by decide)
    cases hnone.symm.trans hbody
  obtain ⟨hsaid, hshown⟩ := failure_has_words (.response 500 "") .dashboard .load c .start
    [.reply (.response 401 ""), .reply (.response 500 ""), .reply (.failure (.timeout "late"))]
  obtain ⟨message, hmessage, hempty⟩ := hsaid (by simp)
  refine ⟨⟨message, hmessage, hempty.not.2 (hspoken 500)⟩, _, rfl, fun hempty => ?_⟩
  obtain ⟨reply, hmem, hsilent⟩ :=
    (hshown rfl rfl rfl (.inl rfl) rfl).general (congrArg some hempty)
  have hmem : reply ∈ [.response 401 "", .response 500 "", .failure (.timeout "late")] := hmem
  simp only [List.mem_cons, List.not_mem_nil, or_false] at hmem
  rcases hmem with rfl | rfl | rfl
  · exact hspoken 401 hsilent
  · exact hspoken 500 hsilent
  · obtain ⟨_, _, ⟨⟩, -⟩ := hsilent

/-- A message and an error at the address that are empty are shown as they are, and a refusal
without field errors has no words at all if its message is empty. -/
theorem empty_words_of_login :
    let wordless := "\x7b\"errors\":\x7b\x7d,\"message\":\"\"\x7d"
    let silent := "\x7b\"errors\":\x7b\"email\":[\"\"]\x7d,\"message\":\"\"\x7d"
    let setting : Setting := ⟨⟨"https://panel.example"⟩, 60⟩
    let c := (Controller.opening (Page.login.screen setting.client) setting ⟨.memory []⟩).steps
      [.start, .send (Login.Request.login "a@b.c" "secret")]
    let refused := c.steps [.serveRequest, .reply (.response 422 silent)]
    let failed := c.steps [.serveRequest, .reply (.response 404 silent)]
    (Outcome.ofReply (.response 422 wordless)).said? = some "" ∧
      (Outcome.ofReply (.response 422 wordless)).fieldErrors = [] ∧
      (Outcome.ofReply (.response 404 silent)).said? = some "" ∧
      (Page.login.status refused.scene.view).fieldError .email = some "" ∧
      (Page.login.status failed.scene.view).generalError = some "" := by
  decide +kernel

end PanelClient
