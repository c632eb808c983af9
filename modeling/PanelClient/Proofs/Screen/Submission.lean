import PanelClient.Proofs.Backend.Query
import PanelClient.Proofs.Controller.Service
import PanelClient.Proofs.Screen.Page
import PanelClient.Proofs.Screen.Status

/-!
# Submissions

What is entered on a page and sent off is refused or accepted, never both: it is refused with errors
and nothing else, and accepted with just the effects of its success and no error
(`submission_settles`). The replies decide (`Submission.verdict`), and what was shown before does
not matter.
-/

namespace PanelClient

open Program

/-- What is entered on a page and sent off. -/
inductive Submission where
  | login (email password : String)
  | register (email password confirmPassword : String) (inviteCode emailCode : Option String)
  | resetPassword (email emailCode password confirmPassword : String)
  | sendEmailCode (email : String)
  | checkout (planId : Int) (period : String) (couponCode : Option String) (method : Int)

/-- What is submitted with a request of the page, if anything. -/
def Page.submission? : (page : Page) → page.Request → Option Submission
  | .login, .login email password => some (.login email password)
  | .register, .register email password confirmPassword inviteCode emailCode =>
    some (.register email password confirmPassword inviteCode emailCode)
  | .register, .sendEmailCode email => some (.sendEmailCode email)
  | .forgotPassword, .resetPassword email emailCode password confirmPassword =>
    some (.resetPassword email emailCode password confirmPassword)
  | .forgotPassword, .sendEmailCode email => some (.sendEmailCode email)
  | .checkout planId _, .checkout period couponCode method =>
    some (.checkout planId period couponCode method)
  | _, _ => none

/-- How a submission ends. -/
inductive Verdict where
  /-- With the errors of a status that shows nothing else. -/
  | refused (errors : Status)
  /-- With effects, in order. -/
  | accepted (effects : List Effect)

namespace Verdict

variable {α : Type}

/-- The verdict on an operation: what follows from its value, or how its failure is shown. -/
def ofOutcome (refusal : Outcome α → Status) (next : α → Verdict) : Outcome α → Verdict
  | .success value => next value
  | failure => .refused (refusal failure)

def isAccepted : Verdict → Bool
  | accepted _ => true
  | refused _ => false

theorem isAccepted_ofOutcome (refusal : Outcome α → Status) (next : α → Verdict)
    (outcome : Outcome α) :
    (ofOutcome refusal next outcome).isAccepted =
      outcome.value?.any fun value => (next value).isAccepted := by
  cases outcome <;> rfl

theorem isAccepted_ofOutcome_accepted (refusal : Outcome α → Status) (effects : List Effect)
    (outcome : Outcome α) :
    (ofOutcome refusal (fun _ => accepted effects) outcome).isAccepted = outcome.isSuccess := by
  cases outcome <;> rfl

/-- The verdict on what is to be done about a payment. -/
def ofResult (result : CheckoutResult) : Verdict :=
  match result.paymentUrl? with
  | some url => .accepted [.openUrl url]
  | none =>
    if result.isCompleted then .accepted [.toast Checkout.paymentSucceeded, .finish .ok]
    else .refused (Status.initial.setGeneralError Checkout.checkoutFailed)

end Verdict

/-- The only error of a complaint. -/
def Form.Complaint.errors : Form.Complaint → Status
  | .field input message => Status.initial.setFieldError input message
  | .general message => Status.initial.setGeneralError message

namespace Submission

/-- The first thing that is missing. -/
def complaint? : Submission → Option Form.Complaint
  | login email password =>
    Form.firstOf [Form.checkEmail email, Form.checkPassword password]
  | register email password confirmPassword _ _ =>
    Form.firstOf [Form.checkEmail email, Form.checkPassword password,
      Form.checkRepeated password confirmPassword]
  | resetPassword email emailCode password confirmPassword =>
    Form.firstOf [Form.checkEmail email, ForgotPassword.checkCode emailCode,
      Form.checkPassword password, Form.checkRepeated password confirmPassword]
  | sendEmailCode email => Form.firstOf [Form.checkEmail email]
  | checkout .. => none

/-- The errors of a mail that could not be sent. -/
def mailRefusal : Outcome Unit → Status
  | .invalid message _ => Status.initial.setGeneralError message
  | _ => Status.initial.setGeneralError Form.sendCodeFailed

/-- The errors of an order that could not be created. -/
def orderRefusal : Outcome String → Status
  | .invalid message _ => Status.initial.setGeneralError message
  | .unreachable _ => Status.initial.setGeneralError Status.networkError
  | _ => Status.initial.setGeneralError Checkout.orderFailed

/-- The errors of an order that could not be paid. -/
def paymentRefusal : Outcome CheckoutResult → Status
  | .invalid message _ => Status.initial.setGeneralError message
  | _ => Status.initial.setGeneralError Checkout.checkoutFailed

section Replies

variable (client : Client) (session : Session)

/-- What the replies make of a submission with nothing missing. -/
def judged : Submission → List Http.Reply → Verdict
  | login email password, reply :: _ =>
    .ofOutcome (Status.initial.showing · Login.fields) (fun _ => .accepted [.finish .ok])
      ((Operation.login (Text.trim email) password).finish client reply session).value
  | register email password _ inviteCode emailCode, reply :: _ =>
    .ofOutcome (Status.initial.showing · Register.fields) (fun _ => .accepted [.finish .ok])
      ((Operation.register (Text.trim email) password (inviteCode.bind Text.trimmed?)
        (emailCode.bind Text.trimmed?)).finish client reply session).value
  | resetPassword email emailCode password _, reply :: _ =>
    .ofOutcome (Status.initial.showing · ForgotPassword.fields)
      (fun _ => .accepted [.toast ForgotPassword.succeeded, .finish .ok])
      ((Operation.forgotPassword (Text.trim email) password (Text.trim emailCode)).finish client
        reply session).value
  | sendEmailCode email, reply :: _ =>
    .ofOutcome mailRefusal (fun _ => .accepted [])
      ((Operation.sendEmailVerify (Text.trim email)).finish client reply session).value
  | checkout planId period couponCode method, reply :: rest =>
    .ofOutcome orderRefusal
      (fun tradeNo =>
        match rest with
        | payment :: _ =>
          .ofOutcome paymentRefusal .ofResult
            ((Operation.checkoutOrder tradeNo method).finish client payment session).value
        | [] => .refused .initial)
      ((Operation.createOrder planId period (couponCode.bind Text.trimmed?)).finish client reply
        session).value
  | _, [] => .refused .initial

/-- How a submission ends, with a session and the replies that come. -/
def verdict (submission : Submission) (replies : List Http.Reply) : Verdict :=
  match submission.complaint? with
  | some complaint => .refused complaint.errors
  | none => submission.judged client session replies

end Replies

/-- The submission starts the countdown when it is accepted. -/
def starts : Submission → Bool
  | sendEmailCode _ => true
  | _ => false

end Submission

section Settling

variable {σ : Type} [HasStatus σ]

/-- Nothing wrong is shown. -/
def IsClean (view : σ) : Prop :=
  (HasStatus.status view).setLoading false = .initial

/-- Nothing has come of a submission yet, and there is not much left to wait for. -/
structure Pending (generation : Nat) (_ : Errand) (p : Progress σ) : Prop where
  effects : p.effects = []
  generation : p.generation = generation
  answers : p.answers.length < 3

/-- The submission has ended as the verdict says. -/
def Settles (submission : Submission) (generation : Nat) (verdict : Verdict) (p : Progress σ) :
    Prop :=
  match verdict with
  | .refused errors => errors.hasErrors = true ∧
      (HasStatus.status p.view).setLoading false = errors ∧ p.effects = [] ∧
      p.generation = generation
  | .accepted effects => IsClean p.view ∧ p.effects = effects ∧
      p.generation = if submission.starts then generation + 1 else generation

/-- Wherever the program begins afresh, it ends as the verdict on the submission says. -/
def Submission.SettledBy (client : Client) (submission : Submission) (program : Program σ Unit) :
    Prop :=
  ∀ p : Progress σ, p.effects = [] → p.answers = [] →
    program.Ensures (Pending p.generation)
      (fun _ q => Settles submission p.generation
        (submission.verdict client p.session q.replies) q) p

/-- A submission with nothing missing has got these replies so far, and nothing has come of it. -/
structure Replied (generation : Nat) (replies : List Http.Reply) (p : Progress σ) : Prop where
  clean : IsClean p.view
  effects : p.effects = []
  generation : p.generation = generation
  answers : p.answers = replies.map .reply

variable {p : Progress σ} {generation : Nat} {replies : List Http.Reply} {submission : Submission}
  {client : Client}

theorem Replied.replies_eq (h : Replied generation replies p) : p.replies = replies :=
  Progress.replies_of_answers h.answers

theorem Replied.pending (h : Replied generation replies p) (hlength : replies.length < 3)
    (errand : Errand) : Pending generation errand p where
  effects := h.effects
  generation := h.generation
  answers := by rwa [h.answers, List.length_map]

theorem Replied.replied (h : Replied generation replies p) (reply : Http.Reply)
    (session : Session) : Replied generation (replies ++ [reply]) (p.replied reply session) where
  clean := h.clean
  effects := h.effects
  generation := h.generation
  answers := by simp [Progress.replied, Progress.told, h.answers]

/-- An operation of a submission, which goes on with the outcome of the reply. -/
theorem Replied.ensures_perform {α β : Type} (h : Replied generation replies p)
    (hlength : replies.length < 3) {operation : Operation α} {next : Outcome α → Program σ β}
    {post : β → Progress σ → Prop}
    (hnext : ∀ reply (q : Progress σ),
      q.session = (operation.finish client reply p.session).session →
      Replied generation (replies ++ [reply]) q →
      (next (operation.finish client reply p.session).value).Ensures (Pending generation) post q) :
    ((perform client operation).bind next).Ensures (Pending generation) post p := by
  rw [ensures_bind, Program.ensures_perform]
  exact ⟨h.pending hlength _, fun reply => hnext reply _ rfl (h.replied reply _)⟩

/-- The subscription is handed on without anything coming of it for the submission. -/
theorem Replied.importSubscription {reply : Http.Reply} (h : Replied generation [reply] p) :
    (Form.importSubscription client).Ensures (Pending generation)
      (fun _ q => q.view = p.view ∧ q.effects = [] ∧ q.generation = generation ∧
        ∃ rest, q.replies = reply :: rest) p := by
  unfold Form.importSubscription
  rw [bind_eq, ensures_bind, Program.ensures_perform]
  refine ⟨h.pending (by simp) _, fun second => ?_⟩
  have hsecond := h.replied second (Operation.getSubscribe.finish client second p.session).session
  have hlast : ∃ rest, Progress.replies (p.replied second
      (Operation.getSubscribe.finish client second p.session).session) = reply :: rest :=
    ⟨[second], hsecond.replies_eq⟩
  split
  · split
    · exact ⟨rfl, h.effects, h.generation, hlast⟩
    · refine ⟨hsecond.pending (by simp) _, fun failure => ?_⟩
      obtain ⟨rest, hrest⟩ := hlast
      cases failure <;>
        exact ⟨rfl, h.effects, h.generation, rest, by
          rw [← hrest]
          simp [Progress.replies, Progress.told, Answer.reply?]⟩
  · exact ⟨rfl, h.effects, h.generation, hlast⟩

/-- A submission is accepted when nothing wrong is shown and just its effects were asked for. -/
theorem settles_of_accepted {effects : List Effect} {verdict : Verdict}
    (hverdict : verdict = .accepted effects) (hclean : IsClean p.view)
    (heffects : p.effects = effects)
    (hgeneration : p.generation = if submission.starts then generation + 1 else generation) :
    Settles submission generation verdict p := by
  rw [hverdict]
  exact ⟨hclean, heffects, hgeneration⟩

variable [HasStatus.Lawful σ] {judged : List Http.Reply → Verdict}

/-- A failure that is shown refuses the submission. -/
theorem Replied.refused {wait : Errand → Progress σ → Prop} (h : Replied generation replies p)
    {errors : Status} (hverdict : judged replies = .refused errors)
    (herrors : errors.hasErrors = true) {shows : Status → Status}
    (hshows : (shows (HasStatus.status p.view)).setLoading false = errors) :
    (changeStatus shows).Ensures wait
      (fun _ q => Settles submission generation (judged q.replies) q) p := by
  have hreplies : Progress.replies { p with view := HasStatus.modify shows p.view } = replies :=
    h.replies_eq
  rw [ensures_changeStatus, hreplies, hverdict]
  refine ⟨herrors, ?_, h.effects, h.generation⟩
  rw [HasStatus.status_modify]
  exact hshows

theorem Replied.showFailure {α : Type} {wait : Errand → Progress σ → Prop}
    (h : Replied generation replies p) {outcome : Outcome α} (hfailed : outcome.isSuccess = false)
    {shown : List Field}
    (hverdict : judged replies = .refused (Status.initial.showing outcome shown)) :
    (showFailure outcome shown).Ensures wait
      (fun _ q => Settles submission generation (judged q.replies) q) p := by
  refine h.refused hverdict (Status.hasErrors_showing _ _ _ hfailed) ?_
  have hclean : (HasStatus.status p.view).setLoading false = .initial := h.clean
  show ((HasStatus.status p.view).showing outcome shown).setLoading false = _
  rw [Status.showing_setLoading, hclean]

theorem Replied.fail {wait : Errand → Progress σ → Prop} (h : Replied generation replies p)
    {message : String}
    (hverdict : judged replies = .refused (Status.initial.setGeneralError message)) :
    (fail message).Ensures wait
      (fun _ q => Settles submission generation (judged q.replies) q) p := by
  refine h.refused hverdict (Status.hasErrors_setGeneralError _ _) ?_
  have hclean : (HasStatus.status p.view).setLoading false = .initial := h.clean
  show ((HasStatus.status p.view).setLoading false).setGeneralError message = _
  rw [hclean]

/-- What is missing is complained about; otherwise the submission goes on with nothing wrong
shown. -/
theorem settles_checked (submission : Submission) {next : Program σ Unit}
    (hnext : ∀ q : Progress σ, Replied q.generation [] q →
      next.Ensures (Pending q.generation)
        (fun _ r => Settles submission q.generation
          (submission.judged client q.session r.replies) r) q) :
    submission.SettledBy client
      (Form.checked submission.complaint? ((setLoading true).bind fun _ => next)) := by
  intro p heffects hanswers
  unfold Submission.verdict
  simp only [Form.checked, clearErrors, bind_eq, ensures_bind, ensures_changeStatus]
  cases submission.complaint? with
  | some complaint =>
    cases complaint with
    | field input message =>
      refine ⟨Status.hasErrors_setFieldError _ _ _, ?_, heffects, rfl⟩
      simp only [HasStatus.status_modify]
      rfl
    | general message =>
      refine ⟨Status.hasErrors_setGeneralError _ _, ?_, heffects, rfl⟩
      simp only [HasStatus.status_modify]
      rfl
  | none =>
    dsimp only
    simp only [setLoading, ensures_bind, ensures_changeStatus]
    have hclean : IsClean (HasStatus.modify (.setLoading true)
        (HasStatus.modify .clearErrors p.view)) := by
      simp only [IsClean, HasStatus.status_modify]
      rfl
    exact hnext { p with view := HasStatus.modify _ _ } ⟨hclean, heffects, rfl, hanswers⟩

/-- A sign-in is accepted or refused by its first reply. -/
theorem Replied.finishSignIn {reply : Http.Reply} (h : Replied generation [reply] p)
    (hstarts : submission.starts = false) {outcome : Outcome SignIn} {shown : List Field}
    (hverdict : ∀ rest, judged (reply :: rest) =
      .ofOutcome (Status.initial.showing · shown) (fun _ => .accepted [.finish .ok]) outcome) :
    (Form.finishSignIn client shown outcome).Ensures (Pending generation)
      (fun _ q => Settles submission generation (judged q.replies) q) p := by
  cases outcome with
  | success signIn =>
    refine h.importSubscription.bind fun _ q hq => ?_
    obtain ⟨hview, heffects, hgeneration, rest, hreplies⟩ := hq
    have hlast : judged q.replies = .accepted [.finish .ok] := by rw [hreplies, hverdict]; rfl
    have hclean : IsClean (HasStatus.modify (Status.setLoading false) q.view) := by
      rw [IsClean, HasStatus.status_modify, hview]
      exact h.clean
    simp only [setLoading, ask, bind_eq, ensures_bind, ensures_changeStatus]
    refine settles_of_accepted hlast hclean ?_ ?_
    · show q.effects ++ [.finish .ok] = [.finish .ok]
      rw [heffects]
      rfl
    · rw [hstarts]
      exact hgeneration
  | _ => exact h.showFailure rfl (hverdict [])

theorem settles_sendEmailCode (email : String) :
    (Submission.sendEmailCode email).SettledBy client
      (Form.sendEmailCode client email : Program σ Unit) := by
  refine settles_checked _ fun p hp => ?_
  refine hp.ensures_perform (by simp) fun reply r _ hr => ?_
  have hverdict : (Submission.sendEmailCode email).judged client p.session [reply] =
      .ofOutcome Submission.mailRefusal (fun _ => .accepted [])
        ((Operation.sendEmailVerify (Text.trim email)).finish client reply p.session).value := rfl
  cases hvalue : ((Operation.sendEmailVerify (Text.trim email)).finish client reply
    p.session).value with
  | success value =>
    rw [hvalue] at hverdict
    have hclean : IsClean (HasStatus.modify (Status.setLoading false) r.view) := by
      rw [IsClean, HasStatus.status_modify]
      exact hr.clean
    simp only [setLoading, bind_eq, ensures_bind, ensures_changeStatus, ensures_startCooldown]
    refine settles_of_accepted ((congrArg _ hr.replies_eq).trans hverdict) hclean hr.effects ?_
    show r.generation + 1 = p.generation + 1
    rw [hr.generation]
  | _ =>
    rw [hvalue] at hverdict
    exact hr.fail hverdict

end Settling

/-! ## The submissions of the pages -/

section Submissions

variable (client : Client)

theorem settles_login (email password : String) :
    (Submission.login email password).SettledBy client (Login.login client email password) := by
  refine settles_checked _ fun p hp => ?_
  exact hp.ensures_perform (by simp) fun reply r _ hr => hr.finishSignIn rfl fun rest => rfl

theorem settles_register (email password confirmPassword : String)
    (inviteCode emailCode : Option String) :
    (Submission.register email password confirmPassword inviteCode emailCode).SettledBy client
      (Register.register client email password confirmPassword inviteCode emailCode) := by
  refine settles_checked _ fun p hp => ?_
  exact hp.ensures_perform (by simp) fun reply r _ hr => hr.finishSignIn rfl fun rest => rfl

theorem settles_resetPassword (email emailCode password confirmPassword : String) :
    (Submission.resetPassword email emailCode password confirmPassword).SettledBy client
      (ForgotPassword.resetPassword client email emailCode password confirmPassword) := by
  refine settles_checked _ fun p hp => ?_
  refine hp.ensures_perform (by simp) fun reply r _ hr => ?_
  have hverdict : (Submission.resetPassword email emailCode password confirmPassword).judged client
      p.session [reply] = .ofOutcome (Status.initial.showing · ForgotPassword.fields)
        (fun _ => .accepted [.toast ForgotPassword.succeeded, .finish .ok])
        ((Operation.forgotPassword (Text.trim email) password (Text.trim emailCode)).finish client
          reply p.session).value := rfl
  cases hvalue : ((Operation.forgotPassword (Text.trim email) password
    (Text.trim emailCode)).finish client reply p.session).value with
  | success value =>
    rw [hvalue] at hverdict
    refine settles_of_accepted ((congrArg _ hr.replies_eq).trans hverdict) hr.clean ?_ hr.generation
    show r.effects ++ [_] ++ [_] = _
    rw [hr.effects]
    rfl
  | _ =>
    rw [hvalue] at hverdict
    exact hr.showFailure rfl hverdict

/-- What is to be done about a payment is asked for, or there is an error. -/
theorem Replied.conclude {p : Progress Checkout.View} {generation : Nat}
    {replies : List Http.Reply} (h : Replied generation replies p) {submission : Submission}
    (hstarts : submission.starts = false) {judged : List Http.Reply → Verdict}
    {outcome : Outcome CheckoutResult} {wait : Errand → Progress Checkout.View → Prop}
    (hverdict : judged replies =
      .ofOutcome Submission.paymentRefusal .ofResult outcome) :
    (Checkout.conclude outcome).Ensures wait
      (fun _ q => Settles submission generation (judged q.replies) q) p := by
  have hgeneration : p.generation = if submission.starts then generation + 1 else generation := by
    rw [hstarts]
    exact h.generation
  cases outcome with
  | success result =>
    simp only [Verdict.ofOutcome, Verdict.ofResult] at hverdict
    simp only [Checkout.conclude, Checkout.settle]
    split
    · next url hurl =>
      rw [hurl, ← h.replies_eq] at hverdict
      refine settles_of_accepted hverdict h.clean ?_ hgeneration
      show p.effects ++ [_] = _
      rw [h.effects]
      rfl
    · next hurl =>
      rw [hurl] at hverdict
      dsimp only at hverdict
      split at hverdict
      · next hcompleted =>
        rw [if_pos hcompleted]
        rw [← h.replies_eq] at hverdict
        refine settles_of_accepted hverdict h.clean ?_ hgeneration
        show p.effects ++ [_] ++ [_] = _
        rw [h.effects]
        rfl
      · next hcompleted =>
        rw [if_neg hcompleted, bind_eq, ensures_bind, ensures_log]
        exact h.fail hverdict
  | _ =>
    simp only [Checkout.conclude, bind_eq, ensures_bind, ensures_log]
    exact h.fail hverdict

theorem settles_checkout (planId : Int) (period : String) (couponCode : Option String)
    (method : Int) :
    (Submission.checkout planId period couponCode method).SettledBy client
      (Checkout.order client planId period couponCode method) := by
  refine settles_checked _ fun p hp => ?_
  refine hp.ensures_perform (by simp) fun reply r hsame hr => ?_
  -- the verdict judges the payment with the session at first, which the order leaves alone
  have hkept : r.session = p.session := by
    rw [hsame]
    exact Query.keeps_finish (.createOrder planId period (couponCode.bind Text.trimmed?)) rfl client
      reply p.session
  cases hvalue : ((Operation.createOrder planId period (couponCode.bind Text.trimmed?)).finish
    client reply p.session).value with
  | success tradeNo =>
    refine hr.ensures_perform (by simp) fun payment t _ ht => ht.conclude rfl ?_
    simp only [List.nil_append, List.singleton_append, Submission.judged, hvalue, hkept]
    rfl
  | _ =>
    simp only [Checkout.payOrder, bind_eq, ensures_bind, ensures_log]
    refine hr.fail ?_
    simp only [List.nil_append, Submission.judged, hvalue]
    rfl

theorem settles_submission (page : Page) {request : page.Request} {submission : Submission}
    (h : page.submission? request = some submission) :
    submission.SettledBy client ((page.screen client).handle request) := by
  cases page with
  | login =>
    cases request with
    | login email password => cases h; exact settles_login client _ _
    | _ => cases h
  | register =>
    cases request with
    | register email password confirmPassword inviteCode emailCode =>
      cases h
      exact settles_register client _ _ _ _ _
    | sendEmailCode email => cases h; exact settles_sendEmailCode _
    | openLogin => cases h
  | forgotPassword =>
    cases request with
    | resetPassword email emailCode password confirmPassword =>
      cases h
      exact settles_resetPassword client _ _ _ _
    | sendEmailCode email => cases h; exact settles_sendEmailCode _
    | openLogin => cases h
  | checkout planId planName =>
    cases request with
    | checkout period couponCode method =>
      cases h
      exact settles_checkout client _ _ _ _
  | _ => cases h

end Submissions

/-! ## What the verdict depends on -/

namespace Submission

variable (client : Client) (session : Session)

/-- What a submission is about succeeds: for a checkout, the order and its payment, and there is
something to be done about the payment. -/
def succeeds : Submission → List Http.Reply → Bool
  | login email password, reply :: _ =>
    ((Operation.login (Text.trim email) password).finish client reply session).value.isSuccess
  | register email password _ inviteCode emailCode, reply :: _ =>
    ((Operation.register (Text.trim email) password (inviteCode.bind Text.trimmed?)
      (emailCode.bind Text.trimmed?)).finish client reply session).value.isSuccess
  | resetPassword email emailCode password _, reply :: _ =>
    ((Operation.forgotPassword (Text.trim email) password (Text.trim emailCode)).finish client
      reply session).value.isSuccess
  | sendEmailCode email, reply :: _ =>
    ((Operation.sendEmailVerify (Text.trim email)).finish client reply session).value.isSuccess
  | checkout planId period couponCode method, reply :: payment :: _ =>
    ((Operation.createOrder planId period (couponCode.bind Text.trimmed?)).finish client reply
      session).value.value?.any fun tradeNo =>
        ((Operation.checkoutOrder tradeNo method).finish client payment
          session).value.value?.any fun result => result.paymentUrl?.isSome || result.isCompleted
  | _, _ => false

theorem isAccepted_ofResult (result : CheckoutResult) :
    (Verdict.ofResult result).isAccepted =
      (result.paymentUrl?.isSome || result.isCompleted) := by
  unfold Verdict.ofResult
  cases result.paymentUrl? with
  | some url => rfl
  | none => cases result.isCompleted <;> rfl

/-- A submission is accepted if nothing is missing and what it is about succeeds. -/
theorem isAccepted_verdict (submission : Submission) (replies : List Http.Reply) :
    (submission.verdict client session replies).isAccepted =
      (submission.complaint?.isNone && submission.succeeds client session replies) := by
  unfold verdict
  cases submission.complaint? with
  | some complaint => rfl
  | none =>
    simp only [Option.isNone_none, Bool.true_and]
    cases replies with
    | nil => cases submission <;> rfl
    | cons reply rest =>
      cases submission with
      | checkout planId period couponCode method =>
        simp only [judged, Verdict.isAccepted_ofOutcome]
        cases rest with
        | nil => cases ((Operation.createOrder planId period (couponCode.bind Text.trimmed?)).finish
            client reply session).value <;> rfl
        | cons payment more =>
          simp only [succeeds, Verdict.isAccepted_ofOutcome, isAccepted_ofResult]
      | _ => exact Verdict.isAccepted_ofOutcome_accepted _ _ _

/-- The stores of the sessions take the same texts. -/
def WritesAlike (other : Session) : Prop :=
  ∀ pairs, (session.store.setAll pairs).1 = (other.store.setAll pairs).1

variable {session} {other : Session}

/-- The value of a sign-in depends on the session only by what becomes of its writes. -/
theorem signIn_value_congr (h : WritesAlike session other) (endpoint : Endpoint)
    (what email : String) (members : List (String × Json)) (reply : Http.Reply) :
    ((Operation.signIn endpoint what email members).finish client reply session).value =
      ((Operation.signIn endpoint what email members).finish client reply other).value := by
  rw [Operation.finish_value, Operation.finish_value]
  cases Outcome.ofReply reply with
  | success payload =>
    simp only [Operation.signIn, Operation.onSuccess, Operation.decodeRecord]
    cases (Record.decode payload.data : Except Record.Reason SignIn) with
    | ok record =>
      have hrecord := (Operation.remember_eq email session record).2
      rw [h] at hrecord
      exact hrecord.trans (Operation.remember_eq email other record).2.symm
    | error reason => rfl
  | _ => rfl

theorem checkoutOrder_value_congr (session other : Session) (tradeNo : String) (method : Int)
    (reply : Http.Reply) :
    ((Operation.checkoutOrder tradeNo method).finish client reply session).value =
      ((Operation.checkoutOrder tradeNo method).finish client reply other).value := by
  rw [Operation.finish_value, Operation.finish_value]
  cases Outcome.ofReply reply with
  | success payload =>
    simp only [Operation.checkoutOrder, Operation.onSuccess, Operation.decodeRecord]
    cases (Record.decode (Operation.checkoutSource payload) :
      Except Record.Reason CheckoutResult) <;> rfl
  | _ => rfl

/-- The verdict depends on the session only by what becomes of the writes of a sign-in. -/
theorem verdict_congr (h : WritesAlike session other) (submission : Submission)
    (replies : List Http.Reply) :
    submission.verdict client session replies = submission.verdict client other replies := by
  unfold verdict
  cases submission.complaint? with
  | some complaint => rfl
  | none =>
    cases replies with
    | nil => cases submission <;> rfl
    | cons reply rest =>
      cases submission with
      | login email password =>
        simp only [judged, Operation.login, signIn_value_congr client h]
      | register email password confirmPassword inviteCode emailCode =>
        simp only [judged, Operation.register, signIn_value_congr client h]
      | checkout planId period couponCode method =>
        simp only [judged, checkoutOrder_value_congr client session other]
        rfl
      | _ => rfl

end Submission

/-! ## Serving a submission -/

section Serving

open Controller

variable {page : Page} {request : page.Request} {submission : Submission}
  {c : Controller page.Request page.View} {moves : List (Move page.Request)}

/-- From its first move on, a submission that is served stands as its verdict says. -/
theorem stands_of_submission (hsubmission : page.submission? request = some submission)
    (hscreen : c.screen = page.screen c.setting.client) (hwaiting : c.activity = .waiting)
    (hrequest : c.requests.head? = some request) (hserves : (c.step .serveRequest).Serves moves)
    (hup : (c.steps (.serveRequest :: moves)).scene.tornDown = false) :
    (c.steps (.serveRequest :: moves)).Stands (Pending c.scene.countdown.generation)
      (fun p => Settles submission c.scene.countdown.generation
        (submission.verdict c.setting.client c.scene.session p.replies) p)
      (c.along emitted (.serveRequest :: moves)) (c.along told (.serveRequest :: moves)) := by
  have hbegins : c.begins .serveRequest = [.request request] := by
    simp [begins, hwaiting, hrequest]
  have hprogram : (c.screen.program (.request request)).Ensures
      (Pending c.scene.countdown.generation)
      (fun _ p => Settles submission c.scene.countdown.generation
        (submission.verdict c.setting.client c.scene.session p.replies) p)
      (c.scene.progress [] []) := by
    rw [hscreen]
    exact settles_submission c.setting.client page hsubmission (c.scene.progress [] []) rfl rfl
  exact (stands_of_begins hbegins (up_of_steps hup) hprogram).steps hserves hup

/-- A submission that starts the countdown does so with the move that is its last. -/
theorem countdown_of_submission (hsubmission : page.submission? request = some submission)
    (hscreen : c.screen = page.screen c.setting.client) (hwaiting : c.activity = .waiting)
    (hrequest : c.requests.head? = some request) (hserves : (c.step .serveRequest).Serves moves)
    (hup : (c.steps (.serveRequest :: moves)).scene.tornDown = false)
    (hrunning : (c.steps (.serveRequest :: moves)).isRunning = true)
    (h : (c.steps (.serveRequest :: moves)).scene.countdown.generation =
      c.scene.countdown.generation + 1) :
    (c.steps (.serveRequest :: moves)).scene.countdown =
      ⟨c.scene.countdown.generation + 1, true, some ⟨c.setting.cooldownSeconds, 0⟩⟩ := by
  rw [← h]
  -- before the last move the submission was pending, so the countdown was started with that move
  rcases List.eq_nil_or_concat moves with rfl | ⟨before, move, rfl⟩
  · rw [show c.steps [.serveRequest] = c.step .serveRequest from rfl] at hup hrunning h ⊢
    exact countdown_of_generation_ne hup hrunning (by omega)
  · rw [List.concat_eq_append] at hserves hup hrunning h ⊢
    obtain ⟨hbefore, job, paused, hbusy⟩ := serves_concat hserves
    have hsteps := c.steps_concat (.serveRequest :: before) move
    rw [List.cons_append] at hsteps
    rw [hsteps] at hup hrunning h ⊢
    have hstands := stands_of_submission hsubmission hscreen hwaiting hrequest hbefore
      (up_of_step hup)
    have hactivity : (c.steps (.serveRequest :: before)).activity = .busy job paused := hbusy
    simp only [Stands, hactivity] at hstands
    obtain ⟨errand, hleads, -⟩ := hstands
    have hsame : (c.steps (.serveRequest :: before)).scene.countdown.generation =
      c.scene.countdown.generation := hleads.holds.generation
    have hfresh := countdown_of_generation_ne hup hrunning (by omega)
    rw [steps_setting] at hfresh
    exact hfresh

end Serving

end PanelClient
