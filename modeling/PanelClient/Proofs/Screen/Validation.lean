import PanelClient.Proofs.Backend.Request
import PanelClient.Proofs.Screen.SignIn
import PanelClient.Proofs.Text.Trim

/-!
# Checks before sending

What is entered in a form is checked in a fixed order before anything is sent. The first check that
fails is all that comes of it (`Form.advance_complaint`); if none does, the first request asks for
what was entered, trimmed (`Form.advance_request`). `checked_before_sent` says so of a controller.
-/

namespace PanelClient

/-! ## What is entered -/

namespace Submission

/-- It is entered in a form, as all but an order is. -/
def isForm : Submission → Bool
  | checkout .. => false
  | _ => true

/-- What is checked of a submission, in order, and what is said if it is so. -/
def checks : Submission → List (Bool × Form.Complaint)
  | login email password =>
    [(Text.isBlank email, .field .email Form.emailRequired),
      (Text.isBlank password, .field .password Form.passwordRequired)]
  | register email password confirmPassword _ _ =>
    [(Text.isBlank email, .field .email Form.emailRequired),
      (Text.isBlank password, .field .password Form.passwordRequired),
      (password != confirmPassword, .field .password Form.passwordsDiffer)]
  | resetPassword email emailCode password confirmPassword =>
    [(Text.isBlank email, .field .email Form.emailRequired),
      (Text.isBlank emailCode, .general Form.emailCodeRequired),
      (Text.isBlank password, .field .password Form.passwordRequired),
      (password != confirmPassword, .field .password Form.passwordsDiffer)]
  | sendEmailCode email => [(Text.isBlank email, .field .email Form.emailRequired)]
  | checkout .. => []

/-- All that is wrong with a submission, in the order of the checks. -/
def faults (submission : Submission) : List Form.Complaint :=
  (submission.checks.filter Prod.fst).map Prod.snd

theorem complaint?_eq_head? (submission : Submission) :
    submission.complaint? = submission.faults.head? := by
  rw [faults, List.head?_map, List.head?_filter]
  cases submission <;> rfl

/-- An optional text is kept, trimmed, unless it is blank. -/
def Keeps (entered kept : Option String) : Prop :=
  ∀ text, kept = some text ↔
    ∃ whole, entered = some whole ∧ Text.isBlank whole = false ∧ Text.Trims whole text

/-- What a submission asks of the backend first: all that was entered is trimmed but the password,
and an optional code is left out if it is blank. -/
inductive Asks : Submission → Query → Prop
  | login {email trimmed : String} (password : String) (hemail : Text.Trims email trimmed) :
    Asks (.login email password) (.login trimmed password)
  | register {email trimmed : String} (password confirmPassword : String)
      {inviteCode emailCode keptInvite keptCode : Option String}
      (hemail : Text.Trims email trimmed) (hinvite : Keeps inviteCode keptInvite)
      (hcode : Keeps emailCode keptCode) :
    Asks (.register email password confirmPassword inviteCode emailCode)
      (.register trimmed password keptInvite keptCode)
  | resetPassword {email emailCode trimmed trimmedCode : String} (password confirmPassword : String)
      (hemail : Text.Trims email trimmed) (hcode : Text.Trims emailCode trimmedCode) :
    Asks (.resetPassword email emailCode password confirmPassword)
      (.forgotPassword trimmed password trimmedCode)
  | sendEmailCode {email trimmed : String} (hemail : Text.Trims email trimmed) :
    Asks (.sendEmailCode email) (.sendEmailVerify trimmed)

theorem keeps_trimmed (entered : Option String) : Keeps entered (entered.bind Text.trimmed?) := by
  intro text
  simp only [Option.bind_eq_some_iff, Text.trimmed?]
  constructor
  · rintro ⟨whole, rfl, hkept⟩
    split at hkept
    · cases hkept
    · next hblank =>
      cases hkept
      exact ⟨whole, rfl, Bool.eq_false_iff.2 hblank, Text.trims_trim whole⟩
  · rintro ⟨whole, rfl, hblank, htrims⟩
    refine ⟨whole, rfl, ?_⟩
    rw [hblank, if_neg Bool.false_ne_true, htrims.eq_trim]

/-- What a form asks for has no integers, and is posted. -/
theorem Asks.posts {submission : Submission} {query : Query} (h : submission.Asks query) :
    query.IsSigned ∧ ∃ arguments, query.arguments? = some arguments := by
  cases h <;> exact ⟨trivial, _, rfl⟩

end Submission

/-! ## The first turn of a form -/

section Programs

variable {σ : Type} [HasStatus σ] (setting : Setting) {scene : Scene σ}

/-- While the screen is up, a change of the status changes the view. -/
theorem Program.advance_changeStatus (f : Status → Status) (next : Program σ Unit)
    (hup : scene.tornDown = false) :
    ((changeStatus f).bind fun _ => next).advance setting scene =
      next.advance setting { scene with view := HasStatus.modify f scene.view } := by
  show next.advance setting (scene.update (HasStatus.modify f)) = _
  rw [Scene.update, hup, if_neg Bool.false_ne_true]

namespace Form

/-- A complaint is shown alone and ends the program, and nothing but the view changes. -/
theorem advance_complaint [HasStatus.Lawful σ] (complaint : Complaint) (next : Program σ Unit)
    (hup : scene.tornDown = false) :
    ∃ view, HasStatus.status view =
        complaint.errors.setLoading (HasStatus.status scene.view).loading ∧
      (checked (some complaint) next).advance setting scene = ({ scene with view }, .finished) := by
  have shown (change : Status → Status) :
      ((Program.clearErrors : Program σ Unit).bind fun _ => Program.changeStatus change).advance
          setting scene =
        ({ scene with view := HasStatus.modify change (HasStatus.modify .clearErrors scene.view) },
          .finished) := by
    rw [Program.clearErrors, Program.advance_changeStatus setting _ _ hup,
      ← Program.bind_done (Program.changeStatus change)]
    exact Program.advance_changeStatus setting change (.done ()) hup
  cases complaint with
  | field input message =>
    refine ⟨_, ?_, shown (.setFieldError input message)⟩
    simp only [HasStatus.status_modify]
    rfl
  | general message =>
    refine ⟨_, ?_, shown (.setGeneralError message)⟩
    simp only [HasStatus.status_modify]
    rfl

/-- Without a complaint the operation's request is the first, and its reply is waited for. -/
theorem advance_request {α : Type} (operation : Operation α) (next : Outcome α → Program σ Unit)
    (hup : scene.tornDown = false) :
    ∃ view resumed,
      (checked none do
        Program.setLoading true
        next (← Program.perform setting.client operation)).advance setting scene =
      ({ scene with
          view, sent := scene.sent ++ [setting.client.request scene.session operation.call] },
        .paused (.reply resumed)) := by
  refine ⟨HasStatus.modify (.setLoading true) (HasStatus.modify .clearErrors scene.view),
    fun reply => (Program.onSession (operation.finish setting.client reply)).bind next, ?_⟩
  rw [checked, Program.clearErrors, Program.bind_eq,
    Program.advance_changeStatus setting _ _ hup]
  exact Program.advance_changeStatus setting _ _ hup

end Form

end Programs

/-- What the pages do with what is entered in a form. -/
theorem handle_of_form (client : Client) (page : Page) {request : page.Request}
    {submission : Submission} (hsubmission : page.submission? request = some submission)
    (hform : submission.isForm = true) :
    ∃ (query : Query) (next : Outcome query.Value → Program page.View Unit),
      submission.Asks query ∧
      (page.screen client).handle request = Form.checked submission.complaint? (do
        Program.setLoading true
        next (← Program.perform client query.operation)) := by
  cases page with
  | login =>
    cases request with
    | login email password =>
      cases hsubmission
      exact ⟨_, _, .login password (Text.trims_trim email), rfl⟩
    | _ => cases hsubmission
  | register =>
    cases request with
    | register email password confirmPassword inviteCode emailCode =>
      cases hsubmission
      exact ⟨_, _, .register password confirmPassword (Text.trims_trim email)
        (Submission.keeps_trimmed inviteCode) (Submission.keeps_trimmed emailCode), rfl⟩
    | sendEmailCode email =>
      cases hsubmission
      exact ⟨_, _, .sendEmailCode (Text.trims_trim email), rfl⟩
    | openLogin => cases hsubmission
  | forgotPassword =>
    cases request with
    | resetPassword email emailCode password confirmPassword =>
      cases hsubmission
      exact ⟨_, _, .resetPassword password confirmPassword (Text.trims_trim email)
        (Text.trims_trim emailCode), rfl⟩
    | sendEmailCode email =>
      cases hsubmission
      exact ⟨_, _, .sendEmailCode (Text.trims_trim email), rfl⟩
    | openLogin => cases hsubmission
  | checkout planId planName =>
    cases request
    cases hsubmission
    cases hform
  | _ => cases hsubmission

namespace Controller

/-- What a program comes to that does not break off is what its turn comes to. -/
theorem step_of_advance {ρ σ : Type} {c : Controller ρ σ} {move : Move ρ} {job : Job}
    {program : Program σ Unit} (hprogram : c.program? move = some (job, program))
    {scene : Scene σ} {halt : Halt σ}
    (hadvance : program.advance c.setting (c.ready move).scene = (scene, halt))
    (hhalt : (halt.activity job).isRunning = true) :
    (c.step move).scene = scene ∧ (c.step move).activity = halt.activity job := by
  have hactivity : (c.step move).activity = halt.activity job := by
    rw [step_eq_perform hprogram, perform_activity, ready_setting, hadvance]
  refine ⟨?_, hactivity⟩
  rcases perform_scene (c.ready move) job program with hscene | ⟨hbroken, -⟩
  · rw [step_eq_perform hprogram, hscene, ready_setting, hadvance]
  · rw [← step_eq_perform hprogram, isRunning, hactivity, hhalt] at hbroken
    cases hbroken

end Controller

open Controller

/-- A form that is due is checked before anything is sent. If a check fails, serving it ends at
once, with the one complaint of the first that does: the status is as loading as before, and besides
the view and the log nothing has changed. Otherwise one request is sent, a post that asks for what
was entered, and its reply is waited for. -/
theorem checked_before_sent (page : Page) (submission : Submission)
    (c : Controller page.Request page.View) (hdue : c.Due submission)
    (hform : submission.isForm = true) (hup : c.scene.tornDown = false) :
    let after := c.step .serveRequest
    match submission.faults with
    | fault :: _ => after.activity = .waiting ∧
        ∃ view log, after.scene = { c.scene with view, log } ∧
          page.status view = fault.errors.setLoading (page.status c.scene.view).loading
    | [] => ∃ (query : Query) (request : Http.Request), submission.Asks query ∧
        query.SaidBy c.setting.client.baseUrl request ∧ request.method = .post ∧
        after.scene.sent = c.scene.sent ++ [request] ∧
        ∃ resumed, after.activity = .busy .input (.reply resumed) := by
  intro after
  obtain ⟨request, hrequest, hsubmission⟩ := Option.bind_eq_some_iff.1 hdue.next
  obtain ⟨query, next, hasks, hhandle⟩ :=
    handle_of_form c.setting.client page hsubmission hform
  have hprogram : c.program? .serveRequest = some (.input, c.screen.handle request) := by
    simp [program?, hdue.waiting, hrequest]
  rw [hdue.screen, hhandle, Submission.complaint?_eq_head?] at hprogram
  obtain ⟨events, hready⟩ := c.ready_scene .serveRequest
  have hready_up : (c.ready .serveRequest).scene.tornDown = false := by rw [hready]; exact hup
  split
  · next fault rest hfaults =>
    rw [hfaults, List.head?_cons] at hprogram
    obtain ⟨view, hview, hadvance⟩ := Form.advance_complaint c.setting fault _ hready_up
    obtain ⟨hscene, hactivity⟩ := step_of_advance hprogram hadvance rfl
    rw [hready] at hscene hview
    exact ⟨hactivity, view, _, hscene, hview⟩
  · next hfaults =>
    rw [hfaults, List.head?_nil] at hprogram
    obtain ⟨view, resumed, hadvance⟩ :=
      Form.advance_request c.setting query.operation next hready_up
    obtain ⟨hscene, hactivity⟩ := step_of_advance hprogram hadvance rfl
    obtain ⟨hsigned, arguments, harguments⟩ := hasks.posts
    have hsaid := Query.saidBy_request c.setting.client c.scene.session hsigned
    refine ⟨query, _, hasks, hsaid, (hsaid.posted arguments harguments).1, ?_, resumed, hactivity⟩
    rw [hscene, hready]
    rfl

/-- A code of nothing but an ideographic space is complained about, and not the password, which is
empty as well. -/
theorem checked_before_sent_of_blank_code :
    let setting : Setting := ⟨⟨"https://panel.example"⟩, 60⟩
    let opening := Controller.opening (Page.forgotPassword.screen setting.client) setting
      ⟨.memory []⟩
    let c := opening.steps
      [.start, .send (ForgotPassword.Request.resetPassword "a@b.c" "\u3000" "" "")]
    let after := c.step .serveRequest
    c.scene.tornDown = false ∧ after.activity = .waiting ∧ after.scene.sent = [] ∧
      (Page.forgotPassword.status after.scene.view).generalError = some Form.emailCodeRequired ∧
      (Page.forgotPassword.status after.scene.view).hasFieldErrors = false := by
  intro setting opening c after
  have hdue : c.Due (.resetPassword "a@b.c" "\u3000" "" "") := ⟨rfl, rfl, rfl⟩
  obtain ⟨hwaiting, view, log, hscene, hstatus⟩ :=
    checked_before_sent .forgotPassword _ c hdue rfl rfl
  have hstatus : Page.forgotPassword.status after.scene.view = _ :=
    (congrArg (fun scene => Page.forgotPassword.status scene.view) hscene).trans hstatus
  rw [hstatus]
  exact ⟨rfl, hwaiting, congrArg Scene.sent hscene, rfl, rfl⟩

end PanelClient
