import PanelClient.Proofs.Controller.Clock
import PanelClient.Proofs.Screen.Submission

/-!
# The countdown to the next code

A page that has mailed a code shows how long it is to the next one. The countdown is started by the
reply that the code was mailed, and nothing else touches it or the number that is shown but its own
ticks. So from one mail to the next the numbers that are shown are the first ones of the countdown
that the mail has started, in their order, however late the ticks are served and whatever ticks of
earlier countdowns still come (`countdown_discipline`).
-/

namespace PanelClient

open Program

variable {ρ σ : Type}

/-- The answer is a reply that means success. -/
def Answer.isSuccess : Answer → Bool
  | .reply answer => (Outcome.ofReply answer).isSuccess
  | _ => false

/-- The number that is shown is as it was at first, and the countdown was started if the input has a
code mailed and was told of a success. -/
structure Accounts (cooldown : σ → Nat) (mailing : Bool) (first p : Progress σ) : Prop where
  cooldown : cooldown p.view = cooldown first.view
  generation : p.generation = first.generation +
    if mailing && p.answers.any Answer.isSuccess then 1 else 0

section Accounts

variable {cooldown : σ → Nat} {first p : Progress σ}

theorem Accounts.replied (h : Accounts cooldown false first p)
    (reply : Http.Reply) (session : Session) :
    Accounts cooldown false first (p.replied reply session) :=
  ⟨h.cooldown, h.generation⟩

/-- An input that was told of no success may just as well have a code mailed. -/
theorem Accounts.of_untold {mailing : Bool} (h : Accounts cooldown false first p)
    (huntold : p.answers.any Answer.isSuccess = false) : Accounts cooldown mailing first p :=
  ⟨h.cooldown, by simpa [huntold] using h.generation⟩

theorem Accounts.started (h : Accounts cooldown false first p)
    (htold : p.answers.any Answer.isSuccess = true) :
    Accounts cooldown true first { p with generation := p.generation + 1 } :=
  ⟨h.cooldown, by simpa [htold] using h.generation⟩

end Accounts

/-- No program touches the number that is shown, and only that of an input that has a code mailed
starts the countdown, when its first answer is a success. -/
def mailingConduct (cooldown : σ → Nat) (mailing : Input ρ → Bool) : Conduct ρ σ where
  idle _ := True
  wait input first _ p := Accounts cooldown (mailing input) first p ∧
    (mailing input = true → p.answers = [])
  post input first p := Accounts cooldown (mailing input) first p

namespace Controller

/-- With the move the controller learns that a code was mailed, if the input is the last that was
begun. -/
def mails (mailing : Input ρ → Bool) (begun : Option (Input ρ)) (c : Controller ρ σ)
    (move : Move ρ) : Bool :=
  begun.any mailing && (c.told move).any Answer.isSuccess

section Conduct

variable {cooldown : σ → Nat} {mailing : Input ρ → Bool} {begun : Option (Input ρ)}
  {c : Controller ρ σ} {move : Move ρ} {input : Input ρ} {first : Progress σ}
  {effects : List Effect} {answers : List Answer}

theorem Stands.accounts
    (h : c.Stands ((mailingConduct cooldown mailing).wait input first)
      (fun p => (mailingConduct cooldown mailing).post input first p ∧
        (mailingConduct cooldown mailing).idle p.view) effects answers) :
    Accounts cooldown (mailing input) first (c.scene.progress effects answers) := by
  unfold Stands at h
  split at h
  · exact h.1
  · obtain ⟨errand, hleads, -⟩ := h
    exact hleads.holds.1
  · exact h.elim

/-- A turn does not touch the number that is shown, and it starts the countdown if the controller
learns with it that a code was mailed. -/
theorem Attends.turn {job : Job} {program : Program σ Unit}
    (h : c.Attends (mailingConduct cooldown mailing) begun)
    (hscreen : c.screen.Keeps (mailingConduct cooldown mailing))
    (hprogram : c.program? move = some (job, program))
    (hup : (c.step move).scene.tornDown = false) :
    cooldown (c.step move).scene.view = cooldown c.scene.view ∧
      (c.step move).scene.countdown.generation = c.scene.countdown.generation +
        if c.mails mailing begun move then 1 else 0 := by
  rcases turn_cases hprogram with
    ⟨input, hbegins, -, -, hactivity⟩ | ⟨paused, -, hbusy, -⟩
  · have hafter := (stands_of_begins hbegins (up_of_step hup)
      (hscreen.program input (c.scene.progress [] []) rfl rfl trivial)).accounts
    have htold : c.told move = [] := by
      rcases hactivity with ⟨-, hactivity⟩ | ⟨-, hactivity⟩ <;>
        cases move <;> simp [told, hactivity]
    have hgeneration := hafter.generation
    rw [mails, htold]
    simp only [Scene.progress, List.any_nil, Bool.and_false] at hgeneration ⊢
    exact ⟨hafter.cooldown, hgeneration⟩
  · simp only [Attends, hbusy] at h
    obtain ⟨input, hbegun, first, effects, answers, hstands⟩ := h
    have hbefore := hstands.accounts
    have hafter := (hstands.step hbusy hup).accounts
    refine ⟨hafter.cooldown.trans hbefore.cooldown.symm, ?_⟩
    -- a program that has a code mailed waits only once: the answer that comes now is its first
    have hnone : mailing input = true → answers = [] := by
      simp only [Stands, hbusy] at hstands
      obtain ⟨errand, hleads, -⟩ := hstands
      exact hleads.holds.2
    have hbefore := hbefore.generation
    have hafter := hafter.generation
    simp only [Scene.progress] at hbefore hafter
    rw [mails, Option.mem_def.1 hbegun, Option.any_some, hafter, hbefore]
    cases hmailing : mailing input with
    | false => rfl
    | true => simp [hnone hmailing]

/-- Every move leaves the number that is shown alone, or it tells the screen of another one. -/
theorem Attends.cooldown_step
    (h : c.Attends (mailingConduct cooldown mailing) begun)
    (hscreen : c.screen.Keeps (mailingConduct cooldown mailing))
    (honTick : ∀ remaining view, cooldown (c.screen.onTick remaining view) = remaining)
    (hup : (c.step move).scene.tornDown = false) :
    cooldown (c.step move).scene.view = (c.shown move).getLast?.getD (cooldown c.scene.view) := by
  cases hprogram : c.program? move with
  | some served =>
    rw [shown_of_program hprogram]
    exact (h.turn hscreen hprogram hup).1
  | none =>
    rw [(rests_of_no_program hprogram hup).view]
    generalize c.shown move = numbers
    generalize c.scene.view = view
    induction numbers generalizing view with
    | nil => rfl
    | cons number rest ih =>
      rw [List.foldl_cons, ih, honTick, List.getLast?_cons]
      rfl

/-- Every move leaves the generation alone, or it is the one with which the controller learns that a
code was mailed. -/
theorem Attends.generation_step
    (h : c.Attends (mailingConduct cooldown mailing) begun)
    (hscreen : c.screen.Keeps (mailingConduct cooldown mailing))
    (hup : (c.step move).scene.tornDown = false) :
    (c.step move).scene.countdown.generation = c.scene.countdown.generation +
      if c.mails mailing begun move then 1 else 0 := by
  cases hprogram : c.program? move with
  | some served => exact (h.turn hscreen hprogram hup).2
  | none =>
    rw [(rests_of_no_program hprogram hup).generation, mails, told_of_no_program hprogram]
    simp

/-- The countdown is started with the move with which the controller learns that a code was mailed;
other moves only let it tick. -/
theorem Attends.countdown_step
    (h : c.Attends (mailingConduct cooldown mailing) begun)
    (hscreen : c.screen.Keeps (mailingConduct cooldown mailing))
    (hup : (c.step move).scene.tornDown = false) :
    (c.step move).scene.countdown =
      if c.mails mailing begun move then
        ⟨c.scene.countdown.generation + 1, true, some ⟨c.setting.cooldownSeconds, 0⟩⟩
      else move.pass c.scene.countdown := by
  have hgeneration := h.generation_step hscreen hup
  have hlater := (h.step hscreen hup).isRunning
  split
  · next hmails =>
    rw [if_pos hmails] at hgeneration
    rw [← hgeneration]
    exact countdown_of_generation_ne hup hlater (by omega)
  · next hmails =>
    rw [if_neg hmails] at hgeneration
    exact (ticks_of_step hup h.isRunning hlater hgeneration).countdown

end Conduct

/-! ## Runs -/

/-- A controller in the course of a run, with the input that was begun last and the numbers that the
screen was told of since a code was last mailed, if one was. At any time, a tick of a countdown that
was stopped may still come. -/
inductive Watched (mailing : Input ρ → Bool) (screen : Screen ρ σ) (setting : Setting) :
    Controller ρ σ → Option (Input ρ) → Option (List Nat) → Prop
  | opening (session : Session) :
      Watched mailing screen setting (Controller.opening screen setting session) none none
  | move {c : Controller ρ σ} {begun : Option (Input ρ)} {numbers : Option (List Nat)}
      (h : Watched mailing screen setting c begun numbers) (move : Move ρ) :
      Watched mailing screen setting (c.step move) ((c.begins move).getLast?.or begun)
        (if c.mails mailing begun move then some [] else numbers.map (· ++ c.shown move))
  | late {c : Controller ρ σ} {begun : Option (Input ρ)} {numbers : Option (List Nat)}
      (h : Watched mailing screen setting c begun numbers) {tick : Tick}
      (hstale : tick.generation < c.scene.countdown.generation) :
      Watched mailing screen setting (c.late tick) begun numbers

/-- The numbers that are outstanding complete those that were shown since a code was mailed. Before
the first code nothing is outstanding. -/
def Completes (seconds : Nat) (numbers : Option (List Nat)) (outstanding : List Nat) : Prop :=
  match numbers with
  | none => outstanding = []
  | some shown => shown ++ outstanding = Countdown.numbers seconds

/-- What holds of a controller in the course of a run. -/
structure Disciplined (cooldown : σ → Nat) (mailing : Input ρ → Bool) (screen : Screen ρ σ)
    (setting : Setting) (c : Controller ρ σ) (begun : Option (Input ρ))
    (numbers : Option (List Nat)) : Prop where
  screen_eq : c.screen = screen
  setting_eq : c.setting = setting
  attends : c.scene.tornDown = false → c.Attends (mailingConduct cooldown mailing) begun
  timely : c.scene.tornDown = false → c.scene.Timely
  completes : c.scene.tornDown = false →
    Completes setting.cooldownSeconds numbers c.scene.outstanding
  isPrefix : ∀ shown ∈ numbers, shown <+: Countdown.numbers setting.cooldownSeconds

section Runs

variable {cooldown : σ → Nat} {mailing : Input ρ → Bool} {screen : Screen ρ σ} {setting : Setting}
  {c : Controller ρ σ} {move : Move ρ} {begun : Option (Input ρ)} {numbers : Option (List Nat)}

theorem Disciplined.keeps (h : Disciplined cooldown mailing screen setting c begun numbers)
    (hkeeps : screen.Keeps (mailingConduct cooldown mailing)) :
    c.screen.Keeps (mailingConduct cooldown mailing) := by
  rwa [h.screen_eq]

/-- The move with which a code is mailed makes all numbers outstanding; any other takes those that
are shown away from them. -/
theorem Disciplined.completes_step
    (h : Disciplined cooldown mailing screen setting c begun numbers)
    (hkeeps : screen.Keeps (mailingConduct cooldown mailing))
    (hup : (c.step move).scene.tornDown = false) :
    (c.step move).scene.Timely ∧ Completes setting.cooldownSeconds
      (if c.mails mailing begun move then some [] else numbers.map (· ++ c.shown move))
      (c.step move).scene.outstanding := by
  have hscreen := h.keeps hkeeps
  have hattends := h.attends (up_of_step hup)
  have htimely := h.timely (up_of_step hup)
  have hgeneration := hattends.generation_step hscreen hup
  have hlater := (hattends.step hscreen hup).isRunning
  cases hmails : c.mails mailing begun move with
  | true =>
    have hcountdown := hattends.countdown_step hscreen hup
    rw [hmails, if_pos rfl, h.setting_eq] at hcountdown
    have hticks : (c.step move).scene.ticks = c.scene.ticks := by
      cases hprogram : c.program? move with
      | some served => exact ticks_of_program hprogram hlater
      | none => simp [mails, told_of_no_program hprogram] at hmails
    -- the ticks that wait are of earlier starts now, so all numbers are with the timer
    have hgrown : c.scene.countdown.generation ≤ (c.step move).scene.countdown.generation := by
      rw [hgeneration]
      exact Nat.le_add_right _ _
    exact ⟨htimely.of_subset (by simp [hticks]) hgrown,
      Scene.outstanding_of_started htimely hticks hcountdown⟩
  | false =>
    rw [hmails] at hgeneration
    have hticks := ticks_of_step hup hattends.isRunning hlater hgeneration
    have hcompletes := h.completes (up_of_step hup)
    rw [hticks.outstanding] at hcompletes
    refine ⟨hticks.timely htimely, ?_⟩
    cases numbers with
    | none => exact (List.append_eq_nil_iff.1 hcompletes).2
    | some before =>
      show before ++ c.shown move ++ _ = _
      rw [List.append_assoc]
      exact hcompletes

theorem Disciplined.step (h : Disciplined cooldown mailing screen setting c begun numbers)
    (hkeeps : screen.Keeps (mailingConduct cooldown mailing)) (move : Move ρ) :
    Disciplined cooldown mailing screen setting (c.step move) ((c.begins move).getLast?.or begun)
      (if c.mails mailing begun move then some [] else numbers.map (· ++ c.shown move)) where
  screen_eq := by rw [step_screen, h.screen_eq]
  setting_eq := by rw [step_setting, h.setting_eq]
  attends hup := (h.attends (up_of_step hup)).step (h.keeps hkeeps) hup
  timely hup := (h.completes_step hkeeps hup).1
  completes hup := (h.completes_step hkeeps hup).2
  isPrefix := by
    intro shown hshown
    cases htorn : (c.step move).scene.tornDown with
    | false =>
      have hlast := (h.completes_step hkeeps htorn).2
      rw [Option.mem_def.1 hshown] at hlast
      exact ⟨_, hlast⟩
    | true =>
      split at hshown
      · obtain rfl : [] = shown := Option.some.inj hshown
        exact List.nil_prefix
      · -- after teardown nothing is outstanding any more, but nothing is shown either
        rw [shown_of_tornDown htorn] at hshown
        obtain ⟨before, hbefore, rfl⟩ := Option.map_eq_some_iff.1 hshown
        rw [List.append_nil]
        exact h.isPrefix before hbefore

theorem Disciplined.late (h : Disciplined cooldown mailing screen setting c begun numbers)
    {tick : Tick} (hstale : tick.generation < c.scene.countdown.generation) :
    Disciplined cooldown mailing screen setting (c.late tick) begun numbers where
  screen_eq := h.screen_eq
  setting_eq := h.setting_eq
  attends := h.attends
  timely hup other hother := by
    rcases List.mem_append.1 hother with hold | hnew
    · exact h.timely hup other hold
    · rw [List.mem_singleton.1 hnew]
      exact Nat.le_of_lt hstale
  completes hup := by
    rw [outstanding_late hstale]
    exact h.completes hup
  isPrefix := h.isPrefix

theorem disciplined_opening (hkeeps : screen.Keeps (mailingConduct cooldown mailing))
    (session : Session) :
    Disciplined cooldown mailing screen setting (opening screen setting session) none none where
  screen_eq := rfl
  setting_eq := rfl
  attends _ := hkeeps.initial
  timely _ := nofun
  completes _ := rfl
  isPrefix := nofun

theorem Watched.disciplined (hkeeps : screen.Keeps (mailingConduct cooldown mailing))
    (h : Watched mailing screen setting c begun numbers) :
    Disciplined cooldown mailing screen setting c begun numbers := by
  induction h with
  | opening session => exact disciplined_opening hkeeps session
  | move _ move ih => exact ih.step hkeeps move
  | late _ hstale ih => exact ih.late hstale

end Runs

end Controller

/-! ## Programs that spare the countdown -/

/-- The program does not touch the number that is shown, and it does not start the countdown. -/
def Program.Spares (cooldown : σ → Nat) {α : Type} : Program σ α → Prop
  | done _ => True
  | update change next => (∀ view, cooldown (change view) = cooldown view) ∧ next.Spares cooldown
  | emit _ next => next.Spares cooldown
  | work _ _ next => ∀ session, (next session).Spares cooldown
  | exchange _ next => ∀ reply, (next reply).Spares cooldown
  | handOff _ _ next => ∀ failure, (next failure).Spares cooldown
  | startCooldown _ => False
  | sleep _ next => next.Spares cooldown
  | crash _ => False

section Sparing

variable {cooldown : σ → Nat} {α β : Type}

theorem Program.Spares.bind {program : Program σ α} {next : α → Program σ β}
    (h : program.Spares cooldown) (hnext : ∀ result, (next result).Spares cooldown) :
    (program.bind next).Spares cooldown := by
  induction program with
  | done result => exact hnext result
  | update change rest ih => exact ⟨h.1, ih h.2⟩
  | emit effect rest ih => exact ih h
  | work change events rest ih => exact fun session => ih session (h session)
  | exchange call rest ih => exact fun reply => ih reply (h reply)
  | handOff name url rest ih => exact fun failure => ih failure (h failure)
  | startCooldown rest ih => exact h
  | sleep milliseconds rest ih => exact ih h
  | crash message => exact h

/-- An input that has no code mailed keeps to the conduct if its program spares the countdown. -/
theorem Program.Spares.ensures {program : Program σ Unit} (h : program.Spares cooldown)
    {mailing : Input ρ → Bool} {input : Input ρ} (hother : mailing input = false)
    {first p : Progress σ} (haccounts : Accounts cooldown false first p) :
    program.Ensures ((mailingConduct cooldown mailing).wait input first)
      (fun _ q => (mailingConduct cooldown mailing).post input first q ∧
        (mailingConduct cooldown mailing).idle q.view) p := by
  have hwait : ∀ (q : Progress σ), Accounts cooldown false first q →
      Accounts cooldown (mailing input) first q ∧ (mailing input = true → q.answers = []) := by
    intro q hq
    rw [hother]
    exact ⟨hq, nofun⟩
  induction program generalizing p with
  | done result => exact ⟨(hwait p haccounts).1, trivial⟩
  | update change rest ih =>
    exact ih h.2 ⟨(h.1 p.view).trans haccounts.cooldown, haccounts.generation⟩
  | emit effect rest ih => exact ih h ⟨haccounts.cooldown, haccounts.generation⟩
  | work change events rest ih =>
    exact ih p.session (h p.session) ⟨haccounts.cooldown, haccounts.generation⟩
  | exchange call rest ih =>
    exact ⟨hwait p haccounts, fun reply =>
      ih reply (h reply) ⟨haccounts.cooldown, haccounts.generation⟩⟩
  | handOff name url rest ih =>
    exact ⟨hwait p haccounts, fun failure =>
      ih failure (h failure) ⟨haccounts.cooldown, haccounts.generation⟩⟩
  | startCooldown rest ih => exact h.elim
  | sleep milliseconds rest ih =>
    exact ⟨hwait p haccounts, ih h ⟨haccounts.cooldown, haccounts.generation⟩⟩
  | crash message => exact h.elim

theorem sendEmailVerify_isSuccess (client : Client) (reply : Http.Reply) (email : String)
    (session : Session) :
    ((Operation.sendEmailVerify email).finish client reply session).value.isSuccess =
      (Outcome.ofReply reply).isSuccess := by
  rw [Operation.finish_value]
  cases Outcome.ofReply reply <;> rfl

theorem spares_perform (client : Client) (operation : Operation α) :
    (perform client operation).Spares cooldown := fun _ _ => trivial

theorem spares_importSubscription (client : Client) :
    (Form.importSubscription client).Spares cooldown := by
  refine (spares_perform client .getSubscribe).bind fun outcome => ?_
  split
  · split
    · exact fun _ => trivial
    · intro failure
      cases failure with
      | none => trivial
      | some message => exact fun _ => trivial
  · exact fun _ => trivial

variable [HasStatus σ]
  (hstatus : ∀ status view, cooldown (HasStatus.setStatus status view) = cooldown view)
include hstatus

theorem spares_changeStatus (f : Status → Status) : (changeStatus f).Spares cooldown :=
  ⟨fun _ => hstatus _ _, trivial⟩

theorem spares_checked (complaint : Option Form.Complaint) {next : Program σ Unit}
    (hnext : next.Spares cooldown) : (Form.checked complaint next).Spares cooldown := by
  refine (spares_changeStatus hstatus _).bind fun _ => ?_
  cases complaint with
  | some complaint => cases complaint <;> exact spares_changeStatus hstatus _
  | none => exact hnext

theorem spares_finishSignIn (client : Client) (shown : List Field) (outcome : Outcome SignIn) :
    (Form.finishSignIn client shown outcome).Spares cooldown := by
  cases outcome with
  | success signIn =>
    refine (spares_importSubscription client).bind fun _ => ?_
    exact (spares_changeStatus hstatus _).bind fun _ => trivial
  | _ => exact spares_changeStatus hstatus _

theorem Accounts.modify {mailing : Bool} {first p : Progress σ}
    (h : Accounts cooldown mailing first p) (f : Status → Status) :
    Accounts cooldown mailing first { p with view := HasStatus.modify f p.view } :=
  ⟨(hstatus _ _).trans h.cooldown, h.generation⟩

/-- Having a code mailed starts the countdown just if the reply is a success. -/
theorem accounts_sendEmailCode (client : Client) (email : String) {first : Progress σ}
    (hanswers : first.answers = []) :
    (Form.sendEmailCode client email).Ensures
      (fun _ p => Accounts cooldown true first p ∧ p.answers = [])
      (fun _ p => Accounts cooldown true first p) first := by
  have hfirst : Accounts cooldown false first first := ⟨rfl, rfl⟩
  have hcleared := hfirst.modify hstatus .clearErrors
  simp only [Form.sendEmailCode, Form.checked, clearErrors, bind_eq, ensures_bind,
    ensures_changeStatus]
  split
  · next complaint _ =>
    cases complaint <;> exact (hcleared.modify hstatus _).of_untold (by simp [hanswers])
  · have hloading := hcleared.modify hstatus (.setLoading true)
    simp only [setLoading, ensures_bind, ensures_changeStatus, ensures_perform]
    refine ⟨⟨hloading.of_untold (by simp [hanswers]), hanswers⟩, fun reply => ?_⟩
    have hreplied := hloading.replied reply
      ((Operation.sendEmailVerify (Text.trim email)).finish client reply first.session).session
    have htold : (first.answers ++ [Answer.reply reply]).any Answer.isSuccess =
        ((Operation.sendEmailVerify (Text.trim email)).finish client reply
          first.session).value.isSuccess := by
      rw [sendEmailVerify_isSuccess, hanswers]
      exact Bool.or_false _
    cases hvalue : ((Operation.sendEmailVerify (Text.trim email)).finish client reply
      first.session).value with
    | success value =>
      rw [hvalue] at htold
      exact (hreplied.modify hstatus (.setLoading false)).started htold
    | _ =>
      rw [hvalue] at htold
      exact (hreplied.modify hstatus _).of_untold htold

end Sparing

/-! ## The pages that mail codes -/

namespace Page

/-- The number that a page shows. -/
def cooldown : (page : Page) → page.View → Nat
  | register => Register.View.emailCodeCooldown
  | forgotPassword => ForgotPassword.View.emailCodeCooldown
  | _ => fun _ => 0

/-- With the input a code is to be mailed. -/
def mailing (page : Page) : Input page.Request → Bool
  | .request request => (page.submission? request).any Submission.starts
  | _ => false

end Page

section Pages

variable (client : Client)

theorem spares_register_load :
    (Register.load client).Spares Register.View.emailCodeCooldown := by
  refine (spares_perform client .getConfig).bind fun outcome => ?_
  cases outcome with
  | success config => exact ⟨fun _ => rfl, trivial⟩
  | _ => exact fun _ => trivial

theorem spares_register (input : Input Register.Request)
    (hother : Page.mailing .register input = false) :
    ((Register.screen client).program input).Spares Register.View.emailCodeCooldown := by
  cases input with
  | load => exact spares_register_load client
  | signal signal =>
    cases signal with
    | resumed => exact spares_register_load client
    | returned ending => trivial
  | request request =>
    cases request with
    | register email password confirmPassword inviteCode emailCode =>
      refine spares_checked (fun _ _ => rfl) _ ?_
      refine (spares_changeStatus (fun _ _ => rfl) _).bind fun _ => ?_
      exact (spares_perform client _).bind fun outcome =>
        spares_finishSignIn (fun _ _ => rfl) client _ outcome
    | sendEmailCode email => cases hother
    | openLogin => trivial

theorem spares_forgotPassword (input : Input ForgotPassword.Request)
    (hother : Page.mailing .forgotPassword input = false) :
    ((ForgotPassword.screen client).program input).Spares
      ForgotPassword.View.emailCodeCooldown := by
  cases input with
  | load => trivial
  | signal signal => cases signal <;> trivial
  | request request =>
    cases request with
    | resetPassword email emailCode password confirmPassword =>
      refine spares_checked (fun _ _ => rfl) _ ?_
      refine (spares_changeStatus (fun _ _ => rfl) _).bind fun _ => ?_
      refine (spares_perform client _).bind fun outcome => ?_
      cases outcome with
      | success value => exact (spares_changeStatus (fun _ _ => rfl) _).bind fun _ => trivial
      | _ => exact spares_changeStatus (fun _ _ => rfl) _
    | sendEmailCode email => cases hother
    | openLogin => trivial

/-- A screen that spares the countdown unless it has a code mailed keeps to the conduct. -/
theorem keeps_of_spares [HasStatus σ] {cooldown : σ → Nat} {mailing : Input ρ → Bool}
    {screen : Screen ρ σ}
    (hstatus : ∀ status view, cooldown (HasStatus.setStatus status view) = cooldown view)
    (hspares : ∀ input, mailing input = false → (screen.program input).Spares cooldown)
    (hmails : ∀ input, mailing input = true →
      ∃ email, screen.program input = Form.sendEmailCode client email) :
    screen.Keeps (mailingConduct cooldown mailing) where
  initial := trivial
  onTick _ _ _ := trivial
  program input first _ hanswers _ := by
    cases hmailing : mailing input with
    | false => exact (hspares input hmailing).ensures hmailing ⟨rfl, rfl⟩
    | true =>
      obtain ⟨email, hprogram⟩ := hmails input hmailing
      rw [hprogram]
      simp only [mailingConduct, hmailing]
      exact (accounts_sendEmailCode hstatus client email hanswers).mono
        (fun _ _ h => ⟨h.1, fun _ => h.2⟩) fun _ _ h => ⟨h, trivial⟩

theorem keeps_mailing {page : Page} (hpage : page = .register ∨ page = .forgotPassword) :
    (page.screen client).Keeps (mailingConduct page.cooldown page.mailing) := by
  rcases hpage with rfl | rfl
  · refine keeps_of_spares client (fun _ _ => rfl) (spares_register client) fun input h => ?_
    cases input with
    | request request =>
      cases request with
      | sendEmailCode email => exact ⟨email, rfl⟩
      | _ => cases h
    | _ => cases h
  · refine keeps_of_spares client (fun _ _ => rfl) (spares_forgotPassword client) fun input h => ?_
    cases input with
    | request request =>
      cases request with
      | sendEmailCode email => exact ⟨email, rfl⟩
      | _ => cases h
    | _ => cases h

theorem Page.cooldown_onTick {page : Page} (hpage : page = .register ∨ page = .forgotPassword)
    (remaining : Nat) (view : page.View) :
    page.cooldown ((page.screen client).onTick remaining view) = remaining := by
  rcases hpage with rfl | rfl <;> rfl

end Pages

open Controller in
/-- A page that mails codes, in any run, with whatever ticks of countdowns that were stopped coming
late. The numbers that were shown since a code was last mailed are the first ones of its countdown,
in order; with those that are outstanding they are all, so they are all when the timer has run down
and no tick of it waits. Before the first mail no number is shown. With any move, the number that is
shown stays as it is unless the oldest tick is served and belongs to the last start. And the
countdown stays as it is, but for its own ticks, unless the page learns that a code was mailed. -/
theorem countdown_discipline (page : Page) (hpage : page = .register ∨ page = .forgotPassword)
    (setting : Setting) (c : Controller page.Request page.View)
    (begun : Option (Input page.Request)) (numbers : Option (List Nat))
    (h : Watched page.mailing (page.screen setting.client) setting c begun numbers) :
    let whole := Countdown.numbers setting.cooldownSeconds
    (∀ shown ∈ numbers, shown <+: whole ∧ (c.scene.tornDown = false →
      shown ++ c.scene.outstanding = whole ∧
      (c.scene.countdown.timer = none →
        (∀ tick ∈ c.scene.ticks, tick.generation < c.scene.countdown.generation) →
        shown = whole))) ∧
    ∀ move,
      page.cooldown (c.step move).scene.view =
        (c.shown move).getLast?.getD (page.cooldown c.scene.view) ∧
      (∀ remaining ∈ c.shown move, numbers.isSome = true ∧ move = .serveTick ∧
        c.scene.ticks.head? = some ⟨c.scene.countdown.generation, remaining⟩) ∧
      ((c.step move).scene.tornDown = false → (c.step move).scene.countdown =
        if c.mails page.mailing begun move then
          ⟨c.scene.countdown.generation + 1, true, some ⟨setting.cooldownSeconds, 0⟩⟩
        else move.pass c.scene.countdown) := by
  intro whole
  have hkeeps := keeps_mailing setting.client hpage
  have hdisciplined := h.disciplined hkeeps
  have hscreen := hdisciplined.keeps hkeeps
  have honTick : ∀ remaining view, page.cooldown (c.screen.onTick remaining view) = remaining := by
    rw [hdisciplined.screen_eq]
    exact Page.cooldown_onTick setting.client hpage
  refine ⟨fun shown hshown => ⟨hdisciplined.isPrefix shown hshown, fun hup => ?_⟩,
    fun move => ⟨?_, fun remaining hremaining => ?_, fun hup => ?_⟩⟩
  · have hcompletes := hdisciplined.completes hup
    rw [Option.mem_def.1 hshown] at hcompletes
    refine ⟨hcompletes, fun htimer hstale => ?_⟩
    have houtstanding : c.scene.outstanding = [] := c.scene.outstanding_of_stale htimer hstale
    rw [houtstanding] at hcompletes
    simpa [Completes] using hcompletes
  · cases htorn : (c.step move).scene.tornDown with
    | false => exact (hdisciplined.attends (up_of_step htorn)).cooldown_step hscreen honTick htorn
    | true =>
      rw [shown_of_tornDown htorn, view_of_tornDown htorn]
      rfl
  · obtain ⟨hmove, hup, hhead⟩ := of_mem_shown hremaining
    refine ⟨?_, hmove, hhead⟩
    cases numbers with
    | none =>
      have hnothing : c.scene.outstanding = [] := hdisciplined.completes hup
      have hmem := mem_outstanding_of_mem_shown hremaining
      simp [hnothing] at hmem
    | some shown => rfl
  · have hcountdown := (hdisciplined.attends (up_of_step hup)).countdown_step hscreen hup
    rw [hdisciplined.setting_eq] at hcountdown
    exact hcountdown

open Controller in
/-- A tick of the first countdown that still waits when a second code was mailed is passed over. -/
theorem countdown_discipline_of_second_mail :
    let setting : Setting := ⟨⟨"https://panel.example"⟩, 60⟩
    let mail := ForgotPassword.Request.sendEmailCode "a@b.c"
    let first := (Controller.opening (Page.forgotPassword.screen setting.client) setting
      ⟨.memory []⟩).steps [.start, .send mail, .send mail, .serveRequest]
    let second := first.steps [.reply (.response 200 ""), .tick, .serveRequest]
    let c := (second.step (.reply (.response 200 ""))).late ⟨1, 59⟩
    c.scene.ticks = [⟨1, 60⟩, ⟨1, 59⟩] ∧
      Page.forgotPassword.cooldown (c.step .serveTick).scene.view =
        Page.forgotPassword.cooldown c.scene.view ∧
      (c.step .serveTick).scene.countdown = c.scene.countdown := by
  intro setting mail first second c
  have hfirst : Watched Page.forgotPassword.mailing _ setting first (some (.request mail)) none :=
    ((((Watched.opening ⟨.memory []⟩).move .start).move (.send mail)).move (.send mail)).move
      .serveRequest
  have hreplied : Watched Page.forgotPassword.mailing _ setting
      (first.step (.reply (.response 200 ""))) (some (.request mail)) (some []) :=
    hfirst.move (.reply (.response 200 ""))
  have hsecond : Watched Page.forgotPassword.mailing _ setting second (some (.request mail))
      (some []) :=
    (hreplied.move .tick).move .serveRequest
  have hlast : Watched Page.forgotPassword.mailing _ setting c (some (.request mail)) (some []) :=
    (hsecond.move (.reply (.response 200 ""))).late (by decide +kernel)
  obtain ⟨-, hmoves⟩ := countdown_discipline .forgotPassword (.inr rfl) setting c _ _ hlast
  obtain ⟨hcooldown, -, hcountdown⟩ := hmoves .serveTick
  have hshown : c.shown .serveTick = [] := by decide +kernel
  have hmails : c.mails Page.forgotPassword.mailing (some (.request mail)) .serveTick = false := by
    decide +kernel
  rw [hshown] at hcooldown
  rw [hmails] at hcountdown
  exact ⟨by decide +kernel, hcooldown, hcountdown (by decide +kernel)⟩

end PanelClient
