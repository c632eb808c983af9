import PanelClient.Proofs.Screen.Page
import PanelClient.Proofs.Text.Quoted

/-!
# Retyped passwords

Two requests that differ in nothing but a password that is not blank (`Page.Twin`) are served alike:
their programs do the same step by step, but for what is said in the calls that they make
(`Program.Matches`, `Page.Twin.matches_handle`). What the log shows of the requests still tells them
apart (`Page.Twin.describe_inj`).
-/

namespace PanelClient

variable {ρ σ α β : Type}

namespace Program

/-- The programs do the same step by step, except that their calls may differ. -/
inductive Matches : Program σ α → Program σ α → Prop
  | done (result : α) : Matches (.done result) (.done result)
  | update (change : σ → σ) {next after : Program σ α} (hnext : Matches next after) :
      Matches (.update change next) (.update change after)
  | emit (effect : Effect) {next after : Program σ α} (hnext : Matches next after) :
      Matches (.emit effect next) (.emit effect after)
  | work (change : Session → Session) (events : Session → List Log.Event)
      {next after : Session → Program σ α}
      (hnext : ∀ session, Matches (next session) (after session)) :
      Matches (.work change events next) (.work change events after)
  | exchange (call other : Call) {next after : Http.Reply → Program σ α}
      (hnext : ∀ reply, Matches (next reply) (after reply)) :
      Matches (.exchange call next) (.exchange other after)
  | handOff (name url : String) {next after : Option String → Program σ α}
      (hnext : ∀ failure, Matches (next failure) (after failure)) :
      Matches (.handOff name url next) (.handOff name url after)
  | startCooldown {next after : Program σ α} (hnext : Matches next after) :
      Matches (.startCooldown next) (.startCooldown after)
  | sleep (milliseconds : Nat) {next after : Program σ α} (hnext : Matches next after) :
      Matches (.sleep milliseconds next) (.sleep milliseconds after)
  | crash (message : String) : Matches (.crash message) (.crash message)

theorem matches_refl (program : Program σ α) : program.Matches program := by
  induction program with
  | done result => exact .done result
  | update change next ih => exact .update change ih
  | emit effect next ih => exact .emit effect ih
  | work change events next ih => exact .work change events ih
  | exchange call next ih => exact .exchange call call ih
  | handOff name url next ih => exact .handOff name url ih
  | startCooldown next ih => exact .startCooldown ih
  | sleep milliseconds next ih => exact .sleep milliseconds ih
  | crash message => exact .crash message

theorem Matches.bind {program other : Program σ α} (h : program.Matches other)
    {next after : α → Program σ β} (hnext : ∀ result, (next result).Matches (after result)) :
    (program.bind next).Matches (other.bind after) := by
  induction h with
  | done result => exact hnext result
  | update change _ ih => exact .update change ih
  | emit effect _ ih => exact .emit effect ih
  | work change events _ ih => exact .work change events ih
  | exchange call other _ ih => exact .exchange call other ih
  | handOff name url _ ih => exact .handOff name url ih
  | startCooldown _ ih => exact .startCooldown ih
  | sleep milliseconds _ ih => exact .sleep milliseconds ih
  | crash message => exact .crash message

/-- Operations that make the same of every reply are performed alike, whatever they say. -/
theorem matches_perform (client : Client) {operation other : Operation α}
    (h : ∀ reply, operation.finish client reply = other.finish client reply) :
    (perform client operation : Program σ (Outcome α)).Matches (perform client other) :=
  .exchange _ _ fun reply => h reply ▸ matches_refl _

/-- A form that complains about the same goes on alike. -/
theorem matches_checked [HasStatus σ] (client : Client) {complaint other : Option Form.Complaint}
    (hcomplaint : complaint = other) {operation twin : Operation α}
    (h : ∀ reply, operation.finish client reply = twin.finish client reply)
    (next : Outcome α → Program σ Unit) :
    (Form.checked complaint do
        Program.setLoading true
        next (← perform client operation)).Matches
      (Form.checked other do
        Program.setLoading true
        next (← perform client twin)) := by
  subst hcomplaint
  refine (matches_refl Program.clearErrors).bind fun _ => ?_
  cases complaint with
  | some complaint => exact matches_refl _
  | none =>
    exact (matches_refl (Program.setLoading true)).bind fun _ =>
      (matches_perform client h).bind fun outcome => matches_refl (next outcome)

end Program

/-! ## Requests with passwords -/

/-- The requests are the same, but for a password and its repetition. The password is not blank, and
it is repeated exactly in both or in neither. -/
inductive Page.Twin : (page : Page) → page.Request → page.Request → Prop
  | same {page : Page} (request : page.Request) : Twin page request request
  | login (email : String) {password other : String} (hpassword : Text.isBlank password = false)
      (hother : Text.isBlank other = false) :
      Twin .login (Login.Request.login email password) (Login.Request.login email other)
  | register (email : String) {password again other otherAgain : String}
      (inviteCode emailCode : Option String) (hpassword : Text.isBlank password = false)
      (hother : Text.isBlank other = false) (hagain : password = again ↔ other = otherAgain) :
      Twin .register (Register.Request.register email password again inviteCode emailCode)
        (Register.Request.register email other otherAgain inviteCode emailCode)
  | resetPassword (email emailCode : String) {password again other otherAgain : String}
      (hpassword : Text.isBlank password = false) (hother : Text.isBlank other = false)
      (hagain : password = again ↔ other = otherAgain) :
      Twin .forgotPassword (ForgotPassword.Request.resetPassword email emailCode password again)
        (ForgotPassword.Request.resetPassword email emailCode other otherAgain)

namespace Form

theorem checkPassword_congr {password other : String} (hpassword : Text.isBlank password = false)
    (hother : Text.isBlank other = false) : checkPassword password = checkPassword other := by
  rw [checkPassword, checkPassword, hpassword, hother]

theorem checkRepeated_congr {password again other otherAgain : String}
    (h : password = again ↔ other = otherAgain) :
    checkRepeated password again = checkRepeated other otherAgain := by
  simp only [checkRepeated, bne, Bool.beq_eq_decide_eq, h]

end Form

namespace Page.Twin

variable {page : Page} {request other : page.Request}

/-- A page does the same on both, but for what it sends. -/
theorem matches_handle (h : page.Twin request other) (client : Client) :
    ((page.screen client).handle request).Matches ((page.screen client).handle other) := by
  cases h with
  | same => exact Program.matches_refl _
  | login email hpassword hother =>
    show (Login.login client email _).Matches (Login.login client email _)
    refine Program.matches_checked client ?_ ?_ (Form.finishSignIn client Login.fields)
    · rw [Form.checkPassword_congr hpassword hother]
    · exact fun _ => rfl
  | register email inviteCode emailCode hpassword hother hagain =>
    show (Register.register client email _ _ inviteCode emailCode).Matches
      (Register.register client email _ _ inviteCode emailCode)
    refine Program.matches_checked client ?_ ?_ (Form.finishSignIn client Register.fields)
    · rw [Form.checkPassword_congr hpassword hother, Form.checkRepeated_congr hagain]
    · exact fun _ => rfl
  | resetPassword email emailCode hpassword hother hagain =>
    show (ForgotPassword.resetPassword client email emailCode _ _).Matches
      (ForgotPassword.resetPassword client email emailCode _ _)
    refine Program.matches_checked client ?_ ?_ _
    · rw [Form.checkPassword_congr hpassword hother, Form.checkRepeated_congr hagain]
    · exact fun _ => rfl

/-- What the log shows of them tells their passwords apart. -/
theorem describe_inj (h : page.Twin request other) (client : Client)
    (hshown : (page.screen client).describe request = (page.screen client).describe other) :
    request = other := by
  cases h with
  | same => rfl
  | login email hpassword hother =>
    simp only [screen, Login.screen, Inspect.line, Inspect.Shown.shape, Inspect.Shape.line,
      Inspect.Shape.lineFields, Inspect.Shape.text, String.append_assoc,
      String.append_right_inj] at hshown
    obtain ⟨rfl, -⟩ := Text.quote_append_inj hshown
    rfl
  | register email inviteCode emailCode hpassword hother hagain =>
    simp only [screen, Register.screen, Inspect.line, Inspect.Shown.shape, Inspect.Shape.line,
      Inspect.Shape.lineFields, Inspect.Shape.text, String.append_assoc,
      String.append_right_inj] at hshown
    obtain ⟨rfl, hrest⟩ := Text.quote_append_inj hshown
    simp only [String.append_right_inj] at hrest
    obtain ⟨rfl, -⟩ := Text.quote_append_inj hrest
    rfl
  | resetPassword email emailCode hpassword hother hagain =>
    simp only [screen, ForgotPassword.screen, Inspect.line, Inspect.Shown.shape,
      Inspect.Shape.line, Inspect.Shape.lineFields, Inspect.Shape.text, String.append_assoc,
      String.append_right_inj] at hshown
    obtain ⟨rfl, hrest⟩ := Text.quote_append_inj hshown
    simp only [String.append_right_inj] at hrest
    obtain ⟨rfl, -⟩ := Text.quote_append_inj hrest
    rfl

end Page.Twin

end PanelClient
