import PanelClient.Proofs.Screen.Page
import PanelClient.Proofs.Controller.Turns
import PanelClient.Proofs.Session.Likeness
import PanelClient.Screen.Form

/-!
# Alike programs

Two runs of a screen are compared by a `Likeness`: what counts of sessions, requests and replies, and
of a view what does not come from the clock. Programs are alike if they do the same step by step,
whatever alike sessions they find and whatever alike replies they get (`Program.Alike`); a program
that is like itself is steady. A screen is steady if all its programs are and its ticks change nothing
but what comes from the clock (`Screen.Steady`).
-/

namespace PanelClient

open Log (Event)

variable {ρ σ α β : Type}

/-- What counts of two runs of a screen when they are compared. -/
structure Likeness (σ : Type) extends Comparison where
  /-- A view without what comes from the clock. -/
  timeless : σ → σ
  /-- The clocks of the two runs agree. -/
  timed : Prop

namespace Program

/-- The programs do the same step by step on alike sessions and with alike replies, and come to
related results. -/
inductive Alike (like : Likeness σ) (post : α → α → Prop) : Program σ α → Program σ α → Prop
  | done {result other : α} (h : post result other) : Alike like post (.done result) (.done other)
  | update (change : σ → σ) {next after : Program σ α}
      (hchange : ∀ view, like.timeless (change view) = change (like.timeless view))
      (hnext : Alike like post next after) :
      Alike like post (.update change next) (.update change after)
  | emit (effect : Effect) {next after : Program σ α} (hnext : Alike like post next after) :
      Alike like post (.emit effect next) (.emit effect after)
  | work {change shift : Session → Session} {events others : Session → List Event}
      {next after : Session → Program σ α}
      (hchange : ∀ session twin, like.session session twin →
        like.session (change session) (shift twin))
      (hevents : ∀ session twin, like.session session twin → events session = others twin)
      (hnext : ∀ session twin, like.session session twin →
        Alike like post (next session) (after twin)) :
      Alike like post (.work change events next) (.work shift others after)
  | exchange (call : Call) {next after : Http.Reply → Program σ α}
      (hnext : ∀ reply other, like.reply call.path reply other →
        Alike like post (next reply) (after other)) :
      Alike like post (.exchange call next) (.exchange call after)
  | handOff (name url : String) {next after : Option String → Program σ α}
      (hnext : ∀ failure, Alike like post (next failure) (after failure)) :
      Alike like post (.handOff name url next) (.handOff name url after)
  | startCooldown {next after : Program σ α} (hnext : Alike like post next after) :
      Alike like post (.startCooldown next) (.startCooldown after)
  | sleep (milliseconds : Nat) {next after : Program σ α} (hnext : Alike like post next after) :
      Alike like post (.sleep milliseconds next) (.sleep milliseconds after)
  | crash (message : String) : Alike like post (.crash message) (.crash message)

/-- The program does the same on alike sessions and with alike replies. -/
def Steady (like : Likeness σ) (program : Program σ α) : Prop :=
  program.Alike like Eq program

variable {like : Likeness σ} {post : α → α → Prop} {post' : β → β → Prop}

theorem Alike.bind {program other : Program σ α} {next after : α → Program σ β}
    (h : program.Alike like post other)
    (hnext : ∀ result twin, post result twin → (next result).Alike like post' (after twin)) :
    (program.bind next).Alike like post' (other.bind after) := by
  induction h with
  | done h => exact hnext _ _ h
  | update change hchange _ ih => exact .update change hchange ih
  | emit effect _ ih => exact .emit effect ih
  | work hchange hevents _ ih => exact .work hchange hevents ih
  | exchange call _ ih => exact .exchange call ih
  | handOff name url _ ih => exact .handOff name url ih
  | startCooldown _ ih => exact .startCooldown ih
  | sleep milliseconds _ ih => exact .sleep milliseconds ih
  | crash message => exact .crash message

theorem Steady.bind {program : Program σ α} {next : α → Program σ β} (h : program.Steady like)
    (hnext : ∀ result, (next result).Steady like) : (program.bind next).Steady like :=
  Alike.bind h fun result _ heq => heq ▸ hnext result

/-! ## Instructions -/

theorem steady_done (result : α) : (done result : Program σ α).Steady like := .done rfl

theorem steady_change {change : σ → σ}
    (h : ∀ view, like.timeless (change view) = change (like.timeless view)) :
    (Program.change change).Steady like :=
  .update change h (.done rfl)

theorem steady_ask (effect : Effect) : (ask effect : Program σ Unit).Steady like :=
  .emit effect (.done rfl)

theorem alike_onSession {task other : SessionM α} (h : task.Alike like.session post other) :
    (onSession task : Program σ α).Alike like post (onSession other) :=
  .work (fun session twin hsession => (h session twin hsession).session)
    (fun session twin hsession => (h session twin hsession).events)
    fun session twin hsession => .done (h session twin hsession).value

theorem steady_log (event : Event) : (log event : Program σ Unit).Steady like :=
  alike_onSession (SessionM.steady_log event)

theorem steady_read {view : Session → α}
    (h : ∀ session twin, like.session session twin → view session = view twin) :
    (read view : Program σ α).Steady like :=
  alike_onSession fun session twin hsession => ⟨h session twin hsession, hsession, rfl⟩

section Queries

variable (hlike : like.toComparison.Lawful) (client : Client)

include hlike

theorem alike_query (query : Query) :
    (perform client query.operation : Program σ (Outcome query.Value)).Alike like
      (query.AlikeOutcome like.signIn) (perform client query.operation) :=
  .exchange _ fun reply other hreply =>
    alike_onSession (hlike.finish query client reply other hreply)

theorem steady_query (query : Query) (h : query.signsInAs? = none) :
    (perform client query.operation : Program σ (Outcome query.Value)).Steady like := by
  have hquery := alike_query (σ := σ) hlike client query
  rw [Query.alikeOutcome_of_none h] at hquery
  exact hquery

end Queries

/-! ## What screens have in common -/

section Common

variable (hlike : like.toComparison.Lawful) (client : Client)

include hlike

theorem steady_resolvePlanName (planId : Option Int) :
    (resolvePlanName client planId : Program σ (Option String)).Steady like := by
  cases planId with
  | none => exact steady_done none
  | some planId =>
    refine (steady_query hlike client .getPlans rfl).bind fun outcome => ?_
    cases outcome with
    | success plans => exact steady_done _
    | _ => exact (steady_log _).bind fun _ => steady_done none

theorem steady_importSubscription : (Form.importSubscription client : Program σ Unit).Steady like := by
  refine (steady_query hlike client .getSubscribe rfl).bind fun outcome => ?_
  cases outcome with
  | success subscription =>
    by_cases hblank : Text.isBlank subscription.subscribeUrl = true
    · simp only [hblank, if_true]
      exact steady_log _
    · simp only [hblank]
      refine .handOff _ _ fun failure => ?_
      cases failure with
      | none => exact steady_done ()
      | some message => exact steady_log _
  | _ => exact steady_log _

variable [HasStatus σ] (hstatus : ∀ (change : Status → Status) (view : σ),
  like.timeless (HasStatus.modify change view) = HasStatus.modify change (like.timeless view))

omit hlike in
include hstatus in
theorem steady_changeStatus (change : Status → Status) :
    (changeStatus change : Program σ Unit).Steady like :=
  steady_change (hstatus change)

omit hlike in
include hstatus in
theorem steady_checked (complaint : Option Form.Complaint) {next : Program σ Unit}
    (h : next.Steady like) : (Form.checked complaint next).Steady like := by
  refine (steady_changeStatus hstatus _).bind fun _ => ?_
  cases complaint with
  | none => exact h
  | some complaint => cases complaint <;> exact steady_changeStatus hstatus _

include hstatus

theorem steady_sendEmailCode (email : String) :
    (Form.sendEmailCode client email : Program σ Unit).Steady like := by
  refine steady_checked hstatus _ ((steady_changeStatus hstatus _).bind fun _ => ?_)
  refine (steady_query hlike client (.sendEmailVerify (Text.trim email)) rfl).bind fun outcome => ?_
  cases outcome with
  | success done =>
    exact (steady_changeStatus hstatus _).bind fun _ => .startCooldown (steady_done ())
  | _ => exact steady_changeStatus hstatus _

/-- Of the record of a sign-in, the screen only learns that there is one. -/
theorem steady_finishSignIn (shown : List Field) {outcome other : Outcome SignIn}
    {signIn : SignIn → SignIn → Prop} (h : outcome.Alike signIn other) :
    (Form.finishSignIn client shown outcome : Program σ Unit).Alike like Eq
      (Form.finishSignIn client shown other) := by
  cases h with
  | success h =>
    refine (steady_importSubscription hlike client).bind fun _ => ?_
    exact (steady_changeStatus hstatus _).bind fun _ => steady_ask _
  | failure h =>
    cases outcome with
    | success record => cases h
    | _ => exact steady_changeStatus hstatus _

end Common

end Program

/-! ## Screens -/

/-- All programs of the screen are steady, and a tick changes nothing but what comes from the
clock. -/
structure Screen.Steady (like : Likeness σ) (screen : Screen ρ σ) : Prop where
  program : ∀ input, (screen.program input).Steady like
  onTick : ∀ remaining view, like.timeless (screen.onTick remaining view) = like.timeless view

end PanelClient
