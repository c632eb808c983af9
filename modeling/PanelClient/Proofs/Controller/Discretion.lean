import Mathlib.Data.List.Forall2
import PanelClient.Proofs.Controller.Service
import PanelClient.Proofs.Screen.Retyped

/-!
# What the log tells of passwords

Two runs of a page with the same moves, but for retyped passwords, go in step: the controllers match
in all but the requests, what is sent and what is logged (`Controller.Matches.step`). What they log
is the same but for the requests that they begin, and of these the log shows everything
(`Screen.Logged`). So a password that is served gets into the log (`passwords_logged`).
-/

namespace PanelClient

open Log (Event)

variable {ρ σ : Type}

/-! ## Logs -/

/-- What the log shows of a request that is begun. -/
def Screen.taken (screen : Screen ρ σ) (request : ρ) : Event :=
  .requestTaken screen.name (screen.describe request)

/-- What two runs of a screen log that begin these requests: the same events, but for those that
show the requests. -/
inductive Screen.Logged (screen : Screen ρ σ) (twin : ρ → ρ → Prop) :
    List ρ → List ρ → List Event → List Event → Prop
  | nil : Logged screen twin [] [] [] []
  | note {begun others : List ρ} {log other : List Event}
      (h : Logged screen twin begun others log other) (events : List Event) :
      Logged screen twin begun others (log ++ events) (other ++ events)
  | take {begun others : List ρ} {log other : List Event}
      (h : Logged screen twin begun others log other) {request again : ρ}
      (htwin : twin request again) :
      Logged screen twin (begun ++ [request]) (others ++ [again]) (log ++ [screen.taken request])
        (other ++ [screen.taken again])

namespace Screen.Logged

variable {screen : Screen ρ σ} {twin : ρ → ρ → Prop} {begun others : List ρ}
  {log other : List Event}

/-- Event by event the logs are the same, or they show requests that differ. -/
theorem forall₂ (h : screen.Logged twin begun others log other) :
    List.Forall₂ (fun event again => event = again ∨ ∃ request twice, twin request twice ∧
      event = screen.taken request ∧ again = screen.taken twice) log other := by
  induction h with
  | nil => exact .nil
  | note _ events ih =>
    exact List.rel_append ih (List.forall₂_same.2 fun _ _ => .inl rfl)
  | take _ htwin ih =>
    exact List.rel_append ih (.cons (.inr ⟨_, _, htwin, rfl, rfl⟩) .nil)

/-- If the log shows requests in full, it tells which they are. -/
theorem eq_iff (h : screen.Logged twin begun others log other)
    (hshown : ∀ request again, twin request again →
      screen.describe request = screen.describe again → request = again) :
    log = other ↔ begun = others := by
  induction h with
  | nil => exact ⟨fun _ => rfl, fun _ => rfl⟩
  | note _ events ih => rw [List.append_left_inj, ih]
  | @take _ _ _ _ _ request again htwin ih =>
    have htaken : screen.taken request = screen.taken again ↔ request = again := by
      refine ⟨fun heq => hshown _ _ htwin ?_, congrArg screen.taken⟩
      exact (Event.requestTaken.inj heq).2
    simp only [← List.concat_eq_append, List.concat_inj, ih, htaken]

end Screen.Logged

/-! ## Scenes -/

/-- The scenes differ in nothing but what was logged and sent. -/
inductive Scene.Matches (screen : Screen ρ σ) (twin : ρ → ρ → Prop) (begun others : List ρ)
    (scene : Scene σ) : Scene σ → Prop
  | mk {log : List Event} (hlog : screen.Logged twin begun others scene.log log)
      (sent : List Http.Request) : Matches screen twin begun others scene { scene with log, sent }

namespace Scene.Matches

variable {screen : Screen ρ σ} {twin : ρ → ρ → Prop} {begun others : List ρ} {scene other : Scene σ}

theorem tornDown (h : scene.Matches screen twin begun others other) :
    other.tornDown = scene.tornDown := by
  cases h
  rfl

theorem session (h : scene.Matches screen twin begun others other) :
    other.session = scene.session := by
  cases h
  rfl

theorem note (h : scene.Matches screen twin begun others other) (events : List Event) :
    (scene.note events).Matches screen twin begun others (other.note events) := by
  cases h with
  | mk hlog sent => exact .mk (hlog.note events) sent

theorem take (h : scene.Matches screen twin begun others other) {request again : ρ}
    (htwin : twin request again) :
    (scene.note [screen.taken request]).Matches screen twin (begun ++ [request])
      (others ++ [again]) (other.note [screen.taken again]) := by
  cases h with
  | mk hlog sent => exact .mk (hlog.take htwin) sent

/-- A change that neither regards nor changes what was logged and sent is made in both. -/
theorem apply (h : scene.Matches screen twin begun others other) (change : Scene σ → Scene σ)
    (hchange : ∀ log sent, change { scene with log, sent } = { change scene with log, sent }) :
    (change scene).Matches screen twin begun others (change other) := by
  have hlog : (change scene).log = scene.log := by
    have hsame := congrArg Scene.log (hchange scene.log scene.sent)
    exact hsame
  cases h with
  | @mk log hlogged sent =>
    rw [hchange log sent]
    refine .mk ?_ sent
    rw [hlog]
    exact hlogged

theorem update (h : scene.Matches screen twin begun others other) (change : σ → σ) :
    (scene.update change).Matches screen twin begun others (other.update change) :=
  h.apply (Scene.update change) fun log sent => by
    unfold Scene.update
    dsimp only
    split <;> rfl

theorem emit (h : scene.Matches screen twin begun others other) (effect : Effect) :
    (scene.emit effect).Matches screen twin begun others (other.emit effect) := by
  cases h with
  | mk hlog sent =>
    unfold Scene.emit
    dsimp only
    split
    · exact .mk hlog sent
    · exact .mk (hlog.note _) sent

theorem work (h : scene.Matches screen twin begun others other) (change : Session → Session)
    (events : Session → List Event) :
    (scene.work change events).Matches screen twin begun others (other.work change events) := by
  cases h with
  | mk hlog sent => exact .mk (hlog.note _) sent

theorem send (h : scene.Matches screen twin begun others other) (request again : Http.Request) :
    (scene.send request).Matches screen twin begun others (other.send again) := by
  cases h with
  | mk hlog sent =>
    refine .mk ?_ (sent ++ [again])
    exact hlog

theorem startCountdown (h : scene.Matches screen twin begun others other) (seconds : Nat) :
    (scene.startCountdown seconds).Matches screen twin begun others
      (other.startCountdown seconds) := by
  cases h with
  | mk hlog sent => exact .mk (hlog.note _) sent

theorem takeTick (h : scene.Matches screen twin begun others other) (onTick : Nat → σ → σ) :
    (scene.takeTick onTick).Matches screen twin begun others (other.takeTick onTick) :=
  h.apply (Scene.takeTick onTick) fun log sent => by
    unfold Scene.takeTick Scene.update
    dsimp only
    split
    · rfl
    · split
      · split <;> rfl
      · rfl

end Scene.Matches

/-! ## Running programs -/

inductive Paused.Matches : Paused σ → Paused σ → Prop
  | reply {next after : Http.Reply → Program σ Unit}
      (hnext : ∀ reply, (next reply).Matches (after reply)) : Matches (.reply next) (.reply after)
  | handover {next after : Option String → Program σ Unit}
      (hnext : ∀ failure, (next failure).Matches (after failure)) :
      Matches (.handover next) (.handover after)
  | waking {next after : Program σ Unit} (hnext : next.Matches after) :
      Matches (.waking next) (.waking after)

inductive Halt.Matches : Halt σ → Halt σ → Prop
  | finished : Matches .finished .finished
  | paused {program other : Paused σ} (h : program.Matches other) :
      Matches (.paused program) (.paused other)
  | crashed (message : String) : Matches (.crashed message) (.crashed message)

/-- On matching scenes, matching programs come equally far and leave matching scenes. -/
theorem Program.Matches.run {program other : Program σ Unit} (h : program.Matches other)
    (setting : Setting) {screen : Screen ρ σ} {twin : ρ → ρ → Prop} {begun others : List ρ}
    {scene again : Scene σ} (hscene : scene.Matches screen twin begun others again) :
    let ran := program.run setting .silent (scene, ())
    let ranAgain := other.run setting .silent (again, ())
    ran.1.1.Matches screen twin begun others ranAgain.1.1 ∧ ran.2.Matches ranAgain.2 := by
  induction h generalizing scene again with
  | done => exact ⟨hscene, .finished⟩
  | update change _ ih => exact ih (hscene.update change)
  | emit effect _ ih => exact ih (hscene.emit effect)
  | work change events _ ih =>
    have hnext := ih scene.session (hscene.work change events)
    simp only [Program.run, hscene.session]
    exact hnext
  | exchange call other hnext _ => exact ⟨hscene.send _ _, .paused (.reply hnext)⟩
  | handOff name url hnext _ =>
    exact ⟨hscene.apply (Scene.handOn name url) fun _ _ => rfl, .paused (.handover hnext)⟩
  | startCooldown _ ih => exact ih (hscene.startCountdown setting.cooldownSeconds)
  | sleep milliseconds hnext _ => exact ⟨hscene, .paused (.waking hnext)⟩
  | crash message => exact ⟨hscene, .crashed message⟩

/-! ## Controllers -/

inductive Activity.Matches : Activity σ → Activity σ → Prop
  | fresh : Matches .fresh .fresh
  | waiting : Matches .waiting .waiting
  | busy (job : Job) {program other : Paused σ} (h : program.Matches other) :
      Matches (.busy job program) (.busy job other)
  | stopped : Matches .stopped .stopped
  | broken (message : String) : Matches (.broken message) (.broken message)

theorem Activity.Matches.isRunning {activity other : Activity σ} (h : activity.Matches other) :
    activity.isRunning = other.isRunning := by
  cases h <;> rfl

/-- Controllers of one screen that began these requests. They differ in nothing but twin requests,
and in what they send and log of them. -/
structure Controller.Matches (twin : ρ → ρ → Prop) (begun others : List ρ)
    (c again : Controller ρ σ) : Prop where
  handle : ∀ request other, twin request other →
    (c.screen.handle request).Matches (c.screen.handle other)
  screen : again.screen = c.screen
  setting : again.setting = c.setting
  scene : c.scene.Matches c.screen twin begun others again.scene
  activity : c.activity.Matches again.activity
  requests : List.Forall₂ twin c.requests again.requests
  signals : again.signals = c.signals
  submitted : again.submitted = c.submitted
  processed : again.processed = c.processed

namespace Controller

/-- The request that a controller begins with a move. -/
def begunBy (c : Controller ρ σ) (move : Move ρ) : List ρ :=
  (c.begins move).filterMap Input.request?

/-- The moves are the same, or they submit twin requests. -/
inductive Move.Matches (twin : ρ → ρ → Prop) : Move ρ → Move ρ → Prop
  | same (move : Move ρ) : Matches twin move move
  | send {request other : ρ} (h : twin request other) : Matches twin (.send request) (.send other)

variable {twin : ρ → ρ → Prop} {begun others : List ρ} {c again : Controller ρ σ}

theorem Matches.note (h : c.Matches twin begun others again) (event : Event) :
    (c.log event).Matches twin begun others (again.log event) :=
  { h with scene := h.scene.note [event] }

theorem Matches.close (h : c.Matches twin begun others again) :
    c.close.Matches twin begun others again.close :=
  { h with scene := h.scene.apply Scene.close fun _ _ => rfl, activity := .stopped }

theorem Matches.logged (h : c.Matches twin begun others again) :
    c.screen.Logged twin begun others c.scene.log again.scene.log := by
  have hscene := h.scene
  generalize c.scene = scene, again.scene = other at hscene ⊢
  cases hscene with
  | mk hlog sent => exact hlog

/-- Matching programs are served alike. -/
theorem Matches.perform (h : c.Matches twin begun others again) (job : Job)
    {program other : Program σ Unit} (hprogram : program.Matches other) :
    (c.perform .silent job program ()).1.Matches twin begun others
      (again.perform .silent job other ()).1 := by
  obtain ⟨hscene, hhalt⟩ := hprogram.run c.setting h.scene
  unfold Controller.perform
  rw [h.setting]
  generalize program.run c.setting .silent (c.scene, ()) = ran at hscene hhalt
  generalize other.run c.setting .silent (again.scene, ()) = ranAgain at hscene hhalt
  obtain ⟨⟨scene, ⟨⟩⟩, halt⟩ := ran
  obtain ⟨⟨sceneAgain, ⟨⟩⟩, haltAgain⟩ := ranAgain
  dsimp only at hscene hhalt
  cases hhalt with
  | finished =>
    exact { h with
      setting := rfl
      scene := hscene
      activity := .waiting
      processed := congrArg (· + 1) h.processed }
  | paused hpaused =>
    exact { h with setting := rfl, scene := hscene, activity := .busy job hpaused }
  | crashed message =>
    exact { h with
      setting := rfl
      scene := hscene.apply Scene.close fun _ _ => rfl
      activity := .broken message }

/-- Only when it serves a request does a controller begin one. -/
theorem begunBy_eq_nil (c : Controller ρ σ) (move : Move ρ) (h : move ≠ .serveRequest) :
    c.begunBy move = [] := by
  unfold begunBy begins
  split
  · rfl
  · cases c.signals.head? <;> rfl
  · exact absurd rfl h
  · rfl

theorem Matches.start (h : c.Matches twin begun others again) :
    (c.step .start).Matches twin begun others (again.step .start) := by
  have hactivity := h.activity
  show (c.start .silent ()).1.Matches twin begun others (again.start .silent ()).1
  unfold Controller.start
  rw [h.screen]
  generalize c.activity = activity at hactivity ⊢
  generalize again.activity = other at hactivity ⊢
  cases hactivity with
  | fresh => exact (h.note _).perform .load (Program.matches_refl _)
  | _ => exact h

theorem Matches.serveSignal (h : c.Matches twin begun others again) :
    (c.step .serveSignal).Matches twin begun others (again.step .serveSignal) := by
  have hactivity := h.activity
  show (c.serveSignal .silent ()).1.Matches twin begun others (again.serveSignal .silent ()).1
  unfold Controller.serveSignal
  rw [h.screen, h.signals]
  generalize c.activity = activity at hactivity ⊢
  generalize again.activity = other at hactivity ⊢
  cases hactivity with
  | waiting =>
    cases c.signals with
    | nil => exact h
    | cons signal rest =>
      have hrest : Matches twin begun others { c with signals := rest, activity := .waiting }
          { again with screen := c.screen, signals := rest, activity := .waiting } :=
        { h with screen := rfl, signals := rfl, activity := .waiting }
      exact (hrest.note _).perform .input (Program.matches_refl _)
  | _ => exact h

/-- The requests that are begun are twins, and each is shown in its log. -/
theorem Matches.serveRequest (h : c.Matches twin begun others again) :
    (c.step .serveRequest).Matches twin (begun ++ c.begunBy .serveRequest)
      (others ++ again.begunBy .serveRequest) (again.step .serveRequest) := by
  have hactivity := h.activity
  have hrequests := h.requests
  show (c.serveRequest .silent ()).1.Matches twin _ _ (again.serveRequest .silent ()).1
  unfold Controller.serveRequest begunBy begins
  rw [h.screen]
  generalize c.activity = activity at hactivity ⊢
  generalize again.activity = other at hactivity ⊢
  generalize c.requests = requests at hrequests ⊢
  generalize again.requests = requestsAgain at hrequests ⊢
  cases hactivity with
  | waiting =>
    cases hrequests with
    | nil => simpa using h
    | @cons request other rest restAgain htwin hrest =>
      have htaken : Matches twin (begun ++ [request]) (others ++ [other])
          (Controller.log (c.screen.taken request)
            { c with requests := rest, activity := .waiting })
          (Controller.log (c.screen.taken other)
            { again with screen := c.screen, requests := restAgain, activity := .waiting }) :=
        { h with
          screen := rfl
          scene := h.scene.take htwin
          requests := hrest
          activity := .waiting }
      exact htaken.perform .input (h.handle request other htwin)
  | _ => simpa using h

/-- What is waited for comes to both. -/
theorem Matches.resume (h : c.Matches twin begun others again) :
    (∀ reply, (c.step (.reply reply)).Matches twin begun others (again.step (.reply reply))) ∧
      (∀ handover, (c.step (.handover handover)).Matches twin begun others
        (again.step (.handover handover))) ∧
      (c.step .waking).Matches twin begun others (again.step .waking) := by
  have hactivity := h.activity
  simp only [step, resumeReply, resumeHandover, resumeWaking]
  generalize c.activity = activity at hactivity ⊢
  generalize again.activity = other at hactivity ⊢
  cases hactivity with
  | busy job hpaused =>
    cases hpaused with
    | reply hnext => exact ⟨fun reply => h.perform job (hnext reply), fun _ => h, h⟩
    | @handover next after hnext =>
      refine ⟨fun _ => h, fun handover => ?_, h⟩
      have hnoted : Matches twin begun others
          { c with scene := c.scene.note handover.events, activity := .busy job (.handover next) }
          { again with
            scene := again.scene.note handover.events, activity := .busy job (.handover after) } :=
        { h with
          scene := h.scene.note handover.events, activity := .busy job (.handover hnext) }
      exact hnoted.perform job (hnext handover.failure)
    | waking hnext => exact ⟨fun _ => h, fun _ => h, h.perform job hnext⟩
  | _ => exact ⟨fun _ => h, fun _ => h, h⟩

theorem Matches.submit (h : c.Matches twin begun others again) {request other : ρ}
    (htwin : twin request other) :
    (c.send request).1.Matches twin begun others (again.send other).1 := by
  unfold Controller.send isRunning
  rw [h.activity.isRunning]
  split
  · exact { h with
      requests := List.rel_append h.requests (.cons htwin .nil)
      submitted := congrArg (· + 1) h.submitted }
  · exact h

theorem Matches.notify (h : c.Matches twin begun others again) (signal : Lifecycle) :
    (c.notify signal).1.Matches twin begun others (again.notify signal).1 := by
  unfold Controller.notify isRunning
  rw [h.activity.isRunning]
  split
  · exact { h with
      signals := congrArg (· ++ [signal]) h.signals
      submitted := congrArg (· + 1) h.submitted }
  · exact h

theorem Matches.tick (h : c.Matches twin begun others again) :
    c.tick.Matches twin begun others again.tick := by
  unfold Controller.tick isRunning
  rw [h.activity.isRunning]
  split
  · exact { h with scene := h.scene.apply Scene.tick fun _ _ => rfl }
  · exact h

theorem Matches.serveTick (h : c.Matches twin begun others again) :
    c.serveTick.Matches twin begun others again.serveTick := by
  have hactivity := h.activity
  unfold Controller.serveTick
  rw [h.screen]
  generalize c.activity = activity at hactivity ⊢
  generalize again.activity = other at hactivity ⊢
  cases hactivity with
  | waiting =>
    exact { h with screen := rfl, scene := h.scene.takeTick c.screen.onTick, activity := .waiting }
  | _ => exact h

theorem Matches.stop (h : c.Matches twin begun others again) :
    c.stop.Matches twin begun others again.stop := by
  have hactivity := h.activity
  unfold Controller.stop
  rw [h.scene.tornDown, h.screen]
  split
  · generalize c.activity = activity at hactivity ⊢
    generalize again.activity = other at hactivity ⊢
    cases hactivity with
    | fresh => exact ((h.note _).note _).close
    | busy job _ => cases job <;> exact (h.note _).close
    | waiting => exact (h.note _).close
    | stopped => exact h
    | broken => exact h
  · exact h

/-- With matching moves, controllers go on matching. -/
theorem Matches.step (hrefl : ∀ request, twin request request)
    (h : c.Matches twin begun others again) {move other : Move ρ}
    (hmove : move.Matches twin other) :
    (c.step move).Matches twin (begun ++ c.begunBy move) (others ++ again.begunBy other)
      (again.step other) := by
  cases hmove with
  | @send request other htwin =>
    rw [c.begunBy_eq_nil (.send request) nofun, again.begunBy_eq_nil (.send other) nofun,
      List.append_nil, List.append_nil]
    exact h.submit htwin
  | same =>
    by_cases hserve : move = .serveRequest
    · subst hserve
      exact h.serveRequest
    rw [c.begunBy_eq_nil move hserve, again.begunBy_eq_nil move hserve, List.append_nil,
      List.append_nil]
    obtain ⟨hreply, hhandover, hwaking⟩ := h.resume
    cases move with
    | send request => exact h.submit (hrefl request)
    | notify signal => exact h.notify signal
    | takeEffect => exact { h with scene := h.scene.apply Scene.takeEffect fun _ _ => rfl }
    | signalTeardown =>
      have hdiscarded :=
        h.scene.apply (fun scene => { scene with tornDown := true }) fun _ _ => rfl
      exact { h with scene := hdiscarded }
    | start => exact h.start
    | serveSignal => exact h.serveSignal
    | serveRequest => exact absurd rfl hserve
    | serveTick => exact h.serveTick
    | reply reply => exact hreply reply
    | handover handover => exact hhandover handover
    | waking => exact hwaking
    | tick => exact h.tick
    | stop => exact h.stop

theorem Matches.steps (hrefl : ∀ request, twin request request)
    (h : c.Matches twin begun others again) {moves otherMoves : List (Move ρ)}
    (hmoves : List.Forall₂ (Move.Matches twin) moves otherMoves) :
    (c.steps moves).Matches twin (begun ++ c.along begunBy moves)
      (others ++ again.along begunBy otherMoves) (again.steps otherMoves) := by
  induction hmoves generalizing c again begun others with
  | nil =>
    simp only [along, List.append_nil]
    exact h
  | cons hmove _ ih =>
    have hrest := ih (h.step hrefl hmove)
    rw [List.append_assoc, List.append_assoc] at hrest
    exact hrest

theorem matches_opening {screen : Screen ρ σ} (setting : Setting) (session : Session)
    (handle : ∀ request other, twin request other →
      (screen.handle request).Matches (screen.handle other)) :
    (opening screen setting session).Matches twin [] [] (opening screen setting session) where
  handle := handle
  screen := rfl
  setting := rfl
  scene := .mk .nil []
  activity := .fresh
  requests := .nil
  signals := rfl
  submitted := rfl
  processed := rfl

end Controller

open Controller

/-- Two runs of a page, with the same moves but for retyped passwords, log the same events but for
those that show such a request. They log the same if and only if the requests that they begin are
the same: whatever password is served is in the log. -/
theorem passwords_logged (page : Page) (setting : Setting) (session : Session)
    {moves others : List (Move page.Request)}
    (hmoves : List.Forall₂ (Move.Matches page.Twin) moves others) :
    let screen := page.screen setting.client
    let opening := Controller.opening screen setting session
    let log := (opening.steps moves).scene.log
    let otherLog := (opening.steps others).scene.log
    List.Forall₂ (fun event other => event = other ∨ ∃ request twin, page.Twin request twin ∧
        event = .requestTaken screen.name (screen.describe request) ∧
        other = .requestTaken screen.name (screen.describe twin)) log otherLog ∧
      (log = otherLog ↔ opening.along begunBy moves = opening.along begunBy others) := by
  intro screen opening log otherLog
  have hopening : opening.Matches page.Twin [] [] opening :=
    matches_opening setting session fun _ _ htwin => htwin.matches_handle setting.client
  have hlogged := (hopening.steps .same hmoves).logged
  rw [steps_screen] at hlogged
  exact ⟨hlogged.forall₂, hlogged.eq_iff fun _ _ htwin => htwin.describe_inj setting.client⟩

/-- Two users enter different passwords. As long as neither is served the logs are the same; once
they are, the passwords stand in them. -/
theorem passwords_logged_of_login :
    let setting : Setting := { client := ⟨"https://panel.example"⟩ }
    let opening := Controller.opening (Page.login.screen setting.client) setting ⟨.memory []⟩
    let entered (password : String) : List (Move Page.login.Request) :=
      [.start, .send (Login.Request.login "a@b.c" password)]
    let log (moves : List (Move Page.login.Request)) := (opening.steps moves).scene.log
    log (entered "secret") = log (entered "hunter2") ∧
      log (entered "secret" ++ [.serveRequest]) ≠ log (entered "hunter2" ++ [.serveRequest]) := by
  intro setting opening entered log
  have htwin : Page.login.Twin (Login.Request.login "a@b.c" "secret")
      (Login.Request.login "a@b.c" "hunter2") :=
    .login "a@b.c" (by decide +kernel) (by decide +kernel)
  have hentered : List.Forall₂ (Move.Matches Page.login.Twin) (entered "secret")
      (entered "hunter2") :=
    .cons (.same _) (.cons (.send htwin) .nil)
  have hserved : List.Forall₂ (Move.Matches Page.login.Twin) (entered "secret" ++ [.serveRequest])
      (entered "hunter2" ++ [.serveRequest]) :=
    .cons (.same _) (.cons (.send htwin) (.cons (.same _) .nil))
  refine ⟨(passwords_logged .login setting ⟨.memory []⟩ hentered).2.2 rfl, fun hsame => ?_⟩
  have hbegun : [Login.Request.login "a@b.c" "secret"] = [Login.Request.login "a@b.c" "hunter2"] :=
    (passwords_logged .login setting ⟨.memory []⟩ hserved).2.1 hsame
  exact absurd hbegun (by decide)

/-- What is logged is not the same whatever the password is. -/
theorem log_not_independent_of_passwords :
    ¬ ∀ (page : Page) (setting : Setting) (session : Session)
        (moves others : List (Move page.Request)),
      List.Forall₂ (Move.Matches page.Twin) moves others →
      let opening := Controller.opening (page.screen setting.client) setting session
      (opening.steps moves).scene.log = (opening.steps others).scene.log := by
  intro hsame
  have hlogs := hsame .login { client := ⟨"https://panel.example"⟩ } ⟨.memory []⟩
    [.start, .send (Login.Request.login "a@b.c" "secret"), .serveRequest]
    [.start, .send (Login.Request.login "a@b.c" "hunter2"), .serveRequest]
    (.cons (.same _) (.cons
      (.send (.login "a@b.c" (by decide +kernel) (by decide +kernel))) (.cons (.same _) .nil)))
  exact absurd hlogs (by decide +kernel)

end PanelClient
