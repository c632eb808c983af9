import PanelClient.Proofs.Controller.Clock
import PanelClient.Proofs.Screen.Likeness

/-!
# Alike controllers

Two runs of steady screens go in step: what one does to its scene, the other does to its own
(`Program.Alike.run`), and so the controllers stay alike with whatever they are told alike
(`Controller.Alike.step`). Where the clocks do not count, a controller stays alike to another
whatever its own clock does (`Scene.Alike.retimed`).
-/

namespace PanelClient

variable {ρ σ β γ : Type}

/-! ## Scenes -/

/-- Two scenes differ in nothing that counts. -/
structure Scene.Alike (like : Likeness σ) (scene other : Scene σ) : Prop where
  view : like.timeless scene.view = like.timeless other.view
  tornDown : scene.tornDown = other.tornDown
  session : like.session scene.session other.session
  generation : scene.countdown.generation = other.countdown.generation
  held : scene.countdown.held = other.countdown.held
  clock : like.timed →
    scene.view = other.view ∧ scene.countdown = other.countdown ∧ scene.ticks = other.ticks
  effects : scene.effects = other.effects
  log : scene.log = other.log
  sent : scene.sent.map like.request = other.sent.map like.request
  handedOn : scene.handedOn = other.handedOn

namespace Scene

variable {like : Likeness σ} {scene other : Scene σ}

theorem Alike.note (h : scene.Alike like other) (events : List Log.Event) :
    (scene.note events).Alike like (other.note events) :=
  { h with log := congrArg (· ++ events) h.log }

theorem Alike.update (h : scene.Alike like other) {change : σ → σ}
    (hchange : ∀ view, like.timeless (change view) = change (like.timeless view)) :
    (scene.update change).Alike like (other.update change) := by
  by_cases htorn : scene.tornDown = true
  · rw [Scene.update, Scene.update, if_pos htorn, if_pos (h.tornDown ▸ htorn)]
    exact h
  · rw [Scene.update, Scene.update, if_neg htorn, if_neg (h.tornDown ▸ htorn)]
    refine { h with view := ?_, clock := fun htimed => ?_ }
    · rw [hchange, hchange, h.view]
    · obtain ⟨hview, hcountdown, hticks⟩ := h.clock htimed
      exact ⟨congrArg change hview, hcountdown, hticks⟩

theorem Alike.emit (h : scene.Alike like other) (effect : Effect) :
    (scene.emit effect).Alike like (other.emit effect) := by
  by_cases htorn : scene.tornDown = true
  · rw [Scene.emit, Scene.emit, if_pos htorn, if_pos (h.tornDown ▸ htorn)]
    exact h
  · rw [Scene.emit, Scene.emit, if_neg htorn, if_neg (h.tornDown ▸ htorn)]
    exact { h.note [.effectEmitted effect] with effects := congrArg (· ++ [effect]) h.effects }

theorem Alike.send (h : scene.Alike like other) {request twin : Http.Request}
    (hrequest : like.request request = like.request twin) :
    (scene.send request).Alike like (other.send twin) :=
  { h with
    sent := by simp only [Scene.send, List.map_append, h.sent, List.map_cons, hrequest] }

theorem Alike.handOn (h : scene.Alike like other) (name url : String) :
    (scene.handOn name url).Alike like (other.handOn name url) :=
  { h with handedOn := congrArg (· ++ [(name, url)]) h.handedOn }

theorem Alike.startCountdown (h : scene.Alike like other) (seconds : Nat) :
    (scene.startCountdown seconds).Alike like (other.startCountdown seconds) := by
  have hevents : (scene.countdown.start seconds).2 = (other.countdown.start seconds).2 := by
    simp only [Countdown.start, Countdown.cancel, h.held, h.generation]
    split <;> rfl
  have hcountdown : (scene.startCountdown seconds).countdown =
      (other.startCountdown seconds).countdown := by
    rw [startCountdown_countdown, startCountdown_countdown, h.generation]
  refine { h with
    generation := congrArg Countdown.generation hcountdown
    held := congrArg Countdown.held hcountdown
    clock := fun htimed => ⟨(h.clock htimed).1, hcountdown, (h.clock htimed).2.2⟩
    log := ?_ }
  show scene.log ++ (scene.countdown.start seconds).2 =
    other.log ++ (other.countdown.start seconds).2
  rw [h.log, hevents]

theorem Alike.takeEffect (h : scene.Alike like other) :
    scene.takeEffect.Alike like other.takeEffect :=
  { h with effects := congrArg (List.drop 1) h.effects }

theorem Alike.close (h : scene.Alike like other) : scene.close.Alike like other.close :=
  { h with
    held := rfl
    clock := fun htimed => ⟨(h.clock htimed).1, by
      show Countdown.discard _ = Countdown.discard _
      rw [(h.clock htimed).2.1], rfl⟩ }

/-! ### Clocks -/

/-- One scene is the other but for what the clock does to it. -/
structure Retimed (like : Likeness σ) (scene after : Scene σ) : Prop where
  view : like.timeless after.view = like.timeless scene.view
  generation : after.countdown.generation = scene.countdown.generation
  held : after.countdown.held = scene.countdown.held
  eq : after =
    { scene with view := after.view, countdown := after.countdown, ticks := after.ticks }

theorem retimed_tick (like : Likeness σ) (scene : Scene σ) : scene.Retimed like scene.tick where
  view := rfl
  generation := Countdown.tick_generation _
  held := by
    show scene.countdown.tick.1.held = _
    unfold Countdown.tick
    split <;> rfl
  eq := rfl

theorem retimed_takeTick {onTick : Nat → σ → σ}
    (honTick : ∀ remaining view, like.timeless (onTick remaining view) = like.timeless view)
    (scene : Scene σ) : scene.Retimed like (scene.takeTick onTick) := by
  unfold Scene.takeTick
  split
  · exact ⟨rfl, rfl, rfl, rfl⟩
  · dsimp only
    split
    · unfold Scene.update
      split
      · exact ⟨rfl, rfl, rfl, rfl⟩
      · exact ⟨honTick _ _, rfl, rfl, rfl⟩
    · exact ⟨rfl, rfl, rfl, rfl⟩

/-- What the clocks do to two scenes does not count if they need not agree; and if they agree, it
has to be the same. -/
theorem Alike.retimed (h : scene.Alike like other) {after later : Scene σ}
    (hscene : scene.Retimed like after) (hother : other.Retimed like later)
    (hclock : like.timed → after.view = later.view ∧ after.countdown = later.countdown ∧
      after.ticks = later.ticks) : after.Alike like later := by
  obtain ⟨hview, hgeneration, hheld, heq⟩ := hscene
  obtain ⟨hview', hgeneration', hheld', heq'⟩ := hother
  constructor
  case view => rw [hview, hview', h.view]
  case generation => rw [hgeneration, hgeneration', h.generation]
  case held => rw [hheld, hheld', h.held]
  case clock => exact hclock
  all_goals rw [heq, heq']
  · exact h.tornDown
  · exact h.session
  · exact h.effects
  · exact h.log
  · exact h.sent
  · exact h.handedOn

theorem Alike.tick (h : scene.Alike like other) : scene.tick.Alike like other.tick := by
  refine h.retimed (retimed_tick like _) (retimed_tick like _) fun htimed => ?_
  obtain ⟨hview, hcountdown, hticks⟩ := h.clock htimed
  unfold Scene.tick
  rw [hcountdown, hticks]
  exact ⟨hview, rfl, rfl⟩

theorem Alike.takeTick (h : scene.Alike like other) {onTick : Nat → σ → σ}
    (honTick : ∀ remaining view, like.timeless (onTick remaining view) = like.timeless view) :
    (scene.takeTick onTick).Alike like (other.takeTick onTick) := by
  refine h.retimed (retimed_takeTick honTick _) (retimed_takeTick honTick _) fun htimed => ?_
  obtain ⟨hview, hcountdown, hticks⟩ := h.clock htimed
  have htorn := h.tornDown
  obtain ⟨view, tornDown, session, countdown, ticks⟩ := scene
  obtain ⟨view', tornDown', session', countdown', ticks'⟩ := other
  obtain rfl : view = view' := hview
  obtain rfl : tornDown = tornDown' := htorn
  obtain rfl : countdown = countdown' := hcountdown
  obtain rfl : ticks = ticks' := hticks
  rcases ticks with _ | ⟨tick, rest⟩
  · exact ⟨rfl, rfl, rfl⟩
  · simp only [Scene.takeTick, Scene.update]
    split
    · cases tornDown <;> exact ⟨rfl, rfl, rfl⟩
    · exact ⟨rfl, rfl, rfl⟩

end Scene

/-! ## Running alike programs -/

/-- What two alike scenes meet outside: the same answer, and scenes that are alike as before and on
which nothing was sent meanwhile. -/
inductive Meets (like : Likeness σ) (together : β → β → Prop) (scene : Scene σ) :
    (Scene σ × β) × γ → (Scene σ × β) × γ → Prop
  | intro {after later : Scene σ} {b b' : β} (answer : γ) (hscene : after.Alike like later)
      (hstate : together b b') (hsent : after.sent = scene.sent) :
      Meets like together scene ((after, b), answer) ((later, b'), answer)

/-- The outside lets alike scenes meet the same, if what it keeps of the two runs goes together. -/
structure Outside.Steady (like : Likeness σ) (together : β → β → Prop) (outside : Outside σ β) :
    Prop where
  reply : ∀ {request twin : Http.Request} {scene other : Scene σ} {b b' : β},
    like.request request = like.request twin → scene.Alike like other → together b b' →
      Meets like together scene (outside.reply request (scene, b)) (outside.reply twin (other, b'))
  handover : ∀ (name url : String) {scene other : Scene σ} {b b' : β},
    scene.Alike like other → together b b' →
      Meets like together scene (outside.handover name url (scene, b))
        (outside.handover name url (other, b'))
  waking : ∀ (milliseconds : Nat) {scene other : Scene σ} {b b' : β},
    scene.Alike like other → together b b' →
      Meets like together scene (outside.waking milliseconds (scene, b))
        (outside.waking milliseconds (other, b'))

theorem Outside.steady_silent (like : Likeness σ) :
    (Outside.silent : Outside σ Unit).Steady like fun _ _ => True where
  reply _ h _ := .intro none h trivial rfl
  handover _ _ _ _ _ _ h _ := .intro none h trivial rfl
  waking _ _ _ _ _ h _ := .intro false h trivial rfl

/-- The two programs wait for the same and go on alike. Which reply is waited for is told by the last
request that was sent. -/
inductive Paused.Alike (like : Likeness σ) (client : Client) (sent : List Http.Request) :
    Paused σ → Paused σ → Prop
  | reply (call : Call) {next after : Http.Reply → Program σ Unit}
      (hsent : sent.getLast?.map Http.Request.url = some (client.url call))
      (hnext : ∀ reply other, like.reply call.path reply other →
        (next reply).Alike like Eq (after other)) :
      Alike like client sent (.reply next) (.reply after)
  | handover {next after : Option String → Program σ Unit}
      (hnext : ∀ failure, (next failure).Alike like Eq (after failure)) :
      Alike like client sent (.handover next) (.handover after)
  | waking {next after : Program σ Unit} (hnext : next.Alike like Eq after) :
      Alike like client sent (.waking next) (.waking after)

inductive Halt.Alike (like : Likeness σ) (client : Client) (sent : List Http.Request) :
    Halt σ → Halt σ → Prop
  | finished : Alike like client sent .finished .finished
  | paused {program other : Paused σ} (h : program.Alike like client sent other) :
      Alike like client sent (.paused program) (.paused other)
  | crashed (message : String) : Alike like client sent (.crashed message) (.crashed message)

/-- Two runs came equally far. -/
structure AlikeRun (like : Likeness σ) (client : Client) (together : β → β → Prop)
    (ran other : (Scene σ × β) × Halt σ) : Prop where
  scene : ran.1.1.Alike like other.1.1
  state : together ran.1.2 other.1.2
  halt : ran.2.Alike like client ran.1.1.sent other.2

section Steady

variable {like : Likeness σ} (hlike : like.toComparison.Lawful) {together : β → β → Prop}
  {outside : Outside σ β} (houtside : outside.Steady like together)

include hlike houtside

/-- Alike programs come equally far on alike scenes, and leave alike scenes. -/
theorem Program.Alike.run {program other : Program σ Unit} (h : program.Alike like Eq other)
    (setting : Setting) {scene twin : Scene σ} {b b' : β} (hscene : scene.Alike like twin)
    (hb : together b b') :
    AlikeRun like setting.client together (program.run setting outside (scene, b))
      (other.run setting outside (twin, b')) := by
  induction h generalizing scene twin b b' with
  | done h => exact ⟨hscene, hb, .finished⟩
  | update change hchange _ ih => exact ih (hscene.update hchange) hb
  | emit effect _ ih => exact ih (hscene.emit effect) hb
  | work hchange hevents _ ih =>
    refine ih _ _ hscene.session ?_ hb
    unfold Scene.work
    rw [hevents _ _ hscene.session]
    exact { hscene.note _ with session := hchange _ _ hscene.session }
  | exchange call hnext ih =>
    have hrequest := hlike.request setting.client call _ _ hscene.session
    have hmeets := houtside.reply hrequest (hscene.send hrequest) hb
    simp only [Program.run]
    generalize outside.reply _ (scene.send _, b) = met at hmeets
    generalize outside.reply _ (twin.send _, b') = other at hmeets
    obtain ⟨answer, hafter, hc, hsent⟩ := hmeets
    cases answer with
    | some reply => exact ih reply reply (hlike.reply_refl _ _) hafter hc
    | none =>
      refine ⟨hafter, hc, .paused (.reply call ?_ hnext)⟩
      dsimp only
      rw [hsent, Scene.send, List.getLast?_concat]
      rfl
  | handOff name url hnext ih =>
    have hmeets := houtside.handover name url (hscene.handOn name url) hb
    simp only [Program.run]
    generalize outside.handover name url (scene.handOn name url, b) = met at hmeets
    generalize outside.handover name url (twin.handOn name url, b') = other at hmeets
    obtain ⟨answer, hafter, hc, -⟩ := hmeets
    cases answer with
    | some handover => exact ih handover.failure (hafter.note handover.events) hc
    | none => exact ⟨hafter, hc, .paused (.handover hnext)⟩
  | startCooldown _ ih => exact ih (hscene.startCountdown setting.cooldownSeconds) hb
  | sleep milliseconds hnext ih =>
    have hmeets := houtside.waking milliseconds hscene hb
    simp only [Program.run]
    generalize outside.waking milliseconds (scene, b) = met at hmeets
    generalize outside.waking milliseconds (twin, b') = other at hmeets
    obtain ⟨answer, hafter, hc, -⟩ := hmeets
    cases answer with
    | true => exact ih hafter hc
    | false => exact ⟨hafter, hc, .paused (.waking hnext)⟩
  | crash message => exact ⟨hscene, hb, .crashed message⟩

end Steady

/-! ## Controllers -/

inductive Activity.Alike (like : Likeness σ) (client : Client) (sent : List Http.Request) :
    Activity σ → Activity σ → Prop
  | fresh : Alike like client sent .fresh .fresh
  | waiting : Alike like client sent .waiting .waiting
  | busy (job : Job) {program other : Paused σ} (h : program.Alike like client sent other) :
      Alike like client sent (.busy job program) (.busy job other)
  | stopped : Alike like client sent .stopped .stopped
  | broken (message : String) : Alike like client sent (.broken message) (.broken message)

theorem Activity.Alike.isRunning {like : Likeness σ} {client : Client} {sent : List Http.Request}
    {activity other : Activity σ} (h : activity.Alike like client sent other) :
    activity.isRunning = other.isRunning := by
  cases h <;> rfl

/-- Two controllers of the same steady screen differ in nothing that counts. -/
structure Controller.Alike (like : Likeness σ) (c twin : Controller ρ σ) : Prop where
  steady : c.screen.Steady like
  screen : c.screen = twin.screen
  setting : c.setting = twin.setting
  scene : c.scene.Alike like twin.scene
  activity : c.activity.Alike like c.setting.client c.scene.sent twin.activity
  requests : c.requests = twin.requests
  signals : c.signals = twin.signals
  submitted : c.submitted = twin.submitted
  processed : c.processed = twin.processed

namespace Controller

variable {like : Likeness σ} {c twin : Controller ρ σ}

theorem Alike.isRunning (h : c.Alike like twin) : c.isRunning = twin.isRunning :=
  h.activity.isRunning

theorem Alike.log (h : c.Alike like twin) (event : Log.Event) :
    (c.log event).Alike like (twin.log event) :=
  { h with scene := h.scene.note [event] }

theorem Alike.close (h : c.Alike like twin) : c.close.Alike like twin.close :=
  { h with scene := h.scene.close, activity := .stopped }

theorem Alike.send (h : c.Alike like twin) (request : ρ) :
    (c.send request).1.Alike like (twin.send request).1 := by
  unfold Controller.send
  rw [h.isRunning]
  split
  · exact { h with
      requests := congrArg (· ++ [request]) h.requests
      submitted := congrArg (· + 1) h.submitted }
  · exact h

theorem Alike.notify (h : c.Alike like twin) (signal : Lifecycle) :
    (c.notify signal).1.Alike like (twin.notify signal).1 := by
  unfold Controller.notify
  rw [h.isRunning]
  split
  · exact { h with
      signals := congrArg (· ++ [signal]) h.signals
      submitted := congrArg (· + 1) h.submitted }
  · exact h

theorem Alike.stop (h : c.Alike like twin) : c.stop.Alike like twin.stop := by
  have hname : c.screen.name = twin.screen.name := congrArg Screen.name h.screen
  unfold Controller.stop
  rw [h.scene.tornDown, hname]
  split
  · have hactivity := h.activity
    generalize c.activity = activity at hactivity ⊢
    generalize twin.activity = other at hactivity ⊢
    cases hactivity with
    | fresh => exact ((h.log _).log _).close
    | busy job _ => cases job <;> exact (h.log _).close
    | waiting => exact (h.log _).close
    | stopped => exact h
    | broken => exact h
  · exact h

theorem Alike.tick (h : c.Alike like twin) : c.tick.Alike like twin.tick := by
  unfold Controller.tick
  rw [h.isRunning]
  split
  · exact { h with scene := h.scene.tick }
  · exact h

theorem Alike.serveTick (h : c.Alike like twin) : c.serveTick.Alike like twin.serveTick := by
  have hscene : (c.scene.takeTick c.screen.onTick).Alike like
      (twin.scene.takeTick twin.screen.onTick) := by
    rw [← h.screen]
    exact h.scene.takeTick h.steady.onTick
  have hactivity := h.activity
  unfold Controller.serveTick
  generalize c.activity = activity at hactivity ⊢
  generalize twin.activity = other at hactivity ⊢
  cases hactivity with
  | waiting => exact { h with scene := hscene, activity := .waiting }
  | _ => exact h

section Serving

variable (hlike : like.toComparison.Lawful) {together : β → β → Prop}
  {outside : Outside σ β} (houtside : outside.Steady like together)

include hlike houtside

/-- After alike programs the controllers are alike. -/
theorem Alike.perform (h : c.Alike like twin) (job : Job) {program other : Program σ Unit}
    (hprogram : program.Alike like Eq other) {b b' : β} (hb : together b b') :
    (c.perform outside job program b).1.Alike like (twin.perform outside job other b').1 ∧
      together (c.perform outside job program b).2 (twin.perform outside job other b').2 := by
  have hran := hprogram.run hlike houtside c.setting h.scene hb
  unfold Controller.perform
  rw [← h.setting]
  generalize program.run c.setting outside (c.scene, b) = ran at hran
  generalize other.run c.setting outside (twin.scene, b') = ran' at hran
  obtain ⟨⟨scene, d⟩, halt⟩ := ran
  obtain ⟨⟨scene', d'⟩, halt'⟩ := ran'
  obtain ⟨hscene, hstate, hhalt⟩ := hran
  dsimp only at hscene hstate hhalt
  cases hhalt with
  | finished =>
    exact ⟨{ h with
      setting := rfl
      scene := hscene
      activity := .waiting
      processed := congrArg (· + 1) h.processed }, hstate⟩
  | paused hpaused =>
    exact ⟨{ h with setting := rfl, scene := hscene, activity := .busy job hpaused }, hstate⟩
  | crashed message =>
    exact ⟨{ h with setting := rfl, scene := hscene.close, activity := .broken message }, hstate⟩

variable {b b' : β}

theorem Alike.start (h : c.Alike like twin) (hb : together b b') :
    (c.start outside b).1.Alike like (twin.start outside b').1 ∧
      together (c.start outside b).2 (twin.start outside b').2 := by
  have hactivity := h.activity
  unfold Controller.start
  generalize c.activity = activity at hactivity ⊢
  generalize twin.activity = other at hactivity ⊢
  cases hactivity with
  | fresh =>
    dsimp only
    rw [← h.screen]
    exact (h.log _).perform hlike houtside .load (h.steady.program .load) hb
  | _ => exact ⟨h, hb⟩

theorem Alike.serveSignal (h : c.Alike like twin) (hb : together b b') :
    (c.serveSignal outside b).1.Alike like (twin.serveSignal outside b').1 ∧
      together (c.serveSignal outside b).2 (twin.serveSignal outside b').2 := by
  have hactivity := h.activity
  unfold Controller.serveSignal
  rw [← h.signals]
  generalize c.activity = activity at hactivity ⊢
  generalize twin.activity = other at hactivity ⊢
  cases hactivity with
  | waiting =>
    cases c.signals with
    | nil => exact ⟨h, hb⟩
    | cons signal rest =>
      dsimp only
      rw [← h.screen]
      have hrest : Alike like { c with signals := rest, activity := .waiting }
          { twin with screen := c.screen, signals := rest, activity := .waiting } :=
        { h with screen := rfl, signals := rfl, activity := .waiting }
      exact (hrest.log _).perform hlike houtside .input (h.steady.program (.signal signal)) hb
  | _ => exact ⟨h, hb⟩

theorem Alike.serveRequest (h : c.Alike like twin) (hb : together b b') :
    (c.serveRequest outside b).1.Alike like (twin.serveRequest outside b').1 ∧
      together (c.serveRequest outside b).2 (twin.serveRequest outside b').2 := by
  have hactivity := h.activity
  unfold Controller.serveRequest
  rw [← h.requests]
  generalize c.activity = activity at hactivity ⊢
  generalize twin.activity = other at hactivity ⊢
  cases hactivity with
  | waiting =>
    cases c.requests with
    | nil => exact ⟨h, hb⟩
    | cons request rest =>
      dsimp only
      rw [← h.screen]
      have hrest : Alike like { c with requests := rest, activity := .waiting }
          { twin with screen := c.screen, requests := rest, activity := .waiting } :=
        { h with screen := rfl, requests := rfl, activity := .waiting }
      exact (hrest.log _).perform hlike houtside .input (h.steady.program (.request request)) hb
  | _ => exact ⟨h, hb⟩

/-- The replies are taken for the same if they answer the request that was sent last. -/
theorem Alike.resumeReply (h : c.Alike like twin) {reply other : Http.Reply}
    (hreply : ∀ call : Call, c.scene.sent.getLast?.map Http.Request.url =
      some (c.setting.client.url call) → like.reply call.path reply other)
    (hb : together b b') :
    (c.resumeReply outside reply b).1.Alike like (twin.resumeReply outside other b').1 ∧
      together (c.resumeReply outside reply b).2 (twin.resumeReply outside other b').2 := by
  have hactivity := h.activity
  unfold Controller.resumeReply
  generalize c.activity = activity at hactivity ⊢
  generalize twin.activity = activity' at hactivity ⊢
  cases hactivity with
  | busy job hpaused =>
    cases hpaused with
    | reply call hsent hnext =>
      exact h.perform hlike houtside job (hnext _ _ (hreply call hsent)) hb
    | _ => exact ⟨h, hb⟩
  | _ => exact ⟨h, hb⟩

theorem Alike.resumeHandover (h : c.Alike like twin) (handover : Handover) (hb : together b b') :
    (c.resumeHandover outside handover b).1.Alike like
        (twin.resumeHandover outside handover b').1 ∧
      together (c.resumeHandover outside handover b).2
        (twin.resumeHandover outside handover b').2 := by
  have hactivity := h.activity
  unfold Controller.resumeHandover
  generalize c.activity = activity at hactivity ⊢
  generalize twin.activity = other at hactivity ⊢
  cases hactivity with
  | busy job hpaused =>
    cases hpaused with
    | @handover next after hnext =>
      have hnoted : Alike like
          { c with scene := c.scene.note handover.events, activity := .busy job (.handover next) }
          { twin with
            scene := twin.scene.note handover.events, activity := .busy job (.handover after) } :=
        { h with
          scene := h.scene.note handover.events, activity := .busy job (.handover hnext) }
      exact hnoted.perform hlike houtside job (hnext handover.failure) hb
    | _ => exact ⟨h, hb⟩
  | _ => exact ⟨h, hb⟩

theorem Alike.resumeWaking (h : c.Alike like twin) (hb : together b b') :
    (c.resumeWaking outside b).1.Alike like (twin.resumeWaking outside b').1 ∧
      together (c.resumeWaking outside b).2 (twin.resumeWaking outside b').2 := by
  have hactivity := h.activity
  unfold Controller.resumeWaking
  generalize c.activity = activity at hactivity ⊢
  generalize twin.activity = other at hactivity ⊢
  cases hactivity with
  | busy job hpaused =>
    cases hpaused with
    | waking hnext => exact h.perform hlike houtside job hnext hb
    | _ => exact ⟨h, hb⟩
  | _ => exact ⟨h, hb⟩

end Serving

/-! ## Moves -/

/-- The moves are the same, or both deliver a reply and the replies are taken for the same. -/
inductive Move.Alike (like : Likeness σ) (c : Controller ρ σ) : Move ρ → Move ρ → Prop
  | same (move : Move ρ) : Alike like c move move
  | reply {reply other : Http.Reply}
      (h : ∀ call : Call, c.scene.sent.getLast?.map Http.Request.url =
        some (c.setting.client.url call) → like.reply call.path reply other) :
      Alike like c (.reply reply) (.reply other)

/-- Alike moves leave alike controllers. -/
theorem Alike.step (hlike : like.toComparison.Lawful) (h : c.Alike like twin)
    {move other : Move ρ} (hmove : move.Alike like c other) :
    (c.step move).Alike like (twin.step other) := by
  have hsilent := Outside.steady_silent like
  cases hmove with
  | reply hreply => exact (h.resumeReply hlike hsilent hreply trivial).1
  | same =>
    cases move with
    | send request => exact h.send request
    | notify signal => exact h.notify signal
    | takeEffect => exact { h with scene := h.scene.takeEffect }
    | signalTeardown =>
      exact { h with scene := { h.scene with tornDown := rfl } }
    | start => exact (h.start hlike hsilent trivial).1
    | serveSignal => exact (h.serveSignal hlike hsilent trivial).1
    | serveRequest => exact (h.serveRequest hlike hsilent trivial).1
    | serveTick => exact h.serveTick
    | reply reply =>
      exact (h.resumeReply hlike hsilent (fun _ _ => hlike.reply_refl _ _) trivial).1
    | handover handover => exact (h.resumeHandover hlike hsilent handover trivial).1
    | waking => exact (h.resumeWaking hlike hsilent trivial).1
    | tick => exact h.tick
    | stop => exact h.stop

theorem alike_opening {screen : Screen ρ σ} (hscreen : screen.Steady like) (setting : Setting)
    {session twin : Session} (hsession : like.session session twin) :
    (opening screen setting session).Alike like (opening screen setting twin) where
  steady := hscreen
  screen := rfl
  setting := rfl
  scene := ⟨rfl, rfl, hsession, rfl, rfl, fun _ => ⟨rfl, rfl, rfl⟩, rfl, rfl, rfl, rfl⟩
  activity := .fresh
  requests := rfl
  signals := rfl
  submitted := rfl
  processed := rfl

end Controller

end PanelClient
