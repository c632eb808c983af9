import PanelClient.Controller.Basic

/-!
# The course of a program

How far a program comes on its own, for programs that only wait for replies: what it waits for next
and which effects it asks for on the way (`Program.Takes`). A course says everything that a program
does to what is sent and asked for, so that nothing has to be run again: a controller that serves
the program is described by it (`Controller.perform_of_takes`).
-/

namespace PanelClient

variable {ρ σ : Type}

namespace Scene

variable (scene : Scene σ) (change : σ → σ) (effect : Effect)

@[simp] theorem update_session : (scene.update change).session = scene.session := by
  unfold update; split <;> rfl

@[simp] theorem update_tornDown : (scene.update change).tornDown = scene.tornDown := by
  unfold update; split <;> rfl

@[simp] theorem update_sent : (scene.update change).sent = scene.sent := by
  unfold update; split <;> rfl

@[simp] theorem update_effects : (scene.update change).effects = scene.effects := by
  unfold update; split <;> rfl

@[simp] theorem emit_session : (scene.emit effect).session = scene.session := by
  unfold emit; split <;> rfl

@[simp] theorem emit_tornDown : (scene.emit effect).tornDown = scene.tornDown := by
  unfold emit; split <;> rfl

@[simp] theorem emit_sent : (scene.emit effect).sent = scene.sent := by
  unfold emit; split <;> rfl

theorem note_nil : scene.note [] = scene := by
  simp [note]

theorem emit_effects :
    (scene.emit effect).effects = scene.effects ++ if scene.tornDown then [] else [effect] := by
  unfold emit; split <;> simp

end Scene

/-- What a program does until it waits for a reply or is done. -/
structure Course (σ : Type) where
  /-- The effects it asks for, in order. -/
  effects : List Effect
  /-- The call it makes and how it goes on with the reply; none if it is done. -/
  wait? : Option (Call × (Http.Reply → Program σ Unit))

namespace Course

def finish : Course σ := ⟨[], none⟩

def await (call : Call) (next : Http.Reply → Program σ Unit) : Course σ := ⟨[], some (call, next)⟩

def asking (effect : Effect) (course : Course σ) : Course σ :=
  { course with effects := effect :: course.effects }

/-- How far the program has come at the end of the course. -/
def halt (course : Course σ) : Halt σ :=
  match course.wait? with
  | none => .finished
  | some (_, next) => .paused (.reply next)

/-- What a controller is doing at the end of the course. -/
def activity (course : Course σ) (job : Job) : Activity σ :=
  match course.wait? with
  | none => .waiting
  | some (_, next) => .busy job (.reply next)

/-- The requests that are sent on the course. -/
def requests (course : Course σ) (client : Client) (session : Session) : List Http.Request :=
  (course.wait?.map fun wait => client.request session wait.1).toList

end Course

/-- What a course makes of a scene, as far as the session, requests and effects are concerned. -/
structure Scene.Follows (client : Client) (course : Course σ) (scene after : Scene σ) : Prop where
  session : after.session = scene.session
  tornDown : after.tornDown = scene.tornDown
  sent : after.sent = scene.sent ++ course.requests client scene.session
  effects : after.effects = scene.effects ++ if scene.tornDown then [] else course.effects

namespace Program

/-- From every scene the program takes the course. -/
def Takes (setting : Setting) (course : Course σ) (program : Program σ Unit) : Prop :=
  ∀ scene : Scene σ, ∃ after,
    program.run setting .silent (scene, ()) = ((after, ()), course.halt) ∧
      Scene.Follows setting.client course scene after

variable {setting : Setting} {course : Course σ}

theorem takes_done : (done () : Program σ Unit).Takes setting .finish := by
  intro scene
  refine ⟨scene, rfl, rfl, rfl, ?_, ?_⟩
  · simp [Course.requests, Course.finish]
  · simp [Course.finish]

theorem takes_exchange (call : Call) (next : Http.Reply → Program σ Unit) :
    (exchange call next).Takes setting (.await call next) := by
  intro scene
  refine ⟨scene.send (setting.client.request scene.session call), rfl, rfl, rfl, rfl, ?_⟩
  simp [Course.await, Scene.send]

theorem Takes.update {program : Program σ Unit} (h : program.Takes setting course)
    (change : σ → σ) : (Program.update change program).Takes setting course := by
  intro scene
  obtain ⟨after, hrun, hsession, htorn, hsent, heffects⟩ := h (scene.update change)
  simp only [Scene.update_session, Scene.update_tornDown, Scene.update_sent,
    Scene.update_effects] at hsession htorn hsent heffects
  exact ⟨after, hrun, hsession, htorn, hsent, heffects⟩

/-- Work that leaves the session alone is no part of the course. -/
theorem Takes.work {α : Type} {task : SessionM α} {next : α → Program σ Unit}
    (hkeeps : ∀ session, (task session).session = session)
    (h : ∀ session, (next (task session).value).Takes setting course) :
    ((onSession task).bind next).Takes setting course := by
  intro scene
  obtain ⟨after, hrun, hsession, htorn, hsent, heffects⟩ :=
    h scene.session (scene.note (task scene.session).events)
  refine ⟨after, ?_, hsession, htorn, hsent, heffects⟩
  rw [← hrun]
  simp only [onSession, Program.bind, run, Scene.work, hkeeps]
  rfl

theorem Takes.log {program : Program σ Unit} (h : program.Takes setting course)
    (event : Log.Event) :
    ((log event : Program σ Unit).bind fun _ => program).Takes setting course :=
  Takes.work (fun _ => rfl) fun _ => h

theorem Takes.ask {program : Program σ Unit} (h : program.Takes setting course)
    (effect : Effect) :
    ((ask effect : Program σ Unit).bind fun _ => program).Takes setting
      (course.asking effect) := by
  intro scene
  obtain ⟨after, hrun, hsession, htorn, hsent, heffects⟩ := h (scene.emit effect)
  simp only [Scene.emit_session, Scene.emit_tornDown, Scene.emit_sent, Scene.emit_effects]
    at hsession htorn hsent heffects
  refine ⟨after, hrun, hsession, htorn, hsent, ?_⟩
  rw [heffects]
  cases scene.tornDown <;> simp [Course.asking]

end Program

namespace Controller

variable {c : Controller ρ σ} {job : Job} {program : Program σ Unit} {course : Course σ}

/-- The program that a move has the controller run, and what for. -/
def program? (c : Controller ρ σ) (move : Move ρ) : Option (Job × Program σ Unit) :=
  match move, c.activity with
  | .start, .fresh => some (.load, c.screen.load)
  | .serveSignal, .waiting =>
    c.signals.head?.map fun signal => (.input, c.screen.onLifecycle signal)
  | .serveRequest, .waiting =>
    c.requests.head?.map fun request => (.input, c.screen.handle request)
  | .reply reply, .busy job (.reply next) => some (job, next reply)
  | .handover handover, .busy job (.handover next) => some (job, next handover.failure)
  | .waking, .busy job (.waking next) => some (job, next)
  | _, _ => none

/-- The reply that a move delivers. -/
def Move.reply? : Move ρ → Option Http.Reply
  | .reply answer => some answer
  | _ => none

/-- While a reply is waited for, only a reply has the controller go on. -/
theorem program?_of_waits {next : Http.Reply → Program σ Unit}
    (h : c.activity = .busy job (.reply next)) (move : Move ρ) :
    c.program? move = move.reply?.map fun reply => (job, next reply) := by
  cases move <;> simp [program?, Move.reply?, h]

/-- The controller when it is about to run the program that a move has it run. -/
def ready (c : Controller ρ σ) : Move ρ → Controller ρ σ
  | .start => c.log (.screenStarted c.screen.name)
  | .serveSignal =>
    match c.signals with
    | signal :: signals => { c with signals }.log (.lifecycleTaken c.screen.name signal)
    | [] => c
  | .serveRequest =>
    match c.requests with
    | request :: requests =>
      { c with requests }.log (.requestTaken c.screen.name (c.screen.describe request))
    | [] => c
  | .handover handover => { c with scene := c.scene.note handover.events }
  | _ => c

section Ready

variable (c : Controller ρ σ) (move : Move ρ)

@[simp] theorem ready_screen : (c.ready move).screen = c.screen := by
  unfold ready; split <;> first | rfl | (split <;> rfl)

@[simp] theorem ready_setting : (c.ready move).setting = c.setting := by
  unfold ready; split <;> first | rfl | (split <;> rfl)

@[simp] theorem ready_submitted : (c.ready move).submitted = c.submitted := by
  unfold ready; split <;> first | rfl | (split <;> rfl)

@[simp] theorem ready_processed : (c.ready move).processed = c.processed := by
  unfold ready; split <;> first | rfl | (split <;> rfl)

theorem ready_scene : ∃ events, (c.ready move).scene = c.scene.note events := by
  unfold ready
  split
  · exact ⟨_, rfl⟩
  · split
    · exact ⟨_, rfl⟩
    · exact ⟨[], c.scene.note_nil.symm⟩
  · split
    · exact ⟨_, rfl⟩
    · exact ⟨[], c.scene.note_nil.symm⟩
  · exact ⟨_, rfl⟩
  · exact ⟨[], c.scene.note_nil.symm⟩

end Ready

/-- A move that has the controller run a program takes what it is about from its queue and then runs
the program. -/
theorem step_eq_perform {move : Move ρ} (h : c.program? move = some (job, program)) :
    c.step move = ((c.ready move).perform .silent job program ()).1 := by
  unfold program? at h
  split at h
  · next hactivity =>
    cases h
    simp only [step, start, hactivity, ready]
  · next hactivity =>
    cases hsignals : c.signals with
    | nil => simp [hsignals] at h
    | cons signal rest =>
      simp only [hsignals, List.head?_cons, Option.map_some, Option.some.injEq, Prod.mk.injEq] at h
      obtain ⟨rfl, rfl⟩ := h
      simp only [step, serveSignal, hactivity, hsignals, ready]
  · next hactivity =>
    cases hrequests : c.requests with
    | nil => simp [hrequests] at h
    | cons request rest =>
      simp only [hrequests, List.head?_cons, Option.map_some, Option.some.injEq, Prod.mk.injEq] at h
      obtain ⟨rfl, rfl⟩ := h
      simp only [step, serveRequest, hactivity, hrequests, ready]
  · next hactivity =>
    cases h
    simp only [step, resumeReply, hactivity, ready]
  · next hactivity =>
    cases h
    simp only [step, resumeHandover, hactivity, ready]
  · next hactivity =>
    cases h
    simp only [step, resumeWaking, hactivity, ready]
  · cases h

/-- What serving a program that takes a course makes of a controller. -/
structure Served (job : Job) (course : Course σ) (c after : Controller ρ σ) : Prop where
  screen : after.screen = c.screen
  setting : after.setting = c.setting
  activity : after.activity = course.activity job
  scene : Scene.Follows c.setting.client course c.scene after.scene

/-- What moves make of a controller that serves no program. -/
structure Stays (c after : Controller ρ σ) : Prop where
  screen : after.screen = c.screen
  setting : after.setting = c.setting
  activity : after.activity = c.activity ∨ after.activity = .stopped
  session : after.scene.session = c.scene.session
  sent : after.scene.sent = c.scene.sent
  effects : after.scene.effects = c.scene.effects ∨ after.scene.effects = c.scene.effects.drop 1

/-- A program is served in the same way after something was logged or taken from a queue. -/
theorem perform_of_takes (h : program.Takes c.setting course) (job : Job)
    {before : Controller ρ σ} (hscreen : before.screen = c.screen)
    (hsetting : before.setting = c.setting) {events : List Log.Event}
    (hscene : before.scene = c.scene.note events) :
    Served job course c (before.perform .silent job program ()).1 := by
  obtain ⟨after, hrun, hfollows⟩ := h before.scene
  unfold perform
  rw [hsetting, hrun]
  rw [hscene] at hfollows
  obtain ⟨effects, _ | ⟨call, next⟩⟩ := course
  all_goals exact ⟨hscreen, rfl, rfl, ⟨hfollows.session, hfollows.tornDown, hfollows.sent,
    hfollows.effects⟩⟩

/-- A move that runs a program makes of a controller what the course of the program says. -/
theorem step_of_program {move : Move ρ} (h : c.program? move = some (job, program))
    (htakes : program.Takes c.setting course) : Served job course c (c.step move) := by
  obtain ⟨events, hscene⟩ := c.ready_scene move
  rw [step_eq_perform h]
  exact perform_of_takes htakes job (c.ready_screen move) (c.ready_setting move) hscene

theorem stays_self (c : Controller ρ σ) : Stays c c :=
  ⟨rfl, rfl, .inl rfl, rfl, rfl, .inl rfl⟩

/-- The move is one with which a program may be run. -/
def Move.isTurn : Move ρ → Bool
  | .start | .serveSignal | .serveRequest | .reply _ | .handover _ | .waking => true
  | _ => false

/-- Such a move changes nothing if there is no program to run. -/
theorem step_eq_self {move : Move ρ} (hmove : move.isTurn = true) (h : c.program? move = none) :
    c.step move = c := by
  cases move with
  | start =>
    simp only [step, start]
    split
    · next hactivity => simp [program?, hactivity] at h
    · rfl
  | serveSignal =>
    simp only [step, serveSignal]
    split
    · next hactivity hsignals => simp [program?, hactivity, hsignals] at h
    · rfl
  | serveRequest =>
    simp only [step, serveRequest]
    split
    · next hactivity hrequests => simp [program?, hactivity, hrequests] at h
    · rfl
  | reply reply =>
    simp only [step, resumeReply]
    split
    · next hactivity => simp [program?, hactivity] at h
    · rfl
  | handover handover =>
    simp only [step, resumeHandover]
    split
    · next hactivity => simp [program?, hactivity] at h
    · rfl
  | waking =>
    simp only [step, resumeWaking]
    split
    · next hactivity => simp [program?, hactivity] at h
    · rfl
  | _ => cases hmove

/-- Every other move adds nothing to what is sent or asked for. -/
theorem step_of_no_program {move : Move ρ} (h : c.program? move = none) :
    Stays c (c.step move) := by
  cases move with
  | send request =>
    simp only [step, send]
    split <;> exact ⟨rfl, rfl, .inl rfl, rfl, rfl, .inl rfl⟩
  | notify signal =>
    simp only [step, notify]
    split <;> exact ⟨rfl, rfl, .inl rfl, rfl, rfl, .inl rfl⟩
  | takeEffect => exact ⟨rfl, rfl, .inl rfl, rfl, rfl, .inr rfl⟩
  | signalTeardown => exact ⟨rfl, rfl, .inl rfl, rfl, rfl, .inl rfl⟩
  | tick =>
    simp only [step, tick]
    split <;> exact ⟨rfl, rfl, .inl rfl, rfl, rfl, .inl rfl⟩
  | serveTick =>
    simp only [step, serveTick]
    split
    · unfold Scene.takeTick
      split
      · exact ⟨rfl, rfl, .inl rfl, rfl, rfl, .inl rfl⟩
      · dsimp only
        split
        · exact ⟨rfl, rfl, .inl rfl, by simp, by simp, .inl (by simp)⟩
        · exact ⟨rfl, rfl, .inl rfl, rfl, rfl, .inl rfl⟩
    · exact stays_self c
  | stop =>
    simp only [step, stop]
    split
    · split
      · exact ⟨rfl, rfl, .inr rfl, rfl, rfl, .inl rfl⟩
      · exact ⟨rfl, rfl, .inr rfl, rfl, rfl, .inl rfl⟩
      · exact ⟨rfl, rfl, .inr rfl, rfl, rfl, .inl rfl⟩
      · exact ⟨rfl, rfl, .inr rfl, rfl, rfl, .inl rfl⟩
      · exact stays_self c
      · exact stays_self c
    · exact stays_self c
  | _ =>
    rw [step_eq_self rfl h]
    exact stays_self c

/-! ## Effects of a move -/

/-- The effects that a move adds to those that the host has not taken. -/
def emitted (c : Controller ρ σ) (move : Move ρ) : List Effect :=
  (c.step move).scene.effects.drop c.scene.effects.length

theorem emitted_of_program {move : Move ρ} (h : c.program? move = some (job, program))
    (htakes : program.Takes c.setting course) :
    c.emitted move = if c.scene.tornDown then [] else course.effects := by
  rw [emitted, (step_of_program h htakes).scene.effects, List.drop_left]

theorem emitted_of_no_program {move : Move ρ} (h : c.program? move = none) :
    c.emitted move = [] := by
  rcases (step_of_no_program h).effects with heffects | heffects
  · rw [emitted, heffects, List.drop_length]
  · rw [emitted, heffects, List.drop_eq_nil_iff, List.length_drop]
    omega

/-! ## Runs -/

/-- What holds at first and is kept by every move holds after every run. -/
theorem steps_induction {holds : Controller ρ σ → Prop} (hfirst : holds c)
    (hstep : ∀ c move, holds c → holds (c.step move)) (moves : List (Move ρ)) :
    holds (c.steps moves) := by
  induction moves generalizing c with
  | nil => exact hfirst
  | cons move rest ih => exact ih (hstep c move hfirst)

/-- The controller waits for the reply to the request, which is the last that it sent. -/
structure Awaits (c : Controller ρ σ) (request : Http.Request) : Prop where
  activity : ∃ job next, c.activity = .busy job (.reply next)
  sent : c.scene.sent.getLast? = some request

theorem Awaits.request_eq {request other : Http.Request} (h : c.Awaits request)
    (hother : c.Awaits other) : request = other := by
  have same : some request = some other := by rw [← h.sent, hother.sent]
  exact Option.some.inj same

end Controller

end PanelClient
