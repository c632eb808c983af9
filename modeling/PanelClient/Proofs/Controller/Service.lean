import PanelClient.Proofs.Controller.Inputs
import PanelClient.Proofs.Screen.Progress

/-!
# Serving a program

What a program ensures on its own (`Program.Ensures`) holds of a controller that serves it, whatever
else comes in meanwhile (`Controller.Stands`): when an input is begun (`stands_of_begins`), with
every move (`Stands.step`), and over a run (`Stands.steps`). If all programs of a screen keep to a
conduct, so does its controller in every run (`attends_steps`).
-/

namespace PanelClient

variable {ρ σ : Type}

/-- The program that is served has come so far, if it has asked for these effects and was told these
answers. -/
def Scene.progress (scene : Scene σ) (effects : List Effect) (answers : List Answer) :
    Progress σ :=
  ⟨scene.view, scene.session, effects, scene.countdown.generation, answers⟩

/-- If a reply is waited for, the last request that was sent is the one for its call. -/
def Errand.IsSent (client : Client) (scene : Scene σ) : Errand → Prop
  | .exchange call => scene.sent.getLast? = some (client.request scene.session call)
  | _ => True

section Conditions

variable (wait : Errand → Progress σ → Prop) (post : Progress σ → Prop)

/-- The paused program waits for the errand, and it goes on to ensure the conditions. -/
inductive Paused.Leads : Errand → Paused σ → Progress σ → Prop
  | reply {call : Call} {next : Http.Reply → Program σ Unit} {p : Progress σ}
      (hwait : wait (.exchange call) p)
      (hnext : ∀ reply, (next reply).Ensures wait (fun _ => post) (p.told (.reply reply))) :
      Leads (.exchange call) (.reply next) p
  | handover {name url : String} {next : Option String → Program σ Unit} {p : Progress σ}
      (hwait : wait (.handover name url) p)
      (hnext : ∀ failure,
        (next failure).Ensures wait (fun _ => post) (p.told (.handover failure))) :
      Leads (.handover name url) (.handover next) p
  | waking {next : Program σ Unit} {p : Progress σ} (hwait : wait .waking p)
      (hnext : next.Ensures wait (fun _ => post) (p.told .waking)) :
      Leads .waking (.waking next) p

/-- The controller has served a program to its end, where the second condition holds, or up to a
wait, where the first does. -/
def Controller.Stands (effects : List Effect) (answers : List Answer) (c : Controller ρ σ) : Prop :=
  match c.activity with
  | .waiting => post (c.scene.progress effects answers)
  | .busy _ paused => ∃ errand, paused.Leads wait post errand (c.scene.progress effects answers) ∧
      errand.IsSent c.setting.client c.scene
  | _ => False

end Conditions

section Service

variable {wait : Errand → Progress σ → Prop} {post : Progress σ → Prop}

theorem Paused.Leads.holds {errand : Errand} {paused : Paused σ} {p : Progress σ}
    (h : paused.Leads wait post errand p) : wait errand p := by
  cases h <;> assumption

namespace Scene

/-- On a screen that is not torn down, a change of the view is progress. -/
theorem update_progress {scene : Scene σ} (hup : scene.tornDown = false) (change : σ → σ)
    (effects : List Effect) (answers : List Answer) :
    (scene.update change).progress effects answers =
      { scene.progress effects answers with view := change scene.view } := by
  simp [update, hup, progress]

/-- What the screen is to be told with its oldest tick, unless that is of an earlier countdown. -/
def dueTick? (scene : Scene σ) : Option Nat :=
  scene.ticks.head?.bind fun tick =>
    if scene.countdown.accepts tick then some tick.remaining else none

theorem takeTick_eq {scene : Scene σ} (hup : scene.tornDown = false) (onTick : Nat → σ → σ) :
    scene.takeTick onTick =
      { scene with
        view := (scene.dueTick?.map fun remaining => onTick remaining scene.view).getD scene.view
        ticks := scene.ticks.tail } := by
  obtain ⟨view, tornDown, session, countdown, ticks⟩ := scene
  obtain rfl : tornDown = false := hup
  cases ticks with
  | nil => rfl
  | cons tick rest =>
    simp only [takeTick, dueTick?, List.head?_cons, Option.bind_some, List.tail_cons]
    split <;> rfl

@[simp] theorem update_countdown (scene : Scene σ) (change : σ → σ) :
    (scene.update change).countdown = scene.countdown := by
  unfold update; split <;> rfl

@[simp] theorem emit_view (scene : Scene σ) (effect : Effect) :
    (scene.emit effect).view = scene.view := by
  unfold emit; split <;> rfl

@[simp] theorem emit_countdown (scene : Scene σ) (effect : Effect) :
    (scene.emit effect).countdown = scene.countdown := by
  unfold emit; split <;> rfl

theorem startCountdown_countdown (scene : Scene σ) (seconds : Nat) :
    (scene.startCountdown seconds).countdown =
      ⟨scene.countdown.generation + 1, true, some ⟨seconds, 0⟩⟩ := by
  simp only [startCountdown, Countdown.start, Countdown.cancel]
  split <;> rfl

end Scene

/-- The countdown goes on as it was, or it has just been started. -/
def Countdown.Follows (seconds : Nat) (before after : Countdown) : Prop :=
  after = before ∨ before.generation < after.generation ∧
    after = ⟨after.generation, true, some ⟨seconds, 0⟩⟩

theorem Countdown.Follows.trans {seconds : Nat} {first second third : Countdown}
    (h : first.Follows seconds second) (hnext : second.Follows seconds third) :
    first.Follows seconds third := by
  rcases hnext with rfl | ⟨hlater, hfresh⟩
  · exact h
  · refine .inr ⟨?_, hfresh⟩
    rcases h with rfl | ⟨hearlier, -⟩
    · exact hlater
    · exact Nat.lt_trans hearlier hlater

/-- All that a program does to the countdown is to start it. -/
theorem Program.advance_countdown (setting : Setting) (program : Program σ Unit) (scene : Scene σ) :
    scene.countdown.Follows setting.cooldownSeconds
      (program.advance setting scene).1.countdown := by
  induction program generalizing scene with
  | update change next ih =>
    have hrest := ih (scene.update change)
    rw [Scene.update_countdown] at hrest
    exact hrest
  | emit effect next ih =>
    have hrest := ih (scene.emit effect)
    rw [Scene.emit_countdown] at hrest
    exact hrest
  | work change events next ih => exact ih scene.session (scene.work change events)
  | startCooldown next ih =>
    have hstarted : scene.countdown.Follows setting.cooldownSeconds
        (scene.startCountdown setting.cooldownSeconds).countdown := by
      rw [Scene.startCountdown_countdown]
      exact .inr ⟨Nat.lt_succ_self _, rfl⟩
    exact hstarted.trans (ih _)
  | _ => exact .inl rfl

/-- A program does not change the view of a screen that is torn down. -/
theorem Program.advance_view (setting : Setting) (program : Program σ Unit) {scene : Scene σ}
    (htorn : scene.tornDown = true) : (program.advance setting scene).1.view = scene.view := by
  induction program generalizing scene with
  | update change next ih =>
    have hsame : scene.update change = scene := if_pos htorn
    refine Eq.trans ?_ (ih htorn)
    show (next.advance setting (scene.update change)).1.view = _
    rw [hsame]
  | emit effect next ih =>
    have hrest := @ih (scene.emit effect) (by simpa using htorn)
    rw [Scene.emit_view] at hrest
    exact hrest
  | work change events next ih => exact ih scene.session htorn
  | startCooldown next ih => exact @ih (scene.startCountdown setting.cooldownSeconds) htorn
  | _ => rfl

namespace Controller

variable {c : Controller ρ σ} {move : Move ρ} {job : Job} {program : Program σ Unit}
  {effects : List Effect} {answers : List Answer}

/-- A controller that has served a program which ensures the conditions stands as they say. -/
theorem stands_of_perform (hup : c.scene.tornDown = false)
    (h : program.Ensures wait (fun _ => post) (c.scene.progress effects answers)) :
    (c.perform .silent job program ()).1.Stands wait post
      (effects ++ program.asks c.scene.session) answers := by
  -- along the program: what it does at once is made part of the scene and of the effects so far
  induction program generalizing c effects with
  | done result => simpa [Stands, perform, Program.run, Program.asks] using h
  | update change next ih =>
    have hnext := @ih { c with scene := c.scene.update change } effects (by simp [hup])
      (by rw [Scene.update_progress hup]; exact h)
    rw [Scene.update_session] at hnext
    exact hnext
  | emit effect next ih =>
    have hnext := @ih { c with scene := c.scene.emit effect } (effects ++ [effect]) (by simp [hup])
      (by
        simp only [Scene.progress, Scene.emit_view, Scene.emit_session, Scene.emit_countdown]
        exact h)
    rw [Scene.emit_session, List.append_assoc] at hnext
    exact hnext
  | work change events next ih =>
    exact @ih c.scene.session { c with scene := c.scene.work change events } effects hup h
  | exchange call next =>
    rw [Program.asks, List.append_nil]
    exact ⟨.exchange call, .reply h.1 h.2, List.getLast?_concat ..⟩
  | handOff name url next =>
    rw [Program.asks, List.append_nil]
    exact ⟨.handover name url, .handover h.1 h.2, trivial⟩
  | startCooldown next ih =>
    refine @ih { c with scene := c.scene.startCountdown c.setting.cooldownSeconds } effects hup ?_
    simp only [Scene.progress, Scene.startCountdown_countdown]
    exact h
  | sleep milliseconds next =>
    rw [Program.asks, List.append_nil]
    exact ⟨.waking, .waking h.1 h.2, trivial⟩
  | crash message => exact h.elim

/-- What a program that is being served is told with a move. -/
def told (c : Controller ρ σ) (move : Move ρ) : List Answer :=
  match move, c.activity with
  | .reply reply, .busy _ (.reply _) => [.reply reply]
  | .handover handover, .busy _ (.handover _) => [.handover handover.failure]
  | .waking, .busy _ (.waking _) => [.waking]
  | _, _ => []

theorem told_of_no_program (h : c.program? move = none) : c.told move = [] := by
  unfold program? at h
  unfold told
  split
  · next hactivity => simp [hactivity] at h
  · next hactivity => simp [hactivity] at h
  · next hactivity => simp [hactivity] at h
  · rfl

/-- A paused program that goes on is told what it waited for, and ensures what it led to. -/
theorem Resumes.ensures {paused : Paused σ} (h : Resumes move paused program)
    (hbusy : c.activity = .busy job paused) {errand : Errand}
    (hleads : paused.Leads wait post errand (c.scene.progress effects answers)) :
    program.Ensures wait (fun _ => post)
      (c.scene.progress effects (answers ++ c.told move)) := by
  cases h with
  | reply reply next =>
    simp only [told, hbusy]
    cases hleads with
    | reply hwait hnext => exact hnext reply
  | handover handover next =>
    simp only [told, hbusy]
    cases hleads with
    | handover hwait hnext => exact hnext handover.failure
  | waking next =>
    simp only [told, hbusy]
    cases hleads with
    | waking hwait hnext => exact hnext

/-! ## Moves without a turn -/

/-- The numbers that the screen is told of with a move. -/
def shown (c : Controller ρ σ) (move : Move ρ) : List Nat :=
  match move, c.activity with
  | .serveTick, .waiting => if c.scene.tornDown then [] else c.scene.dueTick?.toList
  | _, _ => []

theorem shown_of_not_waiting (h : c.activity ≠ .waiting) : c.shown move = [] := by
  unfold shown
  split
  · next hwaiting => exact absurd hwaiting h
  · rfl

/-- The screen is told nothing when it is torn down. -/
theorem shown_of_tornDown (h : (c.step move).scene.tornDown = true) : c.shown move = [] := by
  unfold shown
  split
  · next hwaiting =>
    have htorn : c.scene.tornDown = true := by
      simpa only [step, serveTick, hwaiting, Scene.takeTick_tornDown] using h
    rw [if_pos htorn]
  · rfl

/-- The view of a screen that is torn down stays as it is. -/
theorem view_of_tornDown (h : (c.step move).scene.tornDown = true) :
    (c.step move).scene.view = c.scene.view := by
  cases hprogram : c.program? move with
  | some served =>
    obtain ⟨job, program⟩ := served
    obtain ⟨events, hscene⟩ := c.ready_scene move
    have hview : (c.ready move).scene.view = c.scene.view := by rw [hscene]; rfl
    rw [step_eq_perform hprogram] at h ⊢
    rw [← hview]
    rcases perform_scene (c.ready move) job program with hsame | ⟨-, hsame⟩
    all_goals
      rw [hsame] at h ⊢
      exact program.advance_view _ ((program.advance_tornDown _ _).symm.trans h)
  | none =>
    have hdrifts := drifts_of_no_program hprogram
    generalize (c.step move).scene = after at h hdrifts
    cases hdrifts with
    | takeTick =>
      have htorn : c.scene.tornDown = true := by simpa using h
      simp only [Scene.takeTick]
      split
      · rfl
      · split
        · rw [Scene.update, if_pos htorn]
        · rfl
    | _ => rfl

/-- What moves that run no program make of a controller that is not torn down. -/
structure Rests (c : Controller ρ σ) (shown : List Nat) (after : Controller ρ σ) : Prop where
  screen : after.screen = c.screen
  setting : after.setting = c.setting
  activity : after.activity = c.activity
  session : after.scene.session = c.scene.session
  generation : after.scene.countdown.generation = c.scene.countdown.generation
  sent : after.scene.sent = c.scene.sent
  view : after.scene.view =
    shown.foldl (fun view remaining => c.screen.onTick remaining view) c.scene.view

theorem rests_self (c : Controller ρ σ) : Rests c [] c :=
  ⟨rfl, rfl, rfl, rfl, rfl, rfl, rfl⟩

theorem rests_of_no_program (h : c.program? move = none)
    (hup : (c.step move).scene.tornDown = false) : Rests c (c.shown move) (c.step move) := by
  cases move with
  | send request =>
    simp only [step, send]
    split <;> exact ⟨rfl, rfl, rfl, rfl, rfl, rfl, rfl⟩
  | notify signal =>
    simp only [step, notify]
    split <;> exact ⟨rfl, rfl, rfl, rfl, rfl, rfl, rfl⟩
  | takeEffect => exact ⟨rfl, rfl, rfl, rfl, rfl, rfl, rfl⟩
  | signalTeardown => cases hup
  | serveTick =>
    simp only [step, serveTick]
    split
    · next hwaiting =>
      rw [Scene.takeTick_eq (up_of_step hup)]
      refine ⟨rfl, rfl, rfl, rfl, rfl, rfl, ?_⟩
      simp only [shown, hwaiting, up_of_step hup, Bool.false_eq_true, if_false]
      cases c.scene.dueTick? <;> rfl
    · next hother =>
      rw [shown_of_not_waiting hother]
      exact rests_self c
  | tick =>
    simp only [step, tick, Scene.tick, Countdown.tick]
    split
    · cases c.scene.countdown.timer <;> exact ⟨rfl, rfl, rfl, rfl, rfl, rfl, rfl⟩
    · exact rests_self c
  | stop =>
    simp only [step, stop, up_of_step hup, Bool.false_eq_true, if_false]
    exact rests_self c
  | _ =>
    rw [step_eq_self rfl h]
    exact rests_self c

theorem Rests.stands {after : Controller ρ σ} (h : Rests c (c.shown move) after)
    {paused : Paused σ} (hbusy : c.activity = .busy job paused)
    (hstands : c.Stands wait post effects answers) : after.Stands wait post effects answers := by
  have hview : after.scene.view = c.scene.view := by
    rw [h.view, shown_of_not_waiting (by simp [hbusy])]
    rfl
  have hprogress : after.scene.progress effects answers = c.scene.progress effects answers := by
    rw [Scene.progress, hview, h.session, h.generation, Scene.progress]
  simp only [Stands, hbusy] at hstands
  obtain ⟨errand, hleads, hsent⟩ := hstands
  simp only [Stands, h.activity, hbusy, hprogress]
  refine ⟨errand, hleads, ?_⟩
  cases errand with
  | exchange call =>
    rw [Errand.IsSent, h.sent, h.session, h.setting]
    exact hsent
  | _ => trivial

/-! ## Every move -/

/-- With a turn the controller comes to stand as the program that it runs ensures. -/
theorem stands_of_program (hprogram : c.program? move = some (job, program))
    (hup : c.scene.tornDown = false)
    (h : program.Ensures wait (fun _ => post) (c.scene.progress effects answers)) :
    (c.step move).Stands wait post (effects ++ c.emitted move) answers := by
  obtain ⟨events, hscene⟩ := c.ready_scene move
  have hemitted : c.emitted move = program.asks (c.ready move).scene.session := by
    rw [emitted_eq_asked, asked, hprogram, hscene, hup]
    rfl
  rw [step_eq_perform hprogram, hemitted]
  refine stands_of_perform ?_ ?_
  · rw [hscene]
    exact hup
  · rw [hscene]
    exact h

theorem stands_of_begins {input : Input ρ} (hbegins : c.begins move = [input])
    (hup : c.scene.tornDown = false)
    (h : (c.screen.program input).Ensures wait (fun _ => post) (c.scene.progress [] [])) :
    (c.step move).Stands wait post (c.emitted move) [] := by
  cases hprogram : c.program? move with
  | none => simp [begins_of_no_program hprogram] at hbegins
  | some served =>
    obtain ⟨job, program⟩ := served
    rcases turn_cases hprogram with ⟨other, hother, -, rfl, -⟩ | ⟨paused, hnone, -⟩
    · obtain rfl : input = other := by simpa [hbegins] using hother
      exact stands_of_program hprogram hup h
    · simp [hbegins] at hnone

/-- Whatever move comes while a program is served, the controller stands as the program ensures. -/
theorem Stands.step (h : c.Stands wait post effects answers) {paused : Paused σ}
    (hbusy : c.activity = .busy job paused) (hup : (c.step move).scene.tornDown = false) :
    (c.step move).Stands wait post (effects ++ c.emitted move) (answers ++ c.told move) := by
  cases hprogram : c.program? move with
  | none =>
    rw [emitted_of_no_program hprogram, told_of_no_program hprogram, List.append_nil,
      List.append_nil]
    exact (rests_of_no_program hprogram hup).stands hbusy h
  | some served =>
    obtain ⟨other, program⟩ := served
    -- while a program is served no other can be begun, so the turn resumes it
    rcases turn_cases hprogram with
      ⟨input, -, -, -, ⟨-, hfresh⟩ | ⟨-, hwaiting⟩⟩ | ⟨resumed, -, hresumed, hresumes⟩
    · rw [hbusy] at hfresh
      cases hfresh
    · rw [hbusy] at hwaiting
      cases hwaiting
    · simp only [Stands, hresumed] at h
      obtain ⟨errand, hleads, -⟩ := h
      exact stands_of_program hprogram (up_of_step hup) (hresumes.ensures hresumed hleads)

/-- A turn leaves the countdown alone or starts it, unless its program breaks off. -/
theorem countdown_of_program (hprogram : c.program? move = some (job, program))
    (hrunning : (c.step move).isRunning = true) :
    c.scene.countdown.Follows c.setting.cooldownSeconds (c.step move).scene.countdown := by
  obtain ⟨events, hscene⟩ := c.ready_scene move
  have hfollows := program.advance_countdown (c.ready move).setting (c.ready move).scene
  rw [step_eq_perform hprogram] at hrunning ⊢
  rcases perform_scene (c.ready move) job program with hsame | ⟨hstopped, -⟩
  · rw [hsame]
    rw [ready_setting, hscene] at hfollows ⊢
    exact hfollows
  · rw [hrunning] at hstopped
    cases hstopped

/-- A countdown that gets another generation with a move has just been started. -/
theorem countdown_of_generation_ne (hup : (c.step move).scene.tornDown = false)
    (hrunning : (c.step move).isRunning = true)
    (h : (c.step move).scene.countdown.generation ≠ c.scene.countdown.generation) :
    (c.step move).scene.countdown =
      ⟨(c.step move).scene.countdown.generation, true, some ⟨c.setting.cooldownSeconds, 0⟩⟩ := by
  cases hprogram : c.program? move with
  | none => exact absurd (rests_of_no_program hprogram hup).generation h
  | some served =>
    rcases countdown_of_program hprogram hrunning with hsame | ⟨-, hfresh⟩
    · exact absurd (congrArg Countdown.generation hsame) h
    · exact hfresh

/-! ## Runs -/

/-- A program is being served before each of the moves. -/
def Serves : Controller ρ σ → List (Move ρ) → Prop
  | _, [] => True
  | c, move :: rest => (∃ job paused, c.activity = .busy job paused) ∧ Serves (c.step move) rest

theorem serves_concat {moves : List (Move ρ)} (h : c.Serves (moves ++ [move])) :
    c.Serves moves ∧ ∃ job paused, (c.steps moves).activity = .busy job paused := by
  induction moves generalizing c with
  | nil => exact ⟨trivial, h.1⟩
  | cons first rest ih => exact ⟨⟨h.1, (ih h.2).1⟩, (ih h.2).2⟩

theorem up_of_steps {moves : List (Move ρ)} (h : (c.steps moves).scene.tornDown = false) :
    c.scene.tornDown = false := by
  induction moves generalizing c with
  | nil => exact h
  | cons move rest ih => exact up_of_step (ih h)

theorem Stands.steps {moves : List (Move ρ)} (h : c.Stands wait post effects answers)
    (hserves : c.Serves moves) (hup : (c.steps moves).scene.tornDown = false) :
    (c.steps moves).Stands wait post (effects ++ c.along emitted moves)
      (answers ++ c.along told moves) := by
  induction moves generalizing c effects answers with
  | nil =>
    simp only [along, List.append_nil]
    exact h
  | cons move rest ih =>
    obtain ⟨⟨job, paused, hbusy⟩, hrest⟩ := hserves
    simp only [along, ← List.append_assoc]
    exact ih (h.step hbusy (up_of_steps hup)) hrest hup

end Controller

end Service

/-! ## Screens that keep to a conduct -/

/-- What is promised of a screen: of its view whenever no program is served, and of an input's
program, given the progress that it begins with, whenever it waits and when it is done. -/
structure Conduct (ρ σ : Type) where
  idle : σ → Prop
  wait : Input ρ → Progress σ → Errand → Progress σ → Prop
  post : Input ρ → Progress σ → Progress σ → Prop

/-- The screen keeps to the conduct, whatever it is answered. -/
structure Screen.Keeps (conduct : Conduct ρ σ) (screen : Screen ρ σ) : Prop where
  initial : conduct.idle screen.initial
  onTick : ∀ remaining view, conduct.idle view → conduct.idle (screen.onTick remaining view)
  program : ∀ input first, first.effects = [] → first.answers = [] → conduct.idle first.view →
    (screen.program input).Ensures (conduct.wait input first)
      (fun _ p => conduct.post input first p ∧ conduct.idle p.view) first

namespace Controller

/-- The controller is as the conduct says, if the input is the last that was begun. -/
def Attends (conduct : Conduct ρ σ) (begun : Option (Input ρ)) (c : Controller ρ σ) : Prop :=
  match c.activity with
  | .fresh | .waiting => conduct.idle c.scene.view
  | .busy .. => ∃ input ∈ begun, ∃ first effects answers,
      c.Stands (conduct.wait input first)
        (fun p => conduct.post input first p ∧ conduct.idle p.view) effects answers
  | .stopped | .broken _ => False

section Conduct

variable {conduct : Conduct ρ σ} {c : Controller ρ σ} {move : Move ρ} {begun : Option (Input ρ)}

@[simp] theorem step_screen (c : Controller ρ σ) (move : Move ρ) :
    (c.step move).screen = c.screen := by
  cases hprogram : c.program? move with
  | none => exact (step_of_no_program hprogram).screen
  | some served => rw [step_eq_perform hprogram, perform_screen, ready_screen]

@[simp] theorem step_setting (c : Controller ρ σ) (move : Move ρ) :
    (c.step move).setting = c.setting := by
  cases hprogram : c.program? move with
  | none => exact (step_of_no_program hprogram).setting
  | some served => rw [step_eq_perform hprogram, perform_setting, ready_setting]

@[simp] theorem steps_screen (c : Controller ρ σ) (moves : List (Move ρ)) :
    (c.steps moves).screen = c.screen := by
  induction moves generalizing c with
  | nil => rfl
  | cons move rest ih => exact (ih (c.step move)).trans (step_screen c move)

@[simp] theorem steps_setting (c : Controller ρ σ) (moves : List (Move ρ)) :
    (c.steps moves).setting = c.setting := by
  induction moves generalizing c with
  | nil => rfl
  | cons move rest ih => exact (ih (c.step move)).trans (step_setting c move)

theorem Stands.attends {input : Input ρ} {first : Progress σ} {effects : List Effect}
    {answers : List Answer}
    (h : c.Stands (conduct.wait input first)
      (fun p => conduct.post input first p ∧ conduct.idle p.view) effects answers) :
    c.Attends conduct (some input) := by
  unfold Attends
  split
  · next hactivity => simp [Stands, hactivity] at h
  · next hactivity =>
    simp only [Stands, hactivity] at h
    exact h.2
  · exact ⟨input, rfl, first, effects, answers, h⟩
  · next hactivity => simp [Stands, hactivity] at h
  · next hactivity => simp [Stands, hactivity] at h

theorem Attends.isRunning (h : c.Attends conduct begun) : c.isRunning = true := by
  unfold Attends at h
  unfold Controller.isRunning
  cases hactivity : c.activity <;> simp [hactivity, Activity.isRunning] at h ⊢

theorem Attends.step (h : c.Attends conduct begun) (hscreen : c.screen.Keeps conduct)
    (hup : (c.step move).scene.tornDown = false) :
    (c.step move).Attends conduct ((c.begins move).getLast?.or begun) := by
  cases hprogram : c.program? move with
  | some served =>
    obtain ⟨job, program⟩ := served
    rcases turn_cases hprogram with
      ⟨input, hbegins, -, -, hactivity⟩ | ⟨paused, hbegins, hbusy, -⟩
    · have hidle : conduct.idle c.scene.view := by
        rcases hactivity with ⟨-, hactivity⟩ | ⟨-, hactivity⟩ <;>
          simpa only [Attends, hactivity] using h
      rw [hbegins]
      exact (stands_of_begins hbegins (up_of_step hup)
        (hscreen.program input (c.scene.progress [] []) rfl rfl hidle)).attends
    · simp only [Attends, hbusy] at h
      obtain ⟨input, hbegun, first, effects, answers, hstands⟩ := h
      rw [hbegins, Option.mem_def.1 hbegun]
      exact (hstands.step hbusy hup).attends
  | none =>
    have hrests := rests_of_no_program hprogram hup
    rw [begins_of_no_program hprogram]
    cases hactivity : c.activity with
    | busy job paused =>
      simp only [Attends, hactivity] at h
      obtain ⟨input, hbegun, first, effects, answers, hstands⟩ := h
      simp only [Attends, hrests.activity, hactivity]
      exact ⟨input, hbegun, first, effects, answers, hrests.stands hactivity hstands⟩
    | fresh | waiting =>
      simp only [Attends, hactivity] at h
      simp only [Attends, hrests.activity, hactivity]
      rw [hrests.view]
      exact List.foldlRecOn _ _ h fun view hview remaining _ => hscreen.onTick remaining view hview
    | _ => simp [Attends, hactivity] at h

theorem Attends.steps {moves : List (Move ρ)} (h : c.Attends conduct begun)
    (hscreen : c.screen.Keeps conduct) (hup : (c.steps moves).scene.tornDown = false) :
    (c.steps moves).Attends conduct ((c.along begins moves).getLast?.or begun) := by
  induction moves generalizing c begun with
  | nil => exact h
  | cons move rest ih =>
    rw [along, List.getLast?_append, Option.or_assoc]
    exact ih (h.step hscreen (up_of_steps hup)) (by rw [step_screen]; exact hscreen) hup

/-- In every run of a screen that keeps to a conduct, its controller is as the conduct says. -/
theorem attends_steps {screen : Screen ρ σ} (hscreen : screen.Keeps conduct) (setting : Setting)
    (session : Session) {moves : List (Move ρ)}
    (hup : ((opening screen setting session).steps moves).scene.tornDown = false) :
    ((opening screen setting session).steps moves).Attends conduct
      ((opening screen setting session).along begins moves).getLast? := by
  have hfirst : (opening screen setting session).Attends conduct none := hscreen.initial
  have hlast := hfirst.steps hscreen hup
  rw [Option.or_none] at hlast
  exact hlast

end Conduct

end Controller

end PanelClient
