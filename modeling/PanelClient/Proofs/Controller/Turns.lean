import PanelClient.Proofs.Controller.Course

/-!
# Turns of a controller

A turn is a move with which the controller runs a program. It either begins an input or goes on with
the one that is being served (`turn_cases`). What a turn changes apart from the scene is said by how
far the program has come; this holds for the programs of any screen. What happens in the course of a
run, move by move, is gathered by `along`.
-/

namespace PanelClient

variable {ρ σ α : Type}

/-- What a controller serves. -/
inductive Input (ρ : Type) where
  /-- The first load of the screen. -/
  | load
  | signal (signal : Lifecycle)
  | request (request : ρ)

namespace Input

def signal? : Input ρ → Option Lifecycle
  | signal taken => some taken
  | _ => none

def request? : Input ρ → Option ρ
  | request taken => some taken
  | _ => none

/-- What the program of the input is run for. -/
def job : Input ρ → Job
  | load => .load
  | _ => .input

end Input

/-- What a screen does on an input. -/
def Screen.program (screen : Screen ρ σ) : Input ρ → Program σ Unit
  | .load => screen.load
  | .signal signal => screen.onLifecycle signal
  | .request request => screen.handle request

namespace Scene

variable (scene : Scene σ) (onTick : Nat → σ → σ)

@[simp] theorem takeTick_effects : (scene.takeTick onTick).effects = scene.effects := by
  unfold takeTick
  split
  · rfl
  · dsimp only
    split <;> simp

@[simp] theorem takeTick_tornDown : (scene.takeTick onTick).tornDown = scene.tornDown := by
  unfold takeTick
  split
  · rfl
  · dsimp only
    split <;> simp

end Scene

/-! ## How far a program comes on its own -/

namespace Halt

/-- What a controller is doing when the program that it ran for a job has come so far. -/
def activity (job : Job) : Halt σ → Activity σ
  | finished => .waiting
  | paused program => .busy job program
  | crashed message => .broken message

def isFinished : Halt σ → Bool
  | finished => true
  | _ => false

end Halt

namespace Program

/-- The effects that a program asks for before it waits or is done. -/
def asks : Program σ Unit → Session → List Effect
  | done _, _ => []
  | update _ next, session => next.asks session
  | emit effect next, session => effect :: next.asks session
  | work change _ next, session => (next session).asks (change session)
  | exchange _ _, _ => []
  | handOff _ _ _, _ => []
  | startCooldown next, session => next.asks session
  | sleep _ _, _ => []
  | crash _, _ => []

variable (setting : Setting) (program : Program σ Unit) (scene : Scene σ)

@[simp] theorem advance_tornDown :
    (program.advance setting scene).1.tornDown = scene.tornDown := by
  induction program generalizing scene with
  | update change next ih => exact (ih _).trans (scene.update_tornDown change)
  | emit effect next ih => exact (ih _).trans (scene.emit_tornDown effect)
  | work change events next ih => exact ih _ _
  | startCooldown next ih => exact ih _
  | _ => rfl

/-- The effects that a program asks for come after those that the host has not taken yet. -/
theorem advance_effects :
    (program.advance setting scene).1.effects =
      scene.effects ++ if scene.tornDown then [] else program.asks scene.session := by
  induction program generalizing scene with
  | update change next ih =>
    have hrest := ih (scene.update change)
    simp only [Scene.update_effects, Scene.update_tornDown, Scene.update_session] at hrest
    exact hrest
  | emit effect next ih =>
    have hrest := ih (scene.emit effect)
    simp only [Scene.emit_effects, Scene.emit_tornDown, Scene.emit_session] at hrest
    refine hrest.trans ?_
    cases scene.tornDown <;> simp [asks]
  | work change events next ih => exact ih scene.session (scene.work change events)
  | startCooldown next ih => exact ih (scene.startCountdown setting.cooldownSeconds)
  | _ =>
    show scene.effects = scene.effects ++ if scene.tornDown then [] else []
    rw [ite_self, List.append_nil]

end Program

namespace Controller

/-! ## What is observed of a run -/

/-- What is observed of each move of a run, in order. -/
def along (observe : Controller ρ σ → Move ρ → List α) (c : Controller ρ σ) :
    List (Move ρ) → List α
  | [] => []
  | move :: rest => observe c move ++ along observe (c.step move) rest

theorem along_append (observe : Controller ρ σ → Move ρ → List α) (c : Controller ρ σ)
    (moves more : List (Move ρ)) :
    c.along observe (moves ++ more) =
      c.along observe moves ++ (c.steps moves).along observe more := by
  induction moves generalizing c with
  | nil => rfl
  | cons move rest ih =>
    simp only [List.cons_append, along, ih, List.append_assoc]
    rfl

theorem steps_append (c : Controller ρ σ) (moves more : List (Move ρ)) :
    c.steps (moves ++ more) = (c.steps moves).steps more :=
  List.foldl_append ..

theorem steps_concat (c : Controller ρ σ) (moves : List (Move ρ)) (move : Move ρ) :
    c.steps (moves ++ [move]) = (c.steps moves).step move :=
  c.steps_append moves [move]

/-- The input that the host hands over with a move, if it is told that it was taken. -/
def accepts (c : Controller ρ σ) : Move ρ → List (Input ρ)
  | .send request => if (c.send request).2 then [.request request] else []
  | .notify signal => if (c.notify signal).2 then [.signal signal] else []
  | _ => []

/-- The input that the controller turns to with a move. -/
def begins (c : Controller ρ σ) (move : Move ρ) : List (Input ρ) :=
  match move, c.activity with
  | .start, .fresh => [.load]
  | .serveSignal, .waiting => (c.signals.head?.map .signal).toList
  | .serveRequest, .waiting => (c.requests.head?.map .request).toList
  | _, _ => []

/-- The paused program goes on with the move as the other program. -/
inductive Resumes : Move ρ → Paused σ → Program σ Unit → Prop
  | reply (reply : Http.Reply) (next : Http.Reply → Program σ Unit) :
      Resumes (.reply reply) (.reply next) (next reply)
  | handover (handover : Handover) (next : Option String → Program σ Unit) :
      Resumes (.handover handover) (.handover next) (next handover.failure)
  | waking (next : Program σ Unit) : Resumes .waking (.waking next) next

/-! ## Turns -/

section Perform

variable (c : Controller ρ σ) (job : Job) (program : Program σ Unit)

@[simp] theorem perform_screen : (c.perform .silent job program ()).1.screen = c.screen := by
  unfold perform; split <;> rfl

@[simp] theorem perform_setting : (c.perform .silent job program ()).1.setting = c.setting := by
  unfold perform; split <;> rfl

@[simp] theorem perform_requests : (c.perform .silent job program ()).1.requests = c.requests := by
  unfold perform; split <;> rfl

@[simp] theorem perform_signals : (c.perform .silent job program ()).1.signals = c.signals := by
  unfold perform; split <;> rfl

@[simp] theorem perform_submitted :
    (c.perform .silent job program ()).1.submitted = c.submitted := by
  unfold perform; split <;> rfl

/-- What the controller is doing after a turn. -/
theorem perform_activity :
    (c.perform .silent job program ()).1.activity =
      (program.advance c.setting c.scene).2.activity job := by
  unfold perform Program.advance
  split <;> next hrun => rw [hrun]; rfl

/-- An input is processed with the turn that is the last of its program. -/
theorem perform_processed :
    (c.perform .silent job program ()).1.processed =
      c.processed + if (program.advance c.setting c.scene).2.isFinished then 1 else 0 := by
  unfold perform Program.advance
  split <;> next hrun => rw [hrun]; rfl

/-- A turn does to the scene what its program does. A program that breaks off closes the scene, and
the controller runs no longer. -/
theorem perform_scene :
    (c.perform .silent job program ()).1.scene = (program.advance c.setting c.scene).1 ∨
      (c.perform .silent job program ()).1.isRunning = false ∧
        (c.perform .silent job program ()).1.scene =
          (program.advance c.setting c.scene).1.close := by
  unfold perform Program.advance
  split
  · next hrun => rw [hrun]; exact .inl rfl
  · next hrun => rw [hrun]; exact .inl rfl
  · next hrun => rw [hrun]; exact .inr ⟨rfl, rfl⟩

end Perform

section Turns

variable {c : Controller ρ σ} {move : Move ρ} {job : Job} {program : Program σ Unit}

/-- A turn begins with an input, the load first of all, or it goes on with a paused program. -/
theorem turn_cases (h : c.program? move = some (job, program)) :
    (∃ input, c.begins move = [input] ∧ job = input.job ∧ program = c.screen.program input ∧
        (input = .load ∧ c.activity = .fresh ∨ input ≠ .load ∧ c.activity = .waiting)) ∨
      ∃ paused, c.begins move = [] ∧ c.activity = .busy job paused ∧
        Resumes move paused program := by
  unfold program? at h
  split at h
  · next hactivity =>
    cases h
    exact .inl ⟨.load, by simp only [begins, hactivity], rfl, rfl, .inl ⟨rfl, hactivity⟩⟩
  · next hactivity =>
    obtain ⟨signal, hsignal, hprogram⟩ := Option.map_eq_some_iff.1 h
    cases hprogram
    exact .inl ⟨.signal signal, by simp [begins, hactivity, hsignal], rfl, rfl,
      .inr ⟨nofun, hactivity⟩⟩
  · next hactivity =>
    obtain ⟨request, hrequest, hprogram⟩ := Option.map_eq_some_iff.1 h
    cases hprogram
    exact .inl ⟨.request request, by simp [begins, hactivity, hrequest], rfl, rfl,
      .inr ⟨nofun, hactivity⟩⟩
  · next hactivity =>
    cases h
    exact .inr ⟨_, rfl, hactivity, .reply _ _⟩
  · next hactivity =>
    cases h
    exact .inr ⟨_, rfl, hactivity, .handover _ _⟩
  · next hactivity =>
    cases h
    exact .inr ⟨_, rfl, hactivity, .waking _⟩
  · cases h

/-- Only a turn begins with an input. -/
theorem begins_of_no_program (h : c.program? move = none) : c.begins move = [] := by
  unfold program? at h
  unfold begins
  split
  · next hactivity => simp [hactivity] at h
  · next hactivity =>
    simp only [hactivity, Option.map_eq_none_iff] at h
    rw [h]
    rfl
  · next hactivity =>
    simp only [hactivity, Option.map_eq_none_iff] at h
    rw [h]
    rfl
  · rfl

/-- The inputs that wait are those that the controller turns to, and those that go on waiting. -/
theorem ready_queues (h : c.program? move = some (job, program)) :
    c.requests = (c.begins move).filterMap Input.request? ++ (c.ready move).requests ∧
      c.signals = (c.begins move).filterMap Input.signal? ++ (c.ready move).signals := by
  unfold program? at h
  split at h
  · next hactivity => simp [begins, hactivity, ready, log, Input.request?, Input.signal?]
  · next hactivity =>
    cases hsignals : c.signals with
    | nil => simp [hsignals] at h
    | cons signal rest =>
      simp [begins, hactivity, hsignals, ready, log, Input.request?, Input.signal?]
  · next hactivity =>
    cases hrequests : c.requests with
    | nil => simp [hrequests] at h
    | cons request rest =>
      simp [begins, hactivity, hrequests, ready, log, Input.request?, Input.signal?]
  · exact ⟨rfl, rfl⟩
  · exact ⟨rfl, rfl⟩
  · exact ⟨rfl, rfl⟩
  · cases h

/-- What can become of a scene with a move that runs no program. -/
inductive Drifts (onTick : Nat → σ → σ) (scene : Scene σ) : Scene σ → Prop
  | same : Drifts onTick scene scene
  | takeEffect : Drifts onTick scene scene.takeEffect
  | tearDown : Drifts onTick scene { scene with tornDown := true }
  | takeTick : Drifts onTick scene (scene.takeTick onTick)
  | tick : Drifts onTick scene scene.tick
  | close (log : List Log.Event) : Drifts onTick scene (Scene.close { scene with log })

theorem drifts_of_no_program (h : c.program? move = none) :
    Drifts c.screen.onTick c.scene (c.step move).scene := by
  cases move with
  | send request =>
    simp only [step, send]
    split <;> exact .same
  | notify signal =>
    simp only [step, notify]
    split <;> exact .same
  | takeEffect => exact .takeEffect
  | signalTeardown => exact .tearDown
  | serveTick =>
    simp only [step, serveTick]
    split
    · exact .takeTick
    · exact .same
  | tick =>
    simp only [step, tick]
    split
    · exact .tick
    · exact .same
  | stop =>
    simp only [step, stop]
    split
    · split <;> first | exact .close _ | exact .same
    · exact .same
  | _ =>
    rw [step_eq_self rfl h]
    exact .same

/-- A screen that is torn down stays so. -/
theorem up_of_step (h : (c.step move).scene.tornDown = false) : c.scene.tornDown = false := by
  cases hprogram : c.program? move with
  | some served =>
    obtain ⟨job, program⟩ := served
    obtain ⟨events, hscene⟩ := c.ready_scene move
    rw [step_eq_perform hprogram] at h
    have hsame : (program.advance (c.ready move).setting (c.ready move).scene).1.tornDown =
        false := by
      rcases perform_scene (c.ready move) job program with heq | ⟨-, heq⟩ <;>
        rw [heq] at h <;> exact h
    rw [Program.advance_tornDown, hscene] at hsame
    exact hsame
  | none =>
    have hdrifts := drifts_of_no_program hprogram
    generalize (c.step move).scene = after at h hdrifts
    cases hdrifts with
    | tearDown => cases h
    | takeTick => simpa using h
    | _ => exact h

theorem tornDown_step (h : c.scene.tornDown = true) (move : Move ρ) :
    (c.step move).scene.tornDown = true := by
  cases hup : (c.step move).scene.tornDown with
  | true => rfl
  | false => cases h.symm.trans (up_of_step hup)

end Turns

end Controller

end PanelClient
