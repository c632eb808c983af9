import PanelClient.Proofs.Controller.Errands
import PanelClient.Proofs.Session.Work

/-!
# What a controller retains

A property of the session that all work of a program keeps (`Program.Retains`) is kept by every
controller that runs such programs, whether or not its screen is torn down. It then holds of the
session with which each errand of a run is done (`Controller.Retains.steps`).
-/

namespace PanelClient

variable {ρ σ α β : Type} {holds : Session → Prop}

/-- The work keeps the property. -/
def SessionM.Retains (holds : Session → Prop) (work : SessionM α) : Prop :=
  ∀ session, holds session → holds (work session).session

theorem SessionM.Keeps.retains {work : SessionM α} (h : work.Keeps) : work.Retains holds :=
  fun session hsession => (h session).symm ▸ hsession

namespace Program

/-- All work of the program keeps the property, whatever it is answered. -/
def Retains (holds : Session → Prop) : Program σ α → Prop
  | done _ => True
  | update _ next => next.Retains holds
  | emit _ next => next.Retains holds
  | work change _ next => ∀ session, holds session →
    holds (change session) ∧ (next session).Retains holds
  | exchange _ next => ∀ reply, (next reply).Retains holds
  | handOff _ _ next => ∀ failure, (next failure).Retains holds
  | startCooldown next => next.Retains holds
  | sleep _ next => next.Retains holds
  | crash _ => True

theorem Retains.bind {program : Program σ α} {next : α → Program σ β} (h : program.Retains holds)
    (hnext : ∀ result, (next result).Retains holds) : (program.bind next).Retains holds := by
  induction program with
  | done result => exact hnext result
  | update change rest ih => exact ih h
  | emit effect rest ih => exact ih h
  | work change events rest ih =>
    exact fun session hsession =>
      ⟨(h session hsession).1, ih session (h session hsession).2⟩
  | exchange call rest ih => exact fun reply => ih reply (h reply)
  | handOff name url rest ih => exact fun failure => ih failure (h failure)
  | startCooldown rest ih => exact ih h
  | sleep milliseconds rest ih => exact ih h
  | crash message => exact trivial

theorem retains_onSession {task : SessionM α} (h : task.Retains holds) :
    (onSession task : Program σ α).Retains holds :=
  fun session hsession => ⟨h session hsession, trivial⟩

theorem retains_log (event : Log.Event) : (log event : Program σ Unit).Retains holds :=
  retains_onSession (SessionM.keeps_log event).retains

theorem retains_perform {client : Client} {operation : Operation α}
    (h : ∀ reply, (operation.finish client reply).Retains holds) :
    (perform client operation : Program σ (Outcome α)).Retains holds :=
  fun reply => retains_onSession (h reply)

end Program

/-- The rest of a paused program keeps the property. -/
def Paused.Retains (holds : Session → Prop) : Paused σ → Prop
  | .reply next => ∀ reply, (next reply).Retains holds
  | .handover next => ∀ failure, (next failure).Retains holds
  | .waking next => next.Retains holds

/-- The property still holds when the program waits or is done, of what it waits with too. -/
theorem Program.Retains.advance {program : Program σ Unit} (h : program.Retains holds)
    (setting : Setting) (scene : Scene σ) (hscene : holds scene.session) :
    holds (program.advance setting scene).1.session ∧
      (∀ entry ∈ program.errand? scene.session, holds entry.2) ∧
      ∀ paused, (program.advance setting scene).2 = .paused paused → paused.Retains holds := by
  induction program generalizing scene with
  | update change next ih =>
    have hrest := ih h (scene.update change) (by rwa [Scene.update_session])
    rw [Scene.update_session] at hrest
    exact hrest
  | emit effect next ih =>
    have hrest := ih h (scene.emit effect) (by rwa [Scene.emit_session])
    rw [Scene.emit_session] at hrest
    exact hrest
  | work change events next ih =>
    obtain ⟨hchanged, hnext⟩ := h scene.session hscene
    exact ih scene.session hnext (scene.work change events) hchanged
  | startCooldown next ih => exact ih h (scene.startCountdown setting.cooldownSeconds) hscene
  | exchange | handOff | sleep =>
    refine ⟨hscene, fun entry hentry => ?_, fun paused hpaused => ?_⟩
    · cases hentry
      exact hscene
    · cases hpaused
      exact h
  | _ => exact ⟨hscene, nofun, nofun⟩

namespace Controller

variable {c : Controller ρ σ} {move : Move ρ}

/-- The session has the property, and the program that is paused keeps it. -/
structure Retains (holds : Session → Prop) (c : Controller ρ σ) : Prop where
  session : holds c.scene.session
  paused : ∀ job paused, c.activity = .busy job paused → paused.Retains holds

theorem Retains.step (h : c.Retains holds)
    (hbegins : ∀ input ∈ c.begins move, (c.screen.program input).Retains holds) :
    (c.step move).Retains holds ∧ ∀ entry ∈ c.errands move, holds entry.2 := by
  cases hprogram : c.program? move with
  | some served =>
    obtain ⟨job, program⟩ := served
    have hretains : program.Retains holds := by
      rcases turn_cases hprogram with ⟨input, hinput, -, rfl, -⟩ | ⟨paused, -, hbusy, hresumes⟩
      · exact hbegins input (by rw [hinput]; exact List.mem_cons_self)
      · have hpaused := h.paused job paused hbusy
        cases hresumes with
        | reply reply next => exact hpaused reply
        | handover handover next => exact hpaused handover.failure
        | waking next => exact hpaused
    obtain ⟨events, hscene⟩ := c.ready_scene move
    have hsession : (c.ready move).scene.session = c.scene.session := by rw [hscene]; rfl
    obtain ⟨hafter, herrand, hpaused⟩ := hretains.advance (c.ready move).setting
      (c.ready move).scene (by rw [hsession]; exact h.session)
    rw [errands_of_program hprogram, step_eq_perform hprogram]
    refine ⟨⟨?_, fun other paused hbusy => ?_⟩, fun entry hentry => ?_⟩
    · rcases perform_scene (c.ready move) job program with hsame | ⟨-, hsame⟩ <;>
        rw [hsame] <;> exact hafter
    · rw [perform_activity] at hbusy
      generalize (program.advance _ _).2 = halt at hbusy hpaused
      cases halt with
      | paused rest =>
        cases hbusy
        exact hpaused _ rfl
      | _ => cases hbusy
    · rw [hsession] at herrand
      exact herrand entry (Option.mem_toList.1 hentry)
  | none =>
    have hstays := step_of_no_program hprogram
    rw [errands_of_no_program hprogram]
    refine ⟨⟨hstays.session ▸ h.session, fun job paused hbusy => ?_⟩, nofun⟩
    rcases hstays.activity with hsame | hstopped
    · exact h.paused job paused (hsame ▸ hbusy)
    · rw [hstopped] at hbusy
      cases hbusy

/-- If all programs that are begun in a run keep the property, it holds after the run and whenever
an errand is done. -/
theorem Retains.steps {moves : List (Move ρ)} (h : c.Retains holds)
    (hbegins : ∀ input ∈ c.along begins moves, (c.screen.program input).Retains holds) :
    (c.steps moves).Retains holds ∧ ∀ entry ∈ c.along errands moves, holds entry.2 := by
  induction moves generalizing c with
  | nil => exact ⟨h, nofun⟩
  | cons move rest ih =>
    obtain ⟨hnext, hfirst⟩ := h.step fun input hinput =>
      hbegins input (List.mem_append_left _ hinput)
    obtain ⟨hlast, hrest⟩ := ih hnext fun input hinput => by
      rw [step_screen]
      exact hbegins input (List.mem_append_right _ hinput)
    refine ⟨hlast, fun entry hentry => ?_⟩
    rcases List.mem_append.1 hentry with hmem | hmem
    · exact hfirst entry hmem
    · exact hrest entry hmem

end Controller

end PanelClient
