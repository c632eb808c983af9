import PanelClient.Proofs.Controller.Service

/-!
# What is left of a countdown

A countdown that was started with `n` seconds has the numbers `n, n - 1, …, 0` to be shown
(`Countdown.numbers`). Those that were not shown yet are with the ticks that wait, unless these are
of an earlier start, and with the timer (`Scene.outstanding`). A tick of the timer moves a number
from one to the other, and serving a tick takes the first away.
-/

namespace PanelClient

variable {ρ σ : Type}

namespace Countdown

/-- The numbers of a countdown, in the order in which they are to be shown. -/
def numbers (seconds : Nat) : List Nat := (List.range (seconds + 1)).reverse

theorem numbers_succ (seconds : Nat) :
    numbers (seconds + 1) = (seconds + 1) :: numbers seconds := by
  rw [numbers, List.range_succ, List.reverse_append]
  rfl

/-- What the timer has still to report. -/
def unreported (countdown : Countdown) : List Nat :=
  match countdown.timer with
  | none => []
  | some timer => numbers timer.remaining

/-- What the timer reports with a tick is the first of what it had to report. -/
theorem unreported_eq (countdown : Countdown) :
    countdown.unreported =
      countdown.tick.2.map Tick.remaining ++ countdown.tick.1.unreported := by
  obtain ⟨generation, held, _ | ⟨_ | remaining, due⟩⟩ := countdown
  · rfl
  · rfl
  · exact numbers_succ remaining

@[simp] theorem tick_generation (countdown : Countdown) :
    countdown.tick.1.generation = countdown.generation := by
  unfold tick
  split <;> rfl

theorem generation_of_mem_tick {countdown : Countdown} {tick : Tick}
    (h : tick ∈ countdown.tick.2) : tick.generation = countdown.generation := by
  unfold Countdown.tick at h
  split at h
  · cases h
  · rw [List.mem_singleton.1 h]

end Countdown

namespace Scene

@[simp] theorem update_ticks (scene : Scene σ) (change : σ → σ) :
    (scene.update change).ticks = scene.ticks := by
  unfold update; split <;> rfl

@[simp] theorem emit_ticks (scene : Scene σ) (effect : Effect) :
    (scene.emit effect).ticks = scene.ticks := by
  unfold emit; split <;> rfl

/-- The ticks that wait and are of the last start, by what they report. -/
def waiting (scene : Scene σ) : List Nat :=
  (scene.ticks.filter scene.countdown.accepts).map Tick.remaining

/-- The numbers of the countdown that were not shown yet, in order. -/
def outstanding (scene : Scene σ) : List Nat :=
  scene.waiting ++ scene.countdown.unreported

/-- Ticks of earlier starts are passed over. -/
theorem waiting_of_stale {scene : Scene σ}
    (hstale : ∀ tick ∈ scene.ticks, tick.generation < scene.countdown.generation) :
    scene.waiting = [] := by
  have hnone : scene.ticks.filter scene.countdown.accepts = [] := by
    refine List.filter_eq_nil_iff.2 fun tick htick => ?_
    rw [Countdown.not_accepts_of_generation_lt (hstale tick htick)]
    exact Bool.false_ne_true
  rw [waiting, hnone]
  rfl

/-- When the timer has run down and no tick of it waits, nothing is outstanding. -/
theorem outstanding_of_stale {scene : Scene σ} (htimer : scene.countdown.timer = none)
    (hstale : ∀ tick ∈ scene.ticks, tick.generation < scene.countdown.generation) :
    scene.outstanding = [] := by
  rw [outstanding, waiting_of_stale hstale, Countdown.unreported, htimer]
  rfl

/-- A number that the timer reports goes on waiting with the ticks. -/
theorem outstanding_tick (scene : Scene σ) : scene.tick.outstanding = scene.outstanding := by
  have haccepts : scene.countdown.tick.1.accepts = scene.countdown.accepts := by
    funext tick
    simp [Countdown.accepts]
  have hfresh : scene.countdown.tick.2.filter scene.countdown.accepts = scene.countdown.tick.2 := by
    refine List.filter_eq_self.2 fun tick htick => ?_
    simp [Countdown.accepts, Countdown.generation_of_mem_tick htick]
  simp only [outstanding, waiting, tick, haccepts, List.filter_append, hfresh, List.map_append]
  rw [List.append_assoc, ← Countdown.unreported_eq]

/-- What the screen is told of with a tick is the first number that is outstanding. -/
theorem outstanding_takeTick {scene : Scene σ} (hup : scene.tornDown = false)
    (onTick : Nat → σ → σ) :
    scene.outstanding = scene.dueTick?.toList ++ (scene.takeTick onTick).outstanding := by
  rw [takeTick_eq hup]
  simp only [outstanding, waiting, dueTick?]
  cases scene.ticks with
  | nil => rfl
  | cons tick rest =>
    cases haccepts : scene.countdown.accepts tick <;> simp [haccepts]

/-- No tick that waits is of a start that is still to come. -/
def Timely (scene : Scene σ) : Prop :=
  ∀ tick ∈ scene.ticks, tick.generation ≤ scene.countdown.generation

theorem Timely.tick {scene : Scene σ} (h : scene.Timely) : scene.tick.Timely := by
  intro tick htick
  rw [show scene.tick.countdown = scene.countdown.tick.1 from rfl, Countdown.tick_generation]
  rcases List.mem_append.1 htick with hold | hnew
  · exact h tick hold
  · exact Nat.le_of_eq (Countdown.generation_of_mem_tick hnew)

theorem Timely.of_subset {scene after : Scene σ} (h : scene.Timely)
    (hticks : ∀ tick ∈ after.ticks, tick ∈ scene.ticks)
    (hgeneration : scene.countdown.generation ≤ after.countdown.generation) : after.Timely :=
  fun tick htick => Nat.le_trans (h tick (hticks tick htick)) hgeneration

/-- After a start all numbers are outstanding, for the ticks that wait are of earlier starts. -/
theorem outstanding_of_started {scene after : Scene σ} {seconds : Nat} (h : scene.Timely)
    (hsame : after.ticks = scene.ticks)
    (hstarted : after.countdown = ⟨scene.countdown.generation + 1, true, some ⟨seconds, 0⟩⟩) :
    after.outstanding = Countdown.numbers seconds := by
  have hstale : ∀ tick ∈ after.ticks, tick.generation < after.countdown.generation := by
    intro tick htick
    rw [hstarted]
    exact Nat.lt_succ_of_le (h tick (hsame ▸ htick))
  rw [outstanding, waiting_of_stale hstale, hstarted]
  rfl

end Scene

theorem Program.advance_ticks (setting : Setting) (program : Program σ Unit) (scene : Scene σ) :
    (program.advance setting scene).1.ticks = scene.ticks := by
  induction program generalizing scene with
  | update change next ih => exact (ih _).trans (scene.update_ticks change)
  | emit effect next ih => exact (ih _).trans (scene.emit_ticks effect)
  | work change events next ih => exact ih _ _
  | startCooldown next ih => exact ih _
  | _ => rfl

namespace Controller

/-- A tick of a countdown that was stopped comes late. -/
def late (tick : Tick) (c : Controller ρ σ) : Controller ρ σ :=
  { c with scene := { c.scene with ticks := c.scene.ticks ++ [tick] } }

variable {c : Controller ρ σ} {move : Move ρ} {job : Job} {program : Program σ Unit}

theorem outstanding_late {tick : Tick} (h : tick.generation < c.scene.countdown.generation) :
    (c.late tick).scene.outstanding = c.scene.outstanding := by
  simp [late, Scene.outstanding, Scene.waiting, Countdown.not_accepts_of_generation_lt h]

/-! ## Moves -/

theorem shown_of_program (h : c.program? move = some (job, program)) : c.shown move = [] := by
  cases move <;> first | rfl | cases h

/-- A turn leaves the ticks that wait alone, unless its program breaks off. -/
theorem ticks_of_program (hprogram : c.program? move = some (job, program))
    (hrunning : (c.step move).isRunning = true) : (c.step move).scene.ticks = c.scene.ticks := by
  obtain ⟨events, hscene⟩ := c.ready_scene move
  rw [step_eq_perform hprogram] at hrunning ⊢
  rcases perform_scene (c.ready move) job program with hsame | ⟨hstopped, -⟩
  · rw [hsame, Program.advance_ticks, hscene]
    rfl
  · rw [hrunning] at hstopped
    cases hstopped

/-- The countdown after a move that does not start it. -/
def Move.pass (countdown : Countdown) : Move ρ → Countdown
  | .tick => countdown.tick.1
  | _ => countdown

/-- What a move makes of a countdown that it does not start. -/
structure Ticks (c : Controller ρ σ) (move : Move ρ) (after : Controller ρ σ) : Prop where
  countdown : after.scene.countdown = move.pass c.scene.countdown
  outstanding : c.scene.outstanding = c.shown move ++ after.scene.outstanding
  timely : c.scene.Timely → after.scene.Timely

theorem ticks_of_same {after : Controller ρ σ}
    (hpass : move.pass c.scene.countdown = c.scene.countdown) (hshown : c.shown move = [])
    (hticks : after.scene.ticks = c.scene.ticks)
    (hcountdown : after.scene.countdown = c.scene.countdown) : Ticks c move after where
  countdown := hcountdown.trans hpass.symm
  outstanding := by simp [hshown, Scene.outstanding, Scene.waiting, hticks, hcountdown]
  timely h := h.of_subset (by simp [hticks])
    (Nat.le_of_eq (congrArg Countdown.generation hcountdown.symm))

theorem ticks_of_tick (hrunning : c.isRunning = true) : Ticks c .tick (c.step .tick) := by
  simp only [step, Controller.tick, hrunning, if_true]
  exact ⟨rfl, c.scene.outstanding_tick.symm, Scene.Timely.tick⟩

theorem ticks_of_serveTick (hup : c.scene.tornDown = false) :
    Ticks c .serveTick (c.step .serveTick) := by
  simp only [step, serveTick]
  split
  · next hwaiting =>
    have htake := Scene.takeTick_eq hup c.screen.onTick
    constructor
    case countdown => rw [htake]; rfl
    case outstanding =>
      simp only [shown, hwaiting, hup, Bool.false_eq_true, if_false]
      exact Scene.outstanding_takeTick hup _
    case timely =>
      intro h
      rw [htake]
      exact h.of_subset (fun tick => List.mem_of_mem_tail) (Nat.le_refl _)
  · next hother =>
    exact ticks_of_same rfl (shown_of_not_waiting hother) rfl rfl

/-- The screen is told only of its oldest tick, and only if that is of the last start. -/
theorem of_mem_shown {remaining : Nat} (h : remaining ∈ c.shown move) :
    move = .serveTick ∧ c.scene.tornDown = false ∧
      c.scene.ticks.head? = some ⟨c.scene.countdown.generation, remaining⟩ := by
  unfold shown at h
  split at h
  · cases htorn : c.scene.tornDown with
    | true => simp [htorn] at h
    | false =>
      simp only [htorn, Bool.false_eq_true, if_false, Option.mem_toList, Scene.dueTick?] at h
      obtain ⟨⟨generation, reported⟩, hhead, hdue⟩ := Option.bind_eq_some_iff.1 h
      simp only [Countdown.accepts, beq_iff_eq, Option.ite_none_right_eq_some,
        Option.some.injEq] at hdue
      obtain ⟨rfl, rfl⟩ := hdue
      exact ⟨rfl, rfl, hhead⟩
  · cases h

theorem mem_outstanding_of_mem_shown {remaining : Nat} (h : remaining ∈ c.shown move) :
    remaining ∈ c.scene.outstanding := by
  obtain ⟨rfl, hup, -⟩ := of_mem_shown h
  rw [(ticks_of_serveTick hup).outstanding]
  exact List.mem_append_left _ h

/-- Whatever does not start the countdown only ticks, or tells the screen of a tick. -/
theorem ticks_of_step (hup : (c.step move).scene.tornDown = false) (hrunning : c.isRunning = true)
    (hlater : (c.step move).isRunning = true)
    (h : (c.step move).scene.countdown.generation = c.scene.countdown.generation) :
    Ticks c move (c.step move) := by
  cases hprogram : c.program? move with
  | some served =>
    refine ticks_of_same ?_ (shown_of_program hprogram) (ticks_of_program hprogram hlater) ?_
    · cases move <;> first | rfl | cases hprogram
    · rcases countdown_of_program hprogram hlater with hsame | ⟨hlt, -⟩
      · exact hsame
      · omega
  | none =>
    cases move with
    | tick => exact ticks_of_tick hrunning
    | serveTick => exact ticks_of_serveTick (up_of_step hup)
    | stop =>
      have hidle : c.step .stop = c := by
        simp only [step, stop, up_of_step hup, Bool.false_eq_true, if_false]
      rw [hidle]
      exact ticks_of_same rfl rfl rfl rfl
    | send request =>
      simp only [step, send]
      split <;> exact ticks_of_same rfl rfl rfl rfl
    | notify signal =>
      simp only [step, notify]
      split <;> exact ticks_of_same rfl rfl rfl rfl
    | takeEffect => exact ticks_of_same rfl rfl rfl rfl
    | signalTeardown => cases hup
    | _ =>
      rw [step_eq_self rfl hprogram]
      exact ticks_of_same rfl rfl rfl rfl

end Controller

end PanelClient
