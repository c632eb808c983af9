import PanelClient.Proofs.Controller.Clock
import PanelClient.Proofs.Controller.Errands
import PanelClient.Screen.Login

/-!
# After the teardown

Whatever may still become of a controller (`Controller.Continues`), nothing happens on a screen that
is torn down: the view is what it was, and the host gets no effect that it could not have taken
before. Once the controller has stopped, the session is left alone too, and nothing is sent.
-/

namespace PanelClient

variable {ρ σ : Type}

namespace Controller

/-- What can still become of a controller, and the effects that the host takes meanwhile. Besides the
moves, a tick of a countdown that was stopped may come late, and the host may drop the controller
without waiting for its end. -/
inductive Continues : Controller ρ σ → List Effect → Controller ρ σ → Prop
  | rest {c : Controller ρ σ} : Continues c [] c
  | move {c after : Controller ρ σ} {taken : List Effect} (h : Continues c taken after)
      (move : Move ρ) : Continues c (taken ++ after.taken move) (after.step move)
  | late {c after : Controller ρ σ} {taken : List Effect} (h : Continues c taken after)
      (tick : Tick) : Continues c taken (after.late tick)
  | dropped {c after : Controller ρ σ} {taken : List Effect} (h : Continues c taken after) :
      Continues c taken after.close

variable {c after : Controller ρ σ} {move : Move ρ} {taken : List Effect}

/-! ## A screen that is torn down -/

/-- However it goes on, a screen that is torn down stays as it is, and the host can take no effects
but those that were there. -/
theorem Continues.of_tornDown (h : c.Continues taken after) (htorn : c.scene.tornDown = true) :
    after.scene.tornDown = true ∧ after.scene.view = c.scene.view ∧
      c.scene.effects = taken ++ after.scene.effects := by
  induction h with
  | rest => exact ⟨htorn, rfl, rfl⟩
  | move h move ih =>
    obtain ⟨hafter, hview, heffects⟩ := ih
    have hlater := tornDown_step hafter move
    refine ⟨hlater, (view_of_tornDown hlater).trans hview, ?_⟩
    rw [List.append_assoc, ← effects_step, asked_eq_nil hafter, List.append_nil, heffects]
  | late h tick ih => exact ih
  | dropped h ih => exact ih

/-- A controller that notices the teardown stops. -/
theorem isRunning_stop (h : c.scene.tornDown = true) : (c.step .stop).isRunning = false := by
  simp only [step, stop, h, if_true]
  split <;> first | rfl | next hactivity => simp [Controller.isRunning, hactivity, Activity.isRunning]

/-! ## A controller that has stopped -/

theorem program?_of_not_running (h : c.isRunning = false) (move : Move ρ) :
    c.program? move = none := by
  unfold Controller.isRunning at h
  unfold program?
  split <;> next hactivity => first | rfl | simp [hactivity, Activity.isRunning] at h

/-- What a controller that has stopped leaves alone. -/
structure Idle (c after : Controller ρ σ) : Prop where
  isRunning : after.isRunning = false
  session : after.scene.session = c.scene.session
  sent : after.scene.sent = c.scene.sent
  handedOn : after.scene.handedOn = c.scene.handedOn

theorem idle_step (h : c.isRunning = false) (move : Move ρ) : Idle c (c.step move) := by
  have hprogram := program?_of_not_running h move
  have hstays := step_of_no_program hprogram
  have hadds := c.step_adds move
  rw [errands_of_no_program hprogram] at hadds
  refine ⟨?_, hstays.session, hstays.sent, by simpa using hadds.handedOn⟩
  unfold Controller.isRunning
  rcases hstays.activity with hsame | hstopped
  · rw [hsame]
    exact h
  · rw [hstopped]
    rfl

theorem Continues.idle (h : c.Continues taken after) (hstopped : c.isRunning = false) :
    Idle c after := by
  induction h with
  | rest => exact ⟨hstopped, rfl, rfl, rfl⟩
  | move h move ih =>
    have hnext := idle_step ih.isRunning move
    exact ⟨hnext.isRunning, hnext.session.trans ih.session, hnext.sent.trans ih.sent,
      hnext.handedOn.trans ih.handedOn⟩
  | late h tick ih => exact ⟨ih.isRunning, ih.session, ih.sent, ih.handedOn⟩
  | dropped h ih => exact ⟨rfl, ih.session, ih.sent, ih.handedOn⟩

/-- Nothing happens on screen after the teardown. From any controller on, busy or not and with
whatever waits to be served: however it goes on once the host has signalled the teardown, the view
is what it was and the host gets no effect that was not there before, and the controller stops as
soon as it notices. However it goes on once it has stopped, the session stays as it is, nothing is
sent or handed on any more, and a reply that still comes changes nothing at all. -/
theorem nothing_after_teardown (h : c.signalTeardown.Continues taken after) :
    after.scene.view = c.scene.view ∧ c.scene.effects = taken ++ after.scene.effects ∧
      (after.step .stop).isRunning = false ∧
      (after.isRunning = false → ∀ more later, after.Continues more later →
        Idle after later ∧ ∀ reply, later.step (.reply reply) = later) := by
  obtain ⟨htorn, hview, heffects⟩ := h.of_tornDown rfl
  refine ⟨hview, heffects, isRunning_stop htorn, fun hstopped more later hlater => ?_⟩
  have hidle := hlater.idle hstopped
  exact ⟨hidle, fun reply => step_eq_self rfl (program?_of_not_running hidle.isRunning _)⟩

/-- A sign-in is under way and another request waits when the screen is torn down. The reply that
comes after the end signs nobody in. -/
theorem nothing_after_teardown_of_late_reply :
    let setting : Setting := { client := ⟨"https://panel.example"⟩ }
    let c := (opening (Login.screen setting.client) setting ⟨.memory []⟩).steps
      [.start, .send (.login "a@b.c" "secret"), .send .openRegister, .serveRequest]
    let reply := Http.Reply.response 200 "\x7b\"token\":\"x\"\x7d"
    let after := c.signalTeardown.step .stop
    let later := (after.step (.reply reply)).late ⟨1, 60⟩
    c.scene.sent.length = 1 ∧ c.requests = [.openRegister] ∧
      (c.step (.reply reply)).scene.session.isLoggedIn = true ∧ after.isRunning = false ∧
      later.scene.view = c.scene.view ∧ c.scene.effects = later.scene.effects ∧
      later.scene.session = c.scene.session ∧ later.scene.sent = c.scene.sent := by
  intro setting c reply after later
  have hstop : c.signalTeardown.Continues [] after := Continues.rest.move .stop
  have hlater : after.Continues [] later := (Continues.rest.move (.reply reply)).late ⟨1, 60⟩
  obtain ⟨hview, heffects, -, -⟩ :=
    nothing_after_teardown ((hstop.move (.reply reply)).late ⟨1, 60⟩)
  obtain ⟨-, -, -, hstopped⟩ := nothing_after_teardown hstop
  obtain ⟨hidle, -⟩ := hstopped (by rfl) [] later hlater
  exact ⟨by decide +kernel, by decide +kernel, by decide +kernel, rfl, hview, heffects,
    hidle.session, hidle.sent⟩

end Controller

end PanelClient
