import PanelClient.Proofs.Controller.Likeness
import PanelClient.Proofs.Screen.Steady

/-!
# Clocks do not count

When runs are compared but for the clock (`untimed`), everything else has to be the same (`timing`).
What a controller's own clock does then goes unnoticed (`Controller.Alike.retimed`): runs whose moves
differ in nothing but in when the timer ticks and when the ticks are served come to the same
(`same_results_of_steps`).
-/

namespace PanelClient

variable {ρ σ : Type}

/-- Everything counts. -/
def timing : Comparison where
  session := Eq
  request := id
  reply _ := Eq
  signIn := Eq

/-- Runs of a screen are compared by everything but their clocks. -/
def untimed (timeless : σ → σ) : Likeness σ :=
  { timing with timeless, timed := False }

theorem Query.alikeOutcome_refl {signIn : SignIn → SignIn → Prop}
    (hsignIn : ∀ record, signIn record record) (query : Query) (outcome : Outcome query.Value) :
    query.AlikeOutcome signIn outcome outcome := by
  cases query with
  | login | register => exact Outcome.alike_refl hsignIn outcome
  | _ => rfl

theorem timing_lawful : timing.Lawful where
  reply_refl _ _ := rfl
  request client call session twin h := congrArg (client.request · call) h
  language _ _ h := congrArg Session.language h
  userEmail _ _ h := congrArg Session.userEmail h
  finish query client reply other h session twin hsession := by
    obtain rfl : reply = other := h
    obtain rfl : session = twin := hsession
    exact ⟨query.alikeOutcome_refl (fun _ => rfl) _, rfl, rfl⟩
  setLanguage code session twin h := by
    obtain rfl : session = twin := h
    exact ⟨rfl, rfl, rfl⟩
  logout session twin h := by
    obtain rfl : session = twin := h
    exact ⟨rfl, rfl, rfl⟩

namespace Scene

variable {like : Likeness σ} {scene after later : Scene σ}

theorem retimed_refl (like : Likeness σ) (scene : Scene σ) : scene.Retimed like scene :=
  ⟨rfl, rfl, rfl, rfl⟩

theorem Retimed.trans (h : scene.Retimed like after) (hlater : after.Retimed like later) :
    scene.Retimed like later where
  view := hlater.view.trans h.view
  generation := hlater.generation.trans h.generation
  held := hlater.held.trans h.held
  eq := by
    rw [hlater.eq, h.eq]

end Scene

namespace Controller

/-- One controller is the other but for what the clock does to its scene. -/
structure Retimed (like : Likeness σ) (c after : Controller ρ σ) : Prop where
  scene : c.scene.Retimed like after.scene
  eq : after = { c with scene := after.scene }

variable {like : Likeness σ} {c twin after later : Controller ρ σ}

theorem retimed_refl (like : Likeness σ) (c : Controller ρ σ) : c.Retimed like c :=
  ⟨Scene.retimed_refl like _, rfl⟩

theorem Retimed.trans (h : c.Retimed like after) (hlater : after.Retimed like later) :
    c.Retimed like later where
  scene := h.scene.trans hlater.scene
  eq := by
    rw [hlater.eq, h.eq]

theorem retimed_tick (like : Likeness σ) (c : Controller ρ σ) : c.Retimed like c.tick := by
  unfold Controller.tick
  split
  · exact ⟨Scene.retimed_tick like _, rfl⟩
  · exact retimed_refl like c

theorem retimed_serveTick (hscreen : c.screen.Steady like) : c.Retimed like c.serveTick := by
  unfold Controller.serveTick
  split
  · exact ⟨Scene.retimed_takeTick hscreen.onTick _, rfl⟩
  · exact retimed_refl like c

/-- Where the clocks do not count, controllers stay alike whatever each clock does. -/
theorem Alike.retimed (h : c.Alike like twin) (htimed : ¬ like.timed) (hc : c.Retimed like after)
    (htwin : twin.Retimed like later) : after.Alike like later := by
  have hscene := h.scene.retimed hc.scene htwin.scene fun h => absurd h htimed
  have hsent : after.scene.sent = c.scene.sent := by rw [hc.scene.eq]
  have hactivity : c.activity.Alike like c.setting.client after.scene.sent twin.activity := by
    rw [hsent]
    exact h.activity
  rw [hc.eq, htwin.eq]
  exact { h with scene := hscene, activity := hactivity }

/-! ## Runs -/

/-- The clock moves: its timer ticks, or the screen is told of a tick. -/
def Move.isClock : Move ρ → Bool
  | .tick | .serveTick => true
  | _ => false

/-- A run goes in step with the same run without the moves of its clock. -/
theorem Alike.steps_untimed (hlike : like.toComparison.Lawful) (htimed : ¬ like.timed)
    (h : c.Alike like twin) (moves : List (Move ρ)) :
    (c.steps moves).Alike like (twin.steps (moves.filter fun move => !move.isClock)) := by
  induction moves generalizing c twin with
  | nil => exact h
  | cons move rest ih =>
    cases hclock : move.isClock with
    | false =>
      rw [List.filter_cons_of_pos (by simp [hclock])]
      exact ih (h.step hlike (.same move))
    | true =>
      rw [List.filter_cons_of_neg (by simp [hclock])]
      have hretimed : c.Retimed like (c.step move) := by
        cases move with
        | tick => exact retimed_tick like c
        | serveTick => exact retimed_serveTick h.steady
        | _ => cases hclock
      exact ih (h.retimed htimed hretimed (retimed_refl like twin))

end Controller

/-! ## Results -/

/-- What two runs came to, apart from the seconds that a countdown shows, is the same. -/
structure Page.SameResults (page : Page) (scene other : Scene page.View) : Prop where
  view : page.timeless scene.view = page.timeless other.view
  effects : scene.effects = other.effects
  sent : scene.sent = other.sent
  session : scene.session = other.session

theorem Scene.Alike.sameResults {page : Page} {scene other : Scene page.View}
    (h : scene.Alike (untimed page.timeless) other) : page.SameResults scene other where
  view := h.view
  effects := h.effects
  sent := by simpa [untimed, timing] using h.sent
  session := h.session

theorem same_results_of_steps (page : Page) (setting : Setting) (session : Session)
    {moves others : List (Controller.Move page.Request)}
    (h : (moves.filter fun move => !move.isClock) = others.filter fun move => !move.isClock) :
    page.SameResults
      ((Controller.opening (page.screen setting.client) setting session).steps moves).scene
      ((Controller.opening (page.screen setting.client) setting session).steps others).scene := by
  have hopening :
      (Controller.opening (page.screen setting.client) setting session).Alike
        (untimed page.timeless) (.opening (page.screen setting.client) setting session) :=
    Controller.alike_opening (page.steady timing_lawful False setting.client) setting rfl
  have hfirst := (hopening.steps_untimed timing_lawful not_false moves).scene.sameResults
  have hsecond := (hopening.steps_untimed timing_lawful not_false others).scene.sameResults
  rw [h] at hfirst
  exact ⟨hfirst.view.trans hsecond.view.symm, hfirst.effects.trans hsecond.effects.symm,
    hfirst.sent.trans hsecond.sent.symm, hfirst.session.trans hsecond.session.symm⟩

end PanelClient
