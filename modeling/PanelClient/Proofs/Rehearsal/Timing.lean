import PanelClient.Proofs.Controller.Timing
import PanelClient.Proofs.Screen.Cooldown
import PanelClient.Rehearsal.Basic

/-!
# Delays do not change results

A host that settles after each input waits however long the replies take. Two rehearsals whose
scripts have the same replies with other delays then go in step (`Rehearsal.Alike.settle`): while a
reply is under way the timers of the two runs tick differently often, and nothing but the seconds
that the screen shows depends on that (`same_results_of_delays`).
-/

namespace PanelClient

variable {ρ σ : Type}

/-! ## Scripts with other delays -/

namespace Script

/-- The replies of routes, without their delays. -/
def undelayed (routes : List (String × List Scripted)) : List (String × List Http.Reply) :=
  routes.map fun (path, replies) => (path, replies.map Scripted.reply)

theorem undelayed_cons (path : String) (replies : List Scripted)
    (rest : List (String × List Scripted)) :
    undelayed ((path, replies) :: rest) = (path, replies.map Scripted.reply) :: undelayed rest :=
  rfl

/-- Delays have no part in which reply is next. -/
theorem take_undelayed (path : String) {routes others : List (String × List Scripted)}
    (h : undelayed routes = undelayed others) :
    (take path routes).1.reply = (take path others).1.reply ∧
      undelayed (take path routes).2 = undelayed (take path others).2 := by
  induction routes generalizing others with
  | nil =>
    cases others with
    | nil => exact ⟨rfl, rfl⟩
    | cons route rest => cases h
  | cons route rest ih =>
    rcases others with _ | ⟨other, rest'⟩
    · cases h
    obtain ⟨name, replies⟩ := route
    obtain ⟨name', replies'⟩ := other
    simp only [undelayed_cons, List.cons.injEq, Prod.mk.injEq] at h
    obtain ⟨⟨rfl, hreplies⟩, hrest⟩ := h
    by_cases hpath : name = path
    · simp only [take, if_pos hpath]
      -- the last reply of a route is used again, and both routes have come to it or not
      rcases replies with _ | ⟨reply, _ | ⟨next, replies⟩⟩ <;>
        rcases replies' with _ | ⟨other, _ | ⟨next', replies'⟩⟩ <;>
        simp only [List.map_cons, List.map_nil, List.cons.injEq, reduceCtorEq, and_true,
          and_false] at hreplies
      · exact ⟨rfl, by rw [undelayed_cons, undelayed_cons, hrest]⟩
      · exact ⟨hreplies, by simp only [undelayed_cons, List.map_cons, hreplies, hrest]⟩
      · obtain ⟨hreply, hnext, hothers⟩ := hreplies
        exact ⟨hreply, by simp only [undelayed_cons, List.map_cons, hnext, hothers, hrest]⟩
    · obtain ⟨hreply, hlater⟩ := ih hrest
      simp only [take, if_neg hpath]
      exact ⟨hreply, by rw [undelayed_cons, undelayed_cons, hreplies, hlater]⟩

/-- The scripts have the same replies, each with a delay of its own. -/
structure SameReplies (script other : Script) : Prop where
  baseUrl : script.baseUrl = other.baseUrl
  routes : undelayed script.routes = undelayed other.routes

theorem SameReplies.answer {script other : Script} (h : script.SameReplies other)
    (request : Http.Request) :
    (script.answer request).1.reply = (other.answer request).1.reply ∧
      (script.answer request).2.SameReplies (other.answer request).2 := by
  have hpath : script.path request.url = other.path request.url := by
    rw [Script.path, Script.path, h.baseUrl]
  obtain ⟨hreply, hroutes⟩ := take_undelayed (script.path request.url) h.routes
  rw [hpath] at hreply hroutes
  unfold Script.answer
  rw [hpath]
  exact ⟨hreply, h.baseUrl, hroutes⟩

end Script

/-! ## Time that passes -/

namespace Countdown

@[simp] theorem pass_generation (span : Nat) (countdown : Countdown) :
    (countdown.pass span).1.generation = countdown.generation := by
  unfold Countdown.pass
  split <;> rfl

@[simp] theorem pass_held (span : Nat) (countdown : Countdown) :
    (countdown.pass span).1.held = countdown.held := by
  unfold Countdown.pass
  split <;> rfl

end Countdown

theorem Scene.retimed_pass (like : Likeness σ) (span : Nat) (scene : Scene σ) :
    scene.Retimed like (scene.pass span) :=
  ⟨rfl, Countdown.pass_generation _ _, Countdown.pass_held _ _, rfl⟩

namespace Backdrop

/-- Time may pass without a limit. -/
structure IsPatient (backdrop : Backdrop) : Prop where
  allowance : backdrop.allowance = none
  untilEffect : backdrop.untilEffect = false

theorem IsPatient.limit {backdrop : Backdrop} (h : backdrop.IsPatient) (scene : Scene σ) :
    backdrop.limit scene = none := by
  rw [Backdrop.limit, h.untilEffect, h.allowance]
  rfl

theorem IsPatient.spend {backdrop : Backdrop} (h : backdrop.IsPatient) (span : Nat)
    (scene : Scene σ) : Backdrop.spend span (scene, backdrop) = (scene.pass span, backdrop) := by
  obtain ⟨script, obstacle, importer, allowance, untilEffect, remaining, coming⟩ := backdrop
  obtain rfl : allowance = none := h.allowance
  rfl

theorem IsPatient.letPass {backdrop : Backdrop} (h : backdrop.IsPatient) (span : Nat)
    (scene : Scene σ) :
    Backdrop.letPass span (scene, backdrop) = ((scene.pass span, backdrop), true) := by
  simp only [Backdrop.letPass, h.limit, h.spend]

/-- The backdrops differ in nothing but delays. -/
structure Alike (backdrop other : Backdrop) : Prop where
  script : backdrop.script.SameReplies other.script
  obstacle : backdrop.obstacle = other.obstacle
  importer : backdrop.importer = other.importer
  coming : backdrop.coming = other.coming

/-- In front of both backdrops there is time for everything, and nothing else than delays tells them
apart. -/
structure Together (backdrop other : Backdrop) : Prop where
  alike : backdrop.Alike other
  patient : backdrop.IsPatient
  patient_other : other.IsPatient

/-- What programs meet in front of such backdrops is the same. -/
theorem steady_outside (timeless : σ → σ) :
    (Backdrop.outside : Outside σ Backdrop).Steady (untimed timeless) Together where
  reply {request twin scene other backdrop backdrop'} hrequest hscene h := by
    obtain rfl : request = twin := hrequest
    obtain ⟨hreply, hscript⟩ := h.alike.script.answer request
    have hobstacle : backdrop'.obstacle request = backdrop.obstacle request := by
      rw [h.alike.obstacle]
    simp only [Backdrop.outside, hobstacle]
    cases backdrop.obstacle request with
    | some failure => exact .intro _ hscene h rfl
    | none =>
      have hfirst : IsPatient { backdrop with script := (backdrop.script.answer request).2 } :=
        ⟨h.patient.allowance, h.patient.untilEffect⟩
      have hsecond : IsPatient { backdrop' with script := (backdrop'.script.answer request).2 } :=
        ⟨h.patient_other.allowance, h.patient_other.untilEffect⟩
      simp only [hfirst.letPass, hsecond.letPass, hreply]
      refine .intro _ ?_ ⟨{ h.alike with script := hscript }, hfirst, hsecond⟩ rfl
      exact hscene.retimed (Scene.retimed_pass _ _ _) (Scene.retimed_pass _ _ _) False.elim
  handover name url {scene other backdrop backdrop'} hscene h := by
    simp only [Backdrop.outside, h.alike.importer]
    exact .intro _ hscene h rfl
  waking span {scene other backdrop backdrop'} hscene h := by
    simp only [Backdrop.outside, h.patient.letPass, h.patient_other.letPass]
    refine .intro _ ?_ h rfl
    exact hscene.retimed (Scene.retimed_pass _ _ _) (Scene.retimed_pass _ _ _) False.elim

end Backdrop

/-! ## Rehearsals in step -/

namespace Rehearsal

/-- The rehearsals differ in nothing but their clocks. -/
structure Alike (timeless : σ → σ) (r twin : Rehearsal ρ σ) : Prop where
  controller : r.controller.Alike (untimed timeless) twin.controller
  backdrop : r.backdrop.Alike twin.backdrop
  isHeld : r.isHeld = twin.isHeld

/-- The rehearsals differ in nothing but their clocks while there is time for everything. -/
structure InStep (timeless : σ → σ) (r twin : Rehearsal ρ σ) : Prop where
  controller : r.controller.Alike (untimed timeless) twin.controller
  backdrop : r.backdrop.Together twin.backdrop
  isHeld : r.isHeld = twin.isHeld

variable {timeless : σ → σ} {r twin : Rehearsal ρ σ}

theorem InStep.alike (h : r.InStep timeless twin) : r.Alike timeless twin :=
  ⟨h.controller, h.backdrop.alike, h.isHeld⟩

theorem InStep.act (h : r.InStep timeless twin)
    {work work' : Controller ρ σ → Backdrop → Controller ρ σ × Backdrop}
    (hwork : (work r.controller r.backdrop).1.Alike (untimed timeless)
        (work' twin.controller twin.backdrop).1 ∧
      (work r.controller r.backdrop).2.Together (work' twin.controller twin.backdrop).2) :
    (r.act work).InStep timeless (twin.act work') :=
  ⟨hwork.1, hwork.2, h.isHeld⟩

/-- What the two clocks do goes unnoticed. -/
theorem InStep.retimed (h : r.InStep timeless twin) {c d : Controller ρ σ}
    (hc : r.controller.Retimed (untimed timeless) c)
    (hd : twin.controller.Retimed (untimed timeless) d) :
    InStep timeless { r with controller := c } { twin with controller := d } :=
  ⟨h.controller.retimed not_false hc hd, h.backdrop, h.isHeld⟩

theorem retimed_pass (c : Controller ρ σ) (like : Likeness σ) (span : Nat) :
    c.Retimed like { c with scene := c.scene.pass span } :=
  ⟨Scene.retimed_pass like span c.scene, rfl⟩

theorem InStep.serveTicks (h : r.InStep timeless twin) :
    r.serveTicks.InStep timeless twin.serveTicks := by
  have hticks (c : Controller ρ σ) (hscreen : c.screen.Steady (untimed timeless))
      (ticks : List Tick) :
      c.Retimed (untimed timeless) (ticks.foldl (fun c _ => c.serveTick) c) := by
    induction ticks generalizing c with
    | nil => exact Controller.retimed_refl _ c
    | cons tick rest ih =>
      have hfirst := Controller.retimed_serveTick hscreen
      have hsame : c.serveTick.screen = c.screen := by rw [hfirst.eq]
      exact hfirst.trans (ih c.serveTick (hsame ▸ hscreen))
  have hscreen := h.controller.steady
  exact h.retimed (hticks _ hscreen _) (hticks _ (h.controller.screen ▸ hscreen) _)

theorem InStep.resume (h : r.InStep timeless twin) : r.resume.InStep timeless twin.resume := by
  have houtside := Backdrop.steady_outside timeless
  have hactivity := h.controller.activity
  unfold Rehearsal.resume
  simp only [h.backdrop.patient.letPass, h.backdrop.patient_other.letPass, if_true]
  generalize r.controller.activity = activity at hactivity ⊢
  generalize twin.controller.activity = other at hactivity ⊢
  cases hactivity with
  | fresh => exact h.act (h.controller.start timing_lawful houtside h.backdrop)
  | @busy job program other hpaused =>
    have hscene := h.controller.scene.retimed
      (Scene.retimed_pass (untimed timeless) r.backdrop.remaining _)
      (Scene.retimed_pass (untimed timeless) twin.backdrop.remaining _) False.elim
    have hcontroller : Controller.Alike (untimed timeless)
        { r.controller with
          scene := r.controller.scene.pass r.backdrop.remaining, activity := .busy job program }
        { twin.controller with
          scene := twin.controller.scene.pass twin.backdrop.remaining
          activity := .busy job other } :=
      { h.controller with scene := hscene, activity := .busy job hpaused }
    have hpassed : InStep timeless (Rehearsal.mk _ r.backdrop r.isHeld)
        (Rehearsal.mk _ twin.backdrop twin.isHeld) :=
      ⟨hcontroller, h.backdrop, h.isHeld⟩
    cases hpaused with
    | reply call hsent hnext =>
      exact hpassed.act (hcontroller.resumeReply timing_lawful houtside
        (fun _ _ => h.backdrop.alike.coming) h.backdrop)
    | handover hnext => exact hpassed
    | waking hnext =>
      exact hpassed.act (hcontroller.resumeWaking timing_lawful houtside h.backdrop)
  | _ => exact h

theorem InStep.serveNext (h : r.InStep timeless twin) :
    r.serveNext.InStep timeless twin.serveNext := by
  have hticks := h.serveTicks
  have houtside := Backdrop.steady_outside timeless
  unfold Rehearsal.serveNext
  dsimp only
  rw [hticks.controller.signals]
  split
  · exact hticks.act (hticks.controller.serveRequest timing_lawful houtside hticks.backdrop)
  · exact hticks.act (hticks.controller.serveSignal timing_lawful houtside hticks.backdrop)

theorem InStep.serveAll (h : r.InStep timeless twin) : r.serveAll.InStep timeless twin.serveAll := by
  have hrepeat (count : Nat) :
      (count.repeat Rehearsal.serveNext r).InStep timeless
        (count.repeat Rehearsal.serveNext twin) := by
    induction count with
    | zero => exact h
    | succ count ih => exact ih.serveNext
  unfold Rehearsal.serveAll
  rw [h.controller.signals, h.controller.requests]
  exact hrepeat _

theorem InStep.letRestPass (h : r.InStep timeless twin) :
    r.letRestPass.InStep timeless twin.letRestPass := by
  unfold Rehearsal.letRestPass Rehearsal.actOnScene Backdrop.letRestPass
  simp only [h.backdrop.patient.limit, h.backdrop.patient_other.limit, h.backdrop.patient.spend,
    h.backdrop.patient_other.spend, h.controller.isRunning]
  split
  · exact h.retimed (retimed_pass _ _ _) (retimed_pass _ _ _)
  · exact h

/-- Everything that was submitted is served in step. -/
theorem Alike.settle (h : r.Alike timeless twin) : r.settle.Alike timeless twin.settle := by
  have hpatient : InStep timeless
      { r with backdrop := { r.backdrop with allowance := none, untilEffect := false } }
      { twin with backdrop := { twin.backdrop with allowance := none, untilEffect := false } } :=
    ⟨h.controller, ⟨⟨h.backdrop.script, h.backdrop.obstacle, h.backdrop.importer,
      h.backdrop.coming⟩, ⟨rfl, rfl⟩, ⟨rfl, rfl⟩⟩, h.isHeld⟩
  have hserved := hpatient.resume.serveAll.serveTicks.letRestPass.serveTicks
  have hwithin : (r.within none false).InStep timeless (twin.within none false) := hserved
  unfold Rehearsal.settle
  dsimp only
  rw [hwithin.isHeld, Rehearsal.isSettled, Rehearsal.isSettled, hwithin.controller.submitted,
    hwithin.controller.processed]
  split
  · exact ⟨hwithin.controller.log _, hwithin.backdrop.alike, rfl⟩
  · exact hwithin.alike

/-- The host submits an input and waits until it has been served; the first load needs no one to
submit it. -/
def present (r : Rehearsal ρ σ) : Input ρ → Rehearsal ρ σ
  | .load => r.settle
  | .signal signal => (r.notify signal).1.settle
  | .request request => (r.send request).1.settle

theorem Alike.present (h : r.Alike timeless twin) (input : Input ρ) :
    (r.present input).Alike timeless (twin.present input) := by
  cases input with
  | load => exact h.settle
  | signal signal =>
    have hnotified : (r.notify signal).1.Alike timeless (twin.notify signal).1 :=
      ⟨h.controller.notify signal, h.backdrop, h.isHeld⟩
    exact hnotified.settle
  | request request =>
    have hsent : (r.send request).1.Alike timeless (twin.send request).1 :=
      ⟨h.controller.send request, h.backdrop, h.isHeld⟩
    exact hsent.settle

/-- The rehearsal after one input after the other was presented. -/
def presentAll (r : Rehearsal ρ σ) (inputs : List (Input ρ)) : Rehearsal ρ σ :=
  inputs.foldl present r

theorem Alike.presentAll (h : r.Alike timeless twin) (inputs : List (Input ρ)) :
    (r.presentAll inputs).Alike timeless (twin.presentAll inputs) := by
  induction inputs generalizing r twin with
  | nil => exact h
  | cons input rest ih => exact ih (h.present input)

end Rehearsal

/-! ## Results -/

/-- Timing does not change results. A page is rehearsed in front of two scripts with the same replies
and any delays, and its host settles after each input: after every list of inputs the views are the
same but for the seconds of the countdown, and so are the effects, the requests in order, and the
session. The same holds of any two runs of its controller whose moves differ in nothing but in when
the timer ticks and when the screen is told of the ticks. -/
theorem same_results_of_delays (page : Page) (setting : Setting) (session : Session) :
    (∀ (script other : Script) (obstacle : Http.Request → Option Http.Failure)
        (importer : Importer) (inputs : List (Input page.Request)), script.SameReplies other →
      page.SameResults
        ((Rehearsal.opening (page.screen setting.client) setting session
          (.initial script obstacle importer)).presentAll inputs).controller.scene
        ((Rehearsal.opening (page.screen setting.client) setting session
          (.initial other obstacle importer)).presentAll inputs).controller.scene) ∧
      ∀ moves others : List (Controller.Move page.Request),
        ((moves.filter fun move => !move.isClock) = others.filter fun move => !move.isClock) →
        page.SameResults
          ((Controller.opening (page.screen setting.client) setting session).steps moves).scene
          ((Controller.opening (page.screen setting.client) setting session).steps others).scene := by
  constructor
  · intro script other obstacle importer inputs hscripts
    have hopening : Rehearsal.Alike page.timeless
        (.opening (page.screen setting.client) setting session (.initial script obstacle importer))
        (.opening (page.screen setting.client) setting session
          (.initial other obstacle importer)) := by
      refine ⟨?_, ⟨hscripts, rfl, rfl, rfl⟩, rfl⟩
      exact Controller.alike_opening (page.steady timing_lawful False setting.client) setting rfl
    exact (hopening.presentAll inputs).controller.scene.sameResults
  · intro moves others h
    exact same_results_of_steps page setting session h

/-- A code is mailed, and the screen is shown again while the countdown runs. If the setup of the
backend takes its time, the countdown goes on meanwhile, and the screen shows that; all else is the
same. -/
theorem same_results_of_late_setup :
    let setting : Setting := { client := ⟨"https://panel.example"⟩ }
    let script (delay : Nat) : Script :=
      ⟨"https://panel.example",
        [("/guest/comm/config", [⟨.response 200 "\x7b\x7d", delay⟩]),
          ("/passport/comm/sendEmailVerify", [⟨.response 200 "\x7b\x7d", 0⟩])]⟩
    let inputs : List (Input Page.register.Request) :=
      [.load, .request (Register.Request.sendEmailCode "a@b.c"), .signal .resumed]
    let after (delay : Nat) :=
      ((Rehearsal.opening (Page.register.screen setting.client) setting ⟨.memory []⟩
        (.initial (script delay) Backdrop.unhindered .accepting)).presentAll inputs).controller.scene
    Page.register.SameResults (after 0) (after 2500) ∧
      Page.register.cooldown (after 0).view = 60 ∧ Page.register.cooldown (after 2500).view = 58 := by
  intro setting script inputs after
  obtain ⟨hrehearsals, -⟩ := same_results_of_delays .register setting ⟨.memory []⟩
  exact ⟨hrehearsals (script 0) (script 2500) _ _ inputs ⟨rfl, rfl⟩, by decide +kernel,
    by decide +kernel⟩

end PanelClient
