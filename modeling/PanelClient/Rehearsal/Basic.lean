import PanelClient.Controller.Basic
import PanelClient.Rehearsal.Script

/-!
# Rehearsals

A rehearsal runs a screen in front of a scripted backend, in a time of its own that passes only
while its host waits: until everything submitted has been served (`settle`), for some milliseconds
(`wait`), or until there is an effect (`nextEffect`). What is due at an instant has happened when
a wait that ends at that instant is over.
-/

namespace PanelClient

open Log (Event)

structure Backdrop where
  script : Script
  /-- Why a request does not reach the backend, if it does not. -/
  obstacle : Http.Request → Option Http.Failure
  importer : Importer
  /-- How many milliseconds may still pass; there may be no limit. -/
  allowance : Option Nat
  /-- No time passes any more once there is an effect. -/
  untilEffect : Bool
  /-- How many milliseconds the program that is paused still waits. -/
  remaining : Nat
  /-- The reply that it waits for. -/
  coming : Http.Reply

namespace Backdrop

variable {σ : Type}

/-- How much time may pass from a scene on. -/
def limit (backdrop : Backdrop) (scene : Scene σ) : Option Nat :=
  if backdrop.untilEffect && !scene.effects.isEmpty then some 0 else backdrop.allowance

/-- Lets time pass, which uses the allowance up. -/
def spend (span : Nat) (state : Scene σ × Backdrop) : Scene σ × Backdrop :=
  (state.1.pass span, { state.2 with allowance := state.2.allowance.map (· - span) })

/-- Lets a wait pass, if there is time for all of it. -/
def letPass (span : Nat) (state : Scene σ × Backdrop) : (Scene σ × Backdrop) × Bool :=
  match state.2.limit state.1 with
  | none => (spend span state, true)
  | some limit =>
    if span ≤ limit then (spend span state, true)
    else
      let (scene, backdrop) := spend limit state
      ((scene, { backdrop with remaining := span - limit }), false)

/-- Lets all the time pass that may pass; without a limit, none does. -/
def letRestPass (state : Scene σ × Backdrop) : Scene σ × Backdrop :=
  spend ((state.2.limit state.1).getD 0) state

def unhindered : Http.Request → Option Http.Failure := fun _ => none

/-- A backdrop in front of which no time may pass yet. -/
def initial (script : Script) (obstacle : Http.Request → Option Http.Failure)
    (importer : Importer) : Backdrop where
  script
  obstacle
  importer
  allowance := some 0
  untilEffect := false
  remaining := 0
  coming := Script.notFound.reply

/-- What a program meets in front of the backdrop. -/
def outside : Outside σ Backdrop where
  reply request := fun (scene, backdrop) =>
    match backdrop.obstacle request with
    | some failure => ((scene, backdrop), some (.failure failure))
    | none =>
      let (scripted, script) := backdrop.script.answer request
      match letPass scripted.delay (scene, { backdrop with script }) with
      | (state, true) => (state, some scripted.reply)
      | ((scene, backdrop), false) => ((scene, { backdrop with coming := scripted.reply }), none)
  handover name url := fun (scene, backdrop) =>
    ((scene, backdrop), some (backdrop.importer name url))
  waking span := letPass span

end Backdrop

/-- A screen in front of a backdrop, and whether its host still holds it. -/
structure Rehearsal (ρ σ : Type) where
  controller : Controller ρ σ
  backdrop : Backdrop
  isHeld : Bool

namespace Rehearsal

variable {ρ σ : Type}

/-- The rehearsal of a screen that is being opened. -/
def opening (screen : Screen ρ σ) (setting : Setting) (session : Session) (backdrop : Backdrop) :
    Rehearsal ρ σ where
  controller := .opening screen setting session
  backdrop
  isHeld := true

def act (r : Rehearsal ρ σ)
    (work : Controller ρ σ → Backdrop → Controller ρ σ × Backdrop) : Rehearsal ρ σ :=
  let (controller, backdrop) := work r.controller r.backdrop
  { r with controller, backdrop }

/-- Lets something happen to the scene and the backdrop. -/
def actOnScene (r : Rehearsal ρ σ) (work : Scene σ × Backdrop → Scene σ × Backdrop) :
    Rehearsal ρ σ :=
  let (scene, backdrop) := work (r.controller.scene, r.backdrop)
  { r with controller := { r.controller with scene }, backdrop }

/-- Begins, or goes on with the program that is paused, as far as there is time. -/
def resume (r : Rehearsal ρ σ) : Rehearsal ρ σ :=
  match r.controller.activity with
  | .fresh => r.act (Controller.start Backdrop.outside)
  | .busy _ program =>
    let ((scene, backdrop), isDue) :=
      Backdrop.letPass r.backdrop.remaining (r.controller.scene, r.backdrop)
    let r := { r with controller := { r.controller with scene }, backdrop }
    if isDue then
      match program with
      | .reply _ => r.act (Controller.resumeReply Backdrop.outside r.backdrop.coming)
      | .handover _ => r
      | .waking _ => r.act (Controller.resumeWaking Backdrop.outside)
    else r
  | _ => r

def serveTicks (r : Rehearsal ρ σ) : Rehearsal ρ σ :=
  { r with controller := r.controller.scene.ticks.foldl (fun c _ => c.serveTick) r.controller }

/-- Serves the next input: signals come before requests. -/
def serveNext (r : Rehearsal ρ σ) : Rehearsal ρ σ :=
  let r := r.serveTicks
  if r.controller.signals.isEmpty then r.act (Controller.serveRequest Backdrop.outside)
  else r.act (Controller.serveSignal Backdrop.outside)

/-- Serves all inputs, as far as there is time. -/
def serveAll (r : Rehearsal ρ σ) : Rehearsal ρ σ :=
  (r.controller.signals.length + r.controller.requests.length).repeat serveNext r

/-- Lets the rest of the time pass; a controller that has ended leaves it. -/
def letRestPass (r : Rehearsal ρ σ) : Rehearsal ρ σ :=
  if r.controller.isRunning then r.actOnScene Backdrop.letRestPass else r

/-- Does everything that there is time for, and lets the rest of the time pass. -/
def proceed (r : Rehearsal ρ σ) : Rehearsal ρ σ :=
  r.resume.serveAll.serveTicks.letRestPass.serveTicks

/-- Does everything that there is time for within an allowance. -/
def within (allowance : Option Nat) (untilEffect : Bool) (r : Rehearsal ρ σ) : Rehearsal ρ σ :=
  { r with backdrop := { r.backdrop with allowance, untilEffect } }.proceed

/-! ## What the host does -/

def wait (span : Nat) (r : Rehearsal ρ σ) : Rehearsal ρ σ :=
  r.within (some span) false

/-- Submits a request, and tells whether it was taken. -/
def send (request : ρ) (r : Rehearsal ρ σ) : Rehearsal ρ σ × Bool :=
  let (controller, taken) := r.controller.send request
  ({ r with controller }, taken)

/-- Submits a signal, and tells whether it was taken. -/
def notify (signal : Lifecycle) (r : Rehearsal ρ σ) : Rehearsal ρ σ × Bool :=
  let (controller, taken) := r.controller.notify signal
  ({ r with controller }, taken)

/-- Everything that was submitted has been served. -/
def isSettled (r : Rehearsal ρ σ) : Bool :=
  r.controller.submitted ≤ r.controller.processed

/-- Waits until everything that was submitted has been served, however long it takes. -/
def settle (r : Rehearsal ρ σ) : Rehearsal ρ σ :=
  let r := r.within none false
  if r.isHeld && !r.isSettled then
    { r with controller := r.controller.log .settledByTermination }
  else r

/-- What waiting for an effect came to. -/
inductive Awaited where
  | effect (effect : Effect)
  /-- There was none in time. -/
  | nothing
  /-- There will be none any more. -/
  | closed
deriving DecidableEq, Repr

/-- What waiting for an effect has come to, if that is clear. -/
def awaited? (r : Rehearsal ρ σ) : Option Awaited :=
  match r.controller.scene.effects with
  | effect :: _ => some (.effect effect)
  | [] => if r.controller.isRunning then none else some .closed

/-- Waits some milliseconds for an effect, and takes it. One that comes only at the last instant is
not waited for. -/
def nextEffect (span : Nat) (r : Rehearsal ρ σ) : Rehearsal ρ σ × Awaited :=
  let proceeded := r.within (some span) true
  let inTime := r.awaited?.isSome || proceeded.backdrop.allowance != some 0
  match proceeded.awaited? with
  | some awaited =>
    if inTime then
      ({ proceeded with controller := proceeded.controller.takeEffect.1 }, awaited)
    else (proceeded, .nothing)
  | none => (proceeded, .nothing)

def takeEffects (r : Rehearsal ρ σ) : Rehearsal ρ σ × List Effect :=
  let (controller, effects) := r.controller.takeEffects
  ({ r with controller }, effects)

/-- Discards the screen and waits for its end. -/
def tearDown (r : Rehearsal ρ σ) : Rehearsal ρ σ :=
  let controller := r.controller.signalTeardown.stop
  let controller :=
    match controller.activity with
    | .broken message => controller.log (.screenBroken message)
    | _ => controller
  { r with controller, isHeld := false }

/-- Discards the screen without waiting for it, so that it ends in silence. -/
def abandon (r : Rehearsal ρ σ) : Rehearsal ρ σ :=
  { r with controller := r.controller.signalTeardown.close, isHeld := false }

end Rehearsal

end PanelClient
