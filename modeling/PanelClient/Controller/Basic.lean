import PanelClient.Controller.Run
import PanelClient.Screen.Basic

/-!
# Controllers

A controller runs one screen. It loads the screen, and then serves what comes in, one thing at a
time: requests of the user, signals of the host, and ticks of the countdown, each of these sources
in its own order. When the host tears the screen down, the controller stops at the next wait; what
was under way is dropped.

The operations on a controller take the outside along, for a program that is served goes on as far
as the outside lets it.
-/

namespace PanelClient

open Log (Event)

/-- What a program is run for. -/
inductive Job where
  /-- The first load of the screen. -/
  | load
  /-- A request or a signal. -/
  | input
deriving DecidableEq, Repr

inductive Activity (σ : Type) where
  /-- It has not begun. -/
  | fresh
  /-- It waits for the next input. -/
  | waiting
  /-- It runs a program that is paused. -/
  | busy (job : Job) (program : Paused σ)
  /-- It has ended. -/
  | stopped
  /-- A program broke off, and the controller with it. -/
  | broken (message : String)

def Activity.isRunning {σ : Type} : Activity σ → Bool
  | stopped | broken _ => false
  | _ => true

/-- A screen, what it acts on, and what it has still to do. -/
structure Controller (ρ σ : Type) where
  screen : Screen ρ σ
  setting : Setting
  scene : Scene σ
  activity : Activity σ
  /-- Requests that were not served yet, in order. -/
  requests : List ρ
  /-- Signals that were not served yet, in order. -/
  signals : List Lifecycle
  /-- How many inputs were submitted; the first load is one of them. -/
  submitted : Nat
  /-- How many inputs were served to their end. -/
  processed : Nat

namespace Controller

variable {ρ σ β : Type}

/-- The controller of a screen that is being opened. -/
def opening (screen : Screen ρ σ) (setting : Setting) (session : Session) : Controller ρ σ where
  screen
  setting
  scene := .initial screen.initial session
  activity := .fresh
  requests := []
  signals := []
  submitted := 1
  processed := 0

def isRunning (c : Controller ρ σ) : Bool := c.activity.isRunning

/-- Writes an event to the log. -/
def log (event : Event) (c : Controller ρ σ) : Controller ρ σ :=
  { c with scene := c.scene.note [event] }

/-! ## Inputs of the host -/

/-- Submits a request, if anyone is there to take it. -/
def send (request : ρ) (c : Controller ρ σ) : Controller ρ σ × Bool :=
  if c.isRunning then
    ({ c with requests := c.requests ++ [request], submitted := c.submitted + 1 }, true)
  else (c, false)

/-- Submits a signal, if anyone is there to take it. -/
def notify (signal : Lifecycle) (c : Controller ρ σ) : Controller ρ σ × Bool :=
  if c.isRunning then
    ({ c with signals := c.signals ++ [signal], submitted := c.submitted + 1 }, true)
  else (c, false)

def takeEffect (c : Controller ρ σ) : Controller ρ σ × Option Effect :=
  ({ c with scene := c.scene.takeEffect }, c.scene.effects.head?)

def takeEffects (c : Controller ρ σ) : Controller ρ σ × List Effect :=
  ({ c with scene := { c.scene with effects := [] } }, c.scene.effects)

/-- Discards the screen; the controller has not noticed yet. -/
def signalTeardown (c : Controller ρ σ) : Controller ρ σ :=
  { c with scene := { c.scene with tornDown := true } }

/-! ## Serving -/

/-- Runs a program for a job. -/
def perform (outside : Outside σ β) (job : Job) (program : Program σ Unit)
    (c : Controller ρ σ) (b : β) : Controller ρ σ × β :=
  match program.run c.setting outside (c.scene, b) with
  | ((scene, b), .finished) =>
    ({ c with scene, activity := .waiting, processed := c.processed + 1 }, b)
  | ((scene, b), .paused program) => ({ c with scene, activity := .busy job program }, b)
  | ((scene, b), .crashed message) =>
    ({ c with scene := scene.close, activity := .broken message }, b)

def start (outside : Outside σ β) (c : Controller ρ σ) (b : β) : Controller ρ σ × β :=
  match c.activity with
  | .fresh => (c.log (.screenStarted c.screen.name)).perform outside .load c.screen.load b
  | _ => (c, b)

def serveSignal (outside : Outside σ β) (c : Controller ρ σ) (b : β) : Controller ρ σ × β :=
  match c.activity, c.signals with
  | .waiting, signal :: signals =>
    ({ c with signals }.log (.lifecycleTaken c.screen.name signal)).perform outside .input
      (c.screen.onLifecycle signal) b
  | _, _ => (c, b)

def serveRequest (outside : Outside σ β) (c : Controller ρ σ) (b : β) : Controller ρ σ × β :=
  match c.activity, c.requests with
  | .waiting, request :: requests =>
    ({ c with requests }.log (.requestTaken c.screen.name (c.screen.describe request))).perform
      outside .input (c.screen.handle request) b
  | _, _ => (c, b)

def serveTick (c : Controller ρ σ) : Controller ρ σ :=
  match c.activity with
  | .waiting => { c with scene := c.scene.takeTick c.screen.onTick }
  | _ => c

/-- Goes on with the reply that the program waits for. -/
def resumeReply (outside : Outside σ β) (reply : Http.Reply) (c : Controller ρ σ) (b : β) :
    Controller ρ σ × β :=
  match c.activity with
  | .busy job (.reply next) => c.perform outside job (next reply) b
  | _ => (c, b)

/-- Goes on when the importer that the program waits for is done. -/
def resumeHandover (outside : Outside σ β) (handover : Handover) (c : Controller ρ σ) (b : β) :
    Controller ρ σ × β :=
  match c.activity with
  | .busy job (.handover next) =>
    { c with scene := c.scene.note handover.events }.perform outside job (next handover.failure) b
  | _ => (c, b)

/-- Goes on when the time that the program waits for has passed. -/
def resumeWaking (outside : Outside σ β) (c : Controller ρ σ) (b : β) : Controller ρ σ × β :=
  match c.activity with
  | .busy job (.waking next) => c.perform outside job next b
  | _ => (c, b)

/-- The countdown's timer ticks, whatever the controller is doing. -/
def tick (c : Controller ρ σ) : Controller ρ σ :=
  if c.isRunning then { c with scene := c.scene.tick } else c

/-- Ends: nothing that was under way goes on. -/
def close (c : Controller ρ σ) : Controller ρ σ :=
  { c with scene := c.scene.close, activity := .stopped }

/-- Notices that the screen was torn down, and ends. -/
def stop (c : Controller ρ σ) : Controller ρ σ :=
  if c.scene.tornDown then
    match c.activity with
    | .fresh =>
      ((c.log (.screenStarted c.screen.name)).log (.screenLeftWhileLoading c.screen.name)).close
    | .busy .load _ => (c.log (.screenLeftWhileLoading c.screen.name)).close
    | .waiting | .busy .input _ => (c.log (.screenTerminated c.screen.name)).close
    | .stopped | .broken _ => c
  else c

/-! ## Moves -/

/-- What can happen next to a controller, on either side. -/
inductive Move (ρ : Type) where
  | send (request : ρ)
  | notify (signal : Lifecycle)
  | takeEffect
  | signalTeardown
  | start
  | serveSignal
  | serveRequest
  | serveTick
  | reply (reply : Http.Reply)
  | handover (handover : Handover)
  | waking
  | tick
  | stop

/-- What a move makes of a controller. A move that is not open to it changes nothing. -/
def step (c : Controller ρ σ) : Move ρ → Controller ρ σ
  | .send request => (c.send request).1
  | .notify signal => (c.notify signal).1
  | .takeEffect => c.takeEffect.1
  | .signalTeardown => c.signalTeardown
  | .start => (c.start .silent ()).1
  | .serveSignal => (c.serveSignal .silent ()).1
  | .serveRequest => (c.serveRequest .silent ()).1
  | .serveTick => c.serveTick
  | .reply reply => (c.resumeReply .silent reply ()).1
  | .handover handover => (c.resumeHandover .silent handover ()).1
  | .waking => (c.resumeWaking .silent ()).1
  | .tick => c.tick
  | .stop => c.stop

/-- What one move after the other makes of a controller. -/
def steps (c : Controller ρ σ) (moves : List (Move ρ)) : Controller ρ σ :=
  moves.foldl step c

end Controller

end PanelClient
