import PanelClient.Controller.Scene

/-!
# Running programs

A program runs on a scene until it is done, breaks off, or has to wait: for the reply to a
request, for an importer, or for time to pass. What it waits for may be there at once; `Outside`
says so. With `Outside.silent` nothing is, and the program pauses at every wait
(`Program.advance`).
-/

namespace PanelClient

/-- What the programs of all screens have in common. -/
structure Setting where
  client : Client
  /-- Seconds from one mailed code to the next. -/
  cooldownSeconds : Nat := 60

/-- A program that waits, and how it goes on. -/
inductive Paused (σ : Type) where
  /-- Waits for the reply to its request. -/
  | reply (next : Http.Reply → Program σ Unit)
  /-- Waits for the importer. -/
  | handover (next : Option String → Program σ Unit)
  /-- Waits for time to pass. -/
  | waking (next : Program σ Unit)

/-- How far a program has come. -/
inductive Halt (σ : Type) where
  | finished
  | paused (program : Paused σ)
  | crashed (message : String)

/-- What a program meets outside, which has a state of its own: for each wait, what has become of
the scene and that state, and what the program waited for if that is there. -/
structure Outside (σ β : Type) where
  reply : Http.Request → Scene σ × β → (Scene σ × β) × Option Http.Reply
  handover : String → String → Scene σ × β → (Scene σ × β) × Option Handover
  waking : Nat → Scene σ × β → (Scene σ × β) × Bool

def Outside.silent {σ : Type} : Outside σ Unit where
  reply _ state := (state, none)
  handover _ _ state := (state, none)
  waking _ state := (state, false)

namespace Program

variable {σ β : Type}

/-- Runs a program until it is done, breaks off, or has to wait. -/
def run (setting : Setting) (outside : Outside σ β) :
    Program σ Unit → Scene σ × β → (Scene σ × β) × Halt σ
  | done (), state => (state, .finished)
  | update change next, (scene, b) => run setting outside next (scene.update change, b)
  | emit effect next, (scene, b) => run setting outside next (scene.emit effect, b)
  | work change events next, (scene, b) =>
    run setting outside (next scene.session) (scene.work change events, b)
  | exchange call next, (scene, b) =>
    let request := setting.client.request scene.session call
    match outside.reply request (scene.send request, b) with
    | (state, some reply) => run setting outside (next reply) state
    | (state, none) => (state, .paused (.reply next))
  | handOff name url next, (scene, b) =>
    match outside.handover name url (scene.handOn name url, b) with
    | ((scene, b), some handover) =>
      run setting outside (next handover.failure) (scene.note handover.events, b)
    | (state, none) => (state, .paused (.handover next))
  | startCooldown next, (scene, b) =>
    run setting outside next (scene.startCountdown setting.cooldownSeconds, b)
  | sleep milliseconds next, state =>
    match outside.waking milliseconds state with
    | (state, true) => run setting outside next state
    | (state, false) => (state, .paused (.waking next))
  | crash message, state => (state, .crashed message)

/-- Runs a program until it is done, breaks off, or has to wait for anything. -/
def advance (setting : Setting) (program : Program σ Unit) (scene : Scene σ) :
    Scene σ × Halt σ :=
  let ((scene, ()), halt) := program.run setting .silent (scene, ())
  (scene, halt)

end Program

end PanelClient
