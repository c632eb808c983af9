import PanelClient.Controller.Countdown
import PanelClient.Controller.Importer
import PanelClient.Screen.Program

/-!
# Scenes

A scene is everything that the programs of one screen act on: the view, the session, the countdown,
the effects that the host has not taken yet, and records of what was logged, sent and handed on. A
screen that is torn down changes its view no more and asks for no more effects; what it does to the
session still counts.
-/

namespace PanelClient

open Log (Event)

/-- What the programs of a screen act on. -/
structure Scene (σ : Type) where
  view : σ
  /-- The host has discarded the screen. -/
  tornDown : Bool
  session : Session
  countdown : Countdown
  /-- Ticks that the screen has not been told of yet, in order. -/
  ticks : List Tick
  /-- Effects that the host has not taken yet, in order. -/
  effects : List Effect
  /-- All that was logged. -/
  log : List Event
  /-- All requests that were sent. -/
  sent : List Http.Request
  /-- All subscriptions that were handed on, by name and address. -/
  handedOn : List (String × String)

namespace Scene

variable {σ : Type}

def initial (view : σ) (session : Session) : Scene σ where
  view
  tornDown := false
  session
  countdown := .initial
  ticks := []
  effects := []
  log := []
  sent := []
  handedOn := []

def note (events : List Event) (scene : Scene σ) : Scene σ :=
  { scene with log := scene.log ++ events }

/-- Changes the view, unless the screen is torn down. -/
def update (change : σ → σ) (scene : Scene σ) : Scene σ :=
  if scene.tornDown then scene else { scene with view := change scene.view }

/-- Asks for an effect, unless the screen is torn down. -/
def emit (effect : Effect) (scene : Scene σ) : Scene σ :=
  if scene.tornDown then scene
  else { scene.note [.effectEmitted effect] with effects := scene.effects ++ [effect] }

def work (change : Session → Session) (events : Session → List Event) (scene : Scene σ) :
    Scene σ :=
  { scene.note (events scene.session) with session := change scene.session }

def send (request : Http.Request) (scene : Scene σ) : Scene σ :=
  { scene with sent := scene.sent ++ [request] }

def handOn (name url : String) (scene : Scene σ) : Scene σ :=
  { scene with handedOn := scene.handedOn ++ [(name, url)] }

def startCountdown (seconds : Nat) (scene : Scene σ) : Scene σ :=
  let (countdown, events) := scene.countdown.start seconds
  { scene.note events with countdown }

def tick (scene : Scene σ) : Scene σ :=
  let (countdown, ticks) := scene.countdown.tick
  { scene with countdown, ticks := scene.ticks ++ ticks }

def pass (span : Nat) (scene : Scene σ) : Scene σ :=
  let (countdown, ticks) := scene.countdown.pass span
  { scene with countdown, ticks := scene.ticks ++ ticks }

/-- Tells the screen of its oldest tick; one of an earlier countdown is passed over. -/
def takeTick (onTick : Nat → σ → σ) (scene : Scene σ) : Scene σ :=
  match scene.ticks with
  | [] => scene
  | tick :: rest =>
    let scene := { scene with ticks := rest }
    if scene.countdown.accepts tick then scene.update (onTick tick.remaining) else scene

/-- The host takes the oldest effect. -/
def takeEffect (scene : Scene σ) : Scene σ :=
  { scene with effects := scene.effects.drop 1 }

/-- The screen has come to its end: its countdown stops, and no tick reaches it any more. -/
def close (scene : Scene σ) : Scene σ :=
  { scene with countdown := scene.countdown.discard, ticks := [] }

end Scene

end PanelClient
