import PanelClient.Controller.Countdown

/-!
# Rehearsals of parts

A countdown on its own, with someone who listens to its ticks or does not any more, and the teardown
of a screen with those who wait for it.
-/

namespace PanelClient

/-- A countdown in a time of its own, and the ticks that someone has heard of it. -/
structure Stopwatch where
  countdown : Countdown
  isHeard : Bool
  /-- All ticks that were heard, in order. -/
  heard : List Tick
  log : List Log.Event

namespace Stopwatch

/-- A countdown that was never started. -/
def initial : Stopwatch := ⟨.initial, true, [], []⟩

def wait (span : Nat) (watch : Stopwatch) : Stopwatch :=
  let (countdown, ticks) := watch.countdown.pass span
  { watch with countdown, heard := if watch.isHeard then watch.heard ++ ticks else watch.heard }

/-- Starts the countdown, which ticks at once. -/
def start (seconds : Nat) (watch : Stopwatch) : Stopwatch :=
  let (countdown, events) := watch.countdown.start seconds
  { watch with countdown, log := watch.log ++ events }.wait 0

def cancel (watch : Stopwatch) : Stopwatch :=
  let (countdown, events) := watch.countdown.cancel
  { watch with countdown, log := watch.log ++ events }

def hangUp (watch : Stopwatch) : Stopwatch :=
  { watch with isHeard := false }

/-- For every tick that was heard, whether it belongs to the last start. -/
def accepted (watch : Stopwatch) : List Bool :=
  watch.heard.map watch.countdown.accepts

end Stopwatch

/-- The teardown of a screen, and how many wait for it. -/
structure Teardown where
  isSignalled : Bool
  waiting : Nat
deriving DecidableEq, Repr

namespace Teardown

/-- No teardown yet, and nobody waits. -/
def initial : Teardown := ⟨false, 0⟩

/-- Tears the screen down, once and for all. -/
def signal (teardown : Teardown) : Teardown :=
  { teardown with isSignalled := true }

def wait (teardown : Teardown) : Teardown :=
  { teardown with waiting := teardown.waiting + 1 }

/-- For all that have waited, whether they go on. -/
def finished (teardown : Teardown) : List Bool :=
  List.replicate teardown.waiting teardown.isSignalled

end Teardown

end PanelClient
