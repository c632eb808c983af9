import PanelClient.Log.Event

/-!
# The countdown

A screen that has had a code mailed counts down to the next one. Each start has a generation of its
own, and every tick carries the generation it belongs to, so that a tick of an earlier start that
comes late is recognised (`Countdown.accepts`). A timer started with `n` seconds ticks
`n, n - 1, …, 0`, the first time at once and then every second (`Timer.pass`).
-/

namespace PanelClient

open Log (Event)

/-- What a countdown reports every second. -/
structure Tick where
  generation : Nat
  /-- Seconds that are left. -/
  remaining : Nat
deriving DecidableEq, Repr

structure Timer where
  /-- What the next tick reports. -/
  remaining : Nat
  /-- Milliseconds until the next tick. -/
  due : Nat
deriving DecidableEq, Repr

namespace Timer

/-- Milliseconds from one tick to the next. -/
def period : Nat := 1000

/-- The timer after its next tick; the tick that reports zero is the last. -/
def next (timer : Timer) : Option Timer :=
  match timer.remaining with
  | 0 => none
  | remaining + 1 => some ⟨remaining, period⟩

/-- What the ticks of a span of milliseconds report, and the timer after it. -/
def ticksWithin (remaining due span : Nat) : List Nat × Option Timer :=
  if span < due then ([], some ⟨remaining, due - span⟩)
  else
    match remaining with
    | 0 => ([0], none)
    | left + 1 =>
      let (ticks, timer) := ticksWithin left period (span - due)
      ((left + 1) :: ticks, timer)

end Timer

/-- A countdown that can be started again and again. -/
structure Countdown where
  /-- How often it has been started. -/
  generation : Nat
  /-- It has been started and not cancelled since, whether or not the timer has run down. -/
  held : Bool
  timer : Option Timer
deriving DecidableEq, Repr

namespace Countdown

/-- A countdown that has never been started. -/
def initial : Countdown := ⟨0, false, none⟩

/-- The tick belongs to the last start. -/
def accepts (countdown : Countdown) (tick : Tick) : Bool :=
  tick.generation == countdown.generation

/-- Stops the timer. Only a countdown that is held is worth an event. -/
def cancel (countdown : Countdown) : Countdown × List Event :=
  if countdown.held then
    (⟨countdown.generation, false, none⟩, [.cooldownCancelled countdown.generation])
  else (countdown, [])

/-- Starts counting from some seconds, and stops what was counting before. -/
def start (seconds : Nat) (countdown : Countdown) : Countdown × List Event :=
  let (stopped, events) := countdown.cancel
  (⟨stopped.generation + 1, true, some ⟨seconds, 0⟩⟩, events)

/-- The next tick, if the timer runs. -/
def tick (countdown : Countdown) : Countdown × List Tick :=
  match countdown.timer with
  | none => (countdown, [])
  | some timer =>
    ({ countdown with timer := timer.next }, [⟨countdown.generation, timer.remaining⟩])

/-- The ticks of a span of milliseconds. What is due at its end belongs to it. -/
def pass (span : Nat) (countdown : Countdown) : Countdown × List Tick :=
  match countdown.timer with
  | none => (countdown, [])
  | some timer =>
    let (ticks, timer) := Timer.ticksWithin timer.remaining timer.due span
    ({ countdown with timer }, ticks.map (Tick.mk countdown.generation))

/-- The timer is gone, and nothing is said about it. -/
def discard (countdown : Countdown) : Countdown :=
  { countdown with held := false, timer := none }

theorem not_accepts_of_generation_lt {countdown : Countdown} {tick : Tick}
    (h : tick.generation < countdown.generation) : countdown.accepts tick = false := by
  simp only [accepts, beq_eq_false_iff_ne]
  omega

end Countdown

end PanelClient
