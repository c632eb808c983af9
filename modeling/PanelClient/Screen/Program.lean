import PanelClient.Backend.Operation
import PanelClient.Screen.Status

/-!
# Programs of screens

What a screen does, for instance on a request, is a program: a tree of instructions on its view, the
session and the world outside, each of which says how to go on with its answer. Programs compose
(`Program.bind`); the controller runs them.
-/

namespace PanelClient

open Log (Event)

/-- A program of a screen with the view `σ` and the result `α`. -/
inductive Program (σ α : Type) where
  | done (result : α)
  /-- Changes the view. -/
  | update (change : σ → σ) (next : Program σ α)
  /-- Asks the host for an effect. -/
  | emit (effect : Effect) (next : Program σ α)
  /-- Works on the session: what it becomes, what is logged, and how to go on with the session as it
  was before. -/
  | work (change : Session → Session) (events : Session → List Event)
      (next : Session → Program σ α)
  /-- Makes a call and waits for the reply. -/
  | exchange (call : Call) (next : Http.Reply → Program σ α)
  /-- Hands a subscription on and learns why that failed, if it did. -/
  | handOff (name url : String) (next : Option String → Program σ α)
  /-- Starts the countdown anew. -/
  | startCooldown (next : Program σ α)
  /-- Waits for some milliseconds. -/
  | sleep (milliseconds : Nat) (next : Program σ α)
  /-- Breaks off, and the screen with it. -/
  | crash (message : String)

namespace Program

variable {σ α β : Type}

protected def bind (program : Program σ α) (next : α → Program σ β) : Program σ β :=
  match program with
  | done result => next result
  | update change rest => update change (rest.bind next)
  | emit effect rest => emit effect (rest.bind next)
  | work change events rest => work change events fun session => (rest session).bind next
  | exchange call rest => exchange call fun reply => (rest reply).bind next
  | handOff name url rest => handOff name url fun failure => (rest failure).bind next
  | startCooldown rest => startCooldown (rest.bind next)
  | sleep milliseconds rest => sleep milliseconds (rest.bind next)
  | crash message => crash message

instance : Monad (Program σ) where
  pure := done
  bind := Program.bind

@[simp] theorem pure_eq (result : α) : (pure result : Program σ α) = done result := rfl

@[simp] theorem bind_eq (program : Program σ α) (next : α → Program σ β) :
    program >>= next = program.bind next := rfl

theorem bind_done (program : Program σ α) : program.bind done = program := by
  induction program <;> simp_all [Program.bind]

/-! ## Instructions -/

def change (f : σ → σ) : Program σ Unit := update f (done ())

/-- Asks the host for an effect. -/
def ask (effect : Effect) : Program σ Unit := emit effect (done ())

def onSession (task : SessionM α) : Program σ α :=
  work (fun session => (task session).session) (fun session => (task session).events)
    fun session => done (task session).value

def log (event : Event) : Program σ Unit :=
  onSession (SessionM.log event)

/-- A value that the session holds. -/
def read (view : Session → α) : Program σ α :=
  onSession fun session => ⟨view session, session, []⟩

/-- Performs an operation of the backend. -/
def perform (client : Client) (operation : Operation α) : Program σ (Outcome α) :=
  exchange operation.call fun reply => onSession (operation.finish client reply)

/-! ## Status -/

section Status

variable [HasStatus σ]

def changeStatus (f : Status → Status) : Program σ Unit := change (HasStatus.modify f)

/-- Shows that something is going on, or no longer. -/
def setLoading (loading : Bool) : Program σ Unit := changeStatus (.setLoading loading)

def clearErrors : Program σ Unit := changeStatus .clearErrors

/-- Shows an error at an input. -/
def setFieldError (field : Field) (message : String) : Program σ Unit :=
  changeStatus (.setFieldError field message)

def setGeneralError (message : String) : Program σ Unit := changeStatus (.setGeneralError message)

/-- Shows a general error and that nothing is going on any more. -/
def fail (message : String) : Program σ Unit := changeStatus (.fail message)

/-- Shows a failure; the inputs that the view has are `shown`. -/
def recordFailure (outcome : Outcome α) (shown : List Field) : Program σ Unit :=
  changeStatus (.showing outcome shown)

/-- Shows a failure and that nothing is going on any more. -/
def showFailure (outcome : Outcome α) (shown : List Field) : Program σ Unit :=
  changeStatus fun status => (status.showing outcome shown).setLoading false

end Status

end Program

end PanelClient
