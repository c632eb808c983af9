import PanelClient.Screen.Basic

/-!
# A screen of acts

A screen for rehearsals: its requests are lists of acts, each of them one thing that a screen can
do, and its view notes what it saw of itself. It does nothing on its own.
-/

namespace PanelClient.Acts

/-- One thing that a screen can do. -/
inductive Act where
  | loading (value : Bool)
  | clearErrors
  | fieldError (field : Field) (message : String)
  | generalError (message : String)
  | fail (message : String)
  | showFailure (outcome : Outcome Int) (shown : List Field)
  | recordFailure (outcome : Outcome Int) (shown : List Field)
  /-- Notes a text, and whether something is going on. -/
  | note (text : String)
  | toast (text : String)
  | cooldown
  | sleep (milliseconds : Nat)
  | crash (message : String)

structure View where
  status : Status := .initial
  seen : List String := []
deriving Inhabited

instance : HasStatus View where
  status := View.status
  setStatus status view := { view with status }

/-- Notes a text, and whether something is going on. -/
def View.note (text : String) (view : View) : View :=
  let loading := if view.status.loading then "true" else "false"
  { view with seen := view.seen ++ [text ++ ":" ++ loading] }

def Act.perform : Act → Program View Unit
  | loading value => Program.setLoading value
  | clearErrors => Program.clearErrors
  | fieldError field message => Program.setFieldError field message
  | generalError message => Program.setGeneralError message
  | fail message => Program.fail message
  | showFailure outcome shown => Program.showFailure outcome shown
  | recordFailure outcome shown => Program.recordFailure outcome shown
  | note text => Program.change (View.note text)
  | toast text => Program.ask (.toast text)
  | cooldown => Program.startCooldown (.done ())
  | sleep milliseconds => Program.sleep milliseconds (.done ())
  | crash message => Program.crash message

def screen : Screen (List Act) View where
  name := "plain"
  initial := {}
  handle acts := acts.forM Act.perform
  describe _ := "Actions"

end PanelClient.Acts
