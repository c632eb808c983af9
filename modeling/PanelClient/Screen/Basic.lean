import PanelClient.Screen.Program

/-!
# Screens

A screen is what it shows at first and what it does when it is opened, on a request, on a signal
from its host, and on a tick of its countdown. Most screens load anew when they become active again.
The account knows its plan by number; screens look the name up in the list of plans
(`resolvePlanName`).
-/

namespace PanelClient

/-- A screen with requests `ρ` and views `σ`. -/
structure Screen (ρ σ : Type) where
  name : String
  initial : σ
  /-- What is done when the screen opens. -/
  load : Program σ Unit := .done ()
  handle : ρ → Program σ Unit
  onLifecycle : Lifecycle → Program σ Unit :=
    fun signal => if signal = .resumed then load else .done ()
  /-- What a tick with that many seconds left changes. -/
  onTick : Nat → σ → σ := fun _ view => view
  /-- What the log shows of a request. -/
  describe : ρ → String

/-! ## Names of plans -/

/-- The first plan with a number. -/
def findPlan (planId : Int) (plans : List Plan) : Option Plan :=
  plans.find? fun plan => plan.id == planId

/-- The name of the plan with a number. A failure costs the name only, and is logged. -/
def resolvePlanName {σ : Type} (client : Client) (planId : Option Int) :
    Program σ (Option String) :=
  match planId with
  | none => .done none
  | some planId => do
    match ← Program.perform client Operation.getPlans with
    | .success plans => return (findPlan planId plans).map Plan.name
    | failure => do
      Program.log (.planNameUnavailable planId failure.label)
      return none

end PanelClient
