import PanelClient.Inspect

/-!
# Signals between a screen and its host

A screen asks its host for effects: to open another screen or an address, to show a message, to
close. The host tells a screen when it becomes active again and how a screen it had opened ended.
-/

namespace PanelClient

open Inspect (Shape Shown)

/-- How a screen ended, for the screen that had opened it. -/
inductive Ending where
  | ok
  | cancelled
deriving DecidableEq, Repr

/-- What a host tells a screen. -/
inductive Lifecycle where
  /-- The screen became active again. -/
  | resumed
  /-- A screen opened for its result ended. -/
  | returned (ending : Ending)
deriving DecidableEq, Repr

/-- A screen that can be opened. -/
inductive Destination where
  | login
  | register
  | forgotPassword
  | purchase
  | checkout (planId : Int) (planName : String)
deriving DecidableEq, Repr

/-- What a screen asks of its host, once each. -/
inductive Effect where
  | navigate (destination : Destination)
  /-- Opens a screen and reports its ending back. -/
  | navigateForResult (destination : Destination)
  /-- Opens an address outside the program. -/
  | openUrl (url : String)
  /-- Shows a message for a while. -/
  | toast (message : String)
  /-- Builds the screen anew, for instance in another language. -/
  | recreate
  /-- Closes the screen. -/
  | finish (ending : Ending)
  /-- Closes every screen. -/
  | finishAll
deriving DecidableEq, Repr

def Effect.isTerminal : Effect → Bool
  | finish _ => true
  | finishAll => true
  | _ => false

instance : Shown Ending where
  shape
    | .ok => .plain "Ok"
    | .cancelled => .plain "Cancelled"

instance : Shown Lifecycle where
  shape
    | .resumed => .plain "Resumed"
    | .returned ending => .call "Returned" [Shown.shape ending]

instance : Shown Destination where
  shape
    | .login => .plain "Login"
    | .register => .plain "Register"
    | .forgotPassword => .plain "ForgotPassword"
    | .purchase => .plain "Purchase"
    | .checkout planId planName =>
      .record "Checkout" [("plan_id", .integer planId), ("plan_name", .text planName)]

instance : Shown Effect where
  shape
    | .navigate destination => .call "Navigate" [Shown.shape destination]
    | .navigateForResult destination => .call "NavigateForResult" [Shown.shape destination]
    | .openUrl url => .call "OpenUrl" [.text url]
    | .toast message => .call "Toast" [.text message]
    | .recreate => .plain "Recreate"
    | .finish ending => .call "Finish" [Shown.shape ending]
    | .finishAll => .plain "FinishAll"

end PanelClient
