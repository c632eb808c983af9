import PanelClient.Proofs.Screen.Progress
import PanelClient.Screen.Account
import PanelClient.Screen.Checkout
import PanelClient.Screen.Dashboard
import PanelClient.Screen.ForgotPassword
import PanelClient.Screen.Login
import PanelClient.Screen.Purchase
import PanelClient.Screen.Register

/-!
# The pages

The seven screens as data (`Page`), each with its requests, its views and the screen itself. A view
has one status, which every instruction about the status changes and nothing else
(`HasStatus.Lawful`).
-/

namespace PanelClient

/-- A status that is set is the status that is shown. -/
class HasStatus.Lawful (σ : Type) [HasStatus σ] : Prop where
  status_setStatus (status : Status) (view : σ) :
    HasStatus.status (HasStatus.setStatus status view) = status

@[simp] theorem HasStatus.status_modify {σ : Type} [HasStatus σ] [HasStatus.Lawful σ]
    (change : Status → Status) (view : σ) :
    HasStatus.status (HasStatus.modify change view) = change (HasStatus.status view) :=
  HasStatus.Lawful.status_setStatus ..

instance : HasStatus.Lawful Login.View := ⟨fun _ _ => rfl⟩

instance : HasStatus.Lawful Register.View := ⟨fun _ _ => rfl⟩

instance : HasStatus.Lawful ForgotPassword.View := ⟨fun _ _ => rfl⟩

instance : HasStatus.Lawful Dashboard.View := ⟨fun _ _ => rfl⟩

instance : HasStatus.Lawful Purchase.View := ⟨fun _ _ => rfl⟩

instance : HasStatus.Lawful Checkout.View := ⟨fun _ _ => rfl⟩

instance : HasStatus.Lawful Account.View := ⟨fun _ _ => rfl⟩

/-- A screen of the program, with what it is opened for. -/
inductive Page where
  | login
  | register
  | forgotPassword
  | dashboard
  | purchase
  | checkout (planId : Int) (planName : String)
  | account
deriving DecidableEq

namespace Page

def Request : Page → Type
  | login => Login.Request
  | register => Register.Request
  | forgotPassword => ForgotPassword.Request
  | dashboard => Dashboard.Request
  | purchase => Purchase.Request
  | checkout .. => Checkout.Request
  | account => Account.Request

def View : Page → Type
  | login => Login.View
  | register => Register.View
  | forgotPassword => ForgotPassword.View
  | dashboard => Dashboard.View
  | purchase => Purchase.View
  | checkout .. => Checkout.View
  | account => Account.View

def screen (client : Client) : (page : Page) → Screen page.Request page.View
  | login => Login.screen client
  | register => Register.screen client
  | forgotPassword => ForgotPassword.screen client
  | dashboard => Dashboard.screen client
  | purchase => Purchase.screen client
  | checkout planId planName => Checkout.screen client planId planName
  | account => Account.screen client

instance (page : Page) : HasStatus page.View :=
  match page with
  | login => inferInstanceAs (HasStatus Login.View)
  | register => inferInstanceAs (HasStatus Register.View)
  | forgotPassword => inferInstanceAs (HasStatus ForgotPassword.View)
  | dashboard => inferInstanceAs (HasStatus Dashboard.View)
  | purchase => inferInstanceAs (HasStatus Purchase.View)
  | checkout .. => inferInstanceAs (HasStatus Checkout.View)
  | account => inferInstanceAs (HasStatus Account.View)

instance (page : Page) : HasStatus.Lawful page.View where
  status_setStatus _ _ := by cases page <;> rfl

/-- What a view of the page shows besides its own content. -/
def status (page : Page) (view : page.View) : Status := HasStatus.status view

end Page

end PanelClient
