import PanelClient.Main
import PanelClient.Rehearsal.Acts
import PanelClient.Rehearsal.Parts
import PanelClient.Proofs.Backend.Envelope
import PanelClient.Proofs.Backend.Listing
import PanelClient.Proofs.Backend.Refusal
import PanelClient.Proofs.Checkout.Confirmation
import PanelClient.Proofs.Checkout.Offer
import PanelClient.Proofs.Checkout.Ordering
import PanelClient.Proofs.Config.Acceptance
import PanelClient.Proofs.Controller.Clock
import PanelClient.Proofs.Controller.Discretion
import PanelClient.Proofs.Controller.Inputs
import PanelClient.Proofs.Controller.Likeness
import PanelClient.Proofs.Controller.Origin
import PanelClient.Proofs.Controller.Secrecy
import PanelClient.Proofs.Controller.Service
import PanelClient.Proofs.Controller.Teardown
import PanelClient.Proofs.Controller.Timing
import PanelClient.Proofs.Controller.Turns
import PanelClient.Proofs.Record.Pruned
import PanelClient.Proofs.Rehearsal.Timing
import PanelClient.Proofs.Screen.Cooldown
import PanelClient.Proofs.Screen.Credential
import PanelClient.Proofs.Screen.Likeness
import PanelClient.Proofs.Screen.Loading
import PanelClient.Proofs.Screen.Percentage
import PanelClient.Proofs.Screen.Populated
import PanelClient.Proofs.Screen.Reloading
import PanelClient.Proofs.Screen.Rendering
import PanelClient.Proofs.Screen.Steady
import PanelClient.Proofs.Screen.Submission
import PanelClient.Proofs.Screen.Validation
import PanelClient.Proofs.Screen.Wording
import PanelClient.Proofs.Session.FailedSignIn
import PanelClient.Proofs.Session.History
import PanelClient.Proofs.Session.Likeness
import PanelClient.Proofs.Session.Secrecy
import PanelClient.Proofs.Store.Durability
