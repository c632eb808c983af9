import PanelClient.Log.Event

/-!
# Importers

An importer takes the address of a subscription over, under the name of a profile. The address
holds a token, so no more than its origin is written to the log (`origin`).
-/

namespace PanelClient

open Log (Event)

/-- What an importer makes of a subscription: what it logs, and why it failed, if it did. -/
structure Handover where
  events : List Event
  failure : Option String

/-- An importer takes the name of a profile and the address of a subscription. -/
abbrev Importer := String → String → Handover

namespace Importer

/-- The character ends the host of an address. -/
def endsHost (c : Char) : Bool :=
  c == '/' || c == '?' || c == '#'

/-- The characters before the first `://`, with it, and those after it. -/
def splitScheme? : List Char → Option (List Char × List Char)
  | ':' :: '/' :: '/' :: rest => some ([':', '/', '/'], rest)
  | c :: rest => (splitScheme? rest).map fun (scheme, host) => (c :: scheme, host)
  | [] => none

/-- The scheme and host of an address, without path, query and fragment. -/
def origin (url : String) : String :=
  match splitScheme? url.toList with
  | some (scheme, rest) => String.ofList (scheme ++ rest.takeWhile fun c => !endsHost c)
  | none => String.ofList (url.toList.takeWhile fun c => !endsHost c)

/-- Only notes the subscription in the log. -/
def logging : Importer := fun profile url =>
  ⟨[.subscriptionAvailable profile (origin url)], none⟩

def accepting : Importer := fun _ _ => ⟨[], none⟩

def failing (reason : String) : Importer := fun _ _ => ⟨[], some reason⟩

end Importer

end PanelClient
