import PanelClient.Http.Exchange
import PanelClient.Text.Blank

/-!
# Configuration

What a user may configure, with a default for everything, and the check that a configuration passes
before it is used (`Config.check`).
-/

namespace PanelClient

structure Config where
  /-- What the address of every request begins with. -/
  baseUrl : String := "https://example.com/api/v1"
  timeouts : Http.Timeouts := {}
  /-- The file of the session, if it is not the usual one. -/
  sessionPath : Option String := none
  /-- Seconds from one mailed code to the next. -/
  emailCodeCooldown : Nat := 60
  /-- Which events are written to the log. -/
  logFilter : String := "info"
deriving DecidableEq, Repr

namespace Config

/-- What a configuration may be refused for. -/
inductive Objection where
  /-- The base address, shown without surrounding blanks, belongs to no known protocol. -/
  | baseUrl (url : String)
  | zeroTimeout (name : String)
deriving DecidableEq, Repr

/-- What is said about a configuration that is refused. -/
def Objection.message : Objection → String
  | baseUrl url =>
    "Config validation failed: Base URL '" ++ url ++ "' must start with http:// or https://"
  | zeroTimeout name => "Config validation failed: " ++ name ++ " must be greater than zero"

/-- The beginnings of an address that can be requested. -/
def protocols : List String := ["http://", "https://"]

/-- The address begins with a known protocol. -/
def hasProtocol (url : String) : Bool :=
  protocols.any fun protocol => protocol.toList.isPrefixOf url.toList

/-- The timeouts by name, in order. -/
def namedTimeouts (config : Config) : List (String × Nat) :=
  [("connect_timeout_seconds", config.timeouts.connect),
    ("read_timeout_seconds", config.timeouts.read),
    ("write_timeout_seconds", config.timeouts.write)]

/-- Why the configuration is refused, if it is. -/
def objection? (config : Config) : Option Objection :=
  let url := Text.trim config.baseUrl
  if hasProtocol url then
    (config.namedTimeouts.find? fun timeout => timeout.2 == 0).map fun timeout =>
      .zeroTimeout timeout.1
  else some (.baseUrl url)

def check (config : Config) : Except Objection Unit :=
  match config.objection? with
  | none => .ok ()
  | some objection => .error objection

end Config

end PanelClient
