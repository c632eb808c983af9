import PanelClient.CommandLine.Arguments
import PanelClient.CommandLine.Files
import PanelClient.Config.Reader
import PanelClient.Http.Address
import PanelClient.Rehearsal.Basic
import PanelClient.Screen.Account
import PanelClient.Screen.Checkout
import PanelClient.Screen.Dashboard
import PanelClient.Screen.ForgotPassword
import PanelClient.Screen.Login
import PanelClient.Screen.Purchase
import PanelClient.Screen.Register

/-!
# Commands

A command opens a screen, submits at most one request, waits until that is served, and prints what
the screen shows and the effects it asks for. Only logging out needs no screen.
-/

namespace PanelClient.CommandLine

open Inspect (Shown)
open Log (Event)

structure Report where
  code : Nat
  output : String
  files : Files
  /-- The requests that reached the backend. -/
  requests : List Http.Request
  log : List Event

/-- What can be reached: a backend that follows a script, for some addresses. -/
structure Network where
  script : Script
  serves : String → Bool

namespace Network

def offline : Network := ⟨⟨"", []⟩, fun _ => false⟩

/-- A backend for all addresses that begin so. -/
def backend (script : Script) : Network where
  script
  serves url := script.baseUrl.toList.isPrefixOf url.toList

/-- Why a request does not reach the backend, if it does not. -/
def obstacle (network : Network) (request : Http.Request) : Option Http.Failure :=
  if !request.isSendable then some (.invalidRequest "builder error")
  else if network.serves request.url then none
  else some (.connection "error sending request")

end Network

/-- What a screen needs to run. -/
structure Surroundings where
  setting : Setting
  session : Session
  backdrop : Backdrop

/-- What a command prints, and what it leaves of the session. -/
structure Shows where
  output : String
  session : Session
  sent : List Http.Request
  log : List Event

/-- Opens a screen, has a request served, and prints what comes of it. -/
def present {ρ σ : Type} [Shown σ] (surroundings : Surroundings)
    (screen : Client → Screen ρ σ) (request : Option ρ) : Shows :=
  let opened := Rehearsal.opening (screen surroundings.setting.client) surroundings.setting
    surroundings.session surroundings.backdrop
  let asked :=
    match request with
    | some request => (opened.send request).1
    | none => opened
  let (settled, effects) := asked.settle.takeEffects
  let scene := settled.tearDown.controller.scene
  let lines := effects.map fun effect => "effect: " ++ Inspect.line effect ++ "\n"
  { output := Inspect.block scene.view ++ "\n" ++ String.join lines
    session := scene.session
    sent := scene.sent
    log := scene.log }

def perform (surroundings : Surroundings) : Command → Shows
  | .login email password =>
    present surroundings Login.screen (some (.login email password))
  | .register email password confirmPassword inviteCode emailCode =>
    present surroundings Register.screen
      (some (.register email password (confirmPassword.getD password) inviteCode emailCode))
  | .sendCode email =>
    present surroundings ForgotPassword.screen (some (.sendEmailCode email))
  | .resetPassword email emailCode password =>
    present surroundings ForgotPassword.screen
      (some (.resetPassword email emailCode password password))
  | .logout =>
    let worked := Operation.logout surroundings.session
    { output := "Logged out\n", session := worked.session, sent := [], log := worked.events }
  | .dashboard => present surroundings Dashboard.screen none
  | .plans => present surroundings Purchase.screen none
  | .checkout planId period method coupon =>
    present surroundings (Checkout.screen · planId "") (some (.checkout period coupon method))
  | .userInfo => present surroundings Account.screen none

/-- What is printed about the program itself. -/
def version : String := "subpanel 0.1.0\n"

def help : String :=
  String.join
    ["Headless subscription panel client\n\n",
      "Usage: subpanel [OPTIONS] <COMMAND>\n\n",
      "Commands:\n",
      "  login           Sign in and store the session\n",
      "  register        Create an account\n",
      "  send-code       Email a verification code\n",
      "  reset-password  Set a new password using an emailed code\n",
      "  logout          Forget the stored session\n",
      "  dashboard       Usage, plan and servers\n",
      "  plans           List purchasable plans\n",
      "  checkout        Order a plan and pay for it\n",
      "  user-info       Account details\n",
      "  help            Print this message or the help of the given subcommand(s)\n\n",
      "Options:\n",
      "      --config <CONFIG>  Config file (default: <config dir>/subpanel/config.toml)\n",
      "  -h, --help             Print help\n",
      "  -V, --version          Print version\n"]

/-- Ends with a code and nothing but a text. -/
def ended (code : Nat) (output : String) (files : Files) : Report :=
  { code, output, files, requests := [], log := [] }

/-- Runs a command with a configuration, or says why the program breaks off. -/
def runWith (config : Config) (network : Network) (files : Files) (command : Command) :
    Except String Report :=
  let path := config.sessionPath.getD Files.sessionPath
  match FileStore.openAt path (.holding (files.spot path)) with
  | .error _ => .ok (ended 1 "" files)
  | .ok store =>
    match config.timeouts.total? with
    | none => .error Http.overflowMessage
    | some _ =>
      let shows := perform
        { setting :=
            { client := .ofUrl config.baseUrl, cooldownSeconds := config.emailCodeCooldown }
          session := ⟨.file store⟩
          backdrop := .initial network.script network.obstacle .logging } command
      let files :=
        match shows.session.store with
        | .file store => files.putText path store.disk.text?
        | _ => files
      .ok
        { code := 0
          output := shows.output
          files
          requests := shows.sent.filter fun request => (network.obstacle request).isNone
          log := shows.log }

/-- Runs the program on its arguments. -/
def run (arguments : List String) (network : Network) (files : Files) : Except String Report :=
  match ask arguments with
  | .help => .ok (ended 0 help files)
  | .version => .ok (ended 0 version files)
  | .refused => .ok (ended 2 "" files)
  | .run invocation =>
    match Config.load (.holding (files.spot (invocation.config.getD Files.configPath))) with
    | .error _ => .ok (ended 1 "" files)
    | .ok config => runWith config network files invocation.command

end PanelClient.CommandLine
