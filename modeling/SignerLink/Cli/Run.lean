import SignerLink.Cli.Arguments
import SignerLink.Cli.ErrorReport
import SignerLink.Cli.Simulation
import SignerLink.Json.Reader
import SignerLink.Settings.File
/-!
Carrying out what a command line asks for.
-/

namespace SignerLink

namespace Cli

structure Surroundings where
  environment : Environment := []
  file : String → Option String := fun _ => none
  /-- Standard input, unless it is no text. -/
  input : Option String := some ""

namespace Invocation

def coloured (invocation : Invocation) : Bool := invocation.color = .always

def render {α : Type} (invocation : Invocation) (document : α → Json)
    (lines : Bool → α → String) (value : α) : String :=
  match invocation.output with
  | .table => lines invocation.coloured value
  | .json => (document value).pretty
  | .compactJson => (document value).compact

def settingsFile (invocation : Invocation) (environment : Environment) : String :=
  invocation.settingsPath.getD environment.settingsPath

def loadSettings (invocation : Invocation) (surroundings : Surroundings) :
    Except Failure Settings :=
  let path := invocation.settingsFile surroundings.environment
  let file : SettingsFile := { text := surroundings.file path }
  (file.load surroundings.environment).mapError .settings

/-- A dash stands for standard input. -/
def payloadText (payload : String) (surroundings : Surroundings) : Except Failure String :=
  if payload = "-" then
    match surroundings.input with
    | some text => .ok text
    | none => .error .input
  else .ok payload

def decode (payload : String) (wallet : Option Wallet) (surroundings : Surroundings) :
    Except Failure ErrorReport := do
  let text ← payloadText payload surroundings
  match Json.parse? (String.ofList (Text.trim text.toList)) with
  | some json => return ⟨WalletError.decode json wallet⟩
  | none => .error .payload

/-- Settings are shown only if a session can be run with them. -/
def showSettings (invocation : Invocation) (surroundings : Surroundings) :
    Except Failure String := do
  let settings ← invocation.loadSettings surroundings
  let _ ← settings.policy.mapError Failure.settings
  match invocation.output with
  | .table =>
      match settings.text with
      | .ok text => return String.ofList (Text.trimEnd text.toList)
      | .error _ => .error .unprintable
  | .json => return settings.document.pretty
  | .compactJson => return settings.document.compact

def answer (invocation : Invocation) (surroundings : Surroundings) : Except Failure String := do
  match invocation.command with
  | .classify message wallet status name =>
      let error := RawFailure.classify ⟨name, message, status⟩ wallet
      return invocation.render ErrorReport.document ErrorReport.lines ⟨error⟩
  | .decode payload wallet =>
      let report ← decode payload wallet surroundings
      return invocation.render ErrorReport.document ErrorReport.lines report
  | .simulate scenario wallet =>
      let settings ← invocation.loadSettings surroundings
      let policy ← settings.policy.mapError Failure.settings
      let simulation ← Simulation.run scenario wallet policy
      return invocation.render Simulation.document Simulation.lines simulation
  | .showSettings => invocation.showSettings surroundings
  | .settingsPath => return invocation.settingsFile surroundings.environment
  | .completions _ => return ""

end Invocation

/-- The output of a command line. Nothing is printed when there is nothing to say. -/
def run (surroundings : Surroundings) (arguments : List String) : Except Failure String := do
  let invocation ←
    (Invocation.ofArguments surroundings.environment arguments).mapError Failure.usage
  let answer ← invocation.answer surroundings
  return if invocation.quiet || answer.isEmpty then "" else answer ++ "\n"

end Cli

end SignerLink
