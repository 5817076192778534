import SignerLink.Wallet
/-!
What a command line can ask for: the commands with their arguments, and how everything is
shown.
-/

namespace SignerLink

namespace Cli

inductive OutputFormat where
  | table
  | json
  | compactJson
  deriving DecidableEq, Repr

def OutputFormat.all : List OutputFormat := [.table, .json, .compactJson]

def OutputFormat.name : OutputFormat → String
  | .table => "table"
  | .json => "json"
  | .compactJson => "json-compact"

/-- Output goes to no terminal, so only `always` colours it. -/
inductive ColorChoice where
  | auto
  | always
  | never
  deriving DecidableEq, Repr

def ColorChoice.all : List ColorChoice := [.auto, .always, .never]

def ColorChoice.name : ColorChoice → String
  | .auto => "auto"
  | .always => "always"
  | .never => "never"

inductive Scenario where
  /-- Select an account, verify, sign, disconnect. -/
  | happy
  | locked
  | wrongApp
  | unplug
  /-- A second attempt overtakes the first. -/
  | race
  deriving DecidableEq, Repr

def Scenario.all : List Scenario := [.happy, .locked, .wrongApp, .unplug, .race]

def Scenario.name : Scenario → String
  | .happy => "happy"
  | .locked => "locked"
  | .wrongApp => "wrong-app"
  | .unplug => "unplug"
  | .race => "race"

inductive Shell where
  | bash
  | elvish
  | fish
  | powerShell
  | zsh
  deriving DecidableEq, Repr

def Shell.all : List Shell := [.bash, .elvish, .fish, .powerShell, .zsh]

def Shell.name : Shell → String
  | .bash => "bash"
  | .elvish => "elvish"
  | .fish => "fish"
  | .powerShell => "powershell"
  | .zsh => "zsh"

inductive Command where
  | classify (message : String) (wallet : Option Wallet) (status : Option UInt16)
      (name : Option String)
  | decode (payload : String) (wallet : Option Wallet)
  | simulate (scenario : Scenario) (wallet : Wallet)
  | showSettings
  | settingsPath
  | completions (shell : Shell)
  deriving DecidableEq, Repr

structure Invocation where
  command : Command
  output : OutputFormat
  color : ColorChoice
  settingsPath : Option String
  quiet : Bool
  deriving DecidableEq, Repr

inductive UsageError where
  | missingArgument
  | missingSubcommand
  | invalidSubcommand
  | unknownArgument
  | invalidValue
  | unreadableValue (message : String)
  | unneededValue
  | conflict
  | helpRequested
  | versionRequested
  | nothingRequested
  deriving DecidableEq, Repr

namespace UsageError

def name : UsageError → String
  | .missingArgument => "MissingRequiredArgument"
  | .missingSubcommand => "MissingSubcommand"
  | .invalidSubcommand => "InvalidSubcommand"
  | .unknownArgument => "UnknownArgument"
  | .invalidValue => "InvalidValue"
  | .unreadableValue _ => "ValueValidation"
  | .unneededValue => "TooManyValues"
  | .conflict => "ArgumentConflict"
  | .helpRequested => "DisplayHelp"
  | .versionRequested => "DisplayVersion"
  | .nothingRequested => "DisplayHelpOnMissingArgumentOrSubcommand"

def message? : UsageError → Option String
  | .unreadableValue message => some message
  | _ => none

/-- Asking for help or for the version is no mistake. -/
def exitCode : UsageError → Nat
  | .helpRequested | .versionRequested => 0
  | _ => 2

end UsageError

end Cli

end SignerLink
