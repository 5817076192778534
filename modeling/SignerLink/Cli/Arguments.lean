import SignerLink.Cli.Command
import SignerLink.Settings.Environment
/-!
Reading a command line. Words are read from left to right; a command name leads one level
down, where some options are the same and others are new. The innermost level is settled
first, and its options win over those of the levels around it.
-/

namespace SignerLink

namespace Cli

inductive Opt where
  | output
  | color
  | settings
  | verbose
  | quiet
  | help
  | version
  | wallet
  | status
  | name
  | scenario
  deriving DecidableEq, Repr

namespace Opt

def long : Opt → String
  | .output => "output"
  | .color => "color"
  | .settings => "config"
  | .verbose => "verbose"
  | .quiet => "quiet"
  | .help => "help"
  | .version => "version"
  | .wallet => "wallet"
  | .status => "status"
  | .name => "name"
  | .scenario => "scenario"

def short? : Opt → Option Char
  | .output => some 'o'
  | .verbose => some 'v'
  | .quiet => some 'q'
  | .help => some 'h'
  | .version => some 'V'
  | .wallet => some 'w'
  | .scenario => some 's'
  | .color | .settings | .status | .name => none

def takesValue : Opt → Bool
  | .output | .color | .settings | .wallet | .status | .name | .scenario => true
  | .verbose | .quiet | .help | .version => false

def everywhere : List Opt := [.output, .color, .settings, .verbose, .quiet, .help, .version]

end Opt

inductive Level where
  | top
  | classify
  | decode
  | simulate
  | config
  | showSettings
  | settingsPath
  | completions
  deriving DecidableEq, Repr

namespace Level

def subcommands : Level → List (String × Level)
  | .top =>
      [("classify", .classify), ("decode", .decode), ("simulate", .simulate),
        ("sim", .simulate), ("config", .config), ("completions", .completions)]
  | .config => [("show", .showSettings), ("path", .settingsPath)]
  | _ => []

def options (level : Level) : List Opt :=
  let own : List Opt :=
    match level with
    | .classify => [.wallet, .status, .name]
    | .decode => [.wallet]
    | .simulate => [.scenario, .wallet]
    | _ => []
  Opt.everywhere ++ own

def hasOperand : Level → Bool
  | .classify | .decode | .completions => true
  | _ => false

end Level

inductive Turn where
  | help
  | into (level : Level)

def Level.turn? (level : Level) (word : String) : Option Turn :=
  match level.subcommands with
  | [] => none
  | subcommands =>
      if word = "help" then some .help else (subcommands.lookup word).map .into

def helpFor (level : Level) : List String → UsageError
  | [] => .helpRequested
  | word :: rest =>
      match level.turn? word with
      | some (.into inner) => helpFor inner rest
      | some .help => if rest.isEmpty then .helpRequested else .invalidSubcommand
      | none => .invalidSubcommand

/-! Values. -/

def namedValue? {α : Type} (names : List (String × α)) (text : String) : Except UsageError α :=
  match names.lookup text with
  | some value => .ok value
  | none => .error .invalidValue

def outputFormat? : String → Except UsageError OutputFormat :=
  namedValue? (OutputFormat.all.map fun format => (format.name, format))

def colorChoice? : String → Except UsageError ColorChoice :=
  namedValue? (ColorChoice.all.map fun choice => (choice.name, choice))

def scenario? : String → Except UsageError Scenario :=
  namedValue? (Scenario.all.map fun scenario => (scenario.name, scenario))

def shell? : String → Except UsageError Shell :=
  namedValue? (Shell.all.map fun shell => (shell.name, shell))

def path? (text : String) : Except UsageError String :=
  if text.isEmpty then .error .invalidValue else .ok text

def wallet? (text : String) : Except UsageError Wallet :=
  match Wallet.parse? text with
  | some wallet => .ok wallet
  | none =>
      .error (.unreadableValue ("unknown wallet '" ++ text
        ++ "' (expected ledger, trezor, onekey, lattice or qr)"))

/-- A number of 16 bits in some base, after a plus sign that may be absent. -/
def word? (base : Nat) (text : List Char) : Option UInt16 := do
  let written :=
    match text with
    | '+' :: rest => rest
    | _ => text
  let digits ← written.mapM (Toml.digitBelow? base)
  let value := Toml.ofDigits base digits
  if digits.isEmpty || value ≥ Nat.pow 2 16 then none else some value.toUInt16

/-- A status word in decimal, or in hexadecimal after `0x`. -/
def statusWord? (text : String) : Except UsageError UInt16 :=
  let value :=
    match text.toList with
    | '0' :: 'x' :: digits | '0' :: 'X' :: digits => word? 16 digits
    | digits => word? 10 digits
  match value with
  | some value => .ok value
  | none => .error (.unreadableValue ("invalid status word '" ++ text ++ "'"))

/-! One level. -/

structure Given where
  output : Option OutputFormat := none
  color : Option ColorChoice := none
  settingsPath : Option String := none
  verbosity : Nat := 0
  quiet : Bool := false
  wallet : Option Wallet := none
  status : Option UInt16 := none
  name : Option String := none
  scenario : Option Scenario := none
  operand : Option String := none
  shell : Option Shell := none
  deriving DecidableEq, Repr

namespace Given

def once {α : Type} (held : Option α) (value : Except UsageError α) : Except UsageError (Option α) :=
  match held with
  | some _ => .error .conflict
  | none => value.map some

def set (given : Given) (opt : Opt) (text : String) : Except UsageError Given := do
  match opt with
  | .output => return { given with output := ← once given.output (outputFormat? text) }
  | .color => return { given with color := ← once given.color (colorChoice? text) }
  | .settings => return { given with settingsPath := ← once given.settingsPath (path? text) }
  | .wallet => return { given with wallet := ← once given.wallet (wallet? text) }
  | .status => return { given with status := ← once given.status (statusWord? text) }
  | .name => return { given with name := ← once given.name (.ok text) }
  | .scenario => return { given with scenario := ← once given.scenario (scenario? text) }
  | .verbose | .quiet | .help | .version => .error .unneededValue

def raise (given : Given) (opt : Opt) : Except UsageError Given :=
  match opt with
  | .help => .error .helpRequested
  | .version => .error .versionRequested
  | .quiet => if given.quiet then .error .conflict else .ok { given with quiet := true }
  | .verbose => .ok { given with verbosity := given.verbosity + 1 }
  | _ => .error .invalidValue

def setOperand (given : Given) (level : Level) (text : String) : Except UsageError Given :=
  match level with
  | .completions => do return { given with shell := some (← shell? text) }
  | _ => .ok { given with operand := some text }

def inside (inner outer : Given) : Given :=
  { inner with
    output := inner.output.or outer.output
    color := inner.color.or outer.color
    settingsPath := inner.settingsPath.or outer.settingsPath
    quiet := inner.quiet || outer.quiet }

end Given

/-- A value that is settled once the next word is seen. -/
inductive Pending where
  | awaiting (opt : Opt)
  | value (opt : Opt) (text : String)
  | operand (text : String)
  deriving DecidableEq, Repr

structure Reading where
  level : Level
  given : Given := {}
  pending : Option Pending := none
  /-- Two dashes have been seen: all later words are operands. -/
  operandsOnly : Bool := false
  operandSeen : Bool := false

namespace Reading

def isAwaiting (reading : Reading) : Bool :=
  match reading.pending with
  | some (.awaiting _) => true
  | _ => false

def settle (reading : Reading) : Except UsageError Reading := do
  match reading.pending with
  | none => return reading
  | some (.awaiting _) => .error .invalidValue
  | some (.value opt text) =>
      return { reading with given := ← reading.given.set opt text, pending := none }
  | some (.operand text) =>
      return { reading with
        given := ← reading.given.setOperand reading.level text
        pending := none }

def option (reading : Reading) (opt : Opt) (attached : Option String) :
    Except UsageError Reading := do
  let reading ← reading.settle
  match attached with
  | some text => return { reading with given := ← reading.given.set opt text }
  | none => return { reading with pending := some (.awaiting opt) }

def flag (reading : Reading) (opt : Opt) : Except UsageError Reading := do
  let reading ← reading.settle
  return { reading with given := ← reading.given.raise opt }

def long (reading : Reading) (text : List Char) : Except UsageError Reading :=
  let name := String.ofList (text.takeWhile (· != '='))
  let attached :=
    match text.dropWhile (· != '=') with
    | [] => none
    | _ :: value => some (String.ofList value)
  match reading.level.options.find? fun opt => opt.long == name with
  | none => .error .unknownArgument
  | some opt =>
      if opt.takesValue then reading.option opt attached
      else if attached.isSome then .error .unneededValue
      else reading.flag opt

/-- Letters after one dash. What follows the letter of an option with a value is the value. -/
def short (reading : Reading) : List Char → Except UsageError Reading
  | [] => .ok reading
  | letter :: rest =>
      match reading.level.options.find? fun opt => opt.short? == some letter with
      | none => .error .unknownArgument
      | some opt =>
          if opt.takesValue then
            match rest with
            | [] => reading.option opt none
            | '=' :: value => reading.option opt (some (String.ofList value))
            | value => reading.option opt (some (String.ofList value))
          else
            match reading.flag opt with
            | .ok reading => reading.short rest
            | .error error => .error error

def operand (reading : Reading) (word : String) : Except UsageError Reading := do
  if reading.level.hasOperand && !reading.operandSeen then
    let reading ← reading.settle
    return { reading with pending := some (.operand word), operandSeen := true }
  else if reading.operandsOnly && (reading.level.turn? word).isSome then .error .unknownArgument
  else if reading.level.subcommands.isEmpty then .error .unknownArgument
  else .error .invalidSubcommand

def value (reading : Reading) (word : String) : Except UsageError Reading :=
  match reading.pending with
  | some (.awaiting opt) => .ok { reading with pending := some (.value opt word) }
  | _ => reading.operand word

def word (reading : Reading) (word : String) : Except UsageError Reading :=
  if reading.operandsOnly then reading.operand word
  else
    match word.toList with
    | ['-', '-'] => .ok { reading with operandsOnly := true }
    | '-' :: '-' :: text => reading.long text
    | ['-'] => reading.value word
    | '-' :: letters => reading.short letters
    | _ => reading.value word

def turn? (reading : Reading) (word : String) : Option Turn :=
  if reading.operandsOnly || reading.isAwaiting then none else reading.level.turn? word

end Reading

/-! The environment. -/

def outputVariable : String := "HWLINK_OUTPUT"

def settingsVariable : String := "HWLINK_CONFIG"

/-- The options that variables give, where the words of a level do not. -/
def Given.fromEnvironment (given : Given) (environment : Environment) :
    Except UsageError Given := do
  let output ←
    match given.output, environment.get? outputVariable with
    | none, some text => (outputFormat? text).map some
    | output, _ => pure output
  let settingsPath ←
    match given.settingsPath, environment.get? settingsVariable with
    | none, some text => (path? text).map some
    | settingsPath, _ => pure settingsPath
  return { given with output := output, settingsPath := settingsPath }

/-! All levels. -/

def Given.command (given : Given) : Level → Except UsageError Command
  | .top | .config => if given = {} then .error .nothingRequested else .error .missingSubcommand
  | .classify =>
      match given.operand with
      | some message => .ok (.classify message given.wallet given.status given.name)
      | none => .error .missingArgument
  | .decode =>
      match given.operand with
      | some payload => .ok (.decode payload given.wallet)
      | none => .error .missingArgument
  | .simulate => .ok (.simulate (given.scenario.getD .happy) (given.wallet.getD .ledger))
  | .showSettings => .ok .showSettings
  | .settingsPath => .ok .settingsPath
  | .completions =>
      match given.shell with
      | some shell => .ok (.completions shell)
      | none => .error .missingArgument

def readWords (environment : Environment) (reading : Reading) :
    List String → Except UsageError (Command × Given)
  | [] => do
      let reading ← reading.settle
      let given ← reading.given.fromEnvironment environment
      return (← given.command reading.level, reading.given)
  | word :: rest =>
      match reading.turn? word with
      | some .help => .error (helpFor reading.level rest)
      | some (.into level) => do
          let (command, inner) ← readWords environment { level := level } rest
          let reading ← reading.settle
          let _ ← reading.given.fromEnvironment environment
          return (command, inner.inside reading.given)
      | none => do readWords environment (← reading.word word) rest

/-- What a command line asks for. An option wins over a variable. -/
def Invocation.ofArguments (environment : Environment) (arguments : List String) :
    Except UsageError Invocation := do
  let (command, given) ← readWords environment { level := .top } arguments
  let given ← given.fromEnvironment environment
  return {
    command := command
    output := given.output.getD .table
    color := given.color.getD .auto
    settingsPath := given.settingsPath
    quiet := given.quiet }

end Cli

end SignerLink
