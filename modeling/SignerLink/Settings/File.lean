import SignerLink.Settings.Environment
import SignerLink.Settings.Text
import SignerLink.Toml.Reader
/-!
Settings in layers: the environment over the file over the defaults. A file holds the text of
settings, or is absent.
-/

namespace SignerLink

def Json.clip (length : Nat) : Json → Json
  | .array items => .array (items.take length)
  | other => other

/-- Settings out of merged layers. An array in the place of a section may be longer than the
section. -/
def Settings.ofLayers? (layers : Json) : Option Settings := do
  let autoConnect ← AutoConnectSettings.ofJson? ((layers.field "auto_connect").clip 4)
  let logging ← LoggingSettings.ofJson? ((layers.field "logging").clip 2)
  return ⟨autoConnect, logging⟩

structure SettingsFile where
  text : Option String := none
  /-- The directory of the file is missing and cannot be made. -/
  blocked : Bool := false
  deriving DecidableEq, Repr

namespace SettingsFile

/-- The layer of the file; an absent one gives nothing. -/
def settings? (file : SettingsFile) : Option Json :=
  match file.text with
  | none => some (.object [])
  | some text => Toml.parse? text

def load (file : SettingsFile) (environment : Environment) : Except SettingsError Settings :=
  let standard : Settings := {}
  let loaded := do
    let written ← file.settings?
    Settings.ofLayers? ((standard.document.sorted.merge written).merge environment.settings)
  match loaded with
  | some settings => .ok settings
  | none => .error .unreadable

def loadOrDefault (file : SettingsFile) (environment : Environment) : Settings :=
  match file.load environment with
  | .ok settings => settings
  | .error _ => {}

/-- A failure leaves the file as it was. -/
def save (file : SettingsFile) (settings : Settings) : SettingsFile × Except SettingsError Unit :=
  if file.blocked then (file, .error .storage)
  else
    match settings.text with
    | .error error => (file, .error error)
    | .ok text => ({ file with text := some text }, .ok ())

end SettingsFile

def joinPath (directory name : String) : String :=
  if directory.endsWith "/" then directory ++ name else directory ++ "/" ++ name

/-- Where settings are kept: below the configuration directory if its path is absolute,
otherwise below the home directory. -/
def Environment.settingsPath (environment : Environment) : String :=
  let home := (environment.get? "HOME").getD ""
  let directory :=
    match (environment.get? "XDG_CONFIG_HOME").filter (·.startsWith "/") with
    | some directory => directory
    | none => joinPath home ".config"
  joinPath (joinPath directory "hwlink") "hwlink.toml"

end SignerLink
