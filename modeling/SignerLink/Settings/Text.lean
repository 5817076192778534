import SignerLink.Settings.Basic
import SignerLink.Toml.Text
/-!
Settings as text: a TOML document with one table for each section.
-/

namespace SignerLink

def greatestWritten : Nat := Nat.pow 2 63 - 1

def boolText : Bool → String
  | true => "true"
  | false => "false"

def AutoConnectSettings.text (settings : AutoConnectSettings) : String :=
  "[auto_connect]\n"
    ++ "enabled = " ++ boolText settings.enabled ++ "\n"
    ++ "retry_delay_ms = " ++ toString settings.retryDelay ++ "\n"
    ++ "max_retry_delay_ms = " ++ toString settings.greatestRetryDelay ++ "\n"
    ++ "max_retries = " ++ toString settings.retryLimit ++ "\n"

def LoggingSettings.text (settings : LoggingSettings) : String :=
  "[logging]\n"
    ++ "level = " ++ Toml.quote settings.level ++ "\n"
    ++ "json = " ++ boolText settings.json ++ "\n"

/-- Delays that the text cannot hold are refused. -/
def Settings.text (settings : Settings) : Except SettingsError String :=
  let chosen := settings.autoConnect
  if chosen.retryDelay ≤ greatestWritten && chosen.greatestRetryDelay ≤ greatestWritten then
    .ok (chosen.text ++ "\n" ++ settings.logging.text)
  else .error .unprintable

end SignerLink
