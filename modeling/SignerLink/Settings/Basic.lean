import SignerLink.Backoff
import SignerLink.Json.Record
/-!
The settings of a session: when it connects on its own, and what it logs.
-/

namespace SignerLink

structure AutoConnectSettings where
  enabled : Bool := true
  retryDelay : Nat := 2000
  greatestRetryDelay : Nat := 30000
  retryLimit : Nat := 3
  deriving DecidableEq, Repr

structure LoggingSettings where
  level : String := "warn"
  json : Bool := false
  deriving DecidableEq, Repr

structure Settings where
  autoConnect : AutoConnectSettings := {}
  logging : LoggingSettings := {}
  deriving DecidableEq, Repr

namespace AutoConnectSettings

def document (settings : AutoConnectSettings) : Json :=
  .object [("enabled", .bool settings.enabled),
    ("retry_delay_ms", Json.natural settings.retryDelay),
    ("max_retry_delay_ms", Json.natural settings.greatestRetryDelay),
    ("max_retries", Json.natural settings.retryLimit)]

def ofJson? (json : Json) : Option AutoConnectSettings := do
  match ← json.record? [.trailing "enabled", .trailing "retry_delay_ms",
      .trailing "max_retry_delay_ms", .trailing "max_retries"] with
  | [enabled, retryDelay, greatestRetryDelay, retryLimit] =>
      let standard : AutoConnectSettings := {}
      let enabled ← Json.withDefault? standard.enabled Json.asBool? enabled
      let retryDelay ← Json.withDefault? standard.retryDelay (Json.asUnsigned? 64) retryDelay
      let greatestRetryDelay ←
        Json.withDefault? standard.greatestRetryDelay (Json.asUnsigned? 64) greatestRetryDelay
      let retryLimit ← Json.withDefault? standard.retryLimit (Json.asUnsigned? 32) retryLimit
      return ⟨enabled, retryDelay, greatestRetryDelay, retryLimit⟩
  | _ => none

end AutoConnectSettings

namespace LoggingSettings

def document (settings : LoggingSettings) : Json :=
  .object [("level", .string settings.level), ("json", .bool settings.json)]

def ofJson? (json : Json) : Option LoggingSettings := do
  match ← json.record? [.trailing "level", .trailing "json"] with
  | [level, asJson] =>
      let standard : LoggingSettings := {}
      let level ← Json.withDefault? standard.level Json.asString? level
      let asJson ← Json.withDefault? standard.json Json.asBool? asJson
      return ⟨level, asJson⟩
  | _ => none

end LoggingSettings

inductive SettingsError where
  | invalid (field reason : String)
  | unprintable
  | unreadable
  | storage
  deriving DecidableEq, Repr

/-- Only an invalid field has a text of its own. -/
def SettingsError.message? : SettingsError → Option String
  | .invalid field reason => some ("invalid " ++ field ++ ": " ++ reason)
  | _ => none

namespace Settings

def document (settings : Settings) : Json :=
  .object [("auto_connect", settings.autoConnect.document),
    ("logging", settings.logging.document)]

def ofJson? (json : Json) : Option Settings := do
  match ← json.record? [.trailing "auto_connect", .trailing "logging"] with
  | [autoConnect, logging] =>
      let autoConnect ← Json.withDefault? {} AutoConnectSettings.ofJson? autoConnect
      let logging ← Json.withDefault? {} LoggingSettings.ofJson? logging
      return ⟨autoConnect, logging⟩
  | _ => none

/-- The policy that the settings describe; the delays have to be positive and in order. -/
def policy (settings : Settings) : Except SettingsError AutoConnectPolicy :=
  let chosen := settings.autoConnect
  if chosen.retryDelay = 0 then
    .error (.invalid "auto_connect.retry_delay_ms" "must be greater than zero")
  else if chosen.greatestRetryDelay < chosen.retryDelay then
    .error (.invalid "auto_connect.max_retry_delay_ms"
      ("must be at least retry_delay_ms (" ++ toString chosen.retryDelay ++ ")"))
  else
    .ok {
      enabled := chosen.enabled
      initialDelay := .ofMilliseconds chosen.retryDelay
      greatestDelay := .ofMilliseconds chosen.greatestRetryDelay
      retryLimit := chosen.retryLimit }

end Settings

end SignerLink
