import SignerLink.Proofs.Settings.Variables
import SignerLink.Proofs.Toml.Ordered
import SignerLink.Settings.File
/-!
Settings out of their layers, one by one. Whatever else the layers hold, a setting has the value of
the last variable that gives it one, otherwise that of the file, otherwise its default.
-/

namespace SignerLink

/-- A setting that a layer may give. -/
inductive Setting where
  | enabled
  | retryDelay
  | greatestRetryDelay
  | retryLimit
  | level
  | json
  deriving DecidableEq, Repr

def Json.isObject : Json → Bool
  | .object _ => true
  | _ => false

namespace Setting

def table : Setting → String
  | enabled | retryDelay | greatestRetryDelay | retryLimit => "auto_connect"
  | level | json => "logging"

def key : Setting → String
  | enabled => "enabled"
  | retryDelay => "retry_delay_ms"
  | greatestRetryDelay => "max_retry_delay_ms"
  | retryLimit => "max_retries"
  | level => "level"
  | json => "json"

/-- What a layer gives for the setting. -/
def given? (setting : Setting) (layer : Json) : Option Json :=
  (layer.get? setting.table).bind fun table => table.get? setting.key

def accepts (value : Json) : Setting → Bool
  | enabled | json => value.asBool?.isSome
  | retryDelay | greatestRetryDelay => (value.asUnsigned? 64).isSome
  | retryLimit => (value.asUnsigned? 32).isSome
  | level => value.asString?.isSome

def ofSettings (settings : Settings) : Setting → Json
  | enabled => .bool settings.autoConnect.enabled
  | retryDelay => Json.natural settings.autoConnect.retryDelay
  | greatestRetryDelay => Json.natural settings.autoConnect.greatestRetryDelay
  | retryLimit => Json.natural settings.autoConnect.retryLimit
  | level => .string settings.logging.level
  | json => .bool settings.logging.json

def ofVariable? (setting : Setting) (entry : String × String) : Option Json :=
  setting.given? (Environment.layer entry)

/-- What the environment gives for the setting: of several values the last. -/
def inEnvironment? (setting : Setting) (environment : Environment) : Option Json :=
  (environment.filterMap setting.ofVariable?).getLast?

end Setting

/-- Where a layer gives a section, it gives a table. -/
def Json.HasTables (layer : Json) : Prop :=
  ∀ setting : Setting, (layer.get? setting.table).all Json.isObject = true

/-- The settings with these values; one without a value is as by default. -/
def Settings.ofGiven (given : Setting → Option Json) : Settings :=
  let standard : Settings := {}
  { autoConnect := {
      enabled := ((given .enabled).bind Json.asBool?).getD standard.autoConnect.enabled
      retryDelay :=
        ((given .retryDelay).bind (Json.asUnsigned? 64)).getD standard.autoConnect.retryDelay
      greatestRetryDelay :=
        ((given .greatestRetryDelay).bind (Json.asUnsigned? 64)).getD
          standard.autoConnect.greatestRetryDelay
      retryLimit :=
        ((given .retryLimit).bind (Json.asUnsigned? 32)).getD standard.autoConnect.retryLimit }
    logging := {
      level := ((given .level).bind Json.asString?).getD standard.logging.level
      json := ((given .json).bind Json.asBool?).getD standard.logging.json } }

namespace Json

variable {layer lower upper value : Json} {fields : Fields}

/-! Layers over layers. -/

theorem HasTables.object (tabled : layer.HasTables) (setting : Setting)
    (found : layer.get? setting.table = some value) : ∃ fields, value = .object fields := by
  have object := tabled setting
  rw [found, Option.all_some] at object
  cases value with
  | object fields => exact ⟨fields, rfl⟩
  | null | bool _ | number _ | string _ | array _ => cases object

theorem HasTables.merge (below : lower.HasTables) (ordered : IsOrdered (.object fields))
    (above : HasTables (.object fields)) : (Json.merge lower (.object fields)).HasTables := by
  intro setting
  rw [get?_merge ordered.distinct]
  cases found : Fields.find? setting.table fields with
  | none => exact below setting
  | some value =>
      obtain ⟨inner, rfl⟩ := above.object setting found
      simp [overlay, merge_object, isObject]

end Json

namespace Setting

variable {setting : Setting} {lower value : Json} {fields : Json.Fields}

/-- Layers of tables are laid over each other setting by setting. -/
theorem given?_merge (setting : Setting) (lower : Json) (ordered : Json.IsOrdered (.object fields))
    (tabled : Json.HasTables (.object fields)) :
    setting.given? (lower.merge (.object fields)) =
      Json.overlay (setting.given? lower) (setting.given? (.object fields)) := by
  have upper : (Json.object fields).get? setting.table =
      Json.Fields.find? setting.table fields := rfl
  rw [given?, given?, given?, Json.get?_merge ordered.distinct, upper]
  cases found : Json.Fields.find? setting.table fields with
  | none => rfl
  | some value =>
      obtain ⟨inner, rfl⟩ := tabled.object setting found
      have within := ordered.field (Json.Fields.mem_of_find? found)
      simp only [Json.overlay, Option.bind_some, Json.get?_merge within.distinct]
      cases lower.get? setting.table <;> rfl

theorem overlay_of_accepts (accepted : setting.accepts value) (lower : Option Json) :
    Json.overlay lower (some value) = some value := by
  rw [Json.overlay, Json.merge_plain]
  rintro fields rfl
  cases setting <;> simp [accepts, Json.asBool?, Json.asUnsigned?, Json.asIntegerIn?,
    Json.asString?] at accepted

/-! The environment. -/

theorem ofVariable?_of_path {name : String} (text : String)
    (leads : Environment.path? name = some [setting.table, setting.key]) :
    setting.ofVariable? (name, text) = some (Environment.ofText text) := by
  simp [ofVariable?, given?, Environment.layer, leads, Environment.nest, Json.get?,
    Json.Fields.find?]

example : retryLimit.ofVariable? ("HWLINK_AUTO_CONNECT__MAX_RETRIES", "5") =
    some (Json.natural 5) := by decide +kernel

theorem inEnvironment?_concat (setting : Setting) (environment : Environment)
    (entry : String × String) :
    setting.inEnvironment? (environment ++ [entry]) =
      (setting.ofVariable? entry).or (setting.inEnvironment? environment) := by
  rw [inEnvironment?, List.filterMap_append, List.getLast?_append]
  cases given : setting.ofVariable? entry <;> simp [given, inEnvironment?]

theorem settings_hasTables {environment : Environment}
    (tabled : ∀ entry ∈ environment, (Environment.layer entry).HasTables) :
    environment.settings.HasTables := by
  induction environment using List.reverseRecOn with
  | nil => exact fun setting => rfl
  | append_singleton environment entry ih =>
      obtain ⟨fields, object⟩ := Environment.layer_object entry
      have ordered := Environment.layer_isOrdered entry
      have last := tabled entry (by simp)
      rw [object] at ordered last
      rw [Environment.settings_concat, object]
      exact (ih fun other member => tabled other (by simp [member])).merge ordered last

theorem given?_settings {environment : Environment}
    (tabled : ∀ entry ∈ environment, (Environment.layer entry).HasTables)
    (accepted : ∀ value, setting.inEnvironment? environment = some value → setting.accepts value) :
    setting.given? environment.settings = setting.inEnvironment? environment := by
  induction environment using List.reverseRecOn with
  | nil => rfl
  | append_singleton environment entry ih =>
      obtain ⟨fields, object⟩ := Environment.layer_object entry
      have ordered := Environment.layer_isOrdered entry
      have last := tabled entry (by simp)
      rw [object] at ordered last
      rw [inEnvironment?_concat] at accepted ⊢
      rw [Environment.settings_concat, object, given?_merge setting _ ordered last, ← object]
      change Json.overlay _ (setting.ofVariable? entry) = _
      cases given : setting.ofVariable? entry with
      | some value => exact overlay_of_accepts (accepted value (by simp [given])) _
      | none =>
          rw [given, Option.none_or] at accepted
          exact ih (fun other member => tabled other (by simp [member])) accepted

end Setting

/-! Decoding. -/

namespace Settings

open Setting (given?)

def standardLayer : Json := ({} : Settings).document.sorted

theorem given?_standardLayer (setting : Setting) :
    setting.given? standardLayer = some (setting.ofSettings {}) := by
  cases setting <;> decide

theorem ofGiven_getD_standard (given : Setting → Option Json) :
    ofGiven (fun setting => some ((given setting).getD (setting.ofSettings {}))) =
      ofGiven given := by
  have same {α : Type} (decode : Json → Option α) {standard : Json} {default : α}
      (decoded : decode standard = some default) (given : Option Json) :
      ((some (given.getD standard)).bind decode).getD default =
        (given.bind decode).getD default := by
    cases given with
    | none => simp [decoded]
    | some value => rfl
  simp only [ofGiven, Settings.mk.injEq, AutoConnectSettings.mk.injEq, LoggingSettings.mk.injEq]
  refine ⟨⟨?_, ?_, ?_, ?_⟩, ?_, ?_⟩
  · exact same Json.asBool? rfl _
  · exact same (Json.asUnsigned? 64) rfl _
  · exact same (Json.asUnsigned? 64) rfl _
  · exact same (Json.asUnsigned? 32) rfl _
  · exact same Json.asString? rfl _
  · exact same Json.asBool? rfl _

theorem withDefault?_of_accepted {α : Type} {decode : Json → Option α} {given : Option Json}
    (default : α) (accepted : ∀ value, given = some value → (decode value).isSome) :
    Json.withDefault? default decode given = some ((given.bind decode).getD default) := by
  cases given with
  | none => rfl
  | some value =>
      obtain ⟨decoded, read⟩ := Option.isSome_iff_exists.mp (accepted value rfl)
      simp [Json.withDefault?, read]

theorem autoConnect_of_accepted {fields : Json.Fields} {given : Setting → Option Json}
    (read : ∀ setting : Setting, setting.table = "auto_connect" →
      (Json.Slot.trailing setting.key).read? fields = some (given setting))
    (accepted : ∀ (setting : Setting) value, given setting = some value → setting.accepts value) :
    AutoConnectSettings.ofJson? (.object fields) = some (ofGiven given).autoConnect := by
  have enabled := read .enabled rfl
  have retryDelay := read .retryDelay rfl
  have greatestRetryDelay := read .greatestRetryDelay rfl
  have retryLimit := read .retryLimit rfl
  simp only [Setting.key] at enabled retryDelay greatestRetryDelay retryLimit
  simp only [AutoConnectSettings.ofJson?, Json.record?, List.mapM_cons, List.mapM_nil, enabled,
    retryDelay, greatestRetryDelay, retryLimit, Option.bind_eq_bind, Option.pure_def,
    Option.bind_some, withDefault?_of_accepted _ (accepted .enabled),
    withDefault?_of_accepted _ (accepted .retryDelay),
    withDefault?_of_accepted _ (accepted .greatestRetryDelay),
    withDefault?_of_accepted _ (accepted .retryLimit), ofGiven]

theorem logging_of_accepted {fields : Json.Fields} {given : Setting → Option Json}
    (read : ∀ setting : Setting, setting.table = "logging" →
      (Json.Slot.trailing setting.key).read? fields = some (given setting))
    (accepted : ∀ (setting : Setting) value, given setting = some value → setting.accepts value) :
    LoggingSettings.ofJson? (.object fields) = some (ofGiven given).logging := by
  have level := read .level rfl
  have json := read .json rfl
  simp only [Setting.key] at level json
  simp only [LoggingSettings.ofJson?, Json.record?, List.mapM_cons, List.mapM_nil, level, json,
    Option.bind_eq_bind, Option.pure_def, Option.bind_some,
    withDefault?_of_accepted _ (accepted .level), withDefault?_of_accepted _ (accepted .json),
    ofGiven]

theorem ofLayers?_of_accepted {layers : Json} (ordered : layers.IsOrdered)
    (tables : ∀ setting : Setting, ∃ fields, layers.get? setting.table = some (.object fields))
    (accepted : ∀ (setting : Setting) value, setting.given? layers = some value →
      setting.accepts value) :
    ofLayers? layers = some (ofGiven fun setting => setting.given? layers) := by
  obtain ⟨connecting, first⟩ := tables .enabled
  obtain ⟨logging, second⟩ := tables .level
  simp only [Setting.table] at first second
  have read {table : String} {fields : Json.Fields}
      (found : layers.get? table = some (.object fields)) (setting : Setting)
      (here : setting.table = table) :
      (Json.Slot.trailing setting.key).read? fields = some (setting.given? layers) := by
    have within := ordered.get? found
    rw [given?, here, found]
    exact Json.Slot.read?_single within.distinct _ _
  have connected := autoConnect_of_accepted (read first) accepted
  have logged := logging_of_accepted (read second) accepted
  simp only [ofLayers?, Json.field, first, second, Option.getD_some, Json.clip, connected, logged,
    Option.bind_eq_bind, Option.pure_def, Option.bind_some]

end Settings

/-! Loading. -/

/-- What the file and the environment give for the setting. -/
def Setting.inEffect? (setting : Setting) (written : Json) (environment : Environment) :
    Option Json :=
  (setting.inEnvironment? environment).or (setting.given? written)

/-- The variable gives no setting a value, and no section one that is not a table. -/
def Environment.IsUnrelated (entry : String × String) : Prop :=
  (layer entry).HasTables ∧ ∀ setting : Setting, setting.ofVariable? entry = none

namespace Environment

theorem isUnrelated_of_none {entry : String × String}
    (leads : path? entry.1 = none) : IsUnrelated entry := by
  have empty : layer entry = .object [] := by simp [layer, leads]
  constructor
  · intro setting
    rw [empty]
    rfl
  · intro setting
    rw [Setting.ofVariable?, empty]
    rfl

theorem isUnrelated_of_path {name key : String} (leads : path? name = some [key])
    (other : ∀ setting : Setting, key ≠ setting.table) (text : String) :
    IsUnrelated (name, text) := by
  have absent (setting : Setting) : (layer (name, text)).get? setting.table = none := by
    simp [layer, leads, nest, Json.get?, Json.Fields.find?, other setting]
  constructor
  · intro setting
    rw [absent setting, Option.all_none]
  · intro setting
    rw [Setting.ofVariable?, Setting.given?, absent setting, Option.bind_none]

end Environment

namespace Setting

theorem inEnvironment?_unrelated {environment : Environment}
    (unrelated : ∀ entry ∈ environment, Environment.IsUnrelated entry) (setting : Setting) :
    setting.inEnvironment? environment = none := by
  have nothing : environment.filterMap setting.ofVariable? = [] :=
    List.filterMap_eq_nil_iff.mpr fun entry member => (unrelated entry member).2 setting
  rw [inEnvironment?, nothing, List.getLast?_nil]

theorem inEffect?_unrelated {entry : String × String} (unrelated : Environment.IsUnrelated entry)
    (setting : Setting) (written : Json) (before after : Environment) :
    setting.inEffect? written (before ++ entry :: after) =
      setting.inEffect? written (before ++ after) := by
  simp [inEffect?, inEnvironment?, unrelated.2 setting]

end Setting

namespace SettingsFile

variable {file : SettingsFile} {written : Json} {environment : Environment}

theorem settings?_isOrdered (read : file.settings? = some written) :
    written.IsOrdered ∧ ∃ fields, written = .object fields := by
  simp only [settings?] at read
  split at read
  next =>
    cases read
    exact ⟨.empty, [], rfl⟩
  next => exact Toml.parse?_isOrdered read

def layers (written : Json) (environment : Environment) : Json :=
  (Settings.standardLayer.merge written).merge environment.settings

theorem standardLayer_isOrdered : Settings.standardLayer.IsOrdered := by
  have connecting : ({} : AutoConnectSettings).document.sorted.IsOrdered :=
    (((Json.IsOrdered.empty.insert _ (.bool _)).insert _ (.number _)).insert _
      (.number _)).insert _ (.number _)
  have logging : ({} : LoggingSettings).document.sorted.IsOrdered :=
    (Json.IsOrdered.empty.insert "level" (.string "warn")).insert "json" (.bool false)
  exact (Json.IsOrdered.empty.insert "auto_connect" connecting).insert "logging" logging

theorem standardLayer_hasTables : Settings.standardLayer.HasTables := by
  intro setting
  cases setting <;> decide

theorem given?_layers (read : file.settings? = some written) (tabled : written.HasTables)
    (entries : ∀ entry ∈ environment, (Environment.layer entry).HasTables)
    {setting : Setting}
    (accepted : ∀ value, setting.inEffect? written environment = some value →
      setting.accepts value) :
    setting.given? (layers written environment) =
      some ((setting.inEffect? written environment).getD (setting.ofSettings {})) := by
  obtain ⟨ordered, fields, rfl⟩ := settings?_isOrdered read
  obtain ⟨above, object⟩ := environment.settings_object
  have sorted := environment.settings_isOrdered
  have tables := Setting.settings_hasTables entries
  have last : setting.given? environment.settings = setting.inEnvironment? environment :=
    Setting.given?_settings entries fun value given =>
      accepted value (by simp [Setting.inEffect?, given])
  rw [object] at sorted tables last
  rw [layers, object, Setting.given?_merge setting _ sorted tables,
    Setting.given?_merge setting _ ordered tabled, Settings.given?_standardLayer, last]
  cases there : setting.inEnvironment? environment with
  | some value =>
      simp only [Setting.inEffect?, there, Option.some_or] at accepted ⊢
      exact Setting.overlay_of_accepts (accepted value rfl) _
  | none =>
      simp only [Setting.inEffect?, there, Option.none_or] at accepted ⊢
      cases here : setting.given? (.object fields) with
      | some value => exact Setting.overlay_of_accepts (accepted value here) _
      | none => rfl

theorem layers_tables (read : file.settings? = some written) (tabled : written.HasTables)
    (entries : ∀ entry ∈ environment, (Environment.layer entry).HasTables)
    (accepted : ∀ (setting : Setting) value,
      setting.inEffect? written environment = some value → setting.accepts value)
    (setting : Setting) :
    ∃ fields, (layers written environment).get? setting.table = some (.object fields) := by
  obtain ⟨ordered, fields, rfl⟩ := settings?_isOrdered read
  obtain ⟨above, object⟩ := environment.settings_object
  have sorted := environment.settings_isOrdered
  have tables := Setting.settings_hasTables entries
  have given := given?_layers read tabled entries (accepted setting)
  obtain ⟨table, found, _⟩ := Option.bind_eq_some_iff.mp given
  have merged : (layers (.object fields) environment).HasTables := by
    rw [object] at sorted tables
    rw [layers, object]
    exact (standardLayer_hasTables.merge ordered tabled).merge sorted tables
  obtain ⟨inner, rfl⟩ := merged.object setting found
  exact ⟨inner, found⟩

theorem accepts_getD_standard {setting : Setting} {given : Option Json}
    (accepted : ∀ value, given = some value → setting.accepts value) :
    setting.accepts (given.getD (setting.ofSettings {})) := by
  cases given with
  | none => cases setting <;> decide
  | some value => exact accepted value rfl

theorem load_of_accepted (read : file.settings? = some written) (tabled : written.HasTables)
    (entries : ∀ entry ∈ environment, (Environment.layer entry).HasTables)
    (accepted : ∀ (setting : Setting) value,
      setting.inEffect? written environment = some value → setting.accepts value) :
    file.load environment =
      .ok (.ofGiven fun setting => setting.inEffect? written environment) := by
  have given (setting : Setting) := given?_layers read tabled entries (accepted setting)
  have ordered : (layers written environment).IsOrdered :=
    Json.merge_isOrdered (Json.merge_isOrdered standardLayer_isOrdered (settings?_isOrdered read).1)
      environment.settings_isOrdered
  have decoded := Settings.ofLayers?_of_accepted ordered
    (layers_tables read tabled entries accepted) fun setting value found => by
      rw [given setting, Option.some.injEq] at found
      subst found
      exact accepts_getD_standard (accepted setting)
  simp only [given, Settings.ofGiven_getD_standard] at decoded
  simp only [layers, Settings.standardLayer] at decoded
  simp only [load, read, Option.bind_eq_bind, Option.bind_some, decoded]

/-- Every setting has the value of the environment, otherwise that of the file, otherwise its
default, whichever others are given. A variable that names no setting changes nothing, and neither
does anything else that stands in the file. -/
theorem load_fieldwise (file : SettingsFile) (environment : Environment)
    (read : file.settings? = some written) (tabled : written.HasTables)
    (entries : ∀ entry ∈ environment, (Environment.layer entry).HasTables)
    (accepted : ∀ (setting : Setting) value,
      setting.inEffect? written environment = some value → setting.accepts value) :
    file.load environment = .ok (.ofGiven fun setting =>
      (setting.inEnvironment? environment).or (setting.given? written)) ∧
    (∀ entry, Environment.IsUnrelated entry → ∀ before after, before ++ after = environment →
      file.load (before ++ entry :: after) = file.load environment) ∧
    (∀ text, Environment.IsUnrelated ("HWLINK_OUTPUT", text) ∧
      Environment.IsUnrelated ("HWLINK_CONFIG", text)) ∧
    ∀ (other : SettingsFile) (held : Json), other.settings? = some held → held.HasTables →
      (∀ setting : Setting, setting.given? held = setting.given? written) →
      other.load environment = file.load environment := by
  have loaded := load_of_accepted read tabled entries accepted
  refine ⟨loaded, ?_, ?_, ?_⟩
  · rintro entry unrelated before after rfl
    have same (setting : Setting) :=
      Setting.inEffect?_unrelated unrelated setting written before after
    have more : ∀ other ∈ before ++ entry :: after, (Environment.layer other).HasTables := by
      intro other member
      rcases List.mem_append.mp member with earlier | here
      · exact entries other (List.mem_append_left _ earlier)
      · rcases List.mem_cons.mp here with rfl | later
        · exact unrelated.1
        · exact entries other (List.mem_append_right _ later)
    rw [loaded, load_of_accepted read tabled more fun setting value given =>
      accepted setting value (same setting ▸ given)]
    simp only [same]
  · have output : Environment.path? "HWLINK_OUTPUT" = some ["output"] := by decide
    have config : Environment.path? "HWLINK_CONFIG" = some ["config"] := by decide
    refine fun text => ⟨Environment.isUnrelated_of_path output ?_ text,
      Environment.isUnrelated_of_path config ?_ text⟩
    · intro setting
      cases setting <;> decide
    · intro setting
      cases setting <;> decide
  · intro other held parsed tables same
    have effect (setting : Setting) :
        setting.inEffect? held environment = setting.inEffect? written environment :=
      congrArg (setting.inEnvironment? environment).or (same setting)
    rw [loaded, load_of_accepted parsed tables entries fun setting value given =>
      accepted setting value (effect setting ▸ given)]
    simp only [effect]

theorem load_fieldwise_both :
    SettingsFile.load ⟨some "[auto_connect]\nmax_retries = 7\n[logging]\njson = true\n", false⟩
      [("HWLINK_AUTO_CONNECT__MAX_RETRIES", "5"), ("HWLINK_OUTPUT", "json")] =
      .ok { autoConnect := { retryLimit := 5 }, logging := { json := true } } := by
  have read : settings? ⟨some "[auto_connect]\nmax_retries = 7\n[logging]\njson = true\n", false⟩ =
      some (.object [("auto_connect", .object [("max_retries", Json.natural 7)]),
        ("logging", .object [("json", .bool true)])]) := by decide +kernel
  have limit : Environment.layer ("HWLINK_AUTO_CONNECT__MAX_RETRIES", "5") =
      .object [("auto_connect", .object [("max_retries", Json.natural 5)])] := by decide +kernel
  have output : Environment.layer ("HWLINK_OUTPUT", "json") =
      .object [("output", .string "json")] := by decide +kernel
  have given (setting : Setting) : setting.inEnvironment?
      [("HWLINK_AUTO_CONNECT__MAX_RETRIES", "5"), ("HWLINK_OUTPUT", "json")] =
        if setting = .retryLimit then some (Json.natural 5) else none := by
    cases setting <;> simp only [Setting.inEnvironment?, List.filterMap_cons, Setting.ofVariable?,
      limit, output] <;> decide
  refine (load_fieldwise _ _ read ?_ ?_ ?_).1.trans ?_
  · intro setting
    cases setting <;> decide
  · intro entry member setting
    rcases List.mem_cons.mp member with rfl | member
    · rw [limit]
      cases setting <;> decide
    · rw [List.mem_singleton.mp member, output]
      cases setting <;> decide
  · intro setting
    rw [← Option.all_eq_true (setting.accepts ·), Setting.inEffect?, given]
    cases setting <;> decide
  · simp only [given]
    decide

end SettingsFile

end SignerLink
