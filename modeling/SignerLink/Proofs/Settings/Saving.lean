import Mathlib.Algebra.Group.Int.Defs
import Mathlib.Algebra.Group.Nat.Defs
import SignerLink.Proofs.Settings.Layers
import SignerLink.Proofs.Toml.Numerals
import SignerLink.Proofs.Toml.Quoting
import SignerLink.Proofs.Toml.Sections
/-!
Saved settings load again as they were. Their text has one section for each table, and every value
in it reads back; a delay beyond what a number in it holds is refused, and the file stays.
-/

namespace SignerLink

namespace Toml

variable {written : List Char} {value : Json}

/-! Values on their lines. -/

def startsScalar : List Char → Bool
  | [] => false
  | character :: _ =>
      character != ' ' && character != '\t' && character != '[' && character != '\x7b'

theorem Reads.of_scalar (starts : startsScalar written = true)
    (read : ∀ rest, scalar? (written ++ '\n' :: rest) = some (value, '\n' :: rest)) :
    Reads written value := by
  intro fuel depth rest
  rcases written with _ | ⟨first, more⟩
  · cases starts
  simp only [startsScalar, Bool.and_eq_true, bne_iff_ne] at starts
  obtain ⟨⟨⟨space, tab⟩, array⟩, table⟩ := starts
  have unblank : skipBlanks (first :: more ++ '\n' :: rest) = first :: more ++ '\n' :: rest := by
    simp [skipBlanks, space, tab]
  rw [unblank, value?.eq_def]
  split
  next same => cases same
  next same =>
    split
    next other => exact absurd (List.cons.inj other).1 array
    next other => exact absurd (List.cons.inj other).1 table
    next => exact read rest

theorem reads_boolText (value : Bool) : Reads (boolText value).toList (.bool value) := by
  cases value with
  | true => exact .of_scalar rfl fun _ => rfl
  | false => exact .of_scalar rfl fun _ => rfl

theorem reads_toDigits {value : Nat} (fits : value < 2 ^ 63) :
    Reads (Nat.toDigits 10 value) (Json.natural value) := by
  refine .of_scalar ?_ fun rest => scalar?_toDigits (by simp [greatestInteger]; omega) rest
  have numeral := toDigits_areDigits value
  rcases written : Nat.toDigits 10 value with _ | ⟨first, digits⟩
  · exact absurd written Nat.toDigits_ne_nil
  rw [written] at numeral
  obtain ⟨digit, _⟩ := numeral.cons
  simp [startsScalar, ne_of_isDigit digit]

theorem reads_quoted (text : List Char) : Reads (quoted text) (.string (.ofList text)) := by
  have read := text?_quoted text
  obtain ⟨mark, more, written, quote⟩ :
      ∃ mark more, quoted text = mark :: more ∧ (mark = '"' ∨ mark = '\'') := by
    rw [quoted]
    cases TextStyle.ofText text
    · exact ⟨_, _, rfl, .inl rfl⟩
    · exact ⟨_, _, rfl, .inr rfl⟩
    · exact ⟨_, _, rfl, .inl rfl⟩
    · exact ⟨_, _, rfl, .inr rfl⟩
  rw [written] at read ⊢
  simp only [List.cons_append] at read
  rcases quote with rfl | rfl
  · exact .of_scalar rfl fun rest => by simp [scalar?, read]
  · exact .of_scalar rfl fun rest => by simp [scalar?, read]

end Toml

/-! Sections. -/

namespace AutoConnectSettings

def toSection (settings : AutoConnectSettings) : Toml.Section where
  name := "auto_connect"
  assignments := [
    ⟨"enabled", (boolText settings.enabled).toList, .bool settings.enabled⟩,
    ⟨"retry_delay_ms", Nat.toDigits 10 settings.retryDelay, Json.natural settings.retryDelay⟩,
    ⟨"max_retry_delay_ms", Nat.toDigits 10 settings.greatestRetryDelay,
      Json.natural settings.greatestRetryDelay⟩,
    ⟨"max_retries", Nat.toDigits 10 settings.retryLimit, Json.natural settings.retryLimit⟩]

theorem text_toList (settings : AutoConnectSettings) :
    settings.text.toList = settings.toSection.text := by
  have header : "[auto_connect]\n".toList = '[' :: ("auto_connect".toList ++ [']', '\n']) := by
    decide
  have enabled : "enabled = ".toList = "enabled".toList ++ [' ', '=', ' '] := by decide
  have first : "retry_delay_ms = ".toList = "retry_delay_ms".toList ++ [' ', '=', ' '] := by decide
  have greatest : "max_retry_delay_ms = ".toList =
      "max_retry_delay_ms".toList ++ [' ', '=', ' '] := by decide
  have limit : "max_retries = ".toList = "max_retries".toList ++ [' ', '=', ' '] := by decide
  have line : "\n".toList = ['\n'] := by decide
  unfold text
  simp only [String.toList_append, Nat.toString_eq_repr, Nat.toList_repr]
  rw [header, enabled, first, greatest, limit, line]
  simp only [toSection, Toml.Section.text, Toml.Assignment.text, List.flatMap_cons,
    List.flatMap_nil, List.append_nil, List.append_assoc, List.cons_append, List.nil_append]

theorem toSection_isReadable {settings : AutoConnectSettings}
    (first : settings.retryDelay < 2 ^ 63) (greatest : settings.greatestRetryDelay < 2 ^ 63)
    (limit : settings.retryLimit < 2 ^ 63) : settings.toSection.IsReadable where
  bare := by
    change Toml.IsBareKey "auto_connect"
    decide
  distinct := by simp [toSection]
  assignments := by
    simp only [toSection, List.forall_mem_cons, List.not_mem_nil, false_imp_iff, implies_true,
      and_true]
    have bare : Toml.IsBareKey "enabled" ∧ Toml.IsBareKey "retry_delay_ms" ∧
        Toml.IsBareKey "max_retry_delay_ms" ∧ Toml.IsBareKey "max_retries" := by decide
    exact ⟨⟨bare.1, Toml.reads_boolText _⟩, ⟨bare.2.1, Toml.reads_toDigits first⟩,
      ⟨bare.2.2.1, Toml.reads_toDigits greatest⟩, bare.2.2.2, Toml.reads_toDigits limit⟩

end AutoConnectSettings

namespace LoggingSettings

def toSection (settings : LoggingSettings) : Toml.Section where
  name := "logging"
  assignments := [
    ⟨"level", Toml.quoted settings.level.toList, .string settings.level⟩,
    ⟨"json", (boolText settings.json).toList, .bool settings.json⟩]

theorem text_toList (settings : LoggingSettings) :
    settings.text.toList = settings.toSection.text := by
  have header : "[logging]\n".toList = '[' :: ("logging".toList ++ [']', '\n']) := by decide
  have level : "level = ".toList = "level".toList ++ [' ', '=', ' '] := by decide
  have json : "json = ".toList = "json".toList ++ [' ', '=', ' '] := by decide
  have line : "\n".toList = ['\n'] := by decide
  unfold text
  simp only [String.toList_append, Toml.quote]
  rw [header, level, json, line]
  simp only [toSection, Toml.Section.text, Toml.Assignment.text, List.flatMap_cons,
    List.flatMap_nil, List.append_nil, List.append_assoc, List.cons_append, List.nil_append,
    String.toList_ofList]

theorem toSection_isReadable (settings : LoggingSettings) :
    settings.toSection.IsReadable where
  bare := by
    change Toml.IsBareKey "logging"
    decide
  distinct := by simp [toSection]
  assignments := by
    have level := Toml.reads_quoted settings.level.toList
    rw [String.ofList_toList] at level
    simp only [toSection, List.forall_mem_cons, List.not_mem_nil, false_imp_iff, implies_true,
      and_true]
    have bare : Toml.IsBareKey "level" ∧ Toml.IsBareKey "json" := by decide
    exact ⟨⟨bare.1, level⟩, bare.2, Toml.reads_boolText _⟩

end LoggingSettings

namespace Settings

variable {settings : Settings} {text : String}

/-- Settings as they are read from their text. -/
def written (settings : Settings) : Json :=
  Toml.Entries.toJson [settings.autoConnect.toSection.entry, settings.logging.toSection.entry]

/-- The delays fit in a number of 64 bits with a sign. -/
def Fits (settings : Settings) : Prop :=
  settings.autoConnect.retryDelay < 2 ^ 63 ∧ settings.autoConnect.greatestRetryDelay < 2 ^ 63

theorem fits_iff : settings.Fits ↔ settings.autoConnect.retryDelay ≤ greatestWritten ∧
    settings.autoConnect.greatestRetryDelay ≤ greatestWritten := by
  have bound : greatestWritten = 2 ^ 63 - 1 := rfl
  simp only [Fits, bound]
  omega

theorem text_of_not_fits (wide : ¬settings.Fits) : settings.text = .error .unprintable := by
  rw [text, if_neg]
  simpa [fits_iff] using wide

/-- Settings that fit have a text, and it is read back. -/
theorem text_of_fits (fits : settings.Fits) (limit : settings.autoConnect.retryLimit < 2 ^ 32) :
    ∃ text, settings.text = .ok text ∧ Toml.parse? text = some settings.written := by
  have connecting := AutoConnectSettings.toSection_isReadable fits.1 fits.2 (by omega)
  have logging := settings.logging.toSection_isReadable
  have differ : settings.autoConnect.toSection.name ≠ settings.logging.toSection.name := by
    simp [AutoConnectSettings.toSection, LoggingSettings.toSection]
  refine ⟨settings.autoConnect.text ++ "\n" ++ settings.logging.text, ?_, ?_⟩
  · rw [text, if_pos]
    simpa [fits_iff] using fits
  · have same : settings.autoConnect.text ++ "\n" ++ settings.logging.text =
        String.ofList (settings.autoConnect.toSection.text ++
          '\n' :: settings.logging.toSection.text) := by
      have line : "\n".toList = ['\n'] := by decide
      rw [← String.toList_inj, String.toList_append, String.toList_append, line,
        String.toList_ofList, AutoConnectSettings.text_toList, LoggingSettings.text_toList,
        List.append_assoc, List.singleton_append]
    rw [same]
    exact Toml.parse?_sections connecting logging differ

theorem written_hasTables (settings : Settings) : settings.written.HasTables := by
  intro setting
  rw [written, Toml.Entries.get?_toJson]
  cases setting <;> rfl

theorem given?_written (settings : Settings) (setting : Setting) :
    setting.given? settings.written = some (setting.ofSettings settings) := by
  rw [Setting.given?, written, Toml.Entries.get?_toJson]
  cases setting <;> simp [Toml.Entries.find?, AutoConnectSettings.toSection,
    LoggingSettings.toSection, Toml.Section.entry, Toml.Assignment.entry, Setting.table,
    Setting.key, Toml.Entries.toJson_table, Toml.Entries.toJson_value, Toml.Entries.get?_toJson,
    Setting.ofSettings]

theorem asUnsigned?_natural (bits : Nat) {value : Nat} (fits : value < 2 ^ bits) :
    (Json.natural value).asUnsigned? bits = some value := by
  have bound : (value : Int) ≤ 2 ^ bits - 1 := by
    have : (value : Int) < 2 ^ bits := by exact_mod_cast fits
    omega
  simp [Json.asUnsigned?, Json.asIntegerIn?, Json.natural, bound]

variable (fits : settings.Fits) (limit : settings.autoConnect.retryLimit < 2 ^ 32)

include fits limit

theorem ofSettings_accepts (setting : Setting) : setting.accepts (setting.ofSettings settings) := by
  have first := asUnsigned?_natural 64 (Nat.lt_trans fits.1 (by decide))
  have greatest := asUnsigned?_natural 64 (Nat.lt_trans fits.2 (by decide))
  have last := asUnsigned?_natural 32 limit
  cases setting
  all_goals simp [Setting.accepts, Setting.ofSettings, Json.asBool?, Json.asString?, first,
    greatest, last]

theorem ofGiven_ofSettings :
    ofGiven (fun setting => some (setting.ofSettings settings)) = settings := by
  have first := asUnsigned?_natural 64 (Nat.lt_trans fits.1 (by decide))
  have greatest := asUnsigned?_natural 64 (Nat.lt_trans fits.2 (by decide))
  have last := asUnsigned?_natural 32 limit
  simp only [ofGiven, Setting.ofSettings, Option.bind_some, Json.asBool?, Json.asString?, first,
    greatest, last, Option.getD_some]

end Settings

/-! Saving and loading. -/

namespace SettingsFile

/-- Saved settings are loaded as they were, whatever the file held before. With a delay that its
text cannot hold nothing is saved, and the file stays as it is. -/
theorem save_load (file : SettingsFile) (settings : Settings) (environment : Environment)
    (writable : file.blocked = false) (limit : settings.autoConnect.retryLimit < 2 ^ 32)
    (unset : ∀ entry ∈ environment, Environment.path? entry.1 = none) :
    (settings.Fits → ∃ saved, file.save settings = (saved, .ok ()) ∧
      saved.load environment = .ok settings) ∧
    (¬settings.Fits → file.save settings = (file, .error .unprintable)) := by
  constructor
  · intro fits
    obtain ⟨text, printed, read⟩ := Settings.text_of_fits fits limit
    refine ⟨{ file with text := some text }, by simp [save, writable, printed], ?_⟩
    have read : settings? { file with text := some text } = some settings.written := read
    have unrelated : ∀ entry ∈ environment, Environment.IsUnrelated entry :=
      fun entry member => Environment.isUnrelated_of_none (unset entry member)
    have effect (setting : Setting) :
        setting.inEffect? settings.written environment = some (setting.ofSettings settings) := by
      rw [Setting.inEffect?, Setting.inEnvironment?_unrelated unrelated, Option.none_or,
        Settings.given?_written]
    rw [load_of_accepted read (Settings.written_hasTables settings)
      (fun entry member => (unrelated entry member).1) fun setting value given => ?_]
    · simp only [effect, Settings.ofGiven_ofSettings fits limit]
    · rw [effect setting, Option.some.injEq] at given
      exact given ▸ Settings.ofSettings_accepts fits limit setting
  · intro wide
    simp [save, writable, Settings.text_of_not_fits wide]

theorem save_load_edges :
    (∃ saved, SettingsFile.save ⟨some "level", false⟩
        { autoConnect := { retryDelay := 2 ^ 63 - 1 }, logging := { level := "\"'\\\n" } } =
          (saved, .ok ()) ∧
      saved.load [("HOME", "/root")] =
        .ok { autoConnect := { retryDelay := 2 ^ 63 - 1 }, logging := { level := "\"'\\\n" } }) ∧
    SettingsFile.save ⟨some "level", false⟩ { autoConnect := { retryDelay := 2 ^ 63 } } =
      (⟨some "level", false⟩, .error .unprintable) := by
  have unset : ∀ entry ∈ [("HOME", "/root")], Environment.path? entry.1 = none := by decide
  constructor
  · exact (save_load _ _ _ rfl (by decide) unset).1 ⟨by decide, by decide⟩
  · refine (save_load _ _ _ rfl (by decide) unset).2 ?_
    rintro ⟨first, _⟩
    exact absurd first (by decide)

end SettingsFile

end SignerLink
