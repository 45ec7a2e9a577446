import StorageReply.Config.Merge
import StorageReply.Config.SettingsFile
import StorageReply.Json.Writer
import StorageReply.Session.Basic

/-!
# Configuration of a session

How a client comes by its settings: from a settings file, over it the environment, and over both
what the caller asks for. Settings that fail their checks leave those in force as they are, but the
file that was read stays the one to read again.

Main definitions:

* `Session.load`, `Session.reload`: settings from all sources;
* `Session.config`: the settings in force;
* `Session.serviceUri`, `Session.containerUri`, `Session.canServe`: the URIs of the account;
* `Session.configureLogging`: logging as the settings ask for.
-/

namespace StorageReply.Session

open Number

/-- The logger of messages about settings. -/
def configLogger : String := "zurestore.core.config_manager"

/-- A message about settings. -/
def inform (text : String) : Act Session Unit := say configLogger 20 text

/-- The value of a settings file, which is kept in mind as the source. -/
def readFile (path : String) : Act Session Value := do
  let v ← Act.of ((← get).book.folder.settings path)
  modify fun s => { s with source := some (Path.text (Path.ofText path)) }
  inform ("Loaded configuration from file: " ++ path)
  return v

/-- The value of the settings file that a caller asks for, an empty map without one. -/
def fileValue (file : Value) : Act Session Value :=
  match file with
  | .text path => if path.isEmpty then pure (.map []) else readFile path
  | v => if v.truthy then throw .wrongKind else pure (.map [])

/-- A value with the settings of the environment over it. -/
def withEnvironment (base : Value) : Act Session Value := do
  let fields := (← get).environment.fields
  let v ← Act.of (base.merged (.map fields))
  if fields.isEmpty then return v
  inform ("Applied " ++ numeral fields.length ++ " environment variable overrides")
  return v

/-- How many entries a map has. -/
def entryCount : Value → Nat
  | .map entries => entries.length
  | _ => 0

/-- A value with the settings that a caller asks for over it. -/
def withOverrides (overrides base : Value) : Act Session Value := do
  if overrides.truthy then
    let v ← Act.of (base.merged overrides)
    inform ("Applied " ++ numeral (entryCount overrides) ++ " explicit overrides")
    return v
  else return base

/-- The settings of a value, which must be a map. -/
def settingsOf : Value → Except Failure Settings
  | .map fields => Settings.ofFields fields
  | _ => .error .wrongKind

/-- The sentence for settings that fail their checks. -/
def refusal (issues : List Issue) : String :=
  "Configuration validation failed: "
    ++ Text.joinedStrings "; " (issues.map fun issue => issue.defect.message)

/-- The settings in force after a value has passed its checks. -/
def adopt (v : Value) : Act Session Settings := do
  match settingsOf v with
  | .ok settings =>
    modify fun s => { s with settings := some settings }
    inform "Configuration validated successfully"
    match Json.writeIndented? settings.toValue with
    | some text => inform ("Active configuration: " ++ text)
    | none => throw (.unusable .longNumeral)
    return settings
  | .error (.validation issues) =>
    say configLogger 40 (refusal issues)
    throw (.validation issues)
  | .error failure => throw failure

/-- Loads settings: from a file, from the environment, and from what the caller asks for, where
later sources count before earlier ones. -/
def load (file overrides : Value) : Act Session Settings := do
  inform "Loading zurestore configuration"
  let v ← fileValue file
  let v ← withEnvironment v
  let v ← withOverrides overrides v
  adopt v

/-- Loads settings from the same file and the environment again. -/
def reload : Act Session Settings := do
  load (Settings.optionValue (← get).source) .null

/-- The settings in force. -/
def config : Act Session Settings := do
  match (← get).settings with
  | some settings => return settings
  | none => throw .notLoaded

/-- The URIs of the service. -/
def serviceUri : Act Session StorageUri := do Act.of (← config).serviceUri

/-- The URIs of a container. -/
def containerUri (name : String) : Act Session StorageUri := do
  Act.of ((← config).containerUri name)

/-- Whether the locations of the settings can be used. -/
def canServe : Act Session Bool := do
  let settings ← config
  return (← Act.of settings.serviceUri).canServe settings.locationMode

/-- The log setup that settings ask for. -/
def logSetup (s : LogSettings) : LogSetup where
  level := .text s.level.word
  format := .text s.format
  file := Settings.optionValue s.file
  rotationSize := .text s.rotationSize
  rotationCount := .int s.rotationCount
  loggerLevels := Settings.levelsValue s.loggerLevels

/-- Sets logging up as the settings ask for. -/
def configureLogging : Act Session Unit := do
  let settings ← config
  onBook (Logbook.setup (logSetup settings.logging))

theorem result_config (s : Session) :
    config.result s =
      match s.settings with
      | some settings => (s, .ok settings)
      | none => (s, .error .notLoaded) := by
  simp only [config, Act.result_bind, Act.result_get]
  cases s.settings <;> rfl

end StorageReply.Session
