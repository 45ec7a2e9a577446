import StorageReply.StorageUri

/-!
# Settings

The settings of a client: the storage account, the locations that it uses, and how it logs. Settings
are checked when they are made from a map; entries that are no setting do not matter.

Main definitions:

* `Settings`, `AccountSettings`, `LogSettings`: the settings;
* `Settings.ofFields`: the settings that a map gives, with defaults for the rest;
* `Settings.toValue`: the settings as a value;
* `Settings.serviceUri`, `Settings.containerUri`: the URIs of the account.
-/

namespace StorageReply

open Number Text

/-- The protocol of a service. -/
inductive Protocol
  /-- Without encryption. -/
  | http
  /-- With encryption. -/
  | https
  deriving DecidableEq, Repr

/-- The word of a protocol. -/
def Protocol.word : Protocol → String
  | .http => "http"
  | .https => "https"

/-- The protocol of a word in any letter case. -/
def Protocol.ofText? (s : String) : Option Protocol :=
  [Protocol.http, .https].find? (·.word == lowerString s)

/-- The level of a log. -/
inductive LogLevel
  /-- Everything. -/
  | debug
  /-- What happens as planned. -/
  | info
  /-- What may become a problem. -/
  | warning
  /-- What failed. -/
  | error
  /-- What ends the program. -/
  | critical
  deriving DecidableEq, Repr

namespace LogLevel

/-- The word of a level. -/
def word : LogLevel → String
  | .debug => "DEBUG"
  | .info => "INFO"
  | .warning => "WARNING"
  | .error => "ERROR"
  | .critical => "CRITICAL"

/-- All levels. -/
def all : List LogLevel := [.debug, .info, .warning, .error, .critical]

/-- The level of a word. -/
def ofWord? (w : String) : Option LogLevel := all.find? (·.word == w)

end LogLevel

/-- The settings of the storage account. -/
structure AccountSettings where
  /-- The name of the account. -/
  name : String := "devstoreaccount1"
  /-- The protocol of its endpoints. -/
  protocol : Protocol := .https
  /-- The end of the host names. -/
  endpointSuffix : String := "core.windows.net"
  /-- The endpoint of the primary location, where it does not follow from the name. -/
  primaryEndpoint : Option String := none
  /-- The endpoint of the secondary location, where it does not follow from the name. -/
  secondaryEndpoint : Option String := none
  deriving DecidableEq, Repr

/-- The settings of the log. -/
structure LogSettings where
  /-- The level of the root logger. -/
  level : LogLevel := .info
  /-- The format of lines. -/
  format : String := "json"
  /-- The path of the log file. -/
  file : Option String := none
  /-- The size that the log file stays below. -/
  rotationSize : String := "10MB"
  /-- How many backups are kept. -/
  rotationCount : Int := 5
  /-- The levels of single loggers. -/
  loggerLevels : Option (List (String × String)) := none
  deriving DecidableEq, Repr

/-- The settings of a client. -/
structure Settings where
  /-- The version of the settings. -/
  version : String := "0.1.0"
  /-- The storage account. -/
  account : AccountSettings := {}
  /-- The locations that are used. -/
  locationMode : LocationMode := .primaryOnly
  /-- The log. -/
  logging : LogSettings := {}
  deriving DecidableEq, Repr

/-! ## Checks -/

/-- A version: three numbers with points between them. -/
def checkVersion (s : String) : Checked String :=
  let parts := pieces '.' s.toList
  if parts.length ≠ 3 then .defect (.rule "Version must be in format x.y.z")
  else if parts.all fun part => !part.isEmpty && part.all isDigit then .ok s
  else .defect (.rule "Version components must be numeric")

/-- A protocol. -/
def checkProtocol (s : String) : Checked Protocol :=
  match Protocol.ofText? s with
  | some protocol => .ok protocol
  | none => .defect (.rule "Protocol must be 'http' or 'https'")

/-- The step to a key of a map. -/
def Key.step : Key → Step
  | .text name => .field name
  | .number i => if -Int.pow 2 63 ≤ i && i < Int.pow 2 63 then .index i else .field (numeral i)
  | .other shown => .field shown

/-- A key that must be a text. -/
def checkKey : Key → Checked String
  | .text name => .ok name
  | key => (Checked.defect .notText).under (.field "[key]") |>.under key.step

/-- The entries of a map from texts to texts. -/
def checkTexts : List (Key × Value) → Checked (List (String × String))
  | [] => .ok []
  | (key, v) :: rest =>
    Checked.map2 (· :: ·) ((checkKey key).also ((Lax.text v).under key.step)) (checkTexts rest)

/-- A map from texts to texts. -/
def textMap : Value → Checked (List (String × String))
  | .map entries => checkTexts entries
  | _ => .defect .notMap

/-- The record of a value, which must be a map. -/
def recordOf {α : Type} (name : String) (ofFields : Fields → Checked α) : Value → Checked α
  | .map fields => ofFields fields
  | _ => .defect (.notRecord name)

/-- The settings of the account that a map gives. -/
def AccountSettings.ofFields (fields : Fields) : Checked AccountSettings :=
  let usual : AccountSettings := {}
  (((((Checked.ok AccountSettings.mk).ap (.field fields "name" usual.name Lax.text)).ap
    (.field fields "protocol" usual.protocol fun v => (Lax.text v).andThen checkProtocol)).ap
    (.field fields "endpoint_suffix" usual.endpointSuffix Lax.text)).ap
    (.field fields "primary_endpoint" none (Checked.optional Lax.text))).ap
    (.field fields "secondary_endpoint" none (Checked.optional Lax.text))

/-- The settings of the log that a map gives. -/
def LogSettings.ofFields (fields : Fields) : Checked LogSettings :=
  let usual : LogSettings := {}
  ((((((Checked.ok LogSettings.mk).ap
    (.field fields "level" usual.level
      (Lax.member (LogLevel.all.map LogLevel.word) LogLevel.ofWord?))).ap
    (.field fields "format" usual.format Lax.text)).ap
    (.field fields "file" none (Checked.optional Lax.text))).ap
    (.field fields "rotation_size" usual.rotationSize Lax.text)).ap
    (.field fields "rotation_count" usual.rotationCount Lax.integer)).ap
    (.field fields "module_levels" none (Checked.optional textMap))

namespace Settings

/-- The settings that a map gives, checked. -/
def check (fields : Fields) : Checked Settings :=
  let usual : Settings := {}
  ((((Checked.ok Settings.mk).ap
    (.field fields "version" usual.version fun v => (Lax.text v).andThen checkVersion)).ap
    (.field fields "account" usual.account
      (recordOf "AccountConfig" AccountSettings.ofFields))).ap
    (.field fields "location_mode" usual.locationMode
      (Lax.member LocationMode.words LocationMode.ofWord?))).ap
    (.field fields "logging" usual.logging (recordOf "LoggingConfig" LogSettings.ofFields))

/-- Whether all keys of a map are texts. -/
def hasTextKeys (fields : Fields) : Bool :=
  fields.all fun (key, _) =>
    match key with
    | .text _ => true
    | _ => false

/-- The settings that a map gives. All keys must be texts. -/
def ofFields (fields : Fields) : Except Failure Settings :=
  if hasTextKeys fields then (check fields).toExcept else .error .wrongKind

/-! ## Uses -/

/-- A text or null. -/
def optionValue (s : Option String) : Value := (s.map Value.text).getD .null

/-- The levels of single loggers as a map, or null. -/
def levelsValue (levels : Option (List (String × String))) : Value :=
  match levels with
  | none => .null
  | some levels => .map (levels.map fun (name, level) => (.text name, .text level))

/-- The settings as a value. -/
def toValue (s : Settings) : Value :=
  .map
    [(.text "version", .text s.version),
     (.text "account", .map
       [(.text "name", .text s.account.name),
        (.text "protocol", .text s.account.protocol.word),
        (.text "endpoint_suffix", .text s.account.endpointSuffix),
        (.text "primary_endpoint", optionValue s.account.primaryEndpoint),
        (.text "secondary_endpoint", optionValue s.account.secondaryEndpoint)]),
     (.text "location_mode", .text s.locationMode.word),
     (.text "logging", .map
       [(.text "level", .text s.logging.level.word),
        (.text "format", .text s.logging.format),
        (.text "file", optionValue s.logging.file),
        (.text "rotation_size", .text s.logging.rotationSize),
        (.text "rotation_count", .int s.logging.rotationCount),
        (.text "module_levels", levelsValue s.logging.loggerLevels)])]

/-- An endpoint that is not empty. -/
def given (endpoint : Option String) : Option String := endpoint.filter (!·.isEmpty)

/-- An endpoint without slashes at its end. -/
def trimmed (endpoint : String) : String := String.ofList (Uri.dropSlashes endpoint.toList)

/-- The URI of a host of the account. -/
def hostUri (account : AccountSettings) (host : String) : String :=
  account.protocol.word ++ "://" ++ host ++ ".blob." ++ account.endpointSuffix

/-- The URIs of the service. Endpoints that are given count alone; otherwise both URIs follow from
the name of the account. -/
def serviceUri (s : Settings) : Except Failure StorageUri :=
  let account := s.account
  match given account.primaryEndpoint, given account.secondaryEndpoint with
  | none, none =>
    StorageUri.make (some (hostUri account account.name))
      (some (hostUri account (account.name ++ "-secondary")))
  | primary, secondary => StorageUri.make (primary.map trimmed) (secondary.map trimmed)

/-- The URIs of a container in the account. -/
def containerUri (s : Settings) (name : String) : Except Failure StorageUri := do
  (← s.serviceUri).appendPath name

theorem ofFields_nil : ofFields [] = .ok {} := rfl

end Settings

end StorageReply
