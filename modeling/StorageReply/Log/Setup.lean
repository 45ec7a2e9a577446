import StorageReply.Act
import StorageReply.Log.Logbook
import StorageReply.Log.Size

/-!
# Log setup

How logging is set up: the level of the root, the format, a log file with its rotation, and the
levels of single loggers. Steps before a failure keep their effect.

Main definitions:

* `LogSetup`: what can be asked for, as plain values;
* `levelOf`: the level of a name;
* `Logbook.setupSteps`: the steps of a setup;
* `Logbook.setup`: the logbook after all of them.
-/

namespace StorageReply

open Text

/-- What a setup asks for. -/
structure LogSetup where
  /-- The level of the root logger. -/
  level : Value := .text "INFO"
  /-- The format of lines: `json`, or anything else for sentences. -/
  format : Value := .text "json"
  /-- The path of the log file. -/
  file : Value := .null
  /-- The size that the log file stays below. -/
  rotationSize : Value := .text "10MB"
  /-- How many backups are kept. -/
  rotationCount : Value := .int 5
  /-- The levels of single loggers. -/
  loggerLevels : Value := .null

namespace LogSetup

/-- The setup with one entry of a map. -/
def withEntry (setup : LogSetup) : Key × Value → Except Failure LogSetup
  | (.text "level", v) => .ok { setup with level := v }
  | (.text "format_type", v) => .ok { setup with format := v }
  | (.text "log_file", v) => .ok { setup with file := v }
  | (.text "rotation_size", v) => .ok { setup with rotationSize := v }
  | (.text "rotation_count", v) => .ok { setup with rotationCount := v }
  | (.text "module_levels", v) => .ok { setup with loggerLevels := v }
  | _ => .error .wrongKind

/-- The setup that the entries of a map ask for. -/
def ofFields (fields : Fields) : Except Failure LogSetup := fields.foldlM withEntry {}

end LogSetup

/-- A text that can be named as a level but is none. -/
def notLevelText : String := "%(levelname)s:%(name)s:%(message)s"

/-- The level of a name in any letter case. -/
def levelOf : Value → Except Failure Int
  | .text s =>
    let name := upperString s
    match Levels.names.lookup name with
    | some level => .ok level
    | none =>
      if name = "BASIC_FORMAT" then .error (.unusable (.notLevel notLevelText))
      else if name = "_STYLES" then .error .wrongKind
      else .error .noOperation
  | _ => .error .noOperation

/-- The number of backups of a value. A fraction cannot be used as one, but stands for no backups
where it is not positive. -/
def backupsOf : Value → Option Int
  | .float .nan => some 0
  | .float (.infinite negative) => if negative then some 0 else none
  | .float (.finite negative significand _) =>
    if negative || significand = 0 then some 0 else none
  | v => v.integer?

/-- The text of a value in a message. -/
def textIn (v : Value) : Except Failure String :=
  match v.display? with
  | some s => .ok s
  | none => .error (.unusable .longNumeral)

/-- The bytes of a size. -/
def sizeOf : Value → Except Failure Int
  | .text s => Size.parse s
  | _ => .error .wrongKind

namespace LogSetup

/-- The format of lines that a setup asks for. -/
def lineFormat (setup : LogSetup) : LineFormat :=
  if setup.format.same (.text "json") then .json else .text

end LogSetup

/-- Whether a key counts as none where a name is asked for: an empty text, zero, or null. -/
def Key.isBlank : Key → Bool
  | .text name => name.isEmpty
  | .number i => i = 0
  | .other shown => ["None", "0.0", "-0.0", "b''"].contains shown

/-- The name of the logger that a key stands for, if it can stand for one. -/
def loggerOf (key : Key) : Except Failure String :=
  match key with
  | .text name => .ok name
  | key => if key.isBlank then .ok LoggerTree.rootName else .error .wrongKind

namespace Logbook

/-- The logbook with a level of the root logger. -/
def giveRoot (setup : LogSetup) : Act Logbook Unit := do
  let level ← Act.of (levelOf setup.level)
  modify fun b => { b with levels := b.levels.give LoggerTree.rootName level }

/-- The logbook without outlets. -/
def clear (b : Logbook) : Logbook := { b with outlets := [] }

/-- The logbook with another outlet, behind all others. -/
def attach (outlet : Outlet) (b : Logbook) : Logbook := { b with outlets := b.outlets ++ [outlet] }

/-- Fails for names that no file can have. -/
def checkNames (names : Path) : Except Failure Unit :=
  if names.any fun name => name.toList.contains '\x00' then .error (.unusable .nulInPath)
  else .ok ()

/-- The logbook with the folder of a log file. -/
def makeFolder (path : Path) : Act Logbook Unit := do
  Act.of (checkNames path.dropLast)
  let b ← get
  let folder ← Act.of (b.folder.make path.dropLast)
  set { b with folder := folder }

/-- The logbook with lines going to a file as well, which is made if it is not there. -/
def openFile (setup : LogSetup) (name : String) : Act Logbook Unit := do
  let limit ← Act.of (sizeOf setup.rotationSize)
  let path := (Path.ofText name).straight
  Act.of (checkNames path)
  if (← get).folder.isFolder path then throw .isFolder
  modify fun b => { b with folder := LogFile.openIn b.folder path }
  modify (attach (.file setup.lineFormat
    ⟨path, limit, backupsOf setup.rotationCount, .attached⟩))

/-- The logbook after the message about a log file. -/
def reportFile (setup : LogSetup) (name : String) : Act Logbook Unit := do
  let size ← Act.of (textIn setup.rotationSize)
  let count ← Act.of (textIn setup.rotationCount)
  modify fun b => b.say LoggerTree.rootName 20
    ("Logging to file: " ++ name ++ " (rotation: " ++ size ++ ", count: " ++ count ++ ")")

/-- The steps to a log file, if one is asked for. The folder of the file is made first, and stays
when the size cannot be read. -/
def fileSteps (setup : LogSetup) : List (Act Logbook Unit) :=
  match setup.file with
  | .text name =>
    if name.isEmpty then []
    else [makeFolder (Path.ofText name), openFile setup name, reportFile setup name]
  | v => if v.truthy then [throw .wrongKind] else []

/-- The logbook after single loggers were given levels, in order. A logger is asked for before its
level is looked at. -/
def giveLevels : List (Key × Value) → Act Logbook Unit
  | [] => pure ()
  | (key, v) :: rest => do
    let name ← Act.of (loggerOf key)
    modify fun b => b.fetch name
    let level ← Act.of (levelOf v)
    modify fun b => { b with levels := b.levels.give name level }
    giveLevels rest

/-- The logbook after the levels in a value were given, which must be a map unless it is empty. -/
def giveLevelsOf (v : Value) : Act Logbook Unit :=
  match v with
  | .map entries => giveLevels entries
  | _ => if v.truthy then throw .noOperation else pure ()

/-- The logbook after the message about a setup. -/
def report (setup : LogSetup) : Act Logbook Unit := do
  let level ← Act.of (textIn setup.level)
  let format ← Act.of (textIn setup.format)
  modify fun b => b.say LoggerTree.rootName 20
    ("Logging configured: level=" ++ level ++ ", format=" ++ format)

/-- The steps of a setup. -/
def setupSteps (setup : LogSetup) : List (Act Logbook Unit) :=
  [giveRoot setup, modify clear, modify (attach (.console setup.lineFormat))]
    ++ fileSteps setup ++ [giveLevelsOf setup.loggerLevels, report setup]

/-- The logbook after a setup. -/
def setup (setup : LogSetup) : Act Logbook Unit := Act.inTurn (setupSteps setup)

end Logbook

end StorageReply
