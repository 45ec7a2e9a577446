import StorageReply.Log.Levels
import StorageReply.Log.Line
import StorageReply.Log.Rotation

/-!
# Logbooks

Everything that a log line depends on or changes: the levels of the loggers, the places that lines
go to, the files, the text on the console, the identifiers of the requests that are being answered,
and the time.

A record is handed from outlet to outlet, and each one makes a line of it. An outlet leaves the
record changed behind, and a record that it cannot make a line of is passed over in silence.

Main definitions:

* `Outlet`: a place that lines go to, with their format;
* `Logbook`: the state;
* `Logbook.active`: the identifier in force;
* `Logbook.write`, `Logbook.log`: the logbook after a record.
-/

namespace StorageReply

/-- A place that lines go to. -/
inductive Outlet
  /-- The console. -/
  | console (format : LineFormat)
  /-- A log file. -/
  | file (format : LineFormat) (log : LogFile)
  deriving Repr

/-- The format of the lines of an outlet. -/
def Outlet.format : Outlet → LineFormat
  | .console format => format
  | .file format _ => format

/-- The outlet after the file at a path was removed from a folder. -/
def Outlet.afterRemoval (f : Folder) (p : Path) : Outlet → Outlet
  | .console format => .console format
  | .file format log => .file format (log.afterRemoval f p)

/-- The state of logging. -/
structure Logbook where
  /-- The levels of the loggers. -/
  levels : Levels
  /-- Where lines go, in turn; before any setup they go nowhere. -/
  outlets : List Outlet
  /-- The files. -/
  folder : Folder
  /-- The text on the console. -/
  console : String
  /-- The identifiers that are bound, the innermost one first; one may be null. -/
  bound : List (Option String)
  /-- The time. -/
  clock : Stamp

namespace Logbook

/-- The identifier in force: the innermost one. -/
def active (b : Logbook) : Option String := b.bound.head?.join

/-- The logbook with an identifier in force. -/
def bind (id : Option String) (b : Logbook) : Logbook := { b with bound := id :: b.bound }

/-- The logbook without the identifier that was bound last. -/
def unbind (b : Logbook) : Logbook := { b with bound := b.bound.tail }

/-- A line on the console, which takes no half of a surrogate pair. -/
def print (b : Logbook) (line : List CodePoint) : Logbook :=
  match CodePoint.text? line with
  | some text => { b with console := b.console ++ text ++ "\n" }
  | none => b

/-- The outlet and the logbook after a line. -/
def emit (b : Logbook) (line : List CodePoint) : Outlet → Outlet × Logbook
  | .console format => (.console format, b.print line)
  | .file format file =>
    let (file, folder) := file.put b.folder (line ++ [.char '\n'])
    (.file format file, { b with folder := folder })

/-- What an outlet makes of a record: the record that is left behind, and its line. -/
def pass (active : Option String) (format : LineFormat) (r : LogRecord) :
    LogRecord × Except Failure (List CodePoint) :=
  format.write active (LogFilter.applyAll active LogFilter.standard r)

/-- The outlet and the logbook after what was made of a record, which may be no line. -/
def hand (b : Logbook) (line : Except Failure (List CodePoint)) (outlet : Outlet) :
    Outlet × Logbook :=
  match line with
  | .ok line => b.emit line outlet
  | .error _ => (outlet, b)

/-- The outlets and the logbook after a record was handed from one outlet to the next. -/
def relay (r : LogRecord) : List Outlet → Logbook → List Outlet × Logbook
  | [], b => ([], b)
  | outlet :: rest, b =>
    let (left, line) := pass b.active outlet.format r
    let (outlet, b) := b.hand line outlet
    let (rest, b) := relay left rest b
    (outlet :: rest, b)

/-- The logbook after a record that its logger let pass. Outlets take no record below the level of
debugging. -/
def write (b : Logbook) (r : LogRecord) : Logbook :=
  if r.level < 10 then b
  else
    let (outlets, b) := relay r b.outlets b
    { b with outlets := outlets }

/-- The logbook after a logger was asked for. -/
def fetch (b : Logbook) (name : String) : Logbook := { b with levels := b.levels.fetch name }

/-- The logbook after a logger was asked whether it lets a record pass. -/
def ask (b : Logbook) (name : String) (level : Int) : Logbook :=
  { b with levels := b.levels.ask name level }

/-- The logbook after a message of a logger. -/
def log (b : Logbook) (name : String) (level : Int) (message : Value) (arguments : Arguments)
    (context : Option Fields) : Logbook :=
  if b.levels.enables name level then
    (b.ask name level).write
      ⟨Levels.recordName name, level, message, arguments, b.clock, none, context, none⟩
  else b.ask name level

/-- The logbook after a plain text of a logger. -/
def say (b : Logbook) (name : String) (level : Int) (text : String) : Logbook :=
  b.log name level (.text text) (.positional []) none

/-- The logbook after a file was written. -/
def writeFile (b : Logbook) (p : Path) (text : String) : Logbook :=
  { b with folder := b.folder.write p text }

/-- The logbook after a file was removed. -/
def remove (b : Logbook) (p : Path) : Logbook :=
  { b with
    outlets := b.outlets.map (Outlet.afterRemoval b.folder p)
    folder := b.folder.remove p }

@[simp] theorem unbind_bind (b : Logbook) (id : Option String) : (b.bind id).unbind = b := rfl

@[simp] theorem active_bind (b : Logbook) (id : Option String) : (b.bind id).active = id := by
  cases id <;> rfl

/-- A message below the level of its logger is asked for, and leaves no other trace. -/
theorem log_of_disabled {b : Logbook} {name : String} {level : Int} {message : Value}
    {arguments : Arguments} {context : Option Fields} (h : b.levels.enables name level = false) :
    b.log name level message arguments context = b.ask name level := by
  simp [log, h]

end Logbook

end StorageReply
