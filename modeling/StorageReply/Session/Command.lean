import StorageReply.Session.Configuration
import StorageReply.Session.Replies

/-!
# Commands of a session

The operations of a client as one type, and a session as a sequence of them. Each command has an
answer or fails, and may print lines on the console.

Main definitions:

* `Command`, `Answer`: what can be asked of a client, and what it answers;
* `Session.perform`: the operation of a command;
* `Session.step`, `Session.run`: one command, and several in turn.
-/

namespace StorageReply

/-- What can be asked of a client. -/
inductive Command
  /-- Load settings from a file and from what the caller asks for. -/
  | load (file overrides : Value)
  /-- Load settings from the same file again. -/
  | reload
  /-- Show the settings. -/
  | config
  /-- Show the URIs of the service. -/
  | serviceUri
  /-- Show the URIs of a container. -/
  | containerUri (name : String)
  /-- Tell whether the locations of the settings can be used. -/
  | canServe
  /-- Set logging up as the settings ask for. -/
  | configureLogging
  /-- Set logging up as the entries of a map ask for. -/
  | setup (fields : Fields)
  /-- Log a message with its arguments. -/
  | log (logger : String) (level message : Value) (arguments : List Value)
  /-- Log a message with a context. -/
  | logWithContext (logger : String) (level message : Value) (context : Fields)
  /-- Show the level of a logger. -/
  | level (logger : String)
  /-- Put an identifier in force. -/
  | push (id : Option String)
  /-- Take the identifier back that was put in force last. -/
  | pop
  /-- Show the identifier in force. -/
  | currentId
  /-- Read a document with statistics. -/
  | readStats (document : ServiceDocument)
  /-- Read a document with properties. -/
  | readProperties (document : ServiceDocument)
  /-- Read a reply about a container. -/
  | readContainer (response : Response) (uri : StorageUri) (name : Value)
  /-- Write a file. -/
  | write (path text : String)
  /-- Remove a file. -/
  | delete (path : String)
  /-- Set an environment variable, or unset it. -/
  | setVariable (name : String) (value : Option String)
  /-- Show all files. -/
  | files

/-- What a client answers. -/
inductive Answer
  /-- Nothing. -/
  | done
  /-- Settings. -/
  | settings (s : Settings)
  /-- The URIs of a resource. -/
  | uri (u : StorageUri)
  /-- Whether something holds. -/
  | flag (b : Bool)
  /-- A level. -/
  | level (i : Int)
  /-- An identifier. -/
  | id (id : Option String)
  /-- Statistics. -/
  | stats (s : ServiceStats)
  /-- Properties. -/
  | properties (p : ServiceProperties)
  /-- Attributes of a container. -/
  | container (a : ContainerAttributes)
  /-- Files with their texts. -/
  | files (listing : List (String × String))

namespace Session

/-- The level of a record, which must be an integer or a truth value. -/
def recordLevel (v : Value) : Except Failure Int :=
  match v.integer? with
  | some level => .ok level
  | none => .error .wrongKind

/-- Asks for a logger. -/
def fetchLogger (name : String) : Act Session Unit := change fun book => book.fetch name

/-- Logs a message with its arguments. -/
def log (logger : String) (level message : Value) (arguments : List Value) : Act Session Unit := do
  fetchLogger logger
  let level ← Act.of (recordLevel level)
  change fun book => book.log logger level message (.ofList arguments) none

/-- The names that entries of a context cannot have. -/
def reservedNames : List Key := [.text "logger", .text "level", .text "message"]

/-- Logs a message with a context. An empty context counts as none. -/
def logWithContext (logger : String) (level message : Value) (context : Fields) :
    Act Session Unit := do
  fetchLogger logger
  if context.any fun (key, _) => reservedNames.contains key then throw .wrongKind
  let level ← Act.of (recordLevel level)
  change fun book =>
    book.log logger level message (.positional []) (if context.isEmpty then none else some context)

/-- The level that counts for a logger, which is made if it is not there. -/
def effectiveLevel (logger : String) : Act Session Int := do
  fetchLogger logger
  return (← get).book.levels.effective logger

/-- Sets logging up as the entries of a map ask for. -/
def setup (fields : Fields) : Act Session Unit := do
  let setup ← Act.of (LogSetup.ofFields fields)
  onBook (Logbook.setup setup)

/-- Takes the identifier back that was put in force last. -/
def pop : Act Session Unit := do
  if (← get).book.bound.isEmpty then throw .missingItem
  change Logbook.unbind

/-- Removes a file. -/
def delete (path : String) : Act Session Unit := do
  let folder := (← get).book.folder
  match folder.find (Path.ofText path) with
  | none => throw (.nothingToRemove path)
  | some place =>
    if folder.isFile place then change fun book => book.remove place else throw .isFolder

/-- Writes a file. -/
def write (path text : String) : Act Session Unit :=
  change fun book => book.writeFile (Path.straight (Path.ofText path)) text

/-- The operation of a command. -/
def perform : Command → Act Session Answer
  | .load file overrides => return .settings (← load file overrides)
  | .reload => return .settings (← reload)
  | .config => return .settings (← config)
  | .serviceUri => return .uri (← serviceUri)
  | .containerUri name => return .uri (← containerUri name)
  | .canServe => return .flag (← canServe)
  | .configureLogging => do configureLogging; return .done
  | .setup fields => do setup fields; return .done
  | .log logger level message arguments => do log logger level message arguments; return .done
  | .logWithContext logger level message context => do
    logWithContext logger level message context
    return .done
  | .level logger => return .level (← effectiveLevel logger)
  | .push id => do change (Logbook.bind id); return .done
  | .pop => do pop; return .done
  | .currentId => return .id (← get).book.active
  | .readStats document => return .stats (← readStats document)
  | .readProperties document => return .properties (← readProperties document)
  | .readContainer response uri name => return .container (← readContainer response uri name)
  | .write path text => do write path text; return .done
  | .delete path => do delete path; return .done
  | .setVariable name value => do
    modify fun s => { s with environment := s.environment.assign name value }
    return .done
  | .files => return .files (← get).book.folder.listing

/-- The outcome of a command: its answer or failure, and the text that it printed. -/
structure Outcome where
  /-- The answer or failure. -/
  answer : Except Failure Answer
  /-- The text on the console. -/
  printed : String

/-- The session after a command that begins with an empty console, and the outcome. -/
def step (s : Session) (command : Command) : Session × Outcome :=
  let (s, answer) := (perform command).result (s.withBook { s.book with console := "" })
  (s, ⟨answer, s.book.console⟩)

/-- The session after several commands, and their outcomes. -/
def run (s : Session) : List Command → Session × List Outcome
  | [] => (s, [])
  | command :: rest =>
    let (s, outcome) := s.step command
    let (s, outcomes) := s.run rest
    (s, outcome :: outcomes)

end Session

end StorageReply
