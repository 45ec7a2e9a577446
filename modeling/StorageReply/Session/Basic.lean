import StorageReply.Act
import StorageReply.Config.Environment
import StorageReply.Config.Settings
import StorageReply.Log.Setup

/-!
# Sessions

The state of a client from one operation to the next: its logbook, the environment, the settings in
force and the file that they came from.

Main definitions:

* `Session`: the state;
* `Session.start`: a client that has done nothing yet;
* `Session.say`, `Session.withId`: log messages, and operations under a request identifier.
-/

namespace StorageReply

/-- The state of a client. -/
structure Session where
  /-- Everything about logging, the files included. -/
  book : Logbook
  /-- The environment variables. -/
  environment : Environment
  /-- The settings in force, once they have been loaded. -/
  settings : Option Settings
  /-- The path of the file that settings were last read from. -/
  source : Option String

namespace Session

/-- A client that has done nothing yet, with some files, an environment and a time. -/
def start (folder : Folder) (environment : Environment) (clock : Stamp) : Session :=
  ⟨⟨.initial, [], folder, "", [], clock⟩, environment, none, none⟩

/-- The session with another logbook. -/
def withBook (s : Session) (book : Logbook) : Session := { s with book := book }

/-- An operation on the logbook. -/
def onBook {α : Type} (act : Act Logbook α) : Act Session α := Act.on Session.book withBook act

/-- A change of the logbook. -/
def change (f : Logbook → Logbook) : Act Session Unit := modify fun s => s.withBook (f s.book)

/-- A message of a logger. -/
def say (logger : String) (level : Int) (text : String) : Act Session Unit :=
  change fun book => book.say logger level text

/-- An operation with an identifier in force, if one is given. The identifier goes when the
operation ends, even if it fails. -/
def withId {α : Type} (id : Option String) (act : Act Session α) : Act Session α :=
  match id with
  | none => act
  | some id =>
    Act.within (fun s => s.withBook (s.book.bind (some id))) (fun s => s.withBook s.book.unbind) act

end Session

end StorageReply
