import StorageReply.Json.Writer
import StorageReply.Log.Record

/-!
# Log lines

The line of a log record: one JSON object, or a sentence that begins with the time. A sentence has
the code points of its message, and an object spells them in characters of ASCII.

Main definitions:

* `LineFormat`: the two formats;
* `LineFormat.line`: the line of a record;
* `LineFormat.write`: the line and the record as the format leaves it behind.
-/

namespace StorageReply

/-- A format of log lines. -/
inductive LineFormat
  /-- One JSON object. -/
  | json
  /-- A sentence. -/
  | text
  deriving DecidableEq, Repr

namespace LineFormat

/-- An entry of a line. -/
def entry (name : String) (t : Json.Tree) : List CodePoint × Json.Tree := (CodePoint.ofText name, t)

/-- A text of a line. -/
def entryText (name text : String) : List CodePoint × Json.Tree :=
  entry name (.text (CodePoint.ofText text))

/-- An entry of a line that may be missing. -/
def entryOf (name : String) (t : Option Json.Tree) : Json.Entries := (t.map (entry name)).toList

/-- The object of a record, with a given context. -/
def jsonEntries (time : String) (message : List CodePoint) (context : Option Json.Tree)
    (active : Option String) (r : LogRecord) : Json.Entries :=
  [entryText "timestamp" time, entryText "level" (levelName r.level), entryText "module" r.logger,
   entry "message" (.text message)]
    ++ entryOf "client_request_id" ((r.requestId? active).map fun id => .text (CodePoint.ofText id))
    ++ entryOf "exception" (r.error.map fun e => .text (CodePoint.ofText e.line))
    ++ entryOf "context" context

/-- The context of a record, which must be a value that JSON can spell. -/
def contextTree (r : LogRecord) : Except Failure (Option Json.Tree) :=
  match r.context with
  | none => .ok none
  | some context =>
    match Json.tree? (.map context) with
    | some t => .ok (some t)
    | none => .error (.unusable .longNumeral)

/-- The line of a record as one JSON object. -/
def jsonLine (active : Option String) (r : LogRecord) : Except Failure String := do
  let time ← r.created.moment
  let message ← r.messageCodes
  let context ← contextTree r
  return Json.write (.map (jsonEntries time.text message context active r))

/-- Code points with a logged failure on a line of its own. -/
def withError (codes : List CodePoint) (error : Option LoggedError) : List CodePoint :=
  match error with
  | none => codes
  | some e =>
    if codes.getLast? = some (.char '\n') then codes ++ CodePoint.ofText e.line
    else codes ++ .char '\n' :: CodePoint.ofText e.line

/-- The line of a record as a sentence. -/
def textLine (active : Option String) (r : LogRecord) : Except Failure (List CodePoint) := do
  let message ← r.messageCodes
  let id := (r.requestId? active).getD noRequestId
  let time ← r.created.clockText
  let head := time ++ " [" ++ levelName r.level ++ "] " ++ r.logger ++ " (" ++ id ++ "): "
  return withError (CodePoint.ofText head ++ message) r.error

/-- The line of a record. -/
def line (format : LineFormat) (active : Option String) (r : LogRecord) :
    Except Failure (List CodePoint) :=
  match format with
  | .json => (jsonLine active r).map CodePoint.ofText
  | .text => textLine active r

/-- The record after it was turned into a line: a sentence leaves the identifier that it shows as
the stamp. -/
def after (format : LineFormat) (active : Option String) (r : LogRecord) : LogRecord :=
  match format with
  | .json => r
  | .text => { r with stamp := some (some ((r.requestId? active).getD noRequestId)) }

/-- The line of a record and the record that is left behind. -/
def write (format : LineFormat) (active : Option String) (r : LogRecord) :
    LogRecord × Except Failure (List CodePoint) :=
  (format.after active r, format.line active r)

end LineFormat

end StorageReply
