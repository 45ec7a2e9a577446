import StorageReply.Calendar
import StorageReply.Log.Redaction
import StorageReply.Log.Template

/-!
# Log records

A record of what happened, before it becomes a line: the logger, the level, the message with its
arguments, and what else is known. Records pass through filters on their way, which stamp them with
the identifier of the request that is being answered and hide credentials.

Main definitions:

* `LogRecord`: the record;
* `LogRecord.messageCodes`: the message with its arguments;
* `LogRecord.requestId?`: the identifier that the record shows;
* `LogFilter`, `LogFilter.apply`: the filters.
-/

namespace StorageReply

open Number

/-- A point in time as a count of seconds since 1970. -/
inductive Stamp
  /-- A whole number of seconds. -/
  | whole (second : Int)
  /-- A number of seconds with a fraction. -/
  | real (x : Binary64)
  deriving DecidableEq, Repr

namespace Stamp

/-- The second in which a point in time lies. -/
def floorSecond : Stamp → Except Failure Int
  | .whole second => .ok second
  | .real (.finite negative m e) =>
    let (num, den) := Binary64.ratio m e
    .ok ((if negative then -(num : Int) else num) / (den : Int))
  | .real (.infinite _) => .error .outOfRange
  | .real .nan => .error (.unusable .undefinedNumber)

/-- The second and the nearest microsecond. -/
def rounded : Stamp → Except Failure (Int × Nat)
  | .real (.finite negative m e) =>
    let (num, den) := Binary64.ratio m e
    let part := match (Binary64.ofRatio false (num % den) den).scaled 1000000 with
      | .finite _ m e =>
        let (num, den) := Binary64.ratio m e
        roundHalfEven num den
      | _ => 0
    let micros : Int := ((num / den : Nat) : Int) * 1000000 + part
    let micros := if negative then -micros else micros
    .ok (micros / 1000000, (micros % 1000000).toNat)
  | t => t.floorSecond.map fun second => (second, 0)

/-- A whole second as a wall-clock time. The clock counts seconds in a signed word of 64 bits, and
the years since 1900 in one of 32 bits. -/
def onClock (second : Int) (micro : Nat) : Except Failure Moment :=
  let m := Moment.universal second micro
  if !(-Int.pow 2 63 ≤ second && second < Int.pow 2 63) then .error .outOfRange
  else if -Int.pow 2 31 ≤ m.date.year - 1900 && m.date.year - 1900 < Int.pow 2 31 then .ok m
  else .error .beyondClock

/-- The year of a wall-clock time as a signed word of 32 bits. -/
def wordYear (m : Moment) : Int := m.date.year.bmod (Nat.pow 2 32)

/-- The instant to the nearest microsecond, which must lie in the years of four digits. -/
def moment (t : Stamp) : Except Failure Moment := do
  let (second, micro) ← t.rounded
  let m ← onClock second micro
  if m.inRange then return m else .error (.unusable (.outsideYears (wordYear m)))

/-- The date and time without a fraction, as `2022-01-19 22:28:43`. -/
def clockText (t : Stamp) : Except Failure String := do
  let m ← onClock (← t.floorSecond) 0
  let d := m.date
  if wordYear m = d.year then
    return numeral d.year ++ "-" ++ padded 2 d.month ++ "-" ++ padded 2 d.day ++ " "
      ++ Moment.clockText m.secondOfDay
  else .error .outOfRange

end Stamp

/-- The name of a level. -/
def levelName (level : Int) : String :=
  if level = 50 then "CRITICAL"
  else if level = 40 then "ERROR"
  else if level = 30 then "WARNING"
  else if level = 20 then "INFO"
  else if level = 10 then "DEBUG"
  else if level = 0 then "NOTSET"
  else "Level " ++ numeral level

/-- A failure that is logged with a message: its kind and its text. -/
structure LoggedError where
  /-- The kind. -/
  kind : String
  /-- The text. -/
  text : String
  deriving DecidableEq, Repr

/-- The kind and the text of a logged failure; the text of a missing key is quoted. -/
def LoggedError.line (e : LoggedError) : String :=
  let text := if e.kind = "KeyError" then Text.quotedString e.text else e.text
  if text.isEmpty then e.kind else e.kind ++ ": " ++ text

/-- A log record. -/
structure LogRecord where
  /-- The name of the logger. -/
  logger : String
  /-- The level. -/
  level : Int
  /-- The message or its template. -/
  message : Value
  /-- The arguments of the template. -/
  arguments : Arguments
  /-- When it was made. -/
  created : Stamp
  /-- The request identifier that it was stamped with; the stamp may be null. -/
  stamp : Option (Option String)
  /-- More about what happened. -/
  context : Option Fields
  /-- The failure that is logged with it. -/
  error : Option LoggedError

/-- The mark for a record without a request identifier. -/
def noRequestId : String := "-"

namespace LogRecord

/-- The message with its arguments. -/
def messageCodes (r : LogRecord) : Except Failure (List CodePoint) :=
  match r.message.display? with
  | some template => Template.render template r.arguments
  | none => .error (.unusable .longNumeral)

/-- The message with its arguments as a text, for rules that look for characters. A null character,
which means nothing to them either, stands for half of a surrogate pair. -/
def messageText (r : LogRecord) : Except Failure String := r.messageCodes.map CodePoint.shaded

/-- An identifier that is not empty. -/
def given (id : Option String) : Option String := id.filter (!·.isEmpty)

/-- The request identifier that a record shows while `active` is the identifier in force: its own
unless that is missing or empty, and then the one in force. An empty identifier and the mark for
none show as none. -/
def requestId? (active : Option String) (r : LogRecord) : Option String :=
  (given ((given r.stamp.join).or active)).filter (· != noRequestId)

end LogRecord

/-- What records pass through on their way to a line. -/
inductive LogFilter
  /-- Stamps the request identifier on a record that has no stamp. -/
  | requestId
  /-- Hides credentials in the message and its arguments. -/
  | credentials
  deriving DecidableEq, Repr

namespace LogFilter

/-- A text with its credentials hidden; any other value as it is. -/
def redactValue : Value → Value
  | .text s => .text (Redaction.redact s)
  | v => v

/-- Arguments in order with their credentials hidden; named arguments as they are. -/
def redactArguments : Arguments → Arguments
  | .positional values => .positional (values.map redactValue)
  | .named entries => .named entries

/-- The record after a filter, while `active` is the request identifier in force. -/
def apply (active : Option String) (r : LogRecord) : LogFilter → LogRecord
  | .requestId =>
    match r.stamp with
    | some _ => r
    | none => { r with stamp := some (some ((LogRecord.given active).getD noRequestId)) }
  | .credentials =>
    { r with message := redactValue r.message, arguments := redactArguments r.arguments }

/-- The record after several filters, one after the other. -/
def applyAll (active : Option String) (filters : List LogFilter) (r : LogRecord) : LogRecord :=
  filters.foldl (apply active) r

/-- The filters of every handler. -/
def standard : List LogFilter := [.requestId, .credentials]

end LogFilter

end StorageReply
