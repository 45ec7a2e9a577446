import StorageReply.CaseMap
import StorageReply.Lease
import StorageReply.Value.Pairs

/-!
# Data of a container

What can be handed to the fields of a container: plain values, and objects that are made for them.
Objects are not looked into when they are made without their checks, so an object of properties can
hold anything.

Main definitions:

* `Datum`: the data;
* `Datum.scalar`: the plain value that a datum counts as;
* `Datum.record?`: the entries of a datum that is a map;
* `Datum.display?`: the text of a datum.
-/

namespace StorageReply

open Text

/-- A member of one of the enumerations of a lease. -/
inductive LeaseMember
  /-- A status. -/
  | status (x : LeaseStatus)
  /-- A state. -/
  | state (x : LeaseState)
  /-- A duration. -/
  | duration (x : LeaseDuration)
  deriving DecidableEq, Repr

namespace LeaseMember

/-- The word of a member. -/
def word : LeaseMember → String
  | .status x => x.word
  | .state x => x.word
  | .duration x => x.word

/-- The name of a member, with that of its enumeration. -/
def fullName (m : LeaseMember) : String :=
  let typeName := match m with
    | .status _ => leaseStatus.typeName
    | .state _ => leaseState.typeName
    | .duration _ => leaseDuration.typeName
  typeName ++ "." ++ m.word.map Char.toUpper

end LeaseMember

/-- What can be handed to a field of a container. -/
inductive Datum
  /-- A plain value. -/
  | plain (v : Value)
  /-- A member of an enumeration, which is a text as well. -/
  | member (m : LeaseMember)
  /-- A map that ignores letter case. -/
  | caseless (m : CaseMap Value)
  /-- A map that holds data under different keys. -/
  | dict (entries : List (Value × Datum))
  /-- An object with the URIs at each location. -/
  | uri (primary secondary : Datum)
  /-- An object with the properties of a container. -/
  | properties (etag lastModified leaseStatus leaseState leaseDuration : Datum)
  deriving Inhabited

namespace Datum

/-- Null. -/
abbrev null : Datum := .plain .null

/-- A text, or null for none. -/
def ofText? (s : Option String) : Datum := .plain ((s.map Value.text).getD .null)

/-- A date with a time, or null for none. -/
def ofMoment? (m : Option Moment) : Datum :=
  .plain ((m.map fun m => Value.extra (.dateTime m)).getD .null)

/-- Whether a datum is null. -/
def isNull : Datum → Bool
  | .plain .null => true
  | _ => false

/-- The plain value that a datum counts as where a single value is asked for. A member counts as its
word; a map and an object are no single value, as no plain map is. -/
def scalar : Datum → Value
  | .plain v => v
  | .member m => .text m.word
  | _ => .map []

/-- The look-up of names in a datum that is a map. -/
def record? : Datum → Option (String → Option Datum)
  | .plain (.map fields) => some fun name => (Fields.named? fields name).map .plain
  | .caseless m => some fun name => (m.get? name).map .plain
  | .dict entries => some fun name =>
    (entries.find? fun entry => entry.1.same (.text name)).map Prod.snd
  | _ => none

/-- Whether a datum counts as given. -/
def truthy : Datum → Bool
  | .plain v => v.truthy
  | .caseless m => !m.entries.isEmpty
  | .dict entries => !entries.isEmpty
  | _ => true

/-- Named parts of an object, each with the text of its value. -/
def parts? (between : String) (parts : List (String × Option String)) : Option String :=
  (parts.mapM fun (name, text) => Option.map (name ++ "=" ++ ·) text).map (joinedStrings between)

mutual

/-- The text of a datum as a member of another. -/
def shown? : Datum → Option String
  | .plain v => v.shown?
  | .member m => some ("<" ++ m.fullName ++ ": " ++ quotedString m.word ++ ">")
  | .caseless m => Value.shown? (.map (m.entries.map fun (name, v) => (.text name, v)))
  | .dict entries =>
    (shownEntries? entries).map fun parts => "\x7b" ++ joinedStrings ", " parts ++ "\x7d"
  | .uri primary secondary =>
    (parts? ", " [("primary_uri", shown? primary), ("secondary_uri", shown? secondary)]).map
      fun text => "StorageUri(" ++ text ++ ")"
  | .properties etag lastModified status state duration =>
    (parts? ", " [("etag", shown? etag), ("last_modified", shown? lastModified),
      ("lease_status", shown? status), ("lease_state", shown? state),
      ("lease_duration", shown? duration)]).map
      fun text => "BlobContainerProperties(" ++ text ++ ")"

/-- The texts of the entries of a map. -/
def shownEntries? : List (Value × Datum) → Option (List String)
  | [] => some []
  | (k, d) :: rest => do
    let key ← k.shown?
    let text ← shown? d
    return (key ++ ": " ++ text) :: (← shownEntries? rest)

end

/-- The text of a datum by itself. The parts of an object stand side by side then. -/
def display? : Datum → Option String
  | .plain v => v.display?
  | .member m => some m.fullName
  | .uri primary secondary =>
    parts? " " [("primary_uri", shown? primary), ("secondary_uri", shown? secondary)]
  | .properties etag lastModified status state duration =>
    parts? " " [("etag", shown? etag), ("last_modified", shown? lastModified),
      ("lease_status", shown? status), ("lease_state", shown? state),
      ("lease_duration", shown? duration)]
  | d => d.shown?

end Datum

end StorageReply
