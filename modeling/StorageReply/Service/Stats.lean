import StorageReply.Timestamp.Rfc1123
import StorageReply.Xml.Element

/-!
# Service statistics

How far the secondary location of a storage service has followed the primary one, as its statistics
document says.

Main definitions:

* `ServiceStats`, `GeoReplication`, `ReplicationStatus`: what the document says;
* `ReplicationStatus.parse`: the status of a text;
* `ServiceStats.ofElement`: the statistics in a document.
-/

namespace StorageReply

open Text

/-- The state of replication to the secondary location. -/
inductive ReplicationStatus
  /-- The secondary location follows. -/
  | live
  /-- The first copy is still being made. -/
  | bootstrap
  /-- The secondary location cannot be reached. -/
  | unavailable
  deriving DecidableEq, Repr

namespace ReplicationStatus

/-- The word of a status. -/
def word : ReplicationStatus → String
  | .live => "live"
  | .bootstrap => "bootstrap"
  | .unavailable => "unavailable"

/-- All statuses. -/
def all : List ReplicationStatus := [.live, .bootstrap, .unavailable]

/-- The status of a text, where letter case and surrounding blanks do not matter. -/
def parse (s : String) : Except Failure ReplicationStatus :=
  let word := String.ofList (lower (strip s.toList))
  match all.find? (·.word == word) with
  | some status => .ok status
  | none => .error (.document (.unknownStatus s))

/-- The status of a value, which must be a text. -/
def parseValue : Value → Except Failure ReplicationStatus
  | .text s => parse s
  | _ => .error .noOperation

end ReplicationStatus

/-- Replication to the secondary location. -/
structure GeoReplication where
  /-- The state of replication. -/
  status : ReplicationStatus
  /-- The instant before which all writes can be read there. -/
  lastSyncTime : Option Moment
  deriving DecidableEq, Repr

/-- The statistics of a service. -/
structure ServiceStats where
  /-- Replication to the secondary location, where the document speaks of it. -/
  geoReplication : Option GeoReplication
  deriving DecidableEq, Repr

namespace ServiceStats

/-- The name of the root. -/
def rootName : String := "StorageServiceStats"

/-- The name of the element on replication. -/
def geoName : String := "GeoReplication"

/-- The name of the element that holds the status. -/
def statusName : String := "Status"

/-- The name of the element that holds the last instant in step. -/
def syncName : String := "LastSyncTime"

/-- The instant of a text; a missing or empty text gives none. -/
def syncTime : Option String → Except Failure (Option Moment)
  | none => .ok none
  | some s => if s.isEmpty then .ok none else (Rfc1123.parse s).map some

/-- Replication, from its element. -/
def geoOf (e : Xml.Element) : Except Failure GeoReplication := do
  let status := (e.childText? statusName).getD ""
  if status.isEmpty then .error (.document (.missingChild geoName statusName))
  else
    let status ← ReplicationStatus.parse status
    let lastSync ← syncTime (e.childText? syncName)
    return ⟨status, lastSync⟩

/-- The statistics in a document. -/
def ofElement (root : Xml.Element) : Except Failure ServiceStats := do
  root.expect rootName
  match root.child? geoName with
  | none => return ⟨none⟩
  | some e => return ⟨some (← geoOf e)⟩

/-- What is logged after statistics were read. -/
def logText (s : ServiceStats) : String :=
  match s.geoReplication with
  | none => "Read service stats without geo-replication section"
  | some geo =>
    "Read service stats: status=" ++ geo.status.word ++ ", last_sync_time="
      ++ (geo.lastSyncTime.map (Moment.textWith " ")).getD "None"

end ServiceStats

end StorageReply
