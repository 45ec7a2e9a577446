import StorageReply.Headers.Response
import StorageReply.Lease
import StorageReply.Text.Pieces

/-!
# Header readers

The headers of a storage reply that have a meaning of their own, and the metadata of a resource,
which travels as headers with a common beginning. A missing header is no failure.

Main definitions:

* `Headers.Name`: the names of these headers;
* `View.date?`, `View.etag?` and others: the single headers;
* `View.lease`: a lease facet read from its header;
* `View.metadata`: the metadata, in the order of first arrival.
-/

namespace StorageReply.Headers

open Text

namespace Name

/-- The checksum of the content. -/
def contentMd5 : String := "Content-MD5"

/-- The date of the reply. -/
def date : String := "Date"

/-- The date of the reply where proxies cannot change it. -/
def serviceDate : String := "x-ms-date"

/-- The entity tag. -/
def etag : String := "ETag"

/-- When the resource was last changed. -/
def lastModified : String := "Last-Modified"

/-- The identifier that the service gave the request. -/
def requestId : String := "x-ms-request-id"

/-- The status of the lease. -/
def leaseStatus : String := "x-ms-lease-status"

/-- The state of the lease. -/
def leaseState : String := "x-ms-lease-state"

/-- The duration of the lease. -/
def leaseDuration : String := "x-ms-lease-duration"

/-- The identifier of the lease. -/
def leaseId : String := "x-ms-lease-id"

/-- The seconds that a broken lease still lasts. -/
def leaseTime : String := "x-ms-lease-time"

/-- The beginning of the names of metadata headers. -/
def metadataStart : String := "x-ms-meta-"

end Name

namespace View

/-- The checksum of the content, as sent. -/
def contentMd5? (v : View) : Option String := v.header? Name.contentMd5

/-- The date of the reply: the standard header, or the service's own where that is absent. -/
def date? (v : View) : Option String := (v.header? Name.date).or (v.header? Name.serviceDate)

/-- The entity tag. -/
def etag? (v : View) : Option String := v.header? Name.etag

/-- The identifier that the service gave the request. -/
def requestId? (v : View) : Option String := v.header? Name.requestId

/-- The identifier of the lease. -/
def leaseId? (v : View) : Option String := v.header? Name.leaseId

/-- The seconds that a broken lease still lasts, as sent. -/
def leaseTime? (v : View) : Option String := v.header? Name.leaseTime

/-- A lease facet read from a header. -/
def lease {α : Type} (v : View) (facet : Facet α) (name : String) : Except Failure α :=
  match facet.parse (v.header? name) (some name) with
  | .ok member => .ok member
  | .error fault => .error (.invalidHeader fault)

/-- The status of the lease. -/
def leaseStatus (v : View) : Except Failure LeaseStatus :=
  v.lease StorageReply.leaseStatus Name.leaseStatus

/-- The state of the lease. -/
def leaseState (v : View) : Except Failure LeaseState :=
  v.lease StorageReply.leaseState Name.leaseState

/-- The duration of the lease. -/
def leaseDuration (v : View) : Except Failure LeaseDuration :=
  v.lease StorageReply.leaseDuration Name.leaseDuration

end View

/-- Whether a header carries metadata. -/
def isMetadata (name : String) : Bool :=
  beginsWith (lower name.toList) Name.metadataStart.toList

/-- The metadata name in the name of a header. -/
def metadataName (name : String) : String :=
  String.ofList (name.toList.drop Name.metadataStart.length)

/-- The metadata entry that a header carries: its name and its first value. -/
def Entry.metadata? (e : Entry) : Option (String × String) :=
  if isMetadata e.name then e.values.head?.map (metadataName e.name, ·) else none

/-- The metadata of a reply. Of entries with the same name the last one counts. -/
def View.metadata (v : View) : CaseMap String :=
  CaseMap.ofPairs (v.received.filterMap Entry.metadata?)

end StorageReply.Headers
