import StorageReply.Headers.Readers
import StorageReply.Timestamp.Rfc1123

/-!
# Container properties

The system properties of a container: its entity tag, when it was last changed, and its lease.

Main definitions:

* `ContainerProperties`: the properties, with all of them absent or unspecified by default;
* `ContainerProperties.ofView`: the properties that a reply reports.
-/

namespace StorageReply

/-- The system properties of a container. -/
structure ContainerProperties where
  /-- The entity tag. -/
  etag : Option String := none
  /-- When the container was last changed. -/
  lastModified : Option Moment := none
  /-- Whether it is leased. -/
  leaseStatus : LeaseStatus := .unspecified
  /-- Where its lease stands. -/
  leaseState : LeaseState := .unspecified
  /-- How long its lease is held. -/
  leaseDuration : LeaseDuration := .unspecified
  deriving DecidableEq, Repr

namespace ContainerProperties

/-- The instant of a `Last-Modified` header; a missing or empty one gives none. -/
def instantOf : Option String → Except Failure (Option Moment)
  | none => .ok none
  | some text => if text.isEmpty then .ok none else (Rfc1123.parse text).map some

/-- The properties that a reply reports. Of several failures the first counts, in the order of the
date, the status, the state and the duration. -/
def ofView (v : Headers.View) : Except Failure ContainerProperties := do
  let lastModified ← instantOf (v.header? Headers.Name.lastModified)
  let status ← v.leaseStatus
  let state ← v.leaseState
  let duration ← v.leaseDuration
  return ⟨v.etag?, lastModified, status, state, duration⟩

end ContainerProperties

end StorageReply
