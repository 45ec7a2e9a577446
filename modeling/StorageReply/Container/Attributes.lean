import StorageReply.Container.Properties
import StorageReply.StorageUri

/-!
# Container attributes

What a reply reports of a container: its name, where it is kept, its metadata and its properties.

Main definitions:

* `ContainerAttributes`: the attributes;
* `ContainerAttributes.uri`: the URI at the primary location.
-/

namespace StorageReply

/-- The name, place, metadata and properties of a container. -/
structure ContainerAttributes where
  /-- The name. -/
  name : Option String := none
  /-- The URIs at each location. -/
  storageUri : Option StorageUri := none
  /-- The metadata. -/
  metadata : CaseMap Value := CaseMap.empty
  /-- The system properties. -/
  properties : ContainerProperties := {}

namespace ContainerAttributes

/-- The URI at the primary location; none when only the secondary one is set. -/
def uri (a : ContainerAttributes) : Except Failure (Option String) :=
  match a.storageUri with
  | some u => .ok u.primary
  | none =>
    let name := a.name.getD ""
    .error (.uriNotSet (if name.isEmpty then "container" else name))

end ContainerAttributes

end StorageReply
