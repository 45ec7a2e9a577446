import StorageReply.Container.Attributes
import StorageReply.Headers.Readers

/-!
# Container replies

The attributes of a container, read from the headers of a reply about it.

Main definitions:

* `ContainerAttributes.ofResponse`: the attributes that a reply reports;
* `ContainerAttributes.logFields`: what is logged about them.
-/

namespace StorageReply.ContainerAttributes

/-- The metadata of a reply as metadata of a container. -/
def metadataOf (v : Headers.View) : CaseMap Value := v.metadata.mapValues Value.text

/-- The attributes that the headers of a reply report. Without a name the container is named by the
last path segment of its URI. -/
def ofView (v : Headers.View) (uri : StorageUri) (name : Value) :
    Except Failure ContainerAttributes := do
  let name ← match name with
    | .null => (uri.containerName).map Value.text
    | given => .ok given
  let properties ← ContainerProperties.ofView v
  let name ← ((Lax.text name).under (.field "name")).toExcept
  return ⟨some name, some uri, metadataOf v, properties⟩

/-- The attributes that a reply reports. -/
def ofResponse (response : Response) (uri : StorageUri) (name : Value) :
    Except Failure ContainerAttributes := do
  ofView (← response.headers) uri name

/-- What is logged about attributes that were read from a reply: the name as given or found, the
service's identifier of the request, and the number of metadata entries. -/
def logFields (v : Headers.View) (a : ContainerAttributes) : Fields :=
  [(.text "name", (a.name.map Value.text).getD .null),
   (.text "request_id", (v.requestId?.map Value.text).getD .null),
   (.text "metadata_keys", .int a.metadata.size)]

end StorageReply.ContainerAttributes
