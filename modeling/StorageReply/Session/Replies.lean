import StorageReply.Container.Response
import StorageReply.Service.Properties
import StorageReply.Service.Stats
import StorageReply.Session.Basic
import StorageReply.Xml.Encoding

/-!
# Replies in a session

Reading the replies of the service with a message about what was found. A document from a stream is
read under the identifier of its request, where that is given; a document at hand is read in
silence.

Main definitions:

* `ServiceDocument`: a document of the service with the way in which it is read;
* `Session.readStats`, `Session.readProperties`: the contents of documents;
* `Session.readContainer`: the attributes of a container.
-/

namespace StorageReply

/-- A document of the service and the way in which it is read. -/
structure ServiceDocument where
  /-- The document. -/
  source : Xml.Source
  /-- Whether it comes from a stream. -/
  streamed : Bool
  /-- The identifier of the request. -/
  requestId : Option String
  deriving Repr

namespace Session

/-- What a document says, with a message about it where it comes from a stream. -/
def readDocument {α : Type} (logger : String) (read : Xml.Element → Except Failure α)
    (logText : α → String) (d : ServiceDocument) : Act Session α := do
  if d.streamed then
    withId d.requestId do
      let found ← Act.of (d.source.read read)
      say logger 10 (logText found)
      return found
  else
    Act.of (d.source.read read)

/-- The statistics in a document. -/
def readStats : ServiceDocument → Act Session ServiceStats :=
  readDocument "zurestore.models.service_stats" ServiceStats.ofElement ServiceStats.logText

/-- The properties in a document. -/
def readProperties : ServiceDocument → Act Session ServiceProperties :=
  readDocument "zurestore.models.service_properties" ServiceProperties.ofElement
    ServiceProperties.logText

/-- The attributes of a container that a reply reports, with a message about them. -/
def readContainer (response : Response) (uri : StorageUri) (name : Value) :
    Act Session ContainerAttributes := do
  let view ← Act.of response.headers
  let attributes ← Act.of (ContainerAttributes.ofView view uri name)
  change fun book =>
    book.log "zurestore.blob.container_response" 10 (.text "Parsed container attributes")
      (.positional []) (some (ContainerAttributes.logFields view attributes))
  return attributes

end Session

end StorageReply
