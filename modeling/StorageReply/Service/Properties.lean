import StorageReply.Service.Field
import StorageReply.Value.Display
import StorageReply.Xml.Writer

/-!
# Service properties

The settings of a storage service: analytics logging, metrics, rules on requests from other origins,
and the default version. A part that a document does not have is absent here.

Main definitions:

* `ServiceProperties` and its parts: the settings;
* `ServiceProperties.ofElement`: the settings in a document;
* `ServiceProperties.toElement`, `ServiceProperties.write`: the document of settings;
* `ServiceProperties.normalized`: what a document keeps of settings.
-/

namespace StorageReply

open Number Text Xml

/-- How long analytics data is kept. -/
structure RetentionPolicy where
  /-- Whether data is deleted after some days. -/
  enabled : Bool := false
  /-- After how many days. -/
  days : Option Int := none
  deriving DecidableEq, Repr

/-- Settings of analytics logging. -/
structure LoggingProperties where
  /-- The version of the analytics format. -/
  version : String := "1.0"
  /-- Whether deletions are logged. -/
  delete : Bool := false
  /-- Whether reads are logged. -/
  read : Bool := false
  /-- Whether writes are logged. -/
  write : Bool := false
  /-- How long the logs are kept. -/
  retention : RetentionPolicy := {}
  deriving DecidableEq, Repr

/-- Settings of metrics by the hour or by the minute. -/
structure MetricsProperties where
  /-- The version of the analytics format. -/
  version : String := "1.0"
  /-- Whether metrics are collected. -/
  enabled : Bool := false
  /-- Whether operations are counted one by one. -/
  includeApis : Option Bool := none
  /-- How long the metrics are kept. -/
  retention : RetentionPolicy := {}
  deriving DecidableEq, Repr

/-- A rule on requests from other origins. -/
structure CorsRule where
  /-- The origins that may send requests. -/
  allowedOrigins : List String := []
  /-- The methods that they may use. -/
  allowedMethods : List String := []
  /-- How long the answer to a preflight request may be kept. -/
  maxAgeInSeconds : Int := 0
  /-- The reply headers that are shown to the origin. -/
  exposedHeaders : List String := []
  /-- The request headers that may be sent. -/
  allowedHeaders : List String := []
  deriving DecidableEq, Repr

/-- The settings of a service. -/
structure ServiceProperties where
  /-- Analytics logging. -/
  logging : Option LoggingProperties := none
  /-- Metrics by the hour. -/
  hourMetrics : Option MetricsProperties := none
  /-- Metrics by the minute. -/
  minuteMetrics : Option MetricsProperties := none
  /-- The rules on requests from other origins; an empty list clears them. -/
  cors : Option (List CorsRule) := none
  /-- The version for requests that name none. -/
  defaultVersion : Option String := none
  deriving DecidableEq, Repr

/-- The truth value in a child of an element; a missing child is false. -/
def Xml.Element.boolOf (e : Element) (name : String) : Except Failure Bool :=
  Field.bool (e.childText? name) name false

/-- The integer in a child of an element. -/
def Xml.Element.integerOf (e : Element) (name : String) : Except Failure (Option Int) :=
  Field.integer (e.childText? name) name

/-- The list in a child of an element. -/
def Xml.Element.listOf (e : Element) (name : String) : List String :=
  Field.list (e.childText? name)

/-- An element that holds a text. -/
def textElement (name text : String) : Element := .make name text []

/-- An element that holds a truth value. -/
def boolElement (name : String) (b : Bool) : Element :=
  textElement name (if b then "true" else "false")

/-- An element that holds an integer. -/
def integerElement (name : String) (i : Int) : Element := textElement name (numeral i)

/-- An element that holds a list. -/
def listElement (name : String) (items : List String) : Element :=
  textElement name (joinedStrings "," items)

/-- A version as a document holds it: one point nought where the element is missing. -/
def versionOf (e : Element) : String := (e.childText? "Version").getD "1.0"

namespace RetentionPolicy

/-- The policy in an element; days count only where the policy is enabled. -/
def ofElement (e : Element) : Except Failure RetentionPolicy := do
  let enabled ← e.boolOf "Enabled"
  let days ← if enabled then e.integerOf "Days" else .ok none
  return ⟨enabled, days⟩

/-- The policy of a section: the default where the section has none. -/
def ofParent (e : Element) : Except Failure RetentionPolicy :=
  match e.child? "RetentionPolicy" with
  | some child => ofElement child
  | none => .ok {}

/-- The element of a policy. -/
def toElement (p : RetentionPolicy) : Element :=
  .make "RetentionPolicy" ""
    (boolElement "Enabled" p.enabled ::
      (if p.enabled then (p.days.map (integerElement "Days")).toList else []))

/-- What a document keeps of a policy. -/
def normalized (p : RetentionPolicy) : RetentionPolicy :=
  ⟨p.enabled, if p.enabled then p.days else none⟩

/-- The integers of a policy that its element shows. -/
def integers (p : RetentionPolicy) : List Int := if p.enabled then p.days.toList else []

end RetentionPolicy

namespace LoggingProperties

/-- The settings in an element. -/
def ofElement (e : Element) : Except Failure LoggingProperties := do
  let delete ← e.boolOf "Delete"
  let read ← e.boolOf "Read"
  let write ← e.boolOf "Write"
  let retention ← RetentionPolicy.ofParent e
  return ⟨versionOf e, delete, read, write, retention⟩

/-- The element of the settings. -/
def toElement (p : LoggingProperties) : Element :=
  .make "Logging" ""
    [textElement "Version" p.version, boolElement "Delete" p.delete, boolElement "Read" p.read,
     boolElement "Write" p.write, p.retention.toElement]

/-- What a document keeps of the settings. -/
def normalized (p : LoggingProperties) : LoggingProperties :=
  { p with version := stripped p.version, retention := p.retention.normalized }

end LoggingProperties

namespace MetricsProperties

/-- The settings in an element; single operations count only where metrics are enabled. -/
def ofElement (e : Element) : Except Failure MetricsProperties := do
  let enabled ← e.boolOf "Enabled"
  let includeApis ← if enabled then (e.boolOf "IncludeAPIs").map some else .ok none
  let retention ← RetentionPolicy.ofParent e
  return ⟨versionOf e, enabled, includeApis, retention⟩

/-- The element of the settings. -/
def toElement (name : String) (p : MetricsProperties) : Element :=
  .make name ""
    (textElement "Version" p.version :: boolElement "Enabled" p.enabled ::
      ((if p.enabled then [boolElement "IncludeAPIs" (p.includeApis.getD false)] else [])
        ++ [p.retention.toElement]))

/-- What a document keeps of the settings. -/
def normalized (p : MetricsProperties) : MetricsProperties :=
  ⟨stripped p.version, p.enabled, if p.enabled then some (p.includeApis.getD false) else none,
    p.retention.normalized⟩

end MetricsProperties

namespace CorsRule

/-- The rule in an element. -/
def ofElement (e : Element) : Except Failure CorsRule := do
  let age ← e.integerOf "MaxAgeInSeconds"
  return ⟨e.listOf "AllowedOrigins", e.listOf "AllowedMethods", age.getD 0,
    e.listOf "ExposedHeaders", e.listOf "AllowedHeaders"⟩

/-- The element of a rule. -/
def toElement (r : CorsRule) : Element :=
  .make "CorsRule" ""
    [listElement "AllowedOrigins" r.allowedOrigins, listElement "AllowedMethods" r.allowedMethods,
     integerElement "MaxAgeInSeconds" r.maxAgeInSeconds,
     listElement "ExposedHeaders" r.exposedHeaders, listElement "AllowedHeaders" r.allowedHeaders]

/-- The parts of the members of a list that a document keeps. -/
def normalizedList (items : List String) : List String :=
  items.flatMap fun item => (Field.parts item.toList).map String.ofList

/-- What a document keeps of a rule. -/
def normalized (r : CorsRule) : CorsRule :=
  ⟨normalizedList r.allowedOrigins, normalizedList r.allowedMethods, r.maxAgeInSeconds,
    normalizedList r.exposedHeaders, normalizedList r.allowedHeaders⟩

end CorsRule

namespace ServiceProperties

/-- The name of the root. -/
def rootName : String := "StorageServiceProperties"

/-- The text in front of a written document. -/
def declaration : String := "<?xml version=\"1.0\" encoding=\"utf-8\"?>"

/-- A part read from its element, where the document has one. -/
def partOf {α : Type} (root : Element) (name : String) (read : Element → Except Failure α) :
    Except Failure (Option α) :=
  match root.child? name with
  | none => .ok none
  | some e => (read e).map some

/-- The rules in an element, in document order. -/
def rulesOf (e : Element) : Except Failure (List CorsRule) :=
  (e.childrenNamed "CorsRule").mapM CorsRule.ofElement

/-- A version, where it is not blank. -/
def givenVersion (text : Option String) : Option String := text.filter (!·.isEmpty)

/-- The settings in a document. -/
def ofElement (root : Element) : Except Failure ServiceProperties := do
  root.expect rootName
  let logging ← partOf root "Logging" LoggingProperties.ofElement
  let hour ← partOf root "HourMetrics" MetricsProperties.ofElement
  let minute ← partOf root "MinuteMetrics" MetricsProperties.ofElement
  let cors ← partOf root "Cors" rulesOf
  return ⟨logging, hour, minute, cors, givenVersion (root.childText? "DefaultServiceVersion")⟩

/-- The root element of the document of the settings. -/
def toElement (p : ServiceProperties) : Element :=
  .make rootName ""
    ((p.logging.map LoggingProperties.toElement).toList
      ++ (p.hourMetrics.map (MetricsProperties.toElement "HourMetrics")).toList
      ++ (p.minuteMetrics.map (MetricsProperties.toElement "MinuteMetrics")).toList
      ++ (p.cors.map fun rules => Element.make "Cors" "" (rules.map CorsRule.toElement)).toList
      ++ ((givenVersion p.defaultVersion).map (textElement "DefaultServiceVersion")).toList)

/-- The document of the settings. -/
def document (p : ServiceProperties) : String := declaration ++ p.toElement.write

/-- The integers that the document of the settings shows. -/
def integers (p : ServiceProperties) : List Int :=
  ((p.logging.map fun l => l.retention.integers).getD [])
    ++ ((p.hourMetrics.map fun m => m.retention.integers).getD [])
    ++ ((p.minuteMetrics.map fun m => m.retention.integers).getD [])
    ++ ((p.cors.map fun rules => rules.map CorsRule.maxAgeInSeconds).getD [])

/-- The document of the settings, which needs a numeral for every integer in it. -/
def write (p : ServiceProperties) : Except Failure String :=
  if p.integers.all hasNumeral then .ok p.document else .error (.unusable .longNumeral)

/-- What a document keeps of the settings. -/
def normalized (p : ServiceProperties) : ServiceProperties :=
  ⟨p.logging.map LoggingProperties.normalized, p.hourMetrics.map MetricsProperties.normalized,
    p.minuteMetrics.map MetricsProperties.normalized, p.cors.map (·.map CorsRule.normalized),
    givenVersion (p.defaultVersion.map stripped)⟩

/-- What is logged after settings were read. -/
def logText (p : ServiceProperties) : String :=
  "Read service properties: logging=" ++ Value.boolText p.logging.isSome
    ++ ", hour_metrics=" ++ Value.boolText p.hourMetrics.isSome
    ++ ", minute_metrics=" ++ Value.boolText p.minuteMetrics.isSome
    ++ ", cors_rules=" ++ (p.cors.map fun rules => numeral rules.length).getD "None"

end ServiceProperties

end StorageReply
