import StorageReply.Act
import StorageReply.Container.Attributes
import StorageReply.Container.Datum
import StorageReply.Timestamp.Iso

/-!
# Records of containers

A container as its user holds it: a record whose fields take any datum that passes the checks of the
field. The checks turn plain values into what the field asks for, and keep objects as they are: an
object of properties is not checked at all, and of an object with URIs only whether they fit
together.

Main definitions:

* `ContainerRecord`: the record, with `ContainerRecord.create`;
* `ContainerRecord.assign`: the record after a field is set;
* `ContainerRecord.Action`, `ContainerRecord.perform`: the ways to use a record;
* `ContainerRecord.act`: what a way to use a record leaves behind and answers.
-/

namespace StorageReply

open Number Text

/-- A container with a name, a place, metadata and properties. -/
structure ContainerRecord where
  /-- The name. -/
  name : Datum
  /-- The URIs at each location. -/
  storageUri : Datum
  /-- The metadata. -/
  metadata : Datum
  /-- The system properties. -/
  properties : Datum

/-! ## Checks of fields -/

namespace Datum

/-- A text or null. -/
def textOf (d : Datum) : Checked Datum := (Checked.optional Lax.text d.scalar).map ofText?

/-- A date with a time, or null. -/
def momentOf (d : Datum) : Checked Datum := (Checked.optional Iso.moment d.scalar).map ofMoment?

/-- A member of an enumeration, or its word. -/
def memberOf {α : Type} (facet : Facet α) (member : α → LeaseMember) (d : Datum) : Checked Datum :=
  (Lax.member facet.words facet.ofWord? d.scalar).map fun x => .member (member x)

/-- The entry of a map under a name, converted, or a default where there is none. -/
def entryOf (look : String → Option Datum) (name : String) (default : Datum)
    (convert : Datum → Checked Datum) : Checked Datum :=
  match look name with
  | none => .ok default
  | some d => (convert d).under (.field name)

/-- The sentence for a byte beyond ASCII; bytes before it have been read. -/
def asciiFault (position : Nat) : List UInt8 → Option String
  | [] => none
  | b :: rest =>
    if b < 0x80 then asciiFault (position + 1) rest
    else some ("'ascii' codec can't decode byte 0x" ++ String.ofList (hexPadded 2 b.toNat)
      ++ " in position " ++ numeral position ++ ": ordinal not in range(128)")

/-- The parts of a URI that a datum is, or none for bytes, which have no parts that can be compared.
What is neither text nor bytes cannot be split, but what counts as not given is split like empty
bytes. -/
def split (d : Datum) : Except Failure (Option Uri) :=
  let parse (s : String) : Except Failure Uri :=
    match Uri.parse s.toList with
    | .ok u => .ok u
    | .error fault => .error (.validation [⟨[], .rule fault.message⟩])
  match d with
  | .plain (.text s) => (parse s).map some
  | .member m => (parse m.word).map some
  | .plain (.extra (.bytes data)) =>
    match asciiFault 0 data with
    | none => (parse (String.ofList (data.map fun b => Char.ofNat b.toNat))).map fun _ => none
    | some text => .error (.validation [⟨[], .rule text⟩])
  | d => if d.truthy then .error .noOperation else .ok none

/-- Whether two URIs address the same resource. -/
def sameResource (primary secondary : Datum) : Except Failure Bool := do
  match ← primary.split, ← secondary.split with
  | some a, some b => return StorageUri.sameResource a b
  | _, _ => throw .wrongKind

/-- The object with a pair of URIs, which must not both be missing and must fit together. -/
def pairOf (primary secondary : Datum) : Except Failure (Checked Datum) :=
  if primary.isNull && secondary.isNull then .error (.uriPair .noLocation)
  else if primary.isNull || secondary.isNull then .ok (.ok (.uri primary secondary))
  else match sameResource primary secondary with
    | .ok true => .ok (.ok (.uri primary secondary))
    | .ok false => .error (.uriPair .differentResources)
    | .error (.validation found) => .ok (.issues found)
    | .error failure => .error failure

/-- An object with URIs, or null. The pair of an object is checked as well, its members are not. A
pair that does not fit together fails at once; other issues are reported with their place. -/
def storageUriOf : Datum → Except Failure (Checked Datum)
  | .plain .null => .ok (.ok null)
  | .uri primary secondary => pairOf primary secondary
  | d =>
    match d.record? with
    | none => .ok (.defect (.notRecord "StorageUri"))
    | some look =>
      match (entryOf look "primary_uri" null textOf).also (entryOf look "secondary_uri" null textOf)
        with
      | .ok (primary, secondary) => pairOf primary secondary
      | .issues found => .ok (.issues found)

/-- Metadata of a map: its names and values are turned into texts. -/
def metadataOfPairs (pairs : List (Option String × Option String)) : Checked Datum :=
  let texts : Option Pairs := pairs.mapM fun (name, text) => do
    return (.text (← name), .text (← text))
  match texts.map fun texts => (Pairs.merged texts).bind Pairs.named with
  | some (.ok named) => .ok (.caseless (CaseMap.ofPairs named))
  | _ => .defect (.rule TextFault.longNumeral.message)

/-- A map that ignores letter case. One that does already stays as it is, and null gives one without
entries. -/
def metadataOf : Datum → Checked Datum
  | .plain .null => .ok (.caseless CaseMap.empty)
  | .caseless m => .ok (.caseless m)
  | .plain (.map fields) =>
    metadataOfPairs ((Pairs.ofFields fields).map fun (k, v) => (k.display?, v.display?))
  | .dict entries => metadataOfPairs (entries.map fun (k, d) => (k.display?, d.display?))
  | _ => .defect (.rule "Metadata must be a mapping of name to value")

/-- The properties of a new container. -/
def noProperties : Datum :=
  .properties null null (.member (.status .unspecified)) (.member (.state .unspecified))
    (.member (.duration .unspecified))

/-- An object with properties, which stays as it is, or a map of them. -/
def propertiesOf : Datum → Checked Datum
  | .properties etag lastModified status state duration =>
    .ok (.properties etag lastModified status state duration)
  | d =>
    match d.record? with
    | none => .defect (.notRecord "BlobContainerProperties")
    | some look =>
      (((((Checked.ok Datum.properties).ap (entryOf look "etag" null textOf)).ap
        (entryOf look "last_modified" null momentOf)).ap
        (entryOf look "lease_status" (.member (.status .unspecified))
          (memberOf leaseStatus .status))).ap
        (entryOf look "lease_state" (.member (.state .unspecified))
          (memberOf leaseState .state))).ap
        (entryOf look "lease_duration" (.member (.duration .unspecified))
          (memberOf leaseDuration .duration))

/-- The properties after one field is set. A name that begins with an underscore is no field and
setting it has no effect. -/
def assignProperty (d : Datum) (field : String) (v : Datum) : Except Failure Datum :=
  let place := Step.field field
  match d with
  | .properties etag lastModified status state duration =>
    match field with
    | "etag" =>
      (((textOf v).under place).map fun x =>
        .properties x lastModified status state duration).toExcept
    | "last_modified" =>
      (((momentOf v).under place).map fun x => .properties etag x status state duration).toExcept
    | "lease_status" =>
      (((memberOf leaseStatus .status v).under place).map fun x =>
        .properties etag lastModified x state duration).toExcept
    | "lease_state" =>
      (((memberOf leaseState .state v).under place).map fun x =>
        .properties etag lastModified status x duration).toExcept
    | "lease_duration" =>
      (((memberOf leaseDuration .duration v).under place).map fun x =>
        .properties etag lastModified status state x).toExcept
    | _ =>
      if field.startsWith "_" then .ok d
      else .error (.validation [⟨[place], .unknownField field⟩])
  | _ => .error .noOperation

end Datum

/-! ## Records -/

namespace ContainerRecord

open Datum

/-- A field converted, or its default where nothing is given. -/
def convertField (fields : List (String × Datum)) (name : String) (default : Datum)
    (convert : Datum → Checked Datum) : Checked Datum :=
  entryOf (fun name => fields.lookup name) name default convert

/-- The URIs that are given, if any. -/
def givenUris (fields : List (String × Datum)) : Except Failure (Checked Datum) :=
  match fields.lookup "storage_uri" with
  | none => .ok (.ok null)
  | some d => storageUriOf d

/-- The record that the given fields make. -/
def create (fields : List (String × Datum)) : Except Failure ContainerRecord := do
  let uri ← givenUris fields
  ((((Checked.ok ContainerRecord.mk).ap (convertField fields "name" null textOf)).ap
    (uri.under (.field "storage_uri"))).ap
    (convertField fields "metadata" (.caseless CaseMap.empty) metadataOf)).ap
    (convertField fields "properties" noProperties propertiesOf) |>.toExcept

/-- The record after one field is set. A name that begins with an underscore is no field and setting
it has no effect. -/
def assign (r : ContainerRecord) (field : String) (v : Datum) : Except Failure ContainerRecord :=
  let place := Step.field field
  match field with
  | "name" => (((textOf v).under place).map fun x => { r with name := x }).toExcept
  | "storage_uri" => do
    let uri ← storageUriOf v
    ((uri.under place).map fun x => { r with storageUri := x }).toExcept
  | "metadata" => (((metadataOf v).under place).map fun x => { r with metadata := x }).toExcept
  | "properties" =>
    (((propertiesOf v).under place).map fun x => { r with properties := x }).toExcept
  | "uri" => .error .noOperation
  | _ =>
    if field.startsWith "_" then .ok r
    else .error (.validation [⟨[place], .unknownField field⟩])

/-- The URI at the primary location; null when only the secondary one is set. -/
def uri (r : ContainerRecord) : Except Failure Datum :=
  match r.storageUri with
  | .plain .null =>
    .error (.uriNotSet (if r.name.truthy then r.name.scalar.text?.getD "" else "container"))
  | .uri primary _ => .ok primary
  | _ => .error .noOperation

/-- The metadata as a map that ignores letter case. -/
def names (r : ContainerRecord) : Except Failure (CaseMap Value) :=
  match r.metadata with
  | .caseless m => .ok m
  | _ => .error .wrongKind

/-- Whether metadata equals a map, where names are equal when letter case is ignored. -/
def sameMetadata (m other : CaseMap Value) : Bool :=
  m.size == other.size && m.entries.all fun (name, v) =>
    match other.get? name with
    | some w => v.same w
    | none => false

/-- A way to use the record of a container. -/
inductive Action
  /-- Sets a field. -/
  | set (field : String) (d : Datum)
  /-- Sets a field of the properties. -/
  | setProperty (field : String) (d : Datum)
  /-- Writes a metadata entry. -/
  | putMetadata (name : String) (v : Value)
  /-- Removes a metadata entry. -/
  | eraseMetadata (name : String)
  /-- Reads a metadata entry. -/
  | getMetadata (name : String)
  /-- Asks whether a metadata entry is present. -/
  | hasMetadata (name : String)
  /-- Compares the metadata with a map. -/
  | equalsMetadata (pairs : Pairs)
  /-- Reads the URI. -/
  | uri

/-- Changes the metadata. -/
def changeMetadata (change : CaseMap Value → Except Failure (CaseMap Value)) :
    Act ContainerRecord Datum := do
  let m ← Act.of (← get).names
  let changed ← Act.of (change m)
  modify fun r => { r with metadata := .caseless changed }
  return null

/-- Reads the metadata. -/
def readMetadata (read : CaseMap Value → Except Failure Value) : Act ContainerRecord Datum := do
  let m ← Act.of (← get).names
  return .plain (← Act.of (read m))

/-- What a way to use a record does and answers. -/
def perform : Action → Act ContainerRecord Datum
  | .set field d => do
    let r ← get
    set (← Act.of (r.assign field d))
    return null
  | .setProperty field d => do
    let r ← get
    let properties ← Act.of (r.properties.assignProperty field d)
    modify fun r => { r with properties := properties }
    return null
  | .putMetadata name v => changeMetadata fun m => .ok (m.put name v)
  | .eraseMetadata name =>
    changeMetadata fun m => if m.contains name then .ok (m.erase name) else .error .missingKey
  | .getMetadata name =>
    readMetadata fun m =>
      match m.get? name with
      | some v => .ok v
      | none => .error .missingKey
  | .hasMetadata name => readMetadata fun m => .ok (.bool (m.contains name))
  | .equalsMetadata pairs =>
    readMetadata fun m => do
      let named ← (← pairs.merged).named
      return .bool (sameMetadata m (CaseMap.ofPairs named))
  | .uri => do Act.of (← get).uri

/-- The record that a way to use it leaves behind, and the answer or failure. -/
def act (r : ContainerRecord) (action : Action) : ContainerRecord × Except Failure Datum :=
  (perform action).result r

end ContainerRecord

namespace ContainerAttributes

/-- The properties of a reply as an object. -/
def propertiesDatum (p : ContainerProperties) : Datum :=
  .properties (.ofText? p.etag) (.ofMoment? p.lastModified) (.member (.status p.leaseStatus))
    (.member (.state p.leaseState)) (.member (.duration p.leaseDuration))

/-- The record with the attributes of a reply. -/
def toRecord (a : ContainerAttributes) : ContainerRecord where
  name := .ofText? a.name
  storageUri :=
    match a.storageUri with
    | none => .null
    | some u => .uri (.ofText? u.primary) (.ofText? u.secondary)
  metadata := .caseless a.metadata
  properties := propertiesDatum a.properties

end ContainerAttributes

end StorageReply
