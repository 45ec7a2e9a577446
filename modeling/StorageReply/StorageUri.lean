import StorageReply.Uri.Basic
import StorageReply.Uri.Percent
import StorageReply.Validation.Lax

/-!
# Storage URIs

The URIs of one storage resource at its primary and its secondary location. At least one is set, and
when both are, their paths (up to slashes at the end) and their queries are equal.

Main definitions:

* `StorageUri`, with `StorageUri.make`: the checked pair;
* `StorageLocation`, `LocationMode`: the locations and the ways to use them;
* `StorageUri.appendPath`: the pair of a resource below this one;
* `StorageUri.containerName`: the last path segment.
-/

namespace StorageReply

/-- Where a resource is kept. -/
inductive StorageLocation
  /-- The location that takes writes. -/
  | primary
  /-- The location that holds a copy. -/
  | secondary
  deriving DecidableEq, Repr

/-- Which locations a request may use, in order of preference. -/
inductive LocationMode
  /-- The primary location only. -/
  | primaryOnly
  /-- The primary location, then the secondary one. -/
  | primaryThenSecondary
  /-- The secondary location only. -/
  | secondaryOnly
  /-- The secondary location, then the primary one. -/
  | secondaryThenPrimary
  deriving DecidableEq, Repr

/-- The location of a word. -/
def StorageLocation.ofWord? : String → Option StorageLocation
  | "primary" => some .primary
  | "secondary" => some .secondary
  | _ => none

namespace LocationMode

/-- The word of a mode. -/
def word : LocationMode → String
  | .primaryOnly => "primary_only"
  | .primaryThenSecondary => "primary_then_secondary"
  | .secondaryOnly => "secondary_only"
  | .secondaryThenPrimary => "secondary_then_primary"

/-- All modes. -/
def all : List LocationMode :=
  [.primaryOnly, .primaryThenSecondary, .secondaryOnly, .secondaryThenPrimary]

/-- The words of all modes. -/
def words : List String := all.map word

/-- The mode of a word. -/
def ofWord? (w : String) : Option LocationMode := all.find? (·.word == w)

end LocationMode

/-- The URIs of a resource. -/
structure StorageUri where
  /-- The URI at the primary location. -/
  primary : Option String
  /-- The URI at the secondary location. -/
  secondary : Option String
  deriving DecidableEq, Repr

namespace StorageUri

/-- Whether two references address the same resource. -/
def sameResource (a b : Uri) : Bool := a.trimmedPath == b.trimmedPath && a.query == b.query

/-- Checks a pair of URIs. -/
def check (u : StorageUri) : Except Failure StorageUri :=
  match u.primary, u.secondary with
  | none, none => .error (.uriPair .noLocation)
  | some p, some s =>
    match Uri.parse p.toList, Uri.parse s.toList with
    | .error fault, _ => .error (.validation [⟨[], .rule fault.message⟩])
    | _, .error fault => .error (.validation [⟨[], .rule fault.message⟩])
    | .ok a, .ok b => if sameResource a b then .ok u else .error (.uriPair .differentResources)
  | _, _ => .ok u

/-- The storage URI of one or two URIs. -/
def make (primary secondary : Option String) : Except Failure StorageUri :=
  check ⟨primary, secondary⟩

/-- The storage URI of a map with the two URIs; other entries do not matter. -/
def ofFields (fields : Fields) : Except Failure StorageUri := do
  let (primary, secondary) ←
    ((Checked.field fields "primary_uri" none (Checked.optional Lax.text)).also
      (Checked.field fields "secondary_uri" none (Checked.optional Lax.text))).toExcept
  make primary secondary

/-- The URI at a location. -/
def get? (u : StorageUri) : StorageLocation → Option String
  | .primary => u.primary
  | .secondary => u.secondary

/-- The URIs that are set, the primary one first. -/
def locations (u : StorageUri) : List String := [u.primary, u.secondary].filterMap id

/-- Whether every location that a mode may use is set. -/
def canServe (u : StorageUri) : LocationMode → Bool
  | .primaryOnly => u.primary.isSome
  | .secondaryOnly => u.secondary.isSome
  | .primaryThenSecondary | .secondaryThenPrimary => u.primary.isSome && u.secondary.isSome

/-- A URI with a segment at the end of its path. -/
def appendTo (segment : List Char) (uri : String) : Except Failure String :=
  match Uri.parse uri.toList with
  | .ok parts => .ok (String.ofList (parts.append segment).text)
  | .error fault => .error (.unusable fault)

/-- A URI with a segment, where one is set. -/
def appendToOptional (segment : List Char) : Option String → Except Failure (Option String)
  | none => .ok none
  | some uri => (appendTo segment uri).map some

/-- The storage URI of the resource with a segment below this one. Slashes around the segment do not
count. -/
def appendPath (u : StorageUri) (segment : String) : Except Failure StorageUri := do
  let segment := Uri.stripSlashes segment.toList
  let primary ← appendToOptional segment u.primary
  let secondary ← appendToOptional segment u.secondary
  make primary secondary

/-- The URI that names the container: the primary one unless it is empty or missing. -/
def naming (u : StorageUri) : Option String :=
  match u.primary with
  | some p => if p.isEmpty then u.secondary else some p
  | none => u.secondary

/-- The last path segment of the primary (or only) URI, decoded. -/
def containerName (u : StorageUri) : Except Failure String :=
  match u.naming with
  | none => .error .wrongKind
  | some uri =>
    match Uri.parse uri.toList with
    | .ok parts => .ok (String.ofList (Uri.percentDecode parts.lastSegment))
    | .error fault => .error (.unusable fault)

/-- What can be done to a field of a storage URI: nothing, for the pair is fixed once it is made. -/
def assign (field : String) : Except Failure Unit :=
  if field.startsWith "_" then .ok () else .error (.validation [⟨[.field field], .frozen⟩])

theorem make_eq_ok {p s : Option String} {u : StorageUri} (h : make p s = .ok u) : u = ⟨p, s⟩ := by
  unfold make check at h
  split at h
  · cases h
  · split at h
    · cases h
    · cases h
    · split at h <;> cases h
      rfl
  · cases h
    rfl

end StorageUri

end StorageReply
