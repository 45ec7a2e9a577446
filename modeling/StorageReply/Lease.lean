import StorageReply.Failure
import StorageReply.Text.Case

/-!
# Leases

The three facets of a lease on a container, as response headers report them: its status, its state
and its duration. Each facet has a few words on the wire, and an unspecified member for a header
that is absent.

Main definitions:

* `LeaseStatus`, `LeaseState`, `LeaseDuration`: the facets;
* `Facet`: what the three have in common, with the instances `leaseStatus`, `leaseState` and
  `leaseDuration`;
* `Facet.parse`: the member that a header value names;
* `Facet.ofWord?`: the member with exactly a given word.
-/

namespace StorageReply

open Text

/-- Whether a container is leased. -/
inductive LeaseStatus
  /-- Not reported. -/
  | unspecified
  /-- A lease is held. -/
  | locked
  /-- No lease is held. -/
  | unlocked
  deriving DecidableEq, Repr, Inhabited

/-- Where a lease stands in its life. -/
inductive LeaseState
  /-- Not reported. -/
  | unspecified
  /-- Free to be leased. -/
  | available
  /-- Held. -/
  | leased
  /-- Run out. -/
  | expired
  /-- On its way to being broken. -/
  | breaking
  /-- Broken. -/
  | broken
  deriving DecidableEq, Repr, Inhabited

/-- How long a lease is held. -/
inductive LeaseDuration
  /-- Not reported. -/
  | unspecified
  /-- Without end. -/
  | infinite
  /-- For a fixed time. -/
  | fixed
  deriving DecidableEq, Repr, Inhabited

/-- A facet of a lease: its name, its unspecified member and its members on the wire. -/
structure Facet (α : Type) where
  /-- The name of the enumeration. -/
  typeName : String
  /-- The member for a header that is absent. -/
  unspecified : α
  /-- The word of each other member. -/
  wire : List (String × α)

/-- The word for the member that is not on the wire. -/
def unspecifiedWord : String := "unspecified"

/-- The facet of status. -/
def leaseStatus : Facet LeaseStatus :=
  ⟨"LeaseStatus", .unspecified, [("locked", .locked), ("unlocked", .unlocked)]⟩

/-- The facet of state. -/
def leaseState : Facet LeaseState :=
  ⟨"LeaseState", .unspecified,
    [("available", .available), ("leased", .leased), ("expired", .expired),
     ("breaking", .breaking), ("broken", .broken)]⟩

/-- The facet of duration. -/
def leaseDuration : Facet LeaseDuration :=
  ⟨"LeaseDuration", .unspecified, [("infinite", .infinite), ("fixed", .fixed)]⟩

/-- The word of a status. -/
def LeaseStatus.word : LeaseStatus → String
  | .unspecified => unspecifiedWord
  | .locked => "locked"
  | .unlocked => "unlocked"

/-- The word of a state. -/
def LeaseState.word : LeaseState → String
  | .unspecified => unspecifiedWord
  | .available => "available"
  | .leased => "leased"
  | .expired => "expired"
  | .breaking => "breaking"
  | .broken => "broken"

/-- The word of a duration. -/
def LeaseDuration.word : LeaseDuration → String
  | .unspecified => unspecifiedWord
  | .infinite => "infinite"
  | .fixed => "fixed"

namespace Facet

variable {α : Type}

/-- The form of a header value that is compared with the words: without surrounding blanks and in
lower case. -/
def normalized (value : String) : String := String.ofList (lower (strip value.toList))

/-- The member that a header value names. A missing or empty value is unspecified; letter case and
surrounding blanks do not matter; anything else but a word of the wire is refused. -/
def parse (facet : Facet α) (value : Option String) (header : Option String) :
    Except InvalidHeader α :=
  match value with
  | none => .ok facet.unspecified
  | some text =>
    if text.isEmpty then .ok facet.unspecified
    else match facet.wire.lookup (normalized text) with
      | some member => .ok member
      | none => .error ⟨text, facet.typeName, header⟩

/-- The words of all members, the unspecified one first. -/
def words (facet : Facet α) : List String := unspecifiedWord :: facet.wire.map Prod.fst

/-- The member with exactly this word. -/
def ofWord? (facet : Facet α) (word : String) : Option α :=
  if word = unspecifiedWord then some facet.unspecified else facet.wire.lookup word

@[simp] theorem parse_none (facet : Facet α) (header : Option String) :
    facet.parse none header = .ok facet.unspecified := rfl

@[simp] theorem parse_empty (facet : Facet α) (header : Option String) :
    facet.parse (some "") header = .ok facet.unspecified := rfl

/-- A refused value is reported as it came, with the facet and the header. -/
theorem parse_error {facet : Facet α} {text : String} {header : Option String}
    {fault : InvalidHeader} (h : facet.parse (some text) header = .error fault) :
    fault = ⟨text, facet.typeName, header⟩ := by
  simp only [parse] at h
  split at h
  · cases h
  · split at h
    · cases h
    · exact (Except.error.inj h).symm

end Facet

end StorageReply
