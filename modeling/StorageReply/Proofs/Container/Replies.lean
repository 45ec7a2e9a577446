import StorageReply.Proofs.Headers.Forms
import StorageReply.Session.Replies

/-!
# Container attributes and the readings of a reply

The attributes of a container are read from a reply in one go. They agree with the readings of the
same reply one by one (`ContainerAttributes.Reports`), and of several headers that are refused the
failure of the first one counts, in a fixed order (`ContainerAttributes.failures`).
`ofResponse_of_headers` states both; the message about the attributes changes no answer.
-/

namespace StorageReply

open Headers

/-- The failure of a result, if it is one. -/
def failureOf {α : Type} : Except Failure α → Option Failure
  | .ok _ => none
  | .error failure => some failure

theorem failureOf_eq_none_iff {α : Type} {x : Except Failure α} :
    failureOf x = none ↔ ∃ a, x = .ok a := by
  cases x <;> simp [failureOf]

theorem failureOf_eq_some_iff {α : Type} {x : Except Failure α} {failure : Failure} :
    failureOf x = some failure ↔ x = .error failure := by
  cases x <;> simp [failureOf]

/-- Of steps one after another the first failure counts, where no step decides on the failures of
those after it. -/
theorem failureOf_bind {α β : Type} {x : Except Failure α} {f : α → Except Failure β}
    {rest : List (Option Failure)} (h : ∀ a, failureOf (f a) = rest.findSome? id) :
    failureOf (x >>= f) = (failureOf x :: rest).findSome? id := by
  cases x with
  | error failure => rfl
  | ok a => exact h a

namespace ContainerProperties

theorem instantOf_of_ne {text : String} (h : text ≠ "") :
    instantOf (some text) = (Rfc1123.parse text).map some := by
  rw [instantOf, if_neg fun hempty => h (String.isEmpty_iff.1 hempty)]

/-- The date is refused exactly where there is one and it cannot be read. -/
theorem failureOf_instantOf (value : Option String) :
    failureOf (instantOf value) =
      value.bind fun text => if text = "" then none else failureOf (Rfc1123.parse text) := by
  cases value with
  | none => rfl
  | some text =>
    rw [Option.bind_some]
    split
    · rename_i hempty
      rw [hempty]
      rfl
    · rename_i hne
      rw [instantOf_of_ne hne]
      cases Rfc1123.parse text <;> rfl

theorem instantOf_eq_ok {value : Option String} {found : Option Moment}
    (h : instantOf value = .ok found) :
    ((value = none ∨ value = some "") ∧ found = none) ∨
      ∃ text instant, value = some text ∧ text ≠ "" ∧ Rfc1123.parse text = .ok instant ∧
        found = some instant := by
  cases value with
  | none => exact .inl ⟨.inl rfl, (Except.ok.inj h).symm⟩
  | some text =>
    by_cases hempty : text = ""
    · subst hempty
      exact .inl ⟨.inr rfl, (Except.ok.inj h).symm⟩
    · rw [instantOf_of_ne hempty] at h
      cases hparse : Rfc1123.parse text with
      | error failure => rw [hparse] at h; cases h
      | ok instant =>
        rw [hparse] at h
        exact .inr ⟨text, instant, rfl, hempty, hparse, (Except.ok.inj h).symm⟩

end ContainerProperties

namespace ContainerAttributes

/-- A container name that is given, or left to the URI. -/
def nameValue (name : Option String) : Value := (name.map Value.text).getD .null

/-- The name of a container: the given one, or the one in its URI. -/
def nameOf (uri : StorageUri) (name : Option String) : Except Failure String :=
  match name with
  | some name => .ok name
  | none => uri.containerName

theorem exists_nameOf_iff {uri : StorageUri} {name : Option String} :
    (∃ found, nameOf uri name = .ok found) ↔
      name.isSome = true ∨ ∃ found, uri.containerName = .ok found := by
  cases name <;> simp [nameOf]

/-- The failures of the steps in which the attributes of a container are read, in their order. -/
def failures (r : Response) (v : View) (uri : StorageUri) (name : Option String) :
    List (Option Failure) :=
  [failureOf (nameOf uri name),
   (v.header? Name.lastModified).bind fun text =>
     if text = "" then none else failureOf (Rfc1123.parse text),
   failureOf (r.read .leaseStatus),
   failureOf (r.read .leaseState),
   failureOf (r.read .leaseDuration)]

/-- The attributes of a container are what is read from the reply, one by one. -/
structure Reports (r : Response) (v : View) (uri : StorageUri) (name : Option String)
    (a : ContainerAttributes) : Prop where
  /-- The name is the given one, or the one in the URI. -/
  name : ∃ found, nameOf uri name = .ok found ∧ a.name = some found
  /-- The URIs are the given ones. -/
  storageUri : a.storageUri = some uri
  /-- The metadata has the pairs that are read, as texts. -/
  metadata : ∃ m, r.read .metadata = .ok m ∧
    a.metadata.entries = m.entries.map fun (key, value) => (key, .text value)
  /-- The entity tag is the one that is read. -/
  etag : r.read .etag = .ok a.properties.etag
  /-- The date is that of the header, and absent where the header is missing or empty. -/
  lastModified :
    ((v.header? Name.lastModified = none ∨ v.header? Name.lastModified = some "") ∧
      a.properties.lastModified = none) ∨
    ∃ text instant, v.header? Name.lastModified = some text ∧ text ≠ "" ∧
      Rfc1123.parse text = .ok instant ∧ a.properties.lastModified = some instant
  /-- The lease is as it is read. -/
  leaseStatus : r.read .leaseStatus = .ok a.properties.leaseStatus
  /-- So is its state. -/
  leaseState : r.read .leaseState = .ok a.properties.leaseState
  /-- So is its duration. -/
  leaseDuration : r.read .leaseDuration = .ok a.properties.leaseDuration
  /-- The URI of the container is the primary one. -/
  uri : a.uri = .ok uri.primary

theorem ofView_nameValue (v : View) (uri : StorageUri) (name : Option String) :
    ofView v uri (nameValue name) = do
      let found ← nameOf uri name
      let properties ← ContainerProperties.ofView v
      return ⟨some found, some uri, metadataOf v, properties⟩ := by
  cases name with
  | some name => rfl
  | none =>
    rw [nameOf]
    show (uri.containerName.map Value.text >>= _) = _
    cases uri.containerName <;> rfl

/-- Of the steps that fail the first one counts. -/
theorem failureOf_ofView {r : Response} {v : View} (h : r.headers = .ok v) (uri : StorageUri)
    (name : Option String) :
    failureOf (ofView v uri (nameValue name)) = (failures r v uri name).findSome? id := by
  rw [ofView_nameValue, failures, ← ContainerProperties.failureOf_instantOf,
    Response.read_of_headers h, Response.read_of_headers h, Response.read_of_headers h,
    ContainerProperties.ofView, Reading.ofView, Reading.ofView, Reading.ofView]
  simp only [bind_assoc]
  exact failureOf_bind fun found => failureOf_bind fun lastModified => failureOf_bind fun status =>
    failureOf_bind fun state => failureOf_bind fun duration => rfl

theorem reports_of_ofView {r : Response} {v : View} (h : r.headers = .ok v) {uri : StorageUri}
    {name : Option String} {a : ContainerAttributes}
    (ha : ofView v uri (nameValue name) = .ok a) : Reports r v uri name a := by
  rw [ofView_nameValue, bind_eq_ok_iff] at ha
  obtain ⟨found, hfound, ha⟩ := ha
  obtain ⟨properties, hproperties, ha⟩ := bind_eq_ok_iff.1 ha
  obtain rfl := Except.ok.inj ha
  rw [ContainerProperties.ofView, bind_eq_ok_iff] at hproperties
  obtain ⟨lastModified, hlastModified, hproperties⟩ := hproperties
  obtain ⟨status, hstatus, hproperties⟩ := bind_eq_ok_iff.1 hproperties
  obtain ⟨state, hstate, hproperties⟩ := bind_eq_ok_iff.1 hproperties
  obtain ⟨duration, hduration, hproperties⟩ := bind_eq_ok_iff.1 hproperties
  obtain rfl := Except.ok.inj hproperties
  exact {
    name := ⟨found, hfound, rfl⟩
    storageUri := rfl
    metadata := ⟨v.metadata, Response.read_of_headers h .metadata, rfl⟩
    etag := Response.read_of_headers h .etag
    lastModified := ContainerProperties.instantOf_eq_ok hlastModified
    leaseStatus := (Response.read_of_headers h .leaseStatus).trans hstatus
    leaseState := (Response.read_of_headers h .leaseState).trans hstate
    leaseDuration := (Response.read_of_headers h .leaseDuration).trans hduration
    uri := rfl }

/-- The message about the attributes changes no answer. -/
theorem answer_readContainer (r : Response) (uri : StorageUri) (name : Value) (s : Session) :
    ((Session.readContainer r uri name).result s).2 = ofResponse r uri name := by
  rw [Session.readContainer, ofResponse, Act.answer_bind, Act.result_of]
  cases r.headers with
  | error failure => rfl
  | ok v =>
    show ((Act.of (ofView v uri name) >>= _).result s).2 = ofView v uri name
    rw [Act.answer_bind, Act.result_of]
    cases ofView v uri name <;> rfl

/-- **The attributes agree with the readings.** Where the headers of a reply have a view, the
attributes are found exactly if no step fails: the name is given or the URI has one, a date that is
there can be read, and so can the three facets of the lease. They are then what is read one by one.
Otherwise the failure is that of the first step, and a message about the attributes changes
nothing of this. -/
theorem ofResponse_of_headers {r : Response} {v : View} (h : r.headers = .ok v) (uri : StorageUri)
    (name : Option String) :
    ((∃ a, ofResponse r uri (nameValue name) = .ok a) ↔
      (name.isSome = true ∨ ∃ found, uri.containerName = .ok found) ∧
      (∀ text, v.header? Name.lastModified = some text → text ≠ "" →
        ∃ instant, Rfc1123.parse text = .ok instant) ∧
      (∃ status, r.read .leaseStatus = .ok status) ∧ (∃ state, r.read .leaseState = .ok state) ∧
      ∃ duration, r.read .leaseDuration = .ok duration) ∧
    (∀ a, ofResponse r uri (nameValue name) = .ok a → Reports r v uri name a) ∧
    (∀ failure, ofResponse r uri (nameValue name) = .error failure ↔
      (failures r v uri name).findSome? id = some failure) ∧
    ∀ s, ((Session.readContainer r uri (nameValue name)).result s).2 =
      ofResponse r uri (nameValue name) := by
  have hview : ofResponse r uri (nameValue name) = ofView v uri (nameValue name) := by
    rw [ofResponse, h]
    rfl
  rw [hview]
  refine ⟨?_, fun a => reports_of_ofView h, fun failure => ?_, fun s => ?_⟩
  · rw [← failureOf_eq_none_iff, failureOf_ofView h, List.findSome?_eq_none_iff]
    simp only [failures, List.forall_mem_cons, id, Option.bind_eq_none_iff, ite_eq_left_iff,
      failureOf_eq_none_iff, exists_nameOf_iff]
    simp
  · rw [← failureOf_ofView h, failureOf_eq_some_iff]
  · rw [answer_readContainer, hview]

/-- The headers of a container with a lease, and without a date. -/
def leasedView : View :=
  .ofEntries [⟨"ETag", ["e"]⟩, ⟨"X-Ms-Meta-A", ["1"]⟩, ⟨"x-ms-lease-status", [" Locked "]⟩]

/-- The URI of a container. -/
def boxUri : StorageUri := ⟨some "https://h/box/", none⟩

/-- The attributes of such a container, which is named by its URI. -/
theorem ofResponse_of_leasedView :
    (Response.view leasedView).headers = .ok leasedView ∧
      ∃ a, ofResponse (.view leasedView) boxUri .null = .ok a ∧ a.name = some "box" ∧
        a.properties.etag = some "e" ∧ a.properties.leaseStatus = .locked ∧
        a.uri = .ok (some "https://h/box/") := by
  have hname : boxUri.containerName = .ok "box" := eq_ok_of_toOption (by decide +kernel)
  have hdate : ∀ text, leasedView.header? Name.lastModified = some text → text ≠ "" →
      ∃ instant, Rfc1123.parse text = .ok instant := by
    intro text htext
    have hmissing : leasedView.header? Name.lastModified = none := by decide +kernel
    rw [hmissing] at htext
    cases htext
  have hetag : (Response.view leasedView).read .etag = .ok (some "e") :=
    eq_ok_of_toOption (by decide +kernel)
  have hstatus : (Response.view leasedView).read .leaseStatus = .ok .locked :=
    eq_ok_of_toOption (by decide +kernel)
  have hstate : (Response.view leasedView).read .leaseState = .ok .unspecified :=
    eq_ok_of_toOption (by decide +kernel)
  have hduration : (Response.view leasedView).read .leaseDuration = .ok .unspecified :=
    eq_ok_of_toOption (by decide +kernel)
  obtain ⟨hsuccess, hreports, -⟩ := ofResponse_of_headers (r := .view leasedView) rfl boxUri none
  obtain ⟨a, ha⟩ :=
    hsuccess.2 ⟨.inr ⟨_, hname⟩, hdate, ⟨_, hstatus⟩, ⟨_, hstate⟩, ⟨_, hduration⟩⟩
  have hfacts := hreports a ha
  obtain ⟨found, hfound, hgiven⟩ := hfacts.name
  refine ⟨rfl, a, ha, ?_, ?_, ?_, hfacts.uri⟩
  · rw [hgiven, Except.ok.inj (hfound.symm.trans hname)]
  · exact Except.ok.inj (hfacts.etag.symm.trans hetag)
  · exact Except.ok.inj (hfacts.leaseStatus.symm.trans hstatus)

end ContainerAttributes

end StorageReply
