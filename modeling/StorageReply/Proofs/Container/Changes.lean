import StorageReply.Container.Record
import StorageReply.Proofs.Headers.CaseMaps
import StorageReply.Proofs.Validation.Accepted
import StorageReply.Proofs.Value.Pairs

/-!
# Changes to the record of a container

The record of a container is well formed when its URIs, where there are any, are a pair that can be
made, its properties have members of the enumerations for its lease, and the names of its metadata
differ when letter case is ignored (`ContainerRecord.WellFormed`). Records that are made are well
formed, and every action keeps them so, also where it writes to the metadata past all checks. This
asks that objects which are handed over are as their own checks make them (`Datum.Proper`): they are
not looked into, so that an object that was made without checks is taken with whatever it holds
(`ContainerRecord.missing_upper_form_and_unchecked_set`).

* `Datum.hasLease_of_propertiesOf`, `Datum.isUris_of_storageUriOf`, `Datum.isNames_of_metadataOf`:
  what the checks of fields let through.
* `ContainerRecord.act_cases`: all that an action can do.
* `ContainerRecord.wellFormed_act`, `ContainerRecord.wellFormed_after`: what one action keeps, and
  what a run of them keeps.
* `Datum.metadataOf_eq_ok_of_isTexts`: the metadata that a map of texts gives.
* `ContainerRecord.wellFormed_after_create`: all this at every moment of the use of a record.
-/

namespace StorageReply

open Text

namespace Datum

/-! ## What fields hold -/

/-- A text or null. -/
def IsTextOrNull (d : Datum) : Prop := ∃ s, d = ofText? s

/-- Null, or a pair of URIs that can be made. -/
def IsUris (d : Datum) : Prop :=
  d = null ∨ ∃ p s, d = .uri (ofText? p) (ofText? s) ∧ StorageUri.make p s = .ok ⟨p, s⟩

/-- Properties with members of the enumerations for the lease. -/
def HasLease (d : Datum) : Prop :=
  ∃ etag lastModified status state duration, d = .properties etag lastModified
    (.member (.status status)) (.member (.state state)) (.member (.duration duration))

/-- A map that ignores letter case, with names that differ. -/
def IsNames (d : Datum) : Prop := ∃ m, d = .caseless m ∧ m.lowerNames.Nodup

/-- Whether an object is as its own checks make it; there is nothing to ask of other data. -/
def Proper : Datum → Prop
  | .caseless m => m.lowerNames.Nodup
  | .uri primary secondary => IsTextOrNull primary ∧ IsTextOrNull secondary
  | .properties etag lastModified status state duration =>
    HasLease (.properties etag lastModified status state duration)
  | _ => True

variable {d x default : Datum} {convert : Datum → Checked Datum}

/-! ## What the checks of fields let through -/

theorem isTextOrNull_of_textOf (h : textOf d = .ok x) : IsTextOrNull x := by
  obtain ⟨s, -, rfl⟩ := Checked.map_eq_ok_iff.1 h
  exact ⟨s, rfl⟩

theorem exists_member_of_memberOf {α : Type} {facet : Facet α} {member : α → LeaseMember}
    (h : memberOf facet member d = .ok x) : ∃ a, x = .member (member a) := by
  obtain ⟨a, -, rfl⟩ := Checked.map_eq_ok_iff.1 h
  exact ⟨a, rfl⟩

/-- An entry is what its conversion lets through, or its default. -/
theorem entryOf_of_convert {P : Datum → Prop} (hdefault : P default)
    (hconvert : ∀ {d x}, convert d = .ok x → P x) {look : String → Option Datum} {name : String}
    (h : entryOf look name default convert = .ok x) : P x := by
  rw [entryOf] at h
  cases hlook : look name with
  | none =>
    rw [hlook] at h
    exact Checked.ok.inj h ▸ hdefault
  | some d =>
    rw [hlook] at h
    exact hconvert (Checked.under_eq_ok_iff.1 h)

/-- Two texts are paired as URIs are. -/
theorem pairOf_ofText? (p s : Option String) :
    pairOf (ofText? p) (ofText? s) =
      match StorageUri.make p s with
      | .ok u => .ok (.ok (.uri (ofText? u.primary) (ofText? u.secondary)))
      | .error (.validation found) => .ok (.issues found)
      | .error failure => .error failure := by
  cases p with
  | none => cases s <;> rfl
  | some p =>
    cases s with
    | none => rfl
    | some s =>
      simp only [pairOf, ofText?, isNull, Option.map_some, Option.getD_some, Bool.false_and,
        Bool.false_or, Bool.false_eq_true, if_false, sameResource, split, StorageUri.make,
        StorageUri.check]
      cases Uri.parse p.toList with
      | error fault => rfl
      | ok a =>
        cases Uri.parse s.toList with
        | error fault => rfl
        | ok b =>
          simp only [Except.map, bind, Except.bind, pure, Except.pure]
          cases StorageUri.sameResource a b <;> rfl

theorem isUris_of_pairOf {p s : Option String} (h : pairOf (ofText? p) (ofText? s) = .ok (.ok x)) :
    IsUris x := by
  rw [pairOf_ofText?] at h
  split at h
  · rename_i u hmake
    obtain rfl := StorageUri.make_eq_ok hmake
    exact .inr ⟨p, s, (Checked.ok.inj (Except.ok.inj h)).symm, hmake⟩
  · cases h
  · cases h

theorem isUris_of_storageUriOf (hproper : d.Proper) (h : storageUriOf d = .ok (.ok x)) :
    IsUris x := by
  unfold storageUriOf at h
  split at h
  · exact .inl (Checked.ok.inj (Except.ok.inj h)).symm
  · obtain ⟨⟨p, rfl⟩, s, rfl⟩ := hproper
    exact isUris_of_pairOf h
  · split at h
    · cases h
    · split at h
      · rename_i look _ primary secondary hboth
        obtain ⟨hprimary, hsecondary⟩ := Checked.also_eq_ok_iff.1 hboth
        obtain ⟨p, rfl⟩ := entryOf_of_convert ⟨none, rfl⟩ isTextOrNull_of_textOf hprimary
        obtain ⟨s, rfl⟩ := entryOf_of_convert ⟨none, rfl⟩ isTextOrNull_of_textOf hsecondary
        exact isUris_of_pairOf h
      · cases h

theorem hasLease_of_propertiesOf (hproper : d.Proper) (h : propertiesOf d = .ok x) :
    HasLease x := by
  unfold propertiesOf at h
  split at h
  · exact Checked.ok.inj h ▸ hproper
  · split at h
    · cases h
    · simp only [Checked.ap_eq_ok_iff] at h
      obtain ⟨_, _, ⟨_, _, ⟨_, _, ⟨_, _, ⟨_, etag, hmk, -, rfl⟩, hdate, rfl⟩, hstatus, rfl⟩, hstate,
        rfl⟩, hduration, rfl⟩ := h
      cases hmk
      obtain ⟨status, rfl⟩ := entryOf_of_convert ⟨_, rfl⟩ exists_member_of_memberOf hstatus
      obtain ⟨state, rfl⟩ := entryOf_of_convert ⟨_, rfl⟩ exists_member_of_memberOf hstate
      obtain ⟨duration, rfl⟩ := entryOf_of_convert ⟨_, rfl⟩ exists_member_of_memberOf hduration
      exact ⟨etag, _, status, state, duration, rfl⟩

theorem isNames_of_metadataOf (hproper : d.Proper) (h : metadataOf d = .ok x) : IsNames x := by
  have hpairs : ∀ {pairs}, metadataOfPairs pairs = .ok x → IsNames x := by
    intro pairs hpairs
    simp only [metadataOfPairs] at hpairs
    split at hpairs
    · exact ⟨_, (Checked.ok.inj hpairs).symm, CaseMap.nodup_ofPairs _⟩
    · cases hpairs
  unfold metadataOf at h
  split at h
  · exact ⟨_, (Checked.ok.inj h).symm, List.nodup_nil⟩
  · exact ⟨_, (Checked.ok.inj h).symm, hproper⟩
  · exact hpairs h
  · exact hpairs h
  · cases h

/-! ## Fields of properties -/

/-- The field of an object with properties. -/
def property? : Datum → String → Option Datum
  | .properties etag lastModified status state duration, name =>
    [("etag", etag), ("last_modified", lastModified), ("lease_status", status),
      ("lease_state", state), ("lease_duration", duration)].lookup name
  | _, _ => none

/-- Setting a field of properties changes no other field. -/
theorem property?_assignProperty {field : String} {v : Datum}
    (h : d.assignProperty field v = .ok x) :
    ∀ other, other ≠ field → x.property? other = d.property? other := by
  unfold assignProperty at h
  split at h
  · split at h
    case h_6 =>
      split at h
      · exact fun _ _ => by rw [Except.ok.inj h]
      · cases h
    all_goals
      simp only [Checked.toExcept_eq_ok_iff, Checked.map_eq_ok_iff, Checked.under_eq_ok_iff] at h
      obtain ⟨y, -, rfl⟩ := h
      intro other hother
      simp only [property?, List.lookup_cons, beq_eq_false_iff_ne.2 hother]
  · cases h

/-- Properties keep members of the enumerations for the lease. -/
theorem hasLease_assignProperty (hd : d.HasLease) {field : String} {v : Datum}
    (h : d.assignProperty field v = .ok x) : x.HasLease := by
  obtain ⟨etag, lastModified, status, state, duration, rfl⟩ := hd
  simp only [assignProperty] at h
  split at h
  case h_6 =>
    split at h
    · exact ⟨_, _, _, _, _, (Except.ok.inj h).symm⟩
    · cases h
  all_goals
    simp only [Checked.toExcept_eq_ok_iff, Checked.map_eq_ok_iff, Checked.under_eq_ok_iff] at h
    obtain ⟨y, hy, rfl⟩ := h
  · exact ⟨_, _, _, _, _, rfl⟩
  · exact ⟨_, _, _, _, _, rfl⟩
  all_goals
    obtain ⟨member, rfl⟩ := exists_member_of_memberOf hy
    exact ⟨_, _, _, _, _, rfl⟩

end Datum

namespace ContainerRecord

open Datum Act

/-! ## Well-formed records -/

/-- The record of a container holds together. -/
structure WellFormed (r : ContainerRecord) : Prop where
  /-- The URIs are a pair that can be made, if there are any. -/
  storageUri : r.storageUri.IsUris
  /-- There are properties, with members of the enumerations for the lease. -/
  properties : r.properties.HasLease
  /-- The metadata is a map that ignores letter case, and no two of its names are the same. -/
  metadata : r.metadata.IsNames

variable {r s : ContainerRecord} {field : String} {v : Datum}

theorem create_eq_ok {fields : List (String × Datum)} (h : create fields = .ok r) :
    givenUris fields = .ok (.ok r.storageUri) ∧
      convertField fields "metadata" (.caseless CaseMap.empty) metadataOf = .ok r.metadata ∧
      convertField fields "properties" noProperties propertiesOf = .ok r.properties := by
  simp only [create, bind_eq_ok_iff, Checked.toExcept_eq_ok_iff, Checked.ap_eq_ok_iff,
    Checked.under_eq_ok_iff] at h
  obtain ⟨_, huris, _, _, ⟨_, _, ⟨_, _, ⟨_, _, hmk, -, rfl⟩, rfl, rfl⟩, hmetadata, rfl⟩,
    hproperties, rfl⟩ := h
  cases hmk
  exact ⟨huris, hmetadata, hproperties⟩

/-- A record that is made of proper data is well formed. -/
theorem wellFormed_of_create {fields : List (String × Datum)}
    (hproper : ∀ entry ∈ fields, entry.2.Proper) (h : create fields = .ok r) : r.WellFormed := by
  obtain ⟨huris, hmetadata, hproperties⟩ := create_eq_ok h
  have hgiven : ∀ {name d}, fields.lookup name = some d → d.Proper := by
    intro name d hlookup
    obtain ⟨_, _, rfl, -⟩ := List.lookup_eq_some_iff.1 hlookup
    exact hproper (name, d) (by simp)
  refine ⟨?_, ?_, ?_⟩
  · rw [givenUris] at huris
    split at huris
    · exact .inl (Checked.ok.inj (Except.ok.inj huris)).symm
    · rename_i d hlookup
      exact isUris_of_storageUriOf (hgiven hlookup) huris
  · rw [convertField, entryOf] at hproperties
    split at hproperties
    · exact ⟨_, _, _, _, _, (Checked.ok.inj hproperties).symm⟩
    · rename_i d hlookup
      exact hasLease_of_propertiesOf (hgiven hlookup) (Checked.under_eq_ok_iff.1 hproperties)
  · rw [convertField, entryOf] at hmetadata
    split at hmetadata
    · exact ⟨_, (Checked.ok.inj hmetadata).symm, List.nodup_nil⟩
    · rename_i d hlookup
      exact isNames_of_metadataOf (hgiven hlookup) (Checked.under_eq_ok_iff.1 hmetadata)

/-! ## Single fields -/

/-- Everything that setting a field can do: the field takes the converted value, or nothing
happens at all. -/
theorem assign_eq_ok (h : r.assign field v = .ok s) :
    (field = "name" ∧ ∃ x, s = { r with name := x }) ∨
    (field = "storage_uri" ∧ ∃ x, storageUriOf v = .ok (.ok x) ∧ s = { r with storageUri := x }) ∨
    (field = "metadata" ∧ ∃ x, metadataOf v = .ok x ∧ s = { r with metadata := x }) ∨
    (field = "properties" ∧ ∃ x, propertiesOf v = .ok x ∧ s = { r with properties := x }) ∨
    s = r := by
  unfold assign at h
  split at h
  · simp only [Checked.toExcept_eq_ok_iff, Checked.map_eq_ok_iff] at h
    obtain ⟨x, -, rfl⟩ := h
    exact .inl ⟨rfl, x, rfl⟩
  · simp only [bind_eq_ok_iff, Checked.toExcept_eq_ok_iff, Checked.map_eq_ok_iff,
      Checked.under_eq_ok_iff] at h
    obtain ⟨_, huri, x, rfl, rfl⟩ := h
    exact .inr (.inl ⟨rfl, x, huri, rfl⟩)
  · simp only [Checked.toExcept_eq_ok_iff, Checked.map_eq_ok_iff, Checked.under_eq_ok_iff] at h
    obtain ⟨x, hx, rfl⟩ := h
    exact .inr (.inr (.inl ⟨rfl, x, hx, rfl⟩))
  · simp only [Checked.toExcept_eq_ok_iff, Checked.map_eq_ok_iff, Checked.under_eq_ok_iff] at h
    obtain ⟨x, hx, rfl⟩ := h
    exact .inr (.inr (.inr (.inl ⟨rfl, x, hx, rfl⟩)))
  · cases h
  · split at h
    · exact .inr (.inr (.inr (.inr (Except.ok.inj h).symm)))
    · cases h

/-- The field of a record. -/
def field? (r : ContainerRecord) (name : String) : Option Datum :=
  [("name", r.name), ("storage_uri", r.storageUri), ("metadata", r.metadata),
    ("properties", r.properties)].lookup name

/-- Two records agree in all fields but one. -/
def OnlyAt (field : String) (r s : ContainerRecord) : Prop :=
  ∀ other, other ≠ field → s.field? other = r.field? other

theorem onlyAt_of_assign (h : r.assign field v = .ok s) : OnlyAt field r s := by
  intro other hother
  rcases assign_eq_ok h with ⟨rfl, x, rfl⟩ | ⟨rfl, x, -, rfl⟩ | ⟨rfl, x, -, rfl⟩ |
    ⟨rfl, x, -, rfl⟩ | rfl <;>
  simp only [field?, List.lookup_cons, beq_eq_false_iff_ne.2 hother]

/-- Setting a field to a proper datum keeps a well-formed record so. -/
theorem wellFormed_of_assign (hr : r.WellFormed) (hproper : v.Proper)
    (h : r.assign field v = .ok s) : s.WellFormed := by
  rcases assign_eq_ok h with ⟨-, x, rfl⟩ | ⟨-, x, hx, rfl⟩ | ⟨-, x, hx, rfl⟩ | ⟨-, x, hx, rfl⟩ | rfl
  · exact ⟨hr.storageUri, hr.properties, hr.metadata⟩
  · exact ⟨isUris_of_storageUriOf hproper hx, hr.properties, hr.metadata⟩
  · exact ⟨hr.storageUri, hr.properties, isNames_of_metadataOf hproper hx⟩
  · exact ⟨hr.storageUri, hasLease_of_propertiesOf hproper hx, hr.metadata⟩
  · exact hr

/-! ## Single actions -/

theorem result_changeMetadata (change : CaseMap Value → Except Failure (CaseMap Value))
    (r : ContainerRecord) :
    (changeMetadata change).result r =
      match r.names >>= change with
      | .ok m => ({ r with metadata := .caseless m }, .ok null)
      | .error failure => (r, .error failure) := by
  simp only [changeMetadata, result_bind, result_get, result_of]
  cases r.names with
  | error failure => rfl
  | ok m =>
    simp only [bind, Except.bind]
    cases change m <;> rfl

theorem result_readMetadata (read : CaseMap Value → Except Failure Value) (r : ContainerRecord) :
    (readMetadata read).result r = (r, (r.names >>= read).map .plain) := by
  simp only [readMetadata, result_bind, result_get, result_of]
  cases r.names with
  | error failure => rfl
  | ok m =>
    simp only [bind, Except.bind]
    cases read m <;> rfl

/-- What an action leaves behind when it succeeds. -/
def Action.Leaves : Action → ContainerRecord → ContainerRecord → Prop
  | .set field v, r, s => r.assign field v = .ok s
  | .setProperty field v, r, s =>
    ∃ p, r.properties.assignProperty field v = .ok p ∧ s = { r with properties := p }
  | .putMetadata name v, r, s =>
    ∃ m, r.metadata = .caseless m ∧ s = { r with metadata := .caseless (m.put name v) }
  | .eraseMetadata name, r, s =>
    ∃ m, r.metadata = .caseless m ∧ s = { r with metadata := .caseless (m.erase name) }
  | _, r, s => s = r

theorem metadata_eq_of_names {m : CaseMap Value} (h : r.names = .ok m) :
    r.metadata = .caseless m := by
  rw [names] at h
  split at h
  · rename_i names hnames
    rw [hnames, Except.ok.inj h]
  · cases h

/-- A change of the metadata fails and leaves everything as it was, or changes them alone. -/
theorem changeMetadata_cases (r : ContainerRecord)
    {change : CaseMap Value → Except Failure (CaseMap Value)} :
    (∃ failure, (changeMetadata change).result r = (r, .error failure)) ∨
      ∃ m changed, r.metadata = .caseless m ∧ change m = .ok changed ∧
        (changeMetadata change).result r =
          ({ r with metadata := .caseless changed }, .ok null) := by
  rw [result_changeMetadata]
  cases hchange : r.names >>= change with
  | error failure => exact .inl ⟨failure, rfl⟩
  | ok changed =>
    obtain ⟨m, hnames, hchanged⟩ := bind_eq_ok_iff.1 hchange
    exact .inr ⟨m, changed, metadata_eq_of_names hnames, hchanged, rfl⟩

theorem readMetadata_cases (r : ContainerRecord) {read : CaseMap Value → Except Failure Value} :
    (∃ failure, (readMetadata read).result r = (r, .error failure)) ∨
      ∃ answer, (readMetadata read).result r = (r, .ok answer) := by
  rw [result_readMetadata]
  cases (r.names >>= read).map Datum.plain with
  | error failure => exact .inl ⟨failure, rfl⟩
  | ok answer => exact .inr ⟨answer, rfl⟩

/-- **All that an action can do**: it fails and leaves everything as it was, or it does what it
says. -/
theorem act_cases (r : ContainerRecord) (action : Action) :
    (∃ failure, r.act action = (r, .error failure)) ∨
      ∃ s answer, r.act action = (s, .ok answer) ∧ action.Leaves r s := by
  cases action with
  | set field v =>
    simp only [act, perform, result_bind, result_get, result_of]
    cases hassign : r.assign field v with
    | error failure => exact .inl ⟨failure, rfl⟩
    | ok s => exact .inr ⟨s, null, rfl, hassign⟩
  | setProperty field v =>
    simp only [act, perform, result_bind, result_get, result_of]
    cases hassign : r.properties.assignProperty field v with
    | error failure => exact .inl ⟨failure, rfl⟩
    | ok p => exact .inr ⟨_, null, rfl, p, hassign, rfl⟩
  | putMetadata name v =>
    rcases r.changeMetadata_cases with hfails | ⟨m, changed, hm, hchanged, hresult⟩
    · exact .inl hfails
    · exact .inr ⟨_, null, hresult, m, hm, by rw [Except.ok.inj hchanged]⟩
  | eraseMetadata name =>
    rcases r.changeMetadata_cases with hfails | ⟨m, changed, hm, hchanged, hresult⟩
    · exact .inl hfails
    · refine .inr ⟨_, null, hresult, m, hm, ?_⟩
      split at hchanged
      · rw [Except.ok.inj hchanged]
      · cases hchanged
  | getMetadata name | hasMetadata name | equalsMetadata pairs =>
    exact r.readMetadata_cases.imp_right fun ⟨answer, hresult⟩ => ⟨r, answer, hresult, rfl⟩
  | uri =>
    simp only [act, perform, result_bind, result_get, result_of]
    cases r.uri with
    | error failure => exact .inl ⟨failure, rfl⟩
    | ok answer => exact .inr ⟨r, answer, rfl, rfl⟩

/-- An action that fails leaves everything as it was. -/
theorem act_of_error {action : Action} {failure : Failure}
    (h : (r.act action).2 = .error failure) : (r.act action).1 = r := by
  rcases r.act_cases action with ⟨_, hact⟩ | ⟨s, answer, hact, -⟩
  · rw [hact]
  · rw [hact] at h
    cases h

theorem leaves_of_ok {action : Action} {answer : Datum} (h : (r.act action).2 = .ok answer) :
    action.Leaves r (r.act action).1 := by
  rcases r.act_cases action with ⟨_, hact⟩ | ⟨s, _, hact, hleaves⟩
  · rw [hact] at h
    cases h
  · rwa [hact]

/-- What an action that succeeds may change: the field that it names, and nothing when it only
reads. Writing and removing metadata reach one name in all its casings. -/
def Action.Changes : Action → ContainerRecord → ContainerRecord → Prop
  | .set field _, r, s => OnlyAt field r s
  | .setProperty field _, r, s =>
    OnlyAt "properties" r s ∧
      ∀ other, other ≠ field → s.properties.property? other = r.properties.property? other
  | .putMetadata name v, r, s =>
    OnlyAt "metadata" r s ∧ ∃ m changed, r.metadata = .caseless m ∧ s.metadata = .caseless changed ∧
      ∀ other, changed.get? other =
        if lowerString name = lowerString other then some v else m.get? other
  | .eraseMetadata name, r, s =>
    OnlyAt "metadata" r s ∧ ∃ m changed, r.metadata = .caseless m ∧ s.metadata = .caseless changed ∧
      ∀ other, changed.get? other =
        if lowerString name = lowerString other then none else m.get? other
  | _, r, s => s = r

theorem onlyAt_metadata (r : ContainerRecord) (x : Datum) :
    OnlyAt "metadata" r { r with metadata := x } := fun other hother => by
  simp only [field?, List.lookup_cons, beq_eq_false_iff_ne.2 hother]

theorem onlyAt_properties (r : ContainerRecord) (x : Datum) :
    OnlyAt "properties" r { r with properties := x } := fun other hother => by
  simp only [field?, List.lookup_cons, beq_eq_false_iff_ne.2 hother]

/-- **An action that succeeds** changes what it names and nothing else. -/
theorem changes_of_leaves {action : Action} (h : action.Leaves r s) : action.Changes r s := by
  cases action with
  | set field v => exact onlyAt_of_assign h
  | setProperty field v =>
    obtain ⟨p, hassign, rfl⟩ := h
    exact ⟨onlyAt_properties r p, property?_assignProperty hassign⟩
  | putMetadata name v =>
    obtain ⟨m, hm, rfl⟩ := h
    exact ⟨onlyAt_metadata r _, m, _, hm, rfl, m.get?_put name v⟩
  | eraseMetadata name =>
    obtain ⟨m, hm, rfl⟩ := h
    exact ⟨onlyAt_metadata r _, m, _, hm, rfl, m.get?_erase name⟩
  | getMetadata name | hasMetadata name | equalsMetadata pairs | uri => exact h

/-- What an action is given is proper. -/
def Action.Proper : Action → Prop
  | .set _ v => v.Proper
  | _ => True

/-- **What one action keeps.** -/
theorem wellFormed_act (hr : r.WellFormed) {action : Action} (hproper : action.Proper) :
    (r.act action).1.WellFormed := by
  rcases r.act_cases action with ⟨failure, hact⟩ | ⟨s, answer, hact, hleaves⟩ <;> rw [hact]
  · exact hr
  cases action with
  | set field v => exact wellFormed_of_assign hr hproper hleaves
  | setProperty field v =>
    obtain ⟨p, hassign, rfl⟩ := hleaves
    exact ⟨hr.storageUri, hasLease_assignProperty hr.properties hassign, hr.metadata⟩
  | putMetadata name v =>
    obtain ⟨m, hm, rfl⟩ := hleaves
    obtain ⟨_, hnames, hnodup⟩ := hr.metadata
    obtain rfl := Datum.caseless.inj (hm.symm.trans hnames)
    exact ⟨hr.storageUri, hr.properties, _, rfl, CaseMap.nodup_put hnodup name v⟩
  | eraseMetadata name =>
    obtain ⟨m, hm, rfl⟩ := hleaves
    obtain ⟨_, hnames, hnodup⟩ := hr.metadata
    obtain rfl := Datum.caseless.inj (hm.symm.trans hnames)
    exact ⟨hr.storageUri, hr.properties, _, rfl, CaseMap.nodup_erase hnodup name⟩
  | getMetadata name | hasMetadata name | equalsMetadata pairs | uri =>
    obtain rfl : s = r := hleaves
    exact hr

/-! ## Runs of actions -/

/-- The record after a run of actions. -/
def after (r : ContainerRecord) (actions : List Action) : ContainerRecord :=
  actions.foldl (fun r action => (r.act action).1) r

/-- **What a run of actions keeps.** -/
theorem wellFormed_after (hr : r.WellFormed) {actions : List Action}
    (hproper : ∀ action ∈ actions, action.Proper) : (r.after actions).WellFormed := by
  induction actions generalizing r with
  | nil => exact hr
  | cons action actions ih =>
    obtain ⟨hfirst, hrest⟩ := List.forall_mem_cons.1 hproper
    exact ih (wellFormed_act hr hfirst) hrest

/-! ## The URI -/

theorem act_uri (r : ContainerRecord) : r.act .uri = (r, r.uri) := by
  simp only [act, perform, result_bind, result_get, result_of]

theorem uriNotSet_iff (r : ContainerRecord) :
    (∃ resource, (r.act .uri).2 = .error (.uriNotSet resource)) ↔ r.storageUri = null := by
  rw [act_uri, uri]
  split
  · rename_i hnull
    simp [hnull]
  · rename_i primary secondary huri
    simp [huri]
  · rename_i hnull _
    simp only [Except.error.injEq, reduceCtorEq, exists_false, false_iff]
    exact hnull

theorem uri_of_storageUri {primary secondary : Datum} (h : r.storageUri = .uri primary secondary) :
    (r.act .uri).2 = .ok primary := by
  rw [act_uri, uri, h]

end ContainerRecord

/-! ## Maps of texts -/

/-- The text of the last pair of a name, when letter case is ignored. -/
def CaseMap.lastText? (dict : List (String × String)) (name : String) : Option String :=
  ((dict.filter (CaseMap.hasName name)).getLast?).map Prod.snd

/-- The map from texts to texts that ignores letter case. -/
def CaseMap.ofTexts (dict : List (String × String)) : CaseMap Value :=
  CaseMap.ofPairs (dict.map fun pair => (pair.1, Value.text pair.2))

theorem CaseMap.get?_ofTexts (dict : List (String × String)) (name : String) :
    (ofTexts dict).get? name = (lastText? dict name).map Value.text := by
  rw [ofTexts, get?_ofPairs, List.filter_map, List.getLast?_map, lastText?, Option.map_map,
    Option.map_map]
  rfl

namespace Datum

/-- A map from texts to texts. -/
def IsTexts (d : Datum) (dict : List (String × String)) : Prop :=
  d = .plain (.map (dict.map fun pair => (.text pair.1, .text pair.2))) ∨
    d = .dict (dict.map fun pair => (.text pair.1, .plain (.text pair.2)))

theorem metadataOfPairs_texts {dict : List (String × String)} (h : (dict.map Prod.fst).Nodup) :
    metadataOfPairs (dict.map fun pair => (some pair.1, some pair.2)) =
      .ok (.caseless (CaseMap.ofTexts dict)) := by
  have htexts : (dict.map fun pair => (some pair.1, some pair.2)).mapM (fun entry => do
      return (Value.text (← entry.1), Value.text (← entry.2))) = some (Pairs.ofTexts dict) := by
    clear h
    induction dict with
    | nil => rfl
    | cons pair dict ih =>
      rw [Pairs.ofTexts] at ih
      rw [Pairs.ofTexts, List.map_cons, List.mapM_cons, ih]
      rfl
  simp only [metadataOfPairs, htexts, Option.map_some, Pairs.merged_ofTexts h, Except.bind,
    Pairs.named_ofTexts, CaseMap.ofTexts]

/-- **The metadata that a map of texts gives** has the texts as they are. -/
theorem metadataOf_eq_ok_of_isTexts {d : Datum} {dict : List (String × String)}
    (hd : d.IsTexts dict) (h : (dict.map Prod.fst).Nodup) :
    metadataOf d = .ok (.caseless (CaseMap.ofTexts dict)) := by
  rw [← metadataOfPairs_texts h]
  rcases hd with rfl | rfl
  · rw [metadataOf, Pairs.ofFields, List.map_map, List.map_map]
    rfl
  · rw [metadataOf, List.map_map]
    rfl

end Datum

namespace ContainerRecord

open Datum Act

variable {r : ContainerRecord} {v : Datum} {dict : List (String × String)}

/-- Metadata of texts equals itself. -/
theorem sameMetadata_ofTexts (dict : List (String × String)) :
    sameMetadata (CaseMap.ofTexts dict) (CaseMap.ofTexts dict) = true := by
  simp only [sameMetadata, beq_self_eq_true, Bool.true_and, List.all_eq_true]
  rintro ⟨name, v⟩ hentry
  obtain ⟨pair, -, hpair⟩ := List.mem_map.1 (CaseMap.mem_of_mem_ofPairs hentry)
  obtain ⟨-, rfl⟩ := Prod.mk.inj hpair
  have hfound := (CaseMap.mem_entries_iff (CaseMap.nodup_ofPairs _)).1 hentry
  have hget : (CaseMap.ofTexts dict).get? name = some (.text pair.2) := by
    rw [CaseMap.get?_eq, CaseMap.ofTexts, hfound, Option.map_some]
  rw [hget]
  simp [Pairs.same_text]

theorem act_set_metadata (hv : v.IsTexts dict) (h : (dict.map Prod.fst).Nodup) :
    r.act (.set "metadata" v) =
      ({ r with metadata := .caseless (CaseMap.ofTexts dict) }, .ok null) := by
  have hassign : r.assign "metadata" v =
      .ok { r with metadata := .caseless (CaseMap.ofTexts dict) } := by
    simp only [assign, metadataOf_eq_ok_of_isTexts hv h, Checked.under_ok, Checked.map_ok,
      Checked.toExcept]
  simp only [act, perform, result_bind, result_get, result_of, hassign]
  rfl

theorem act_equalsMetadata (hm : r.metadata = .caseless (CaseMap.ofTexts dict))
    (h : (dict.map Prod.fst).Nodup) :
    (r.act (.equalsMetadata (Pairs.ofTexts dict))).2 = .ok (.plain (.bool true)) := by
  simp only [act, perform, result_readMetadata, names, hm, Pairs.merged_ofTexts h,
    Pairs.named_ofTexts, bind, Except.bind, pure, Except.pure]
  rw [← CaseMap.ofTexts, sameMetadata_ofTexts]
  rfl

theorem act_getMetadata (hm : r.metadata = .caseless (CaseMap.ofTexts dict)) (name : String) :
    (r.act (.getMetadata name)).2 =
      match CaseMap.lastText? dict name with
      | some text => .ok (.plain (.text text))
      | none => .error .missingKey := by
  simp only [act, perform, result_readMetadata, names, hm, bind, Except.bind,
    CaseMap.get?_ofTexts]
  cases CaseMap.lastText? dict name <;> rfl

/-- **The record of a container holds together at every moment of its use.** A record that was made
is well formed after any run of actions, where objects that are handed over are as their own checks
make them. From there an action that fails leaves all as it was, and one that succeeds changes the
field that it names and nothing else, and nothing at all when it only reads. The URI is refused just
when none is set, and else is the primary one. A map of texts that is set for the metadata is equal
to it afterwards, and under every name with the same lower form its last text is found. -/
theorem wellFormed_after_create {fields : List (String × Datum)}
    (hfields : ∀ entry ∈ fields, entry.2.Proper) {made : ContainerRecord}
    (hmade : create fields = .ok made) {actions : List Action}
    (hactions : ∀ action ∈ actions, action.Proper) :
    let r := made.after actions
    r.WellFormed ∧
    (∀ action failure, (r.act action).2 = .error failure → (r.act action).1 = r) ∧
    (∀ action answer, (r.act action).2 = .ok answer → action.Changes r (r.act action).1) ∧
    ((∃ resource, (r.act .uri).2 = .error (.uriNotSet resource)) ↔ r.storageUri = null) ∧
    (∀ primary secondary, r.storageUri = .uri primary secondary →
      (r.act .uri).2 = .ok primary) ∧
    ∀ v dict, v.IsTexts dict → (dict.map Prod.fst).Nodup →
      let s := (r.act (.set "metadata" v)).1
      (r.act (.set "metadata" v)).2 = .ok null ∧
      (s.act (.equalsMetadata (Pairs.ofTexts dict))).2 = .ok (.plain (.bool true)) ∧
      ∀ name, (s.act (.getMetadata name)).2 =
        match CaseMap.lastText? dict name with
        | some text => .ok (.plain (.text text))
        | none => .error .missingKey := by
  refine ⟨wellFormed_after (wellFormed_of_create hfields hmade) hactions,
    fun _ _ => act_of_error, fun _ _ h => changes_of_leaves (leaves_of_ok h), uriNotSet_iff _,
    fun _ _ => uri_of_storageUri, fun v dict hv h => ?_⟩
  rw [act_set_metadata hv h]
  exact ⟨rfl, act_equalsMetadata rfl h, act_getMetadata rfl⟩

/-- A URI at the secondary location only, metadata that is no text, and properties as an object. -/
def secondaryFields : List (String × Datum) :=
  [("storage_uri", .plain (.map [(.text "secondary_uri", .text "https://b.example/box")])),
   ("metadata", .caseless ⟨[("Owner", .int 1)]⟩), ("properties", noProperties)]

/-- The record that these fields make. -/
def secondaryRecord : ContainerRecord where
  name := null
  storageUri := .uri null (.plain (.text "https://b.example/box"))
  metadata := .caseless ⟨[("Owner", .int 1)]⟩
  properties := noProperties

/-- Writing past the checks, a refused value, an object with a member, and a map that ignores letter
case. -/
def someActions : List Action :=
  [.putMetadata "OWNER" (.list []), .set "storage_uri" (.plain (.int 3)),
   .setProperty "lease_state" (.member (.state .leased)),
   .set "metadata" (.caseless ⟨[("a", .null)]⟩)]

/-- A map with two casings of one name. -/
def casedTexts : Datum :=
  .dict [(.text "Key", .plain (.text "1")), (.text "kEY", .plain (.text "2"))]

theorem wellFormed_after_create_secondary :
    create secondaryFields = .ok secondaryRecord ∧
    (secondaryRecord.after someActions).WellFormed ∧
    ((secondaryRecord.after someActions).act .uri).2 = .ok null ∧
    (((secondaryRecord.after someActions).act (.set "metadata" casedTexts)).1.act
      (.getMetadata "KEY")).2 = .ok (.plain (.text "2")) := by
  have hmade : create secondaryFields = .ok secondaryRecord := rfl
  have hfields : ∀ entry ∈ secondaryFields, entry.2.Proper := by
    simp [secondaryFields, Datum.Proper, CaseMap.lowerNames, noProperties, HasLease]
  have hactions : ∀ action ∈ someActions, action.Proper := by
    simp [someActions, Action.Proper, Datum.Proper, CaseMap.lowerNames]
  obtain ⟨hwell, -, -, -, huri, hmetadata⟩ := wellFormed_after_create hfields hmade hactions
  obtain ⟨-, -, hget⟩ := hmetadata casedTexts [("Key", "1"), ("kEY", "2")] (.inr rfl) (by decide)
  have hlast : CaseMap.lastText? [("Key", "1"), ("kEY", "2")] "KEY" = some "2" := by
    decide +kernel
  have hkey := hget "KEY"
  rw [hlast] at hkey
  exact ⟨hmade, hwell, huri null (.plain (.text "https://b.example/box")) rfl, hkey⟩

/-- A record without anything. -/
def bare : ContainerRecord := ⟨null, null, .caseless CaseMap.empty, noProperties⟩

/-- An object of properties that was made without checks, with a word that no lease has. -/
def uncheckedProperties : Datum :=
  .properties null null (.plain (.text "melted")) (.member (.state .unspecified))
    (.member (.duration .unspecified))

/-- Metadata with the name `Straße` is not found under its upper form, which has another lower form;
and an object that was made without checks is taken as it is. -/
theorem missing_upper_form_and_unchecked_set :
    create [] = .ok bare ∧ upperString "Straße" = "STRASSE" ∧
      lowerString "STRASSE" ≠ lowerString "Straße" ∧
      ((bare.act (.set "metadata" (.dict [(.text "Straße", .plain (.text "1"))]))).1.act
        (.getMetadata "STRASSE")).2 = .error .missingKey ∧
      bare.act (.set "properties" uncheckedProperties) =
        ({ bare with properties := uncheckedProperties }, .ok null) ∧
      ¬{ bare with properties := uncheckedProperties }.WellFormed := by
  have hupper : upperString "Straße" = "STRASSE" := by decide +kernel
  have hlower : lowerString "STRASSE" ≠ lowerString "Straße" := by decide +kernel
  refine ⟨rfl, hupper, hlower, ?_, rfl, ?_⟩
  · have hset : bare.act (.set "metadata" (.dict [(.text "Straße", .plain (.text "1"))])) =
        ({ bare with metadata := .caseless (CaseMap.ofTexts [("Straße", "1")]) }, .ok null) :=
      act_set_metadata (.inr rfl) (by decide)
    have hlast : CaseMap.lastText? [("Straße", "1")] "STRASSE" = none := by decide +kernel
    rw [hset, act_getMetadata rfl, hlast]
  · rintro ⟨-, ⟨etag, lastModified, status, state, duration, hproperties⟩, -⟩
    cases hproperties

end ContainerRecord

end StorageReply
