import StorageReply.Container.Properties
import StorageReply.Headers.Readers
import StorageReply.Headers.Response
import StorageReply.Proofs.Headers.Views

/-!
# Forms of replies, and what is read from them

The headers of a reply come in several forms, and each hands pairs of name and value to the view
that is made of them (`Hands`). A reply whose header names are texts or null always does
(`exists_hands`). Merging takes place before that: it brings in no names, and it changes nothing
where all names are different.

`Reading` lists what is read from a view. A `Form` carries given pairs in a reply, and
`Form.answer` is what a reading finds at its end.
-/

namespace StorageReply

open Text

namespace Pairs

/-! ## Merging equal names -/

/-- Writing a pair brings in no key but its own. -/
theorem forall_put {p : Value → Prop} {pair : Value × Value} {done : Pairs} (hpair : p pair.1)
    (hdone : ∀ q ∈ done, p q.1) : ∀ q ∈ put pair done, p q.1 := by
  induction done with
  | nil => simpa [put] using hpair
  | cons other rest ih =>
    have hother := hdone other (List.mem_cons_self ..)
    have hrest : ∀ q ∈ rest, p q.1 := fun q hq => hdone q (List.mem_cons_of_mem _ hq)
    rw [put]
    split
    · exact List.forall_mem_cons.2 ⟨hother, hrest⟩
    · exact List.forall_mem_cons.2 ⟨hother, ih hrest⟩

theorem forall_foldl_put {p : Value → Prop} {given done : Pairs} (hgiven : ∀ q ∈ given, p q.1)
    (hdone : ∀ q ∈ done, p q.1) :
    ∀ q ∈ given.foldl (fun done pair => put pair done) done, p q.1 := by
  induction given generalizing done with
  | nil => exact hdone
  | cons pair given ih =>
    obtain ⟨hpair, hrest⟩ := List.forall_mem_cons.1 hgiven
    exact ih hrest (forall_put hpair hdone)

theorem exists_merged {given : Pairs} (h : Headers.Named given) :
    ∃ pairs, given.merged = .ok pairs ∧ Headers.Named pairs := by
  have hkeys : given.all (fun pair => isKey pair.1) = true := by
    refine List.all_eq_true.2 fun pair hpair => ?_
    have hname := h pair hpair
    cases hkey : pair.1 <;> simp_all [Headers.isHeaderName, isKey]
  exact ⟨_, if_pos hkeys, forall_foldl_put (p := (Headers.isHeaderName · = true)) h (by simp)⟩

/-! ## Pairs with texts for names -/

/-- Headers with their names as values. -/
def ofNamed (headers : List (String × Value)) : Pairs :=
  headers.map fun (name, value) => (.text name, value)

theorem named_ofNamed (headers : List (String × Value)) :
    (ofNamed headers).named = .ok headers := by
  induction headers with
  | nil => rfl
  | cons header headers ih =>
    rw [ofNamed, named] at ih
    rw [ofNamed, named, List.map_cons, List.mapM_cons, ih]
    rfl

theorem exists_eq_ofNamed {given : Pairs} (h : ∀ pair ∈ given, pair.1.text?.isSome = true) :
    ∃ headers, given = ofNamed headers := by
  induction given with
  | nil => exact ⟨[], rfl⟩
  | cons pair given ih =>
    obtain ⟨hpair, hrest⟩ := List.forall_mem_cons.1 h
    obtain ⟨headers, rfl⟩ := ih hrest
    obtain ⟨name, value⟩ := pair
    cases name with
    | text name => exact ⟨(name, value) :: headers, rfl⟩
    | _ => cases hpair

theorem isHeaderName_ofNamed (headers : List (String × Value)) :
    Headers.Named (ofNamed headers) := by
  intro pair hpair
  obtain ⟨header, -, rfl⟩ := List.mem_map.1 hpair
  rfl

theorem mergedCaseless_ofNamed (headers : List (String × Value)) :
    Response.mergedCaseless (ofNamed headers) =
      .ok (ofNamed (CaseMap.ofPairs headers).entries) := by
  rw [Response.mergedCaseless, named_ofNamed]
  rfl

theorem put_of_forall {pair : Value × Value} {done : Pairs}
    (h : ∀ q ∈ done, q.1.same pair.1 = false) : put pair done = done ++ [pair] := by
  induction done with
  | nil => rfl
  | cons other rest ih =>
    obtain ⟨hother, hrest⟩ := List.forall_mem_cons.1 h
    rw [put, if_neg (by simp [hother]), ih hrest, List.cons_append]

/-- Where all names are different there is nothing to merge. -/
theorem merged_ofNamed {headers : List (String × Value)} (h : (headers.map Prod.fst).Nodup) :
    (ofNamed headers).merged = .ok (ofNamed headers) := by
  have hkeys : (ofNamed headers).all (fun pair => isKey pair.1) = true := by
    simp [ofNamed, isKey]
  rw [merged, if_pos hkeys]
  congr 1
  clear hkeys
  induction headers using List.reverseRecOn with
  | nil => rfl
  | append_singleton headers header ih =>
    rw [List.map_append, List.nodup_append] at h
    obtain ⟨hheaders, -, hdisjoint⟩ := h
    have hnew : ∀ q ∈ ofNamed headers, q.1.same (.text header.1) = false := by
      intro q hq
      obtain ⟨other, hother, rfl⟩ := List.mem_map.1 hq
      have hne : other.1 ≠ header.1 := hdisjoint _ (List.mem_map_of_mem hother) _ (by simp)
      simpa [Value.same, Value.sameScalar] using hne
    rw [ofNamed, List.map_append, List.foldl_append, ← ofNamed, ih hheaders]
    exact put_of_forall hnew

end Pairs

namespace Headers

/-! ## The pairs that a reply hands over -/

/-- The pairs of name and value that a reply hands over, by the form of its headers. -/
inductive Hands : Response → Pairs → Prop
  /-- A map hands over its pairs, in which equal names have been merged. -/
  | mapping {given pairs : Pairs} : given.merged = .ok pairs → Hands (.mapping given) pairs
  /-- A source of pairs hands them over as they are. -/
  | pairs (pairs : Pairs) : Hands (.pairs pairs) pairs
  /-- So does the source of an object. -/
  | object (pairs : Pairs) : Hands (.object pairs) pairs
  /-- A view was made from pairs before. -/
  | view {pairs : Pairs} {v : View} : View.ofPairs pairs = .ok v → Hands (.view v) pairs
  /-- A map that ignores letter case has merged the names that differ in it. -/
  | caseless {given pairs : Pairs} :
    Response.mergedCaseless given = .ok pairs → Hands (.caseless given) pairs
  /-- A map that is a value hands over its entries. -/
  | bare (fields : Fields) : Hands (.bare (.map fields)) (Pairs.ofFields fields)
  /-- So does an object that has such a map. -/
  | carrier (fields : Fields) : Hands (.carrier (.map fields)) (Pairs.ofFields fields)

theorem Hands.headers {r : Response} {pairs : Pairs} (h : Hands r pairs) :
    r.headers = View.ofPairs pairs := by
  cases h with
  | mapping hmerged => rw [Response.headers, hmerged]; rfl
  | view hv => rw [Response.headers, hv]
  | caseless hmerged => rw [Response.headers, hmerged]; rfl
  | _ => rfl

/-- Whether the header names of a reply are texts or null; a map that ignores letter case has texts
only. -/
def HasNames : Response → Prop
  | .mapping given => Named given
  | .pairs given => Named given
  | .object given => Named given
  | .view v => ∃ pairs, Named pairs ∧ View.ofPairs pairs = .ok v
  | .caseless given => ∀ pair ∈ given, pair.1.text?.isSome = true
  | .bare (.map fields) => Named (Pairs.ofFields fields)
  | .carrier (.map fields) => Named (Pairs.ofFields fields)
  | .bare _ => False
  | .carrier _ => False

/-- A reply with such names hands over pairs with such names. -/
theorem exists_hands {r : Response} (h : HasNames r) : ∃ pairs, Hands r pairs ∧ Named pairs := by
  cases r with
  | mapping given =>
    obtain ⟨pairs, hmerged, hn⟩ := Pairs.exists_merged h
    exact ⟨pairs, .mapping hmerged, hn⟩
  | pairs given => exact ⟨given, .pairs given, h⟩
  | object given => exact ⟨given, .object given, h⟩
  | view v =>
    obtain ⟨pairs, hn, hv⟩ := h
    exact ⟨pairs, .view hv, hn⟩
  | caseless given =>
    obtain ⟨headers, rfl⟩ := Pairs.exists_eq_ofNamed h
    exact ⟨_, .caseless (Pairs.mergedCaseless_ofNamed headers), Pairs.isHeaderName_ofNamed _⟩
  | bare v =>
    cases v with
    | map fields => exact ⟨_, .bare fields, h⟩
    | _ => exact h.elim
  | carrier v =>
    cases v with
    | map fields => exact ⟨_, .carrier fields, h⟩
    | _ => exact h.elim

/-! ## Readings -/

/-- What is read from the headers of a reply, with the kind of its result. -/
inductive Reading : Type → Type
  /-- The checksum of the content. -/
  | contentMd5 : Reading (Option String)
  /-- The date of the reply. -/
  | date : Reading (Option String)
  /-- The entity tag. -/
  | etag : Reading (Option String)
  /-- The identifier that the service gave the request. -/
  | requestId : Reading (Option String)
  /-- The identifier of the lease. -/
  | leaseId : Reading (Option String)
  /-- The seconds that a broken lease still lasts. -/
  | leaseTime : Reading (Option String)
  /-- The status of the lease. -/
  | leaseStatus : Reading LeaseStatus
  /-- The state of the lease. -/
  | leaseState : Reading LeaseState
  /-- The duration of the lease. -/
  | leaseDuration : Reading LeaseDuration
  /-- The metadata. -/
  | metadata : Reading (CaseMap String)
  /-- The system properties of a container. -/
  | properties : Reading ContainerProperties

/-- What a reading finds in a view. -/
def Reading.ofView {α : Type} (v : View) : Reading α → Except Failure α
  | .contentMd5 => .ok v.contentMd5?
  | .date => .ok v.date?
  | .etag => .ok v.etag?
  | .requestId => .ok v.requestId?
  | .leaseId => .ok v.leaseId?
  | .leaseTime => .ok v.leaseTime?
  | .leaseStatus => v.leaseStatus
  | .leaseState => v.leaseState
  | .leaseDuration => v.leaseDuration
  | .metadata => .ok v.metadata
  | .properties => ContainerProperties.ofView v

end Headers

open Headers in
/-- What a reading finds in a reply. -/
def Response.read {α : Type} (r : Response) (reading : Reading α) : Except Failure α := do
  reading.ofView (← r.headers)

theorem Response.read_of_headers {α : Type} {r : Response} {v : Headers.View}
    (h : r.headers = .ok v) (reading : Headers.Reading α) : r.read reading = reading.ofView v := by
  rw [read, h]
  rfl

end StorageReply
