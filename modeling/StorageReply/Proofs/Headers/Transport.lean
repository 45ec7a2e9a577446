import StorageReply.Proofs.Headers.Metadata

/-!
# Forms that carry the same headers

A reply can carry headers in several forms (`Form`). Where equal names meet, some forms merge them
before the view is made, and the others leave it to the readings. For metadata it does not matter
who does it: the last header of a name counts in both places, and a metadata name is cut from a
header name in a way that keeps different names different (`respectsNames_carried`). The other
readings take the first value of a name, so for them the forms agree where all names are different.
Both are stated by `forms_agree`.
-/

namespace StorageReply.Headers

open Text

/-! ## Forms -/

/-- The forms in which a reply carries headers. -/
inductive Form
  /-- A map of headers. -/
  | mapping
  /-- A source of header pairs. -/
  | pairs
  /-- An object with such a source. -/
  | object
  /-- A view that was made before. -/
  | view
  /-- An object with a map that ignores letter case. -/
  | caseless
  deriving DecidableEq, Repr

namespace Form

/-- The reply that carries pairs in a form. -/
def reply (pairs : Pairs) : Form → Except Failure Response
  | .mapping => .ok (.mapping pairs)
  | .pairs => .ok (.pairs pairs)
  | .object => .ok (.object pairs)
  | .view => (View.ofPairs pairs).map .view
  | .caseless => .ok (.caseless pairs)

/-- The pairs that are left when a form has merged names. -/
def handed (pairs : Pairs) : Form → Except Failure Pairs
  | .mapping => pairs.merged
  | .caseless => Response.mergedCaseless pairs
  | _ => .ok pairs

/-- What a reading finds in the reply that carries pairs in a form. -/
def answer {α : Type} (form : Form) (pairs : Pairs) (reading : Reading α) : Except Failure α := do
  (← form.reply pairs).read reading

theorem answer_of_handed {α : Type} {form : Form} {pairs left : Pairs}
    (h : form.handed pairs = .ok left) (reading : Reading α) :
    form.answer pairs reading = View.ofPairs left >>= reading.ofView := by
  cases form with
  | mapping =>
    show (pairs.merged >>= View.ofPairs) >>= reading.ofView = _
    rw [show pairs.merged = .ok left from h]
    rfl
  | caseless =>
    show (Response.mergedCaseless pairs >>= View.ofPairs) >>= reading.ofView = _
    rw [show Response.mergedCaseless pairs = .ok left from h]
    rfl
  | view =>
    obtain rfl := Except.ok.inj h
    rw [answer, reply]
    cases View.ofPairs pairs <;> rfl
  | pairs =>
    obtain rfl := Except.ok.inj h
    rfl
  | object =>
    obtain rfl := Except.ok.inj h
    rfl

end Form

/-! ## Metadata before and after merging -/

/-- The first text of the value of a header. -/
def firstText (v : Value) : Option String := (valueTexts v).toOption.bind List.head?

/-- The metadata entry that a header with such a value carries. -/
def carried (header : String × Value) : Option (String × String) :=
  if isMetadata header.1 then (firstText header.2).map (metadataName header.1, ·) else none

theorem exists_firstText {v : Value} {texts : List String} (h : valueTexts v = .ok texts)
    (hne : v ≠ .list []) : ∃ s, firstText v = some s := by
  cases texts with
  | cons s rest => exact ⟨s, by rw [firstText, h]; rfl⟩
  | nil =>
    exfalso
    cases v with
    | list items =>
      cases items with
      | nil => exact hne rfl
      | cons v items =>
        rw [valueTexts, List.mapM_cons, bind_eq_ok_iff] at h
        obtain ⟨s, -, h⟩ := h
        obtain ⟨rest, -, h⟩ := bind_eq_ok_iff.1 h
        cases h
    | _ =>
      rw [valueTexts, bind_eq_ok_iff] at h
      · obtain ⟨s, -, h⟩ := h
        cases h
      · simp

/-- Headers with texts for names, one by one. -/
theorem reads_ofNamed_cons {name : String} {value : Value} {headers : List (String × Value)}
    {entries : List Entry} (h : Reads (Pairs.ofNamed ((name, value) :: headers)) entries) :
    ∃ values rest, entries = ⟨name, values⟩ :: rest ∧ valueTexts value = .ok values ∧
      Reads (Pairs.ofNamed headers) rest := by
  cases h with
  | named _ hvalue hrest => exact ⟨_, _, rfl, hvalue, hrest⟩

theorem Reads.exists_firstText {headers : List (String × Value)} {entries : List Entry}
    (h : Reads (Pairs.ofNamed headers) entries) (hne : ∀ header ∈ headers, header.2 ≠ .list []) :
    ∀ header ∈ headers, ∃ s, firstText header.2 = some s := by
  induction headers generalizing entries with
  | nil => simp
  | cons header headers ih =>
    obtain ⟨values, rest, rfl, hvalue, hrest⟩ := reads_ofNamed_cons h
    obtain ⟨hheader, hheaders⟩ := List.forall_mem_cons.1 hne
    exact List.forall_mem_cons.2 ⟨Headers.exists_firstText hvalue hheader, ih hrest hheaders⟩

theorem Reads.filterMap_metadata {headers : List (String × Value)} {entries : List Entry}
    (h : Reads (Pairs.ofNamed headers) entries) :
    entries.filterMap Entry.metadata? = headers.filterMap carried := by
  induction headers generalizing entries with
  | nil =>
    cases h
    rfl
  | cons header headers ih =>
    obtain ⟨values, rest, rfl, hvalue, hrest⟩ := reads_ofNamed_cons h
    have hfirst : (Entry.mk header.1 values).metadata? = carried header := by
      rw [Entry.metadata?, carried, firstText, hvalue]
      rfl
    rw [List.filterMap_cons, List.filterMap_cons, hfirst, ih hrest]

theorem isMetadata_congr {name other : String} (h : lowerString name = lowerString other) :
    isMetadata name = isMetadata other := by
  rw [isMetadata, isMetadata, String.ofList_injective h]

theorem lowerString_of_carried {header : String × Value} {entry : String × String}
    (h : carried header = some entry) :
    lowerString header.1 = Name.metadataStart ++ lowerString entry.1 := by
  rw [carried, Option.ite_none_right_eq_some] at h
  obtain ⟨hmeta, hentry⟩ := h
  obtain ⟨s, -, rfl⟩ := Option.map_eq_some_iff.1 hentry
  exact lowerString_eq_metadataStart_append_iff.2 ⟨hmeta, rfl⟩

/-- Metadata entries tell headers apart by their names, as the headers are. -/
theorem respectsNames_carried {p q : String × Value} (hp : ∃ s, firstText p.2 = some s)
    (hq : ∃ s, firstText q.2 = some s) : CaseMap.RespectsNames carried p q where
  isSome_eq h := by
    obtain ⟨s, hs⟩ := hp
    obtain ⟨t, ht⟩ := hq
    rw [carried, carried, isMetadata_congr h, hs, ht]
    split <;> rfl
  name_iff a b ha hb := by
    rw [lowerString_of_carried ha, lowerString_of_carried hb, String.append_right_inj]

/-- Metadata is the same whether names are merged before, or by the metadata itself. -/
theorem metadata_of_merged {headers : List (String × Value)} {entries kept : List Entry}
    (hne : ∀ header ∈ headers, header.2 ≠ .list []) (h : Reads (Pairs.ofNamed headers) entries)
    (hk : Reads (Pairs.ofNamed (CaseMap.ofPairs headers).entries) kept) :
    (View.ofEntries kept).metadata = (View.ofEntries entries).metadata := by
  have hfirst := h.exists_firstText hne
  have hmerged := CaseMap.filterMap_ofPairs fun p hp q hq =>
    respectsNames_carried (hfirst p hp) (hfirst q hq)
  rw [View.metadata, View.metadata, View.received_ofEntries, View.received_ofEntries,
    h.filterMap_metadata, hk.filterMap_metadata, hmerged,
    CaseMap.ofPairs_entries (CaseMap.nodup_ofPairs _)]

theorem writable_merged {headers : List (String × Value)} (h : Writable (Pairs.ofNamed headers)) :
    Writable (Pairs.ofNamed (CaseMap.ofPairs headers).entries) := by
  intro pair hpair
  obtain ⟨header, hheader, rfl⟩ := List.mem_map.1 hpair
  exact h _ (List.mem_map_of_mem (CaseMap.mem_of_mem_ofPairs hheader))

/-! ## Readings of the forms -/

theorem Form.answer_metadata {form : Form} {pairs left : Pairs}
    (h : form.handed pairs = .ok left) (hn : Named left) {m : CaseMap String}
    (hm : ∀ entries, Reads left entries → (View.ofEntries entries).metadata = m) :
    form.answer pairs .metadata =
      if Writable left then .ok m else .error (.unusable .longNumeral) := by
  rw [answer_of_handed h]
  split
  · rename_i hw
    obtain ⟨entries, hentries⟩ := exists_reads hn hw
    rw [View.ofPairs_of_reads hentries, ← hm entries hentries]
    rfl
  · rename_i hw
    rw [View.ofPairs_of_not_writable hn hw]
    rfl

/-- With different names no form has anything to merge. -/
theorem Form.handed_of_nodup {headers : List (String × Value)}
    (h : (headers.map fun header => lowerString header.1).Nodup) (form : Form) :
    form.handed (Pairs.ofNamed headers) = .ok (Pairs.ofNamed headers) := by
  have hnames : (headers.map Prod.fst).Nodup := by
    refine List.Nodup.of_map lowerString ?_
    rw [List.map_map]
    exact h
  cases form with
  | mapping => exact Pairs.merged_ofNamed hnames
  | caseless =>
    rw [handed, Pairs.mergedCaseless_ofNamed, CaseMap.entries_ofPairs_of_nodup h]
  | _ => rfl

/-- **Forms agree.** Of headers without empty lists every form but the plain map, which merges equal
names only, has the same metadata; where a value that is left cannot be written, it has none. Of
headers with names that differ in more than letter case, every reading finds the same in every
form, or fails in the same way. -/
theorem forms_agree (headers : List (String × Value)) :
    ((∀ header ∈ headers, header.2 ≠ .list []) →
      ∃ m, ∀ form : Form, form ≠ .mapping →
        ∃ left, form.handed (Pairs.ofNamed headers) = .ok left ∧
          form.answer (Pairs.ofNamed headers) .metadata =
            if Writable left then .ok m else .error (.unusable .longNumeral)) ∧
    ((headers.map fun header => lowerString header.1).Nodup →
      ∀ {α : Type} (reading : Reading α) (form other : Form),
        form.answer (Pairs.ofNamed headers) reading =
          other.answer (Pairs.ofNamed headers) reading) := by
  constructor
  · intro hne
    obtain ⟨m, hgiven, hmerged⟩ : ∃ m : CaseMap String,
        (∀ entries, Reads (Pairs.ofNamed headers) entries →
          (View.ofEntries entries).metadata = m) ∧
        ∀ kept, Reads (Pairs.ofNamed (CaseMap.ofPairs headers).entries) kept →
          (View.ofEntries kept).metadata = m := by
      by_cases hw : Writable (Pairs.ofNamed (CaseMap.ofPairs headers).entries)
      · obtain ⟨kept, hkept⟩ := exists_reads (Pairs.isHeaderName_ofNamed _) hw
        refine ⟨(View.ofEntries kept).metadata, fun entries hentries => ?_, fun kept' hkept' => ?_⟩
        · exact (metadata_of_merged hne hentries hkept).symm
        · rw [hkept'.unique hkept]
      · exact ⟨CaseMap.empty, fun entries hentries => absurd (writable_merged hentries.writable) hw,
          fun kept hkept => absurd hkept.writable hw⟩
    refine ⟨m, fun form hform => ?_⟩
    cases form with
    | mapping => exact absurd rfl hform
    | caseless =>
      have hleft : Form.caseless.handed (Pairs.ofNamed headers) =
          .ok (Pairs.ofNamed (CaseMap.ofPairs headers).entries) :=
        Pairs.mergedCaseless_ofNamed headers
      exact ⟨_, hleft, Form.answer_metadata hleft (Pairs.isHeaderName_ofNamed _) hmerged⟩
    | _ => exact ⟨_, rfl, Form.answer_metadata rfl (Pairs.isHeaderName_ofNamed _) hgiven⟩
  · intro hnodup α reading form other
    rw [Form.answer_of_handed (Form.handed_of_nodup hnodup form),
      Form.answer_of_handed (Form.handed_of_nodup hnodup other)]

/-- A metadata header that comes twice, in two spellings. -/
def twiceSpelled : List (String × Value) :=
  [("ETag", .text "e"), ("x-ms-meta-a", .text "1"), ("X-MS-META-A", .list [.text "2", .text "3"])]

/-- Every form but the plain map has the second, and without it all find the same entity tag. -/
theorem forms_agree_twiceSpelled :
    (∃ m, m.entries = [("A", "2")] ∧ ∀ form : Form, form ≠ .mapping →
      form.answer (Pairs.ofNamed twiceSpelled) .metadata = .ok m) ∧
    ∀ form : Form, form.answer (Pairs.ofNamed (twiceSpelled.take 2)) .etag = .ok (some "e") := by
  constructor
  · obtain ⟨m, hm⟩ := (forms_agree twiceSpelled).1 (by simp [twiceSpelled])
    have hall : ∀ form : Form, form ≠ .mapping →
        form.answer (Pairs.ofNamed twiceSpelled) .metadata = .ok m := by
      intro form hform
      obtain ⟨left, hleft, hanswer⟩ := hm form hform
      have hwritable : Writable left := by
        cases form with
        | mapping => exact absurd rfl hform
        | caseless =>
          obtain rfl := Except.ok.inj ((Pairs.mergedCaseless_ofNamed _).symm.trans hleft)
          exact writable_merged (by decide)
        | _ =>
          obtain rfl := Except.ok.inj hleft
          decide
      rw [hanswer, if_pos hwritable]
    refine ⟨m, ?_, hall⟩
    have hentries : (Form.pairs.answer (Pairs.ofNamed twiceSpelled) .metadata).toOption.map
        CaseMap.entries = some [("A", "2")] := by decide +kernel
    rw [hall .pairs (by decide)] at hentries
    exact Option.some.inj hentries
  · intro form
    rw [(forms_agree (twiceSpelled.take 2)).2 (by decide +kernel) .etag form .pairs]
    exact eq_ok_of_toOption (by decide +kernel)

end StorageReply.Headers
