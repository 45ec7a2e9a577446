import StorageReply.Proofs.Headers.Forms
import StorageReply.Proofs.Text.LowerCase

/-!
# Metadata among the headers

Metadata headers are recognized by the lower form of their name, and the metadata name is cut from
the name as it was received. The two agree (`lower_eq_metadataStart_append_iff`): no character of a
longer lower form can hide in the common beginning, and the hyphen at its end keeps a capital sigma
behind it from seeing what stands before. So a header is metadata of a name exactly if its own name
is the beginning followed by that name, letter case ignored (`Entry.Carries`).

The metadata has the last header of each name (`Collects`), while a look-up among the headers finds
the first value of the first. `metadata_of_names` states both of every form of reply.
-/

namespace StorageReply.Headers

open Number Text

/-! ## Names of metadata headers -/

theorem toList_metadataStart : Name.metadataStart.toList = "x-ms-meta".toList ++ ['-'] := by decide

theorem length_metadataStart : Name.metadataStart.length = 10 := by decide

theorem isPlain_of_mem_start : ∀ d ∈ "x-ms-meta".toList, isPlain d = true := by
  have hall : "x-ms-meta".toList.all isPlain = true := by decide +kernel
  exact List.all_eq_true.1 hall

theorem toList_metadataName {name : String} {p r : List Char} (h : name.toList = p ++ '-' :: r)
    (hp : p.length = "x-ms-meta".toList.length) : (metadataName name).toList = r := by
  have hlength : (p ++ ['-']).length = 10 := by
    rw [List.length_append, hp]
    decide
  rw [metadataName, String.toList_ofList, h, length_metadataStart, ← hlength]
  simp

/-- The lower form of a name begins as metadata does exactly if the name is one of metadata; what
follows is the lower form of the metadata name. -/
theorem lower_eq_metadataStart_append_iff {name : String} {t : List Char} :
    lower name.toList = Name.metadataStart.toList ++ t ↔
      isMetadata name = true ∧ lower (metadataName name).toList = t := by
  have hcut : ∀ {t}, lower name.toList = Name.metadataStart.toList ++ t →
      lower (metadataName name).toList = t := by
    intro t h
    rw [toList_metadataStart, List.append_assoc, List.singleton_append,
      lower_eq_append_hyphen_iff isPlain_of_mem_start] at h
    obtain ⟨p, r, hname, hp, -, hr⟩ := h
    rw [toList_metadataName hname hp, hr]
  constructor
  · intro h
    exact ⟨beginsWith_iff.2 ⟨t, h⟩, hcut h⟩
  · rintro ⟨h, rfl⟩
    obtain ⟨t, ht⟩ := beginsWith_iff.1 h
    rw [hcut ht, ht]

theorem lowerString_eq_metadataStart_append_iff {name key : String} :
    lowerString name = Name.metadataStart ++ lowerString key ↔
      isMetadata name = true ∧ lowerString (metadataName name) = lowerString key := by
  have hlist : ∀ s : String, (lowerString s).toList = lower s.toList := fun s => by
    rw [lowerString, String.toList_ofList]
  rw [← String.toList_inj, String.toList_append, hlist, hlist, lower_eq_metadataStart_append_iff,
    ← String.toList_inj, hlist, hlist]

theorem lowerString_metadataStart_append (key : String) :
    lowerString (Name.metadataStart ++ key) = Name.metadataStart ++ lowerString key := by
  have hstart : lower "x-ms-meta".toList = "x-ms-meta".toList := by decide +kernel
  rw [← String.toList_inj, lowerString, lowerString, String.toList_ofList, String.toList_append,
    String.toList_append, String.toList_ofList, toList_metadataStart, List.append_assoc,
    List.append_assoc, List.singleton_append, List.singleton_append, lower_append_hyphen, hstart]

/-! ## Headers with a value -/

/-- Whether a header carries metadata of a name: its own name is the beginning followed by that
name, ignoring letter case, and it has a value. -/
def Entry.Carries (e : Entry) (key : String) : Prop :=
  lowerString e.name = Name.metadataStart ++ lowerString key ∧ e.values ≠ []

instance (e : Entry) (key : String) : Decidable (e.Carries key) :=
  inferInstanceAs (Decidable (_ ∧ _))

theorem Entry.carries_iff_isNamed {e : Entry} {key : String} :
    e.Carries key ↔ e.IsNamed (Name.metadataStart ++ key) ∧ e.values ≠ [] := by
  rw [Carries, IsNamed, lowerString_metadataStart_append]

theorem Entry.metadata?_eq_some_iff {e : Entry} {key value : String} :
    e.metadata? = some (key, value) ↔
      isMetadata e.name = true ∧ metadataName e.name = key ∧ e.values.head? = some value := by
  rw [metadata?]
  by_cases h : isMetadata e.name = true
  · simp only [h, if_true, true_and, Option.map_eq_some_iff, Prod.mk.injEq]
    constructor
    · rintro ⟨value, hvalue, hkey, rfl⟩
      exact ⟨hkey, hvalue⟩
    · rintro ⟨hkey, hvalue⟩
      exact ⟨value, hvalue, hkey, rfl⟩
  · simp [h]

/-- The metadata entry that a header carries has a name exactly if the header carries metadata of
that name. -/
theorem Entry.any_hasName_metadata? (e : Entry) (key : String) :
    e.metadata?.any (CaseMap.hasName key) = decide (e.Carries key) := by
  rw [Bool.eq_iff_iff, decide_eq_true_iff, Carries, lowerString_eq_metadataStart_append_iff,
    Option.any_eq_true]
  constructor
  · rintro ⟨⟨key', value⟩, hentry, hname⟩
    obtain ⟨hmeta, hkey, hvalue⟩ := metadata?_eq_some_iff.1 hentry
    rw [CaseMap.hasName_iff, ← hkey] at hname
    refine ⟨⟨hmeta, hname⟩, fun hnil => ?_⟩
    simp [hnil] at hvalue
  · rintro ⟨⟨hmeta, hname⟩, hvalues⟩
    obtain ⟨value, rest, hcons⟩ := List.exists_cons_of_ne_nil hvalues
    exact ⟨(metadataName e.name, value), metadata?_eq_some_iff.2 ⟨hmeta, rfl, by rw [hcons]; rfl⟩,
      CaseMap.hasName_iff.2 hname⟩

/-! ## The metadata of the received headers -/

/-- What metadata has of the received headers. -/
structure Collects (m : CaseMap String) (entries : List Entry) : Prop where
  /-- A name is present exactly if some header carries metadata of it. -/
  contains : ∀ key, m.contains key = true ↔ ∃ e ∈ entries, e.Carries key
  /-- Its value is the first value of the last such header. -/
  value : ∀ key, m.get? key = (entries.filter (·.Carries key)).getLast?.bind (·.values.head?)
  /-- It is spelled as in the name of that header, without its first ten characters. -/
  stored : ∀ key value, (key, value) ∈ m.entries ↔
    ∃ e, (entries.filter (·.Carries key)).getLast? = some e ∧
      key = String.ofList (e.name.toList.drop 10) ∧ e.values.head? = some value
  /-- The names stand in the order of the first headers that carry metadata of them. -/
  order : m.entries.Pairwise fun a b =>
    entries.findIdx (·.Carries a.1) < entries.findIdx (·.Carries b.1)

theorem Entry.metadata?_of_carries {e : Entry} {key : String} (h : e.Carries key) :
    e.metadata? = e.values.head?.map (metadataName e.name, ·) := by
  rw [metadata?, if_pos (lowerString_eq_metadataStart_append_iff.1 h.1).1]

/-- What metadata has under a name comes from the last header that carries metadata of it. -/
theorem View.find?_metadata (v : View) (key : String) :
    v.metadata.find? key =
      (v.received.filter (·.Carries key)).getLast?.bind fun e =>
        e.values.head?.map (metadataName e.name, ·) := by
  rw [metadata, CaseMap.find?_ofPairs, getLast?_filter_filterMap]
  simp only [Entry.any_hasName_metadata?]
  cases hlast : (v.received.filter (·.Carries key)).getLast? with
  | none => rfl
  | some e =>
    have he : e.Carries key := of_decide_eq_true (List.mem_filter.1 (List.mem_of_getLast? hlast)).2
    exact Entry.metadata?_of_carries he

/-- Metadata has the last header of each name that carries a value. -/
theorem View.collects_metadata (v : View) : Collects v.metadata v.received where
  contains key := by
    rw [CaseMap.contains, CaseMap.get?_eq, Option.isSome_map, find?_metadata]
    cases hlast : (v.received.filter (·.Carries key)).getLast? with
    | none =>
      have hnone := List.filter_eq_nil_iff.1 (List.getLast?_eq_none_iff.1 hlast)
      simpa using hnone
    | some e =>
      obtain ⟨he, hcarries⟩ := List.mem_filter.1 (List.mem_of_getLast? hlast)
      have hcarries : e.Carries key := of_decide_eq_true hcarries
      simpa [hcarries.2] using ⟨e, he, hcarries⟩
  value key := by
    rw [CaseMap.get?_eq, find?_metadata, Option.map_bind]
    simp [Function.comp_def]
  stored key value := by
    have hnodup : v.metadata.lowerNames.Nodup := CaseMap.nodup_ofPairs _
    rw [CaseMap.mem_entries_iff hnodup, find?_metadata, Option.bind_eq_some_iff]
    refine exists_congr fun e => and_congr_right fun _ => ?_
    rw [Option.map_eq_some_iff, metadataName, length_metadataStart]
    constructor
    · rintro ⟨value, hvalue, h⟩
      obtain ⟨hkey, rfl⟩ := Prod.mk.inj h
      exact ⟨hkey.symm, hvalue⟩
    · rintro ⟨rfl, hvalue⟩
      exact ⟨value, hvalue, rfl⟩
  order := by
    have h := CaseMap.pairwise_ofPairs (v.received.filterMap Entry.metadata?)
    refine h.imp fun {a b} hab => ?_
    simpa only [Entry.any_hasName_metadata?] using findIdx_lt_of_filterMap hab

/-! ## Agreement with the look-up -/

/-- The values of a metadata header are those of all headers that carry metadata of its name. -/
theorem View.Shows.all_metadata {v : View} {entries : List Entry} (h : v.Shows entries)
    (key : String) :
    v.all (Name.metadataStart ++ key) = (entries.filter (·.Carries key)).flatMap (·.values) := by
  rw [h.all]
  clear h
  induction entries with
  | nil => rfl
  | cons e entries ih =>
    rw [List.filter_cons, List.filter_cons]
    by_cases hname : e.IsNamed (Name.metadataStart ++ key)
    · by_cases hvalues : e.values = []
      · simp [Entry.carries_iff_isNamed, hname, hvalues, ih]
      · simp [Entry.carries_iff_isNamed, hname, hvalues, ih]
    · simp [Entry.carries_iff_isNamed, hname, ih]

/-- A look-up finds a value exactly if some header carries metadata of the name. -/
theorem View.Shows.header?_metadata_ne_none {v : View} {entries : List Entry} (h : v.Shows entries)
    (key : String) :
    v.header? (Name.metadataStart ++ key) ≠ none ↔ ∃ e ∈ entries, e.Carries key := by
  rw [h.header, h.all_metadata, ne_eq, List.head?_eq_none_iff, List.flatMap_eq_nil_iff]
  push Not
  constructor
  · rintro ⟨e, he, -⟩
    obtain ⟨hmem, hcarries⟩ := List.mem_filter.1 he
    exact ⟨e, hmem, of_decide_eq_true hcarries⟩
  · rintro ⟨e, he, hcarries⟩
    exact ⟨e, List.mem_filter.2 ⟨he, decide_eq_true hcarries⟩, hcarries.2⟩

/-! ## The metadata of a reply -/

/-- **Metadata has the last header of each name.** A reply whose header names are texts or null has
metadata that collects its headers. A name is in it exactly if a look-up of the header finds a
value; where one header alone has that name and a value, both find the same. A reply with a header
that cannot be written has none. -/
theorem metadata_of_names {r : Response} (h : HasNames r) :
    ∃ pairs, Hands r pairs ∧
      (Writable pairs → ∃ v m, r.headers = .ok v ∧ r.read .metadata = .ok m ∧
        Reads pairs v.received ∧ Collects m v.received ∧
        (∀ key, m.contains key = true ↔ v.header? (Name.metadataStart ++ key) ≠ none) ∧
        ∀ key e, v.received.filter (fun e =>
            e.IsNamed (Name.metadataStart ++ key) ∧ e.values ≠ []) = [e] →
          m.get? key = v.header? (Name.metadataStart ++ key)) ∧
      (¬ Writable pairs → r.read .metadata = .error (.unusable .longNumeral)) := by
  obtain ⟨pairs, hhands, hn⟩ := exists_hands h
  refine ⟨pairs, hhands, fun hw => ?_, fun hw => ?_⟩
  · obtain ⟨entries, hentries⟩ := exists_reads hn hw
    have hshows := View.shows_ofEntries entries
    have hcollects := (View.ofEntries entries).collects_metadata
    have hheaders := hhands.headers.trans (View.ofPairs_of_reads hentries)
    refine ⟨_, _, hheaders, Response.read_of_headers hheaders .metadata, ?_⟩
    rw [View.received_ofEntries] at hcollects ⊢
    refine ⟨hentries, hcollects, fun key => ?_, fun key e hsingle => ?_⟩
    · rw [hcollects.contains, hshows.header?_metadata_ne_none]
    · simp only [← Entry.carries_iff_isNamed] at hsingle
      rw [hcollects.value, hshows.header, hshows.all_metadata, hsingle]
      simp
  · rw [Response.read, hhands.headers, View.ofPairs_of_not_writable hn hw]
    rfl

/-- Two spellings of one metadata name, a header without a value, and a metadata name that is a
capital sigma. -/
def metadataPairs : Pairs :=
  [(.text "x-ms-meta-A", .text "1"), (.text "X-Ms-Meta-\u03A3", .text "2"), (.null, .text "200"),
    (.text "x-ms-meta-b", .list []), (.text "X-MS-META-a", .list [.text "3", .text "4"])]

/-- Metadata has the last value of a name that is spelled in two ways. -/
theorem metadata_of_metadataPairs :
    HasNames (.object metadataPairs) ∧
      ∃ v m, (Response.object metadataPairs).headers = .ok v ∧
        (Response.object metadataPairs).read .metadata = .ok m ∧
        m.get? "A" = some "3" ∧ m.contains "b" = false ∧
        m.get? "\u03C3" = v.header? "x-ms-meta-\u03C3" := by
  have hnames : HasNames (.object metadataPairs) := by
    show Named metadataPairs
    decide
  refine ⟨hnames, ?_⟩
  obtain ⟨pairs, hhands, hwritten, -⟩ := metadata_of_names hnames
  cases hhands
  obtain ⟨v, m, hv, hm, hreads, hcollects, -, hsingle⟩ := hwritten (by decide)
  have hshown : Reads metadataPairs [⟨"x-ms-meta-A", ["1"]⟩, ⟨"X-Ms-Meta-\u03A3", ["2"]⟩,
      ⟨"x-ms-meta-b", []⟩, ⟨"X-MS-META-a", ["3", "4"]⟩] :=
    .named _ rfl (.named _ rfl (.unnamed _ (.named _ rfl (.named _ rfl .nil))))
  have hreceived := hreads.unique hshown
  refine ⟨v, m, hv, hm, ?_, ?_, hsingle _ ⟨"X-Ms-Meta-\u03A3", ["2"]⟩ ?_⟩
  · rw [hcollects.value, hreceived]
    decide +kernel
  · rw [Bool.eq_false_iff, ne_eq, hcollects.contains, hreceived]
    decide +kernel
  · rw [hreceived]
    decide +kernel

end StorageReply.Headers
