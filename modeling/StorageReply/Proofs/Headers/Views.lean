import StorageReply.Headers.View
import StorageReply.Proofs.Headers.CaseMaps
import StorageReply.Proofs.Value.Numerals

/-!
# What a header view shows

A view keeps the received headers beside a map that gathers the values of equal names. Both are
built in one pass, and whatever is asked of the map can be told from the received headers
(`View.Shows`): a name stands for all headers that have it in any letter case, with their values in
the order of arrival. One more header changes one entry (`View.find?_add`); the view of a list of
headers follows by induction (`View.find?_ofEntries`).

A view is made from pairs of name and value. `Reads` says which headers the pairs stand for, and
`view_of_pairs` that a view of named pairs loses and invents none of them. It is not made, and the
failure is that of writing an integer with too long a numeral, where a value cannot be written.
-/

namespace StorageReply.Headers

open Number Text

/-! ## Names -/

/-- Whether a header has a name, ignoring letter case. -/
def Entry.IsNamed (e : Entry) (name : String) : Prop := lowerString e.name = lowerString name

instance (e : Entry) (name : String) : Decidable (e.IsNamed name) :=
  inferInstanceAs (Decidable (_ = _))

namespace View

/-! ## One more header -/

theorem lowerNames_add (v : View) (e : Entry) :
    (v.add e).gathered.lowerNames =
      if lowerString e.name ∈ v.gathered.lowerNames then v.gathered.lowerNames
      else v.gathered.lowerNames ++ [lowerString e.name] := by
  have hcontains : v.gathered.contains e.name = true ↔
      lowerString e.name ∈ v.gathered.lowerNames := by
    simp [CaseMap.contains, CaseMap.get?, CaseMap.lowerNames, CaseMap.hasName]
  rw [add]
  dsimp only
  by_cases h : v.gathered.contains e.name = true
  · rw [if_pos h, if_pos (hcontains.1 h), CaseMap.lowerNames_update]
  · rw [if_neg h, CaseMap.lowerNames_put]

/-- One more header adds its values to the entry of its name; the casing of a present name stays. -/
theorem find?_add (v : View) (e : Entry) (name : String) :
    (v.add e).gathered.find? name =
      if e.IsNamed name then
        match v.gathered.find? name with
        | some (first, values) => some (first, values ++ e.values)
        | none => some (e.name, e.values)
      else v.gathered.find? name := by
  rw [add]
  dsimp only
  by_cases hname : lowerString e.name = lowerString name
  · have hsame : v.gathered.find? e.name = v.gathered.find? name := by
      rw [CaseMap.find?, CaseMap.find?, CaseMap.hasName_congr hname]
    rw [if_pos (show e.IsNamed name from hname), CaseMap.contains, CaseMap.get?_eq, hsame]
    cases hentry : v.gathered.find? name with
    | none => rw [if_neg (by simp), CaseMap.find?_put, if_pos hname]
    | some entry =>
      rw [if_pos (by simp), CaseMap.find?_update, if_pos hname, hentry]
      rfl
  · rw [if_neg (show ¬ e.IsNamed name from hname)]
    split
    · rw [CaseMap.find?_update, if_neg hname]
    · rw [CaseMap.find?_put, if_neg hname]

/-! ## The view of a list of headers -/

theorem ofEntries_concat (entries : List Entry) (e : Entry) :
    ofEntries (entries ++ [e]) = (ofEntries entries).add e := by
  simp [ofEntries]

theorem lowerNames_ofEntries (entries : List Entry) :
    (ofEntries entries).gathered.lowerNames =
      (entries.map fun e => lowerString e.name).eraseDups := by
  induction entries using List.reverseRecOn with
  | nil => rfl
  | append_singleton entries e ih =>
    rw [ofEntries_concat, lowerNames_add, ih, List.map_append, List.map_singleton, eraseDups_concat]
    simp only [List.mem_eraseDups]

/-- The values of a name: those of all headers that have it, in the order of arrival. -/
def valuesOf (entries : List Entry) (name : String) : List String :=
  (entries.filter (·.IsNamed name)).flatMap (·.values)

theorem valuesOf_concat (entries : List Entry) (e : Entry) (name : String) :
    valuesOf (entries ++ [e]) name =
      valuesOf entries name ++ if e.IsNamed name then e.values else [] := by
  rw [valuesOf, List.filter_append, List.flatMap_append, valuesOf]
  split <;> simp_all

theorem valuesOf_of_find?_eq_none {entries : List Entry} {name : String}
    (h : entries.find? (·.IsNamed name) = none) : valuesOf entries name = [] := by
  rw [valuesOf, List.filter_eq_nil_iff.2 (List.find?_eq_none.1 h), List.flatMap_nil]

/-- The entry of a name has the casing of the first header of that name, and the values of all. -/
theorem find?_ofEntries (entries : List Entry) (name : String) :
    (ofEntries entries).gathered.find? name =
      (entries.find? (·.IsNamed name)).map fun e => (e.name, valuesOf entries name) := by
  induction entries using List.reverseRecOn with
  | nil => rfl
  | append_singleton entries e ih =>
    rw [ofEntries_concat, find?_add, ih, List.find?_append, valuesOf_concat]
    by_cases hname : e.IsNamed name
    · cases hfound : entries.find? (·.IsNamed name) with
      | none => simp [hname, valuesOf_of_find?_eq_none hfound]
      | some first => simp [hname]
    · simp [hname]

/-- What a view shows of the headers that it was made of. -/
structure Shows (v : View) (entries : List Entry) : Prop where
  /-- The received headers are those that arrived, in their order. -/
  received : v.receivedItems = entries.map fun e => (e.name, e.values)
  /-- The values of a name are those of the headers that have it, in the order of arrival. -/
  all : ∀ name, v.all name = (entries.filter (·.IsNamed name)).flatMap (·.values)
  /-- The value of a name is the first of these. -/
  header : ∀ name, v.header? name = (v.all name).head?
  /-- A name is present exactly if some header has it. -/
  contains : ∀ name, v.contains name = true ↔ ∃ e ∈ entries, e.IsNamed name
  /-- The gathered headers have the casing of the first header of their name, and all values. -/
  items : ∀ name values, (name, values) ∈ v.items ↔
    ∃ e, entries.find? (·.IsNamed name) = some e ∧ e.name = name ∧ values = v.all name
  /-- They stand in the order in which their names first arrived, and no two have one name. -/
  order : v.items.Pairwise fun a b =>
    entries.findIdx (·.IsNamed a.1) < entries.findIdx (·.IsNamed b.1)
  /-- There are as many as there are different names. -/
  size : v.size = (entries.map fun e => lowerString e.name).eraseDups.length

theorem all_ofEntries (entries : List Entry) (name : String) :
    (ofEntries entries).all name = valuesOf entries name := by
  rw [all, CaseMap.get?_eq, find?_ofEntries]
  cases hfound : entries.find? (·.IsNamed name) with
  | some first => rfl
  | none => rw [valuesOf_of_find?_eq_none hfound]; rfl

theorem shows_ofEntries (entries : List Entry) : (ofEntries entries).Shows entries where
  received := by rw [receivedItems, received_ofEntries]
  all := all_ofEntries entries
  header _ := rfl
  contains name := by
    rw [contains, CaseMap.contains, CaseMap.get?_eq, find?_ofEntries]
    simp
  items name values := by
    have hnodup : (ofEntries entries).gathered.lowerNames.Nodup := by
      rw [lowerNames_ofEntries]
      exact nodup_eraseDups _
    rw [View.items, CaseMap.mem_entries_iff hnodup, find?_ofEntries, all_ofEntries,
      Option.map_eq_some_iff]
    simp only [Prod.mk.injEq, eq_comm (a := values)]
  order := by
    have h := pairwise_eraseDups (entries.map fun e => lowerString e.name)
    rw [← lowerNames_ofEntries, CaseMap.lowerNames, List.pairwise_map] at h
    refine h.imp fun {a b} hab => ?_
    rwa [List.idxOf, List.idxOf, List.findIdx_map, List.findIdx_map] at hab
  size := by
    rw [← lowerNames_ofEntries, CaseMap.lowerNames, List.length_map]
    rfl

end View

/-! ## Pairs and the headers they stand for -/

/-- Whether a value can stand for the name of a header: a text, or null for no name. -/
def isHeaderName : Value → Bool
  | .null => true
  | .text _ => true
  | _ => false

/-- Pairs whose names are texts or null. -/
def Named (pairs : Pairs) : Prop := ∀ pair ∈ pairs, isHeaderName pair.1 = true

/-- Pairs whose values can be written where they have a name: no integer in them has more digits
than a numeral may have (`Number.digitLimit`). -/
def Writable (pairs : Pairs) : Prop :=
  ∀ pair ∈ pairs, pair.1.text?.isSome = true → ∀ i ∈ pair.2.integers, hasNumeral i = true

instance (pairs : Pairs) : Decidable (Named pairs) := inferInstanceAs (Decidable (∀ _ ∈ _, _))

instance (pairs : Pairs) : Decidable (Writable pairs) := inferInstanceAs (Decidable (∀ _ ∈ _, _))

/-- The headers that pairs stand for, one by one and in order. A pair without a name stands for
none. -/
inductive Reads : Pairs → List Entry → Prop
  /-- No pairs stand for no headers. -/
  | nil : Reads [] []
  /-- A pair without a name is passed over. -/
  | unnamed (value : Value) {pairs : Pairs} {entries : List Entry} :
    Reads pairs entries → Reads ((.null, value) :: pairs) entries
  /-- A pair with a name is a header with the texts of its value. -/
  | named (name : String) {value : Value} {values : List String} {pairs : Pairs}
    {entries : List Entry} : valueTexts value = .ok values → Reads pairs entries →
    Reads ((.text name, value) :: pairs) (⟨name, values⟩ :: entries)

theorem Reads.unique {pairs : Pairs} {entries others : List Entry} (h : Reads pairs entries)
    (h' : Reads pairs others) : entries = others := by
  induction h generalizing others with
  | nil =>
    cases h'
    rfl
  | unnamed value _ ih =>
    cases h' with
    | unnamed _ hrest => exact ih hrest
  | named name hvalue _ ih =>
    cases h' with
    | named _ hvalue' hrest =>
      rw [hvalue] at hvalue'
      rw [Except.ok.inj hvalue', ih hrest]

/-- Whether a pair has a name, ignoring letter case. -/
def isNamed (name : String) (pair : Value × Value) : Bool :=
  pair.1.text?.any fun s => lowerString s == lowerString name

theorem Reads.filter {pairs : Pairs} {entries : List Entry} (h : Reads pairs entries)
    (name : String) : Reads (pairs.filter (isNamed name)) (entries.filter (·.IsNamed name)) := by
  induction h with
  | nil => exact .nil
  | unnamed value _ ih => exact ih
  | named name' hvalue _ ih =>
    rw [List.filter_cons, List.filter_cons]
    by_cases hname : lowerString name' = lowerString name
    · simpa [isNamed, Value.text?, Entry.IsNamed, hname] using Reads.named name' hvalue ih
    · simpa [isNamed, Value.text?, Entry.IsNamed, hname] using ih

/-! ## Values as texts -/

theorem valueText_eq_error {v : Value} (h : ¬ ∀ i ∈ v.integers, hasNumeral i = true) :
    valueText v = .error (.unusable .longNumeral) := by
  rw [← Value.isSome_display?_iff, Option.not_isSome_iff_eq_none] at h
  rw [valueText, h]

theorem exists_valueText {v : Value} (h : ∀ i ∈ v.integers, hasNumeral i = true) :
    ∃ s, valueText v = .ok s := by
  obtain ⟨s, hs⟩ := Option.isSome_iff_exists.1 (v.isSome_display?_iff.2 h)
  exact ⟨s, by rw [valueText, hs]⟩

theorem forall_mem_integersOfItems {items : List Value} {p : Int → Prop} :
    (∀ i ∈ Value.integersOfItems items, p i) ↔ ∀ v ∈ items, ∀ i ∈ v.integers, p i := by
  induction items with
  | nil => simp [Value.integersOfItems]
  | cons v items ih => simp [Value.integersOfItems, or_imp, forall_and, ih]

/-- A value that is no list is a single value of its header. -/
theorem valueTexts_of_ne_list {v : Value} (h : ∀ items, v ≠ .list items) :
    valueTexts v = (valueText v).map ([·]) := by
  rw [valueTexts]
  · cases valueText v <;> rfl
  · exact h

/-- The values of a header can be written if all integers in them have numerals. -/
theorem exists_valueTexts {v : Value} (h : ∀ i ∈ v.integers, hasNumeral i = true) :
    ∃ texts, valueTexts v = .ok texts := by
  cases v with
  | list items =>
    rw [Value.integers, forall_mem_integersOfItems] at h
    exact exists_mapM_eq_ok fun v hv => exists_valueText (h v hv)
  | _ =>
    obtain ⟨s, hs⟩ := exists_valueText h
    exact ⟨[s], by rw [valueTexts_of_ne_list (by simp), hs]; rfl⟩

theorem valueTexts_eq_error {v : Value} (h : ¬ ∀ i ∈ v.integers, hasNumeral i = true) :
    valueTexts v = .error (.unusable .longNumeral) := by
  cases v with
  | list items =>
    rw [Value.integers, forall_mem_integersOfItems, not_forall] at h
    obtain ⟨v, h⟩ := h
    obtain ⟨hv, hlong⟩ := not_forall.1 h
    refine mapM_eq_error (fun w _ => ?_) ⟨v, hv, valueText_eq_error hlong⟩
    by_cases hw : ∀ i ∈ w.integers, hasNumeral i = true
    · exact .inr (exists_valueText hw)
    · exact .inl (valueText_eq_error hw)
  | _ => rw [valueTexts_of_ne_list (by simp), valueText_eq_error h]; rfl

/-! ## The view of pairs -/

theorem exists_reads {pairs : Pairs} (hn : Named pairs) (hw : Writable pairs) :
    ∃ entries, Reads pairs entries := by
  induction pairs with
  | nil => exact ⟨[], .nil⟩
  | cons pair pairs ih =>
    obtain ⟨name, value⟩ := pair
    obtain ⟨entries, hentries⟩ := ih (fun p hp => hn p (List.mem_cons_of_mem _ hp))
      fun p hp => hw p (List.mem_cons_of_mem _ hp)
    have hname := hn _ (List.mem_cons_self ..)
    have hvalue := hw _ (List.mem_cons_self ..)
    cases name with
    | null => exact ⟨entries, .unnamed value hentries⟩
    | text name =>
      obtain ⟨values, hvalues⟩ := exists_valueTexts (hvalue rfl)
      exact ⟨_, .named name hvalues hentries⟩
    | _ => simp [isHeaderName] at hname

theorem Reads.writable {pairs : Pairs} {entries : List Entry} (h : Reads pairs entries) :
    Writable pairs := by
  induction h with
  | nil => simp [Writable]
  | unnamed value _ ih =>
    exact List.forall_mem_cons.2 ⟨fun hname => absurd hname (by simp [Value.text?]), ih⟩
  | @named name value _ _ _ hvalue _ ih =>
    refine List.forall_mem_cons.2 ⟨fun _ => ?_, ih⟩
    by_contra hlong
    rw [valueTexts_eq_error hlong] at hvalue
    cases hvalue

theorem View.ofPairs_of_reads {pairs : Pairs} {entries : List Entry} (h : Reads pairs entries) :
    View.ofPairs pairs = .ok (View.ofEntries entries) := by
  suffices hall : ∃ found, pairs.mapM entryOf = .ok found ∧ found.filterMap id = entries by
    obtain ⟨found, hfound, rfl⟩ := hall
    rw [ofPairs, hfound]
    rfl
  induction h with
  | nil => exact ⟨[], rfl, rfl⟩
  | unnamed value _ ih =>
    obtain ⟨found, hfound, rfl⟩ := ih
    exact ⟨none :: found, by rw [List.mapM_cons, hfound]; rfl, rfl⟩
  | named name hvalue _ ih =>
    obtain ⟨found, hfound, rfl⟩ := ih
    refine ⟨some ⟨name, _⟩ :: found, ?_, rfl⟩
    rw [List.mapM_cons, hfound, entryOf, hvalue]
    rfl

theorem entryOf_text (name : String) (value : Value) :
    entryOf (.text name, value) = (valueTexts value).map fun values => some ⟨name, values⟩ := by
  rw [entryOf]
  cases valueTexts value <;> rfl

theorem entryOf_eq_error_or_ok {pair : Value × Value} (h : isHeaderName pair.1 = true) :
    entryOf pair = .error (.unusable .longNumeral) ∨ ∃ found, entryOf pair = .ok found := by
  obtain ⟨name, value⟩ := pair
  cases name with
  | null => exact .inr ⟨none, rfl⟩
  | text name =>
    rw [entryOf_text]
    by_cases hvalue : ∀ i ∈ value.integers, hasNumeral i = true
    · obtain ⟨values, hvalues⟩ := exists_valueTexts hvalue
      exact .inr ⟨_, by rw [hvalues]; rfl⟩
    · exact .inl (by rw [valueTexts_eq_error hvalue]; rfl)
  | _ => simp [isHeaderName] at h

/-- The view of named pairs is not made where one of their values cannot be written. -/
theorem View.ofPairs_of_not_writable {pairs : Pairs} (hn : Named pairs) (hw : ¬ Writable pairs) :
    View.ofPairs pairs = .error (.unusable .longNumeral) := by
  rw [Writable, not_forall] at hw
  obtain ⟨⟨name, value⟩, hw⟩ := hw
  obtain ⟨hpair, hw⟩ := not_forall.1 hw
  obtain ⟨hname, hlong⟩ := not_forall.1 hw
  have hfails : entryOf (name, value) = .error (.unusable .longNumeral) := by
    cases name with
    | text name => rw [entryOf_text, valueTexts_eq_error hlong]; rfl
    | _ => cases hname
  rw [ofPairs, mapM_eq_error (fun other hother => entryOf_eq_error_or_ok (hn other hother))
    ⟨_, hpair, hfails⟩]
  rfl

/-- The pairs of each name decide on its values, whatever stands between them. -/
theorem valuesOf_eq_of_filter_eq {pairs others : Pairs} {entries found : List Entry} {name : String}
    (h : Reads pairs entries) (h' : Reads others found)
    (hsame : others.filter (isNamed name) = pairs.filter (isNamed name)) :
    View.valuesOf found name = View.valuesOf entries name := by
  have hfound := h'.filter name
  rw [hsame] at hfound
  rw [View.valuesOf, View.valuesOf, hfound.unique (h.filter name)]

/-- **A view loses and invents nothing.** Pairs that can be written make a view that shows exactly
the headers they stand for. Another order of the same pairs, in which those of each name stand in
their order, makes a view with the same values of every name. Pairs of which one cannot be written
make no view. -/
theorem view_of_pairs {pairs : Pairs} (hn : Named pairs) :
    (Writable pairs → ∃ v entries, View.ofPairs pairs = .ok v ∧ Reads pairs entries ∧
      v.Shows entries ∧
      ∀ others : Pairs, others.Perm pairs →
        (∀ name, others.filter (isNamed name) = pairs.filter (isNamed name)) →
        ∃ w, View.ofPairs others = .ok w ∧
          ∀ name, w.all name = v.all name ∧ w.header? name = v.header? name) ∧
    (¬ Writable pairs → View.ofPairs pairs = .error (.unusable .longNumeral)) := by
  refine ⟨fun hw => ?_, View.ofPairs_of_not_writable hn⟩
  obtain ⟨entries, hentries⟩ := exists_reads hn hw
  refine ⟨_, entries, View.ofPairs_of_reads hentries, hentries, View.shows_ofEntries entries, ?_⟩
  intro others hperm hsame
  obtain ⟨found, hfound⟩ :=
    exists_reads (fun p hp => hn p (hperm.subset hp)) fun p hp => hw p (hperm.subset hp)
  have hall : ∀ name, (View.ofEntries found).all name = (View.ofEntries entries).all name := by
    intro name
    rw [View.all_ofEntries, View.all_ofEntries,
      valuesOf_eq_of_filter_eq hentries hfound (hsame name)]
  refine ⟨_, View.ofPairs_of_reads hfound, fun name => ⟨hall name, ?_⟩⟩
  rw [View.header?, View.header?, hall name]

/-- A list of values, a line without a name, a header without values, and a name in another
casing. -/
def mixedPairs : Pairs :=
  [(.text "A", .list [.text "1", .null]), (.null, .text "200"), (.text "b", .list []),
    (.text "a", .bool true)]

/-- What the view of such pairs shows. -/
theorem view_of_mixedPairs :
    Named mixedPairs ∧ ∃ v, View.ofPairs mixedPairs = .ok v ∧
      v.receivedItems = [("A", ["1", "None"]), ("b", []), ("a", ["True"])] ∧
      v.all "a" = ["1", "None", "True"] ∧ v.contains "B" = true ∧ v.header? "B" = none := by
  have hn : Named mixedPairs := by decide
  refine ⟨hn, ?_⟩
  obtain ⟨v, entries, hv, hreads, hshows, -⟩ := (view_of_pairs hn).1 (by decide)
  have hshown : Reads mixedPairs [⟨"A", ["1", "None"]⟩, ⟨"b", []⟩, ⟨"a", ["True"]⟩] :=
    .named _ rfl (.unnamed _ (.named _ rfl (.named _ rfl .nil)))
  obtain rfl := hreads.unique hshown
  refine ⟨v, hv, hshows.received, ?_, (hshows.contains "B").2 ?_, ?_⟩
  · rw [hshows.all]
    decide +kernel
  · exact ⟨_, List.mem_cons_of_mem _ (List.mem_cons_self ..), by decide +kernel⟩
  · rw [hshows.header, hshows.all]
    decide +kernel

end StorageReply.Headers
