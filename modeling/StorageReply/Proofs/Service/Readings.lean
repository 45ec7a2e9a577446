import StorageReply.Proofs.Service.Fields

/-!
# Settings that were read

What a reader gives is in the form that a document keeps: versions and members of lists are bare,
days and counters stand only where they are in force, and every integer has a numeral.

* `ServiceProperties.Kept`: settings that a document keeps as they are.
* `ServiceProperties.kept_of_ofElement`: settings that were read are kept.
-/

namespace StorageReply

open Number Text Xml

/-! ## The form of settings -/

/-- Whether a document keeps a policy as it is, and can show its integers. -/
def RetentionPolicy.Kept (p : RetentionPolicy) : Prop :=
  p.normalized = p ∧ ∀ i ∈ p.integers, hasNumeral i = true

theorem RetentionPolicy.kept_of_ofElement {e : Element} {p : RetentionPolicy}
    (h : ofElement e = .ok p) : p.Kept := by
  obtain ⟨enabled, -, h⟩ := bind_eq_ok_iff.1 h
  cases enabled with
  | false =>
    obtain rfl := Except.ok.inj h
    exact ⟨rfl, by simp [integers]⟩
  | true =>
    obtain ⟨days, hdays, h⟩ := bind_eq_ok_iff.1 h
    obtain rfl := Except.ok.inj h
    refine ⟨rfl, ?_⟩
    intro i hi
    obtain rfl : days = some i := by simpa [integers] using hi
    exact Field.hasNumeral_of_integer hdays

theorem RetentionPolicy.kept_of_ofParent {e : Element} {p : RetentionPolicy}
    (h : ofParent e = .ok p) : p.Kept := by
  simp only [ofParent] at h
  split at h
  · exact kept_of_ofElement h
  · obtain rfl := Except.ok.inj h
    exact ⟨rfl, by simp [integers]⟩

theorem stripped_childText? {e : Element} {name s : String} (h : e.childText? name = some s) :
    stripped s = s := by
  obtain ⟨child, -, rfl⟩ := Option.map_eq_some_iff.1 h
  exact stripped_stripped child.text

theorem stripped_versionOf (e : Element) : stripped (versionOf e) = versionOf e := by
  rw [versionOf]
  cases h : e.childText? "Version" with
  | none => rfl
  | some s => exact stripped_childText? h

/-- Whether a document keeps logging settings as they are, and can show their integers. -/
def LoggingProperties.Kept (p : LoggingProperties) : Prop :=
  p.normalized = p ∧ ∀ i ∈ p.retention.integers, hasNumeral i = true

theorem LoggingProperties.kept_of_ofElement {e : Element} {p : LoggingProperties}
    (h : ofElement e = .ok p) : p.Kept := by
  obtain ⟨delete, -, h⟩ := bind_eq_ok_iff.1 h
  obtain ⟨read, -, h⟩ := bind_eq_ok_iff.1 h
  obtain ⟨write, -, h⟩ := bind_eq_ok_iff.1 h
  obtain ⟨retention, hretention, h⟩ := bind_eq_ok_iff.1 h
  obtain rfl := Except.ok.inj h
  obtain ⟨hsame, hintegers⟩ := RetentionPolicy.kept_of_ofParent hretention
  refine ⟨?_, hintegers⟩
  rw [normalized, hsame, stripped_versionOf]

/-- Whether a document keeps metrics settings as they are, and can show their integers. -/
def MetricsProperties.Kept (p : MetricsProperties) : Prop :=
  p.normalized = p ∧ ∀ i ∈ p.retention.integers, hasNumeral i = true

theorem MetricsProperties.kept_of_ofElement {e : Element} {p : MetricsProperties}
    (h : ofElement e = .ok p) : p.Kept := by
  obtain ⟨enabled, -, h⟩ := bind_eq_ok_iff.1 h
  cases enabled with
  | false =>
    obtain ⟨includeApis, hincludeApis, h⟩ := bind_eq_ok_iff.1 h
    obtain rfl : none = includeApis := Except.ok.inj hincludeApis
    obtain ⟨retention, hretention, h⟩ := bind_eq_ok_iff.1 h
    obtain rfl := Except.ok.inj h
    obtain ⟨hsame, hintegers⟩ := RetentionPolicy.kept_of_ofParent hretention
    refine ⟨?_, hintegers⟩
    rw [normalized, hsame, stripped_versionOf]
    rfl
  | true =>
    obtain ⟨includeApis, hincludeApis, h⟩ := bind_eq_ok_iff.1 h
    obtain ⟨retention, hretention, h⟩ := bind_eq_ok_iff.1 h
    obtain rfl := Except.ok.inj h
    obtain ⟨hsame, hintegers⟩ := RetentionPolicy.kept_of_ofParent hretention
    obtain ⟨b, rfl⟩ : ∃ b, includeApis = some b := by
      cases hb : e.boolOf "IncludeAPIs" with
      | error failure => simp [hb, Except.map] at hincludeApis
      | ok b =>
        refine ⟨b, ?_⟩
        simpa [hb, Except.map] using hincludeApis.symm
    refine ⟨?_, hintegers⟩
    rw [normalized, hsame, stripped_versionOf]
    rfl

/-- Whether a document keeps a rule as it is, and can show its integer. -/
def CorsRule.Kept (r : CorsRule) : Prop :=
  r.normalized = r ∧ hasNumeral r.maxAgeInSeconds = true

theorem CorsRule.normalizedList_listOf (e : Element) (name : String) :
    normalizedList (e.listOf name) = e.listOf name :=
  normalizedList_eq_self_iff.2 fun _ => Field.isPart_of_mem_list

theorem CorsRule.kept_of_ofElement {e : Element} {r : CorsRule} (h : ofElement e = .ok r) :
    r.Kept := by
  obtain ⟨age, hage, h⟩ := bind_eq_ok_iff.1 h
  obtain rfl := Except.ok.inj h
  refine ⟨by simp only [normalized, normalizedList_listOf], ?_⟩
  cases age with
  | none => exact hasNumeral_zero
  | some i => exact Field.hasNumeral_of_integer hage

namespace ServiceProperties

/-- Whether a document keeps settings as they are, and can show their integers. -/
def Kept (p : ServiceProperties) : Prop :=
  p.normalized = p ∧ ∀ i ∈ p.integers, hasNumeral i = true

/-- A section that was read was read from an element of the document. -/
theorem exists_of_partOf {α : Type} {root : Element} {name : String}
    {read : Element → Except Failure α} {part : Option α} (h : partOf root name read = .ok part) :
    ∀ a ∈ part, ∃ e ∈ root.children, read e = .ok a := by
  intro a ha
  obtain rfl := Option.mem_def.1 ha
  rw [partOf] at h
  split at h
  · exact absurd (Except.ok.inj h) (by simp)
  · rename_i e he
    refine ⟨e, Element.mem_children_of_child? he, ?_⟩
    cases hread : read e with
    | error failure => simp [hread, Except.map] at h
    | ok b => simpa [hread, Except.map] using h

theorem kept_of_mem_rulesOf {e : Element} {rules : List CorsRule} (h : rulesOf e = .ok rules) :
    ∀ r ∈ rules, r.Kept := by
  intro r hr
  obtain ⟨c, -, hc⟩ := exists_of_mem_mapM h hr
  exact CorsRule.kept_of_ofElement hc

/-- **Settings that were read are kept**: their integers have numerals, and all that is left to
normalise in them are line breaks. -/
theorem kept_of_ofElement {root : Element} {p : ServiceProperties} (h : ofElement root = .ok p) :
    p.Kept := by
  obtain ⟨_, -, h⟩ := bind_eq_ok_iff.1 h
  obtain ⟨logging, hlogging, h⟩ := bind_eq_ok_iff.1 h
  obtain ⟨hour, hhour, h⟩ := bind_eq_ok_iff.1 h
  obtain ⟨minute, hminute, h⟩ := bind_eq_ok_iff.1 h
  obtain ⟨cors, hcors, h⟩ := bind_eq_ok_iff.1 h
  obtain rfl := Except.ok.inj h
  have hlogging : ∀ l ∈ logging, l.Kept := by
    intro l hl
    obtain ⟨e, -, he⟩ := exists_of_partOf hlogging l hl
    exact LoggingProperties.kept_of_ofElement he
  have hhour : ∀ m ∈ hour, m.Kept := by
    intro m hm
    obtain ⟨e, -, he⟩ := exists_of_partOf hhour m hm
    exact MetricsProperties.kept_of_ofElement he
  have hminute : ∀ m ∈ minute, m.Kept := by
    intro m hm
    obtain ⟨e, -, he⟩ := exists_of_partOf hminute m hm
    exact MetricsProperties.kept_of_ofElement he
  have hcors : ∀ rules ∈ cors, ∀ r ∈ rules, r.Kept := by
    intro rules hrules
    obtain ⟨e, -, he⟩ := exists_of_partOf hcors rules hrules
    exact kept_of_mem_rulesOf he
  refine ⟨?_, ?_⟩
  · have hversion : (givenVersion (root.childText? "DefaultServiceVersion")).map stripped
        = givenVersion (root.childText? "DefaultServiceVersion") :=
      optionMap_eq_self_iff.2 fun s hs => stripped_childText? (Option.mem_filter_iff.1 hs).1
    have hgiven : givenVersion (givenVersion (root.childText? "DefaultServiceVersion"))
        = givenVersion (root.childText? "DefaultServiceVersion") := by
      simp [givenVersion]
    simp only [normalized, hversion, hgiven]
    rw [optionMap_eq_self_iff.2 fun l hl => (hlogging l hl).1,
      optionMap_eq_self_iff.2 fun m hm => (hhour m hm).1,
      optionMap_eq_self_iff.2 fun m hm => (hminute m hm).1,
      optionMap_eq_self_iff.2 fun rules hrules =>
        listMap_eq_self_iff.2 fun r hr => (hcors rules hrules r hr).1]
  · simp only [integers, List.forall_mem_append, forall_mem_getD_map, List.forall_mem_map]
    exact ⟨⟨⟨fun l hl => (hlogging l hl).2, fun m hm => (hhour m hm).2⟩,
      fun m hm => (hminute m hm).2⟩, fun rules hrules r hr => (hcors rules hrules r hr).2⟩

end ServiceProperties

end StorageReply
