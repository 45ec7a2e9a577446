import StorageReply.Proofs.Service.Fields

/-!
# Trees of service properties

The element that is written for settings is read as what a document keeps of them.

* `ServiceProperties.ofElement_toElement`: the settings read from the element of settings.
-/

namespace StorageReply

open Number Text Xml

/-! ## Elements that were written -/

namespace RetentionPolicy

@[simp] theorem tag_toElement (p : RetentionPolicy) : p.toElement.tag = ⟨none, "RetentionPolicy"⟩ :=
  rfl

theorem ofElement_toElement {p : RetentionPolicy}
    (h : ∀ i ∈ p.integers, hasNumeral i = true) : ofElement p.toElement = .ok p.normalized := by
  obtain ⟨enabled, days⟩ := p
  cases enabled with
  | false =>
    simp [ofElement, toElement, Element.boolOf, childText?_make, normalized, bind, Except.bind,
      pure, Except.pure]
  | true =>
    cases days with
    | none =>
      simp [ofElement, toElement, Element.boolOf, Element.integerOf, childText?_make, normalized,
        bind, Except.bind, pure, Except.pure]
    | some i =>
      have hi : hasNumeral i = true := h i (by simp [integers])
      simp [ofElement, toElement, Element.boolOf, Element.integerOf, childText?_make, normalized,
        integer_strippedText_integerElement, hi, bind, Except.bind, pure, Except.pure]

end RetentionPolicy

theorem LoggingProperties.ofElement_toElement {p : LoggingProperties}
    (h : ∀ i ∈ p.retention.integers, hasNumeral i = true) :
    ofElement p.toElement = .ok p.normalized := by
  have hretention := RetentionPolicy.ofElement_toElement h
  simp [ofElement, toElement, Element.boolOf, versionOf, RetentionPolicy.ofParent, child?_make,
    childText?_make, hretention, normalized, bind, Except.bind, pure, Except.pure]

theorem MetricsProperties.ofElement_toElement {p : MetricsProperties} (name : String)
    (h : ∀ i ∈ p.retention.integers, hasNumeral i = true) :
    ofElement (p.toElement name) = .ok p.normalized := by
  have hretention := RetentionPolicy.ofElement_toElement h
  obtain ⟨version, enabled, includeApis, retention⟩ := p
  cases enabled <;>
    simp [ofElement, toElement, Element.boolOf, versionOf, RetentionPolicy.ofParent, child?_make,
      childText?_make, hretention, normalized, Except.map, bind, Except.bind, pure, Except.pure]

theorem CorsRule.ofElement_toElement {r : CorsRule} (h : hasNumeral r.maxAgeInSeconds = true) :
    ofElement r.toElement = .ok r.normalized := by
  simp [ofElement, toElement, Element.integerOf, Element.listOf, childText?_make,
    integer_strippedText_integerElement, h, normalized, bind, Except.bind, pure, Except.pure]

namespace ServiceProperties

/-- The element of a section that may be absent is found under its own name alone. -/
theorem find?_section {α : Type} {toElement : α → Element} {own : String}
    (hown : ∀ a, (toElement a).tag = ⟨none, own⟩) (part : Option α) (name : String) :
    (part.map toElement).toList.find? (·.tag.name == name)
      = if own == name then part.map toElement else none := by
  cases part with
  | none => simp
  | some a => by_cases h : own = name <;> simp [hown, h]

theorem bare_section {α : Type} {toElement : α → Element} {own : String}
    (hown : ∀ a, (toElement a).tag = ⟨none, own⟩) (part : Option α) :
    ∀ c ∈ (part.map toElement).toList, c.tag.space = none := by
  intro c hc
  obtain ⟨a, -, rfl⟩ := Option.map_eq_some_iff.1 (Option.mem_toList.1 hc)
  rw [hown]

/-- A section that was written is read, where there is one. -/
theorem partOf_of_child? {α : Type} (toElement : α → Element) {root : Element} {name : String}
    {part : Option α} {read : Element → Except Failure α} {keep : α → α}
    (hchild : root.child? name = part.map toElement)
    (hread : ∀ a ∈ part, read (toElement a) = .ok (keep a)) :
    partOf root name read = .ok (part.map keep) := by
  rw [partOf, hchild]
  cases part with
  | none => rfl
  | some a =>
    have ha := hread a rfl
    simp [ha, Except.map]

/-- The rules that were written are read in their order. -/
theorem rulesOf_make {rules : List CorsRule}
    (h : ∀ r ∈ rules, hasNumeral r.maxAgeInSeconds = true) :
    rulesOf (.make "Cors" "" (rules.map CorsRule.toElement))
      = .ok (rules.map CorsRule.normalized) := by
  have hnamed : (Element.make "Cors" "" (rules.map CorsRule.toElement)).childrenNamed "CorsRule"
      = rules.map CorsRule.toElement := by
    refine List.filter_eq_self.2 ?_
    intro c hc
    obtain ⟨r, -, rfl⟩ := List.mem_map.1 hc
    rfl
  rw [rulesOf, hnamed]
  clear hnamed
  induction rules with
  | nil => rfl
  | cons r rules ih =>
    have hr := CorsRule.ofElement_toElement (h r (List.mem_cons_self ..))
    have hrest := ih fun r hr => h r (List.mem_cons_of_mem _ hr)
    rw [List.map_cons, List.mapM_cons, hr, hrest]
    rfl

theorem givenVersion_some {s : String} (h : s ≠ "") : givenVersion (some s) = some s := by
  simp [givenVersion, Option.filter, h]

/-- The sections of the document of settings by their names. -/
theorem child?_toElement (p : ServiceProperties) (name : String) :
    p.toElement.child? name =
      (((((if "Logging" == name then p.logging.map LoggingProperties.toElement else none).or
        (if "HourMetrics" == name then p.hourMetrics.map (MetricsProperties.toElement "HourMetrics")
          else none)).or
        (if "MinuteMetrics" == name then
          p.minuteMetrics.map (MetricsProperties.toElement "MinuteMetrics") else none)).or
        (if "Cors" == name then
          p.cors.map fun rules => Element.make "Cors" "" (rules.map CorsRule.toElement)
        else none)).or
        (if "DefaultServiceVersion" == name then
          (givenVersion p.defaultVersion).map (textElement "DefaultServiceVersion")
        else none)) := by
  have hlogging : ∀ l, (LoggingProperties.toElement l).tag = ⟨none, "Logging"⟩ := fun _ => rfl
  have hmetrics : ∀ name m, (MetricsProperties.toElement name m).tag = ⟨none, name⟩ :=
    fun _ _ => rfl
  have hcors : ∀ rules : List CorsRule,
      (Element.make "Cors" "" (rules.map CorsRule.toElement)).tag = ⟨none, "Cors"⟩ := fun _ => rfl
  have hversion : ∀ s, (textElement "DefaultServiceVersion" s).tag
      = ⟨none, "DefaultServiceVersion"⟩ := fun _ => rfl
  rw [toElement, child?_make, List.find?_append, List.find?_append, List.find?_append,
    List.find?_append, find?_section hlogging, find?_section (hmetrics _),
    find?_section (hmetrics _), find?_section hcors, find?_section hversion]
  simp only [List.forall_mem_append]
  exact ⟨⟨⟨⟨bare_section hlogging _, bare_section (hmetrics _) _⟩, bare_section (hmetrics _) _⟩,
    bare_section hcors _⟩, bare_section hversion _⟩

/-- **The element of settings is read as what a document keeps of them**, if every integer that it
shows has a numeral. -/
theorem ofElement_toElement {p : ServiceProperties} (h : ∀ i ∈ p.integers, hasNumeral i = true) :
    ofElement p.toElement = .ok p.normalized := by
  have hlogging : partOf p.toElement "Logging" LoggingProperties.ofElement
      = .ok (p.logging.map LoggingProperties.normalized) := by
    refine partOf_of_child? LoggingProperties.toElement (by simp [child?_toElement]) ?_
    intro l hl
    exact LoggingProperties.ofElement_toElement fun i hi => h i (by simp_all [integers])
  have hhour : partOf p.toElement "HourMetrics" MetricsProperties.ofElement
      = .ok (p.hourMetrics.map MetricsProperties.normalized) := by
    refine partOf_of_child? (MetricsProperties.toElement "HourMetrics")
      (by simp [child?_toElement]) ?_
    intro m hm
    exact MetricsProperties.ofElement_toElement _ fun i hi => h i (by simp_all [integers])
  have hminute : partOf p.toElement "MinuteMetrics" MetricsProperties.ofElement
      = .ok (p.minuteMetrics.map MetricsProperties.normalized) := by
    refine partOf_of_child? (MetricsProperties.toElement "MinuteMetrics")
      (by simp [child?_toElement]) ?_
    intro m hm
    exact MetricsProperties.ofElement_toElement _ fun i hi => h i (by simp_all [integers])
  have hcors : partOf p.toElement "Cors" rulesOf
      = .ok (p.cors.map fun rules => rules.map CorsRule.normalized) := by
    refine partOf_of_child? (fun rules => .make "Cors" "" (rules.map CorsRule.toElement))
      (by simp [child?_toElement]) ?_
    intro rules hrules
    refine rulesOf_make fun r hr => h _ ?_
    have hmem := List.mem_map_of_mem (f := CorsRule.maxAgeInSeconds) hr
    simp_all [integers]
  have hversion : p.toElement.childText? "DefaultServiceVersion"
      = (givenVersion p.defaultVersion).map stripped := by
    simp [Element.childText?, child?_toElement, Function.comp_def]
  have hgiven : givenVersion ((givenVersion p.defaultVersion).map stripped)
      = givenVersion (p.defaultVersion.map stripped) := by
    cases p.defaultVersion with
    | none => rfl
    | some s =>
      by_cases hs : s = ""
      · subst hs
        rfl
      · rw [givenVersion_some hs]
  have hroot : p.toElement.expect rootName = .ok () := rfl
  rw [ofElement, hroot, hlogging, hhour, hminute, hcors, hversion, hgiven]
  rfl

end ServiceProperties

end StorageReply
