import StorageReply.Proofs.Service.Readings
import StorageReply.Proofs.Service.Trees
import StorageReply.Proofs.Xml.Reading

/-!
# Texts of service properties

The strings in settings: the versions and the members of the lists of a rule. A document shows all
of them but blank versions, so it is its strings that decide whether settings can be written, and
what line breaks do to them.

* `ServiceProperties.texts`, `ServiceProperties.mapTexts`: the strings, and a change to each.
* `ServiceProperties.plain_toElement`: settings of legible strings have a plain element.
* `ServiceProperties.mapText_toElement`: unifying the breaks of the element unifies those of the
  settings.
* `ServiceProperties.legible_of_ofElement`: the strings in settings that were read from a document
  consist of characters of documents.
* `ServiceProperties.normalized_mapTexts`: settings that a document keeps are still kept after that.
-/

namespace StorageReply

open Number Text Xml

/-! ## Strings -/

/-- Logging settings with their string changed. -/
def LoggingProperties.mapTexts (f : String → String) (p : LoggingProperties) : LoggingProperties :=
  { p with version := f p.version }

/-- Metrics settings with their string changed. -/
def MetricsProperties.mapTexts (f : String → String) (p : MetricsProperties) : MetricsProperties :=
  { p with version := f p.version }

namespace CorsRule

/-- The strings of a rule. -/
def texts (r : CorsRule) : List String :=
  r.allowedOrigins ++ r.allowedMethods ++ r.exposedHeaders ++ r.allowedHeaders

/-- A rule with its strings changed. -/
def mapTexts (f : String → String) (r : CorsRule) : CorsRule :=
  { r with
    allowedOrigins := r.allowedOrigins.map f
    allowedMethods := r.allowedMethods.map f
    exposedHeaders := r.exposedHeaders.map f
    allowedHeaders := r.allowedHeaders.map f }

end CorsRule

namespace ServiceProperties

/-- The strings of settings. -/
def texts (p : ServiceProperties) : List String :=
  (p.logging.map LoggingProperties.version).toList
    ++ (p.hourMetrics.map MetricsProperties.version).toList
    ++ (p.minuteMetrics.map MetricsProperties.version).toList
    ++ (p.cors.map fun rules => rules.flatMap CorsRule.texts).getD []
    ++ p.defaultVersion.toList

/-- Settings with their strings changed. -/
def mapTexts (f : String → String) (p : ServiceProperties) : ServiceProperties :=
  ⟨p.logging.map (.mapTexts f), p.hourMetrics.map (.mapTexts f), p.minuteMetrics.map (.mapTexts f),
    p.cors.map (·.map (.mapTexts f)), p.defaultVersion.map f⟩

end ServiceProperties

/-- What holds of all strings of settings, part by part. -/
theorem ServiceProperties.forall_mem_texts {p : ServiceProperties} {P : String → Prop} :
    (∀ s ∈ p.texts, P s) ↔
      (∀ l ∈ p.logging, P l.version) ∧ (∀ m ∈ p.hourMetrics, P m.version) ∧
        (∀ m ∈ p.minuteMetrics, P m.version) ∧
        (∀ rules ∈ p.cors, ∀ r ∈ rules, ∀ s ∈ r.texts, P s) ∧ ∀ s ∈ p.defaultVersion, P s := by
  simp only [texts, List.forall_mem_append, forall_mem_toList_map, forall_mem_getD_map,
    List.forall_mem_flatMap, and_assoc]
  simp only [Option.mem_toList, Option.mem_def]

theorem CorsRule.mapTexts_eq_self_iff {f : String → String} {r : CorsRule} :
    r.mapTexts f = r ↔ ∀ s ∈ r.texts, f s = s := by
  obtain ⟨origins, methods, age, exposed, allowed⟩ := r
  simp only [mapTexts, texts, CorsRule.mk.injEq, listMap_eq_self_iff, List.forall_mem_append]
  simp only [true_and, and_assoc]

/-- A change keeps settings just when it keeps every string of them. -/
theorem ServiceProperties.mapTexts_eq_self_iff {f : String → String} {p : ServiceProperties} :
    p.mapTexts f = p ↔ ∀ s ∈ p.texts, f s = s := by
  obtain ⟨logging, hour, minute, cors, version⟩ := p
  have hlogging : ∀ l : LoggingProperties, l.mapTexts f = l ↔ f l.version = l.version := by
    rintro ⟨⟩
    simp [LoggingProperties.mapTexts]
  have hmetrics : ∀ m : MetricsProperties, m.mapTexts f = m ↔ f m.version = m.version := by
    rintro ⟨⟩
    simp [MetricsProperties.mapTexts]
  simp only [mapTexts, forall_mem_texts, ServiceProperties.mk.injEq, optionMap_eq_self_iff,
    listMap_eq_self_iff, hlogging, hmetrics, CorsRule.mapTexts_eq_self_iff]

/-! ## Elements with unified breaks -/

theorem unifyBreaks_of_forall {s : String} (h : ∀ c ∈ s.toList, isBlank c = false) :
    unifyBreaks s = s := by
  refine unifyBreaks_eq_self_iff.2 fun hcr => ?_
  exact absurd (h '\r' hcr) (by decide)

theorem normalizeBreaks_joined (items : List (List Char)) :
    normalizeBreaks (joined [','] items) = joined [','] (items.map normalizeBreaks) := by
  induction items with
  | nil => rfl
  | cons item items ih =>
    cases items with
    | nil => rfl
    | cons next items =>
      have hrest : (',' :: joined [','] (next :: items)).head? ≠ some '\n' := by simp
      have hjoined : ∀ a b : List Char, ∀ more, joined [','] (a :: b :: more)
          = a ++ ',' :: joined [','] (b :: more) := by
        simp [joined]
      rw [List.map_cons, List.map_cons, hjoined, hjoined, normalizeBreaks_append item hrest,
        normalizeBreaks_cons (by decide), ih, List.map_cons]

theorem unifyBreaks_joinedStrings (items : List String) :
    unifyBreaks (joinedStrings "," items) = joinedStrings "," (items.map unifyBreaks) := by
  have hsep : ",".toList = [','] := rfl
  simp only [unifyBreaks, joinedStrings, hsep, String.toList_ofList, normalizeBreaks_joined,
    List.map_map]
  congr 3
  funext item
  simp

@[simp] theorem mapText_textElement (name text : String) :
    (textElement name text).mapText unifyBreaks = textElement name (unifyBreaks text) := by
  simp [textElement]

@[simp] theorem mapText_boolElement (name : String) (b : Bool) :
    (boolElement name b).mapText unifyBreaks = boolElement name b := by
  cases b <;> simp [boolElement] <;> rfl

@[simp] theorem mapText_integerElement (name : String) (i : Int) :
    (integerElement name i).mapText unifyBreaks = integerElement name i := by
  rw [integerElement, mapText_textElement, unifyBreaks_of_forall fun _ => isBlank_of_mem_numeral]

@[simp] theorem mapText_listElement (name : String) (items : List String) :
    (listElement name items).mapText unifyBreaks = listElement name (items.map unifyBreaks) := by
  rw [listElement, mapText_textElement, unifyBreaks_joinedStrings, listElement]

@[simp] theorem RetentionPolicy.mapText_toElement (p : RetentionPolicy) :
    p.toElement.mapText unifyBreaks = p.toElement := by
  obtain ⟨enabled, days⟩ := p
  cases enabled <;> cases days <;> simp [toElement]

theorem LoggingProperties.mapText_toElement (p : LoggingProperties) :
    p.toElement.mapText unifyBreaks = (p.mapTexts unifyBreaks).toElement := by
  simp [toElement, mapTexts]

theorem MetricsProperties.mapText_toElement (name : String) (p : MetricsProperties) :
    (p.toElement name).mapText unifyBreaks = (p.mapTexts unifyBreaks).toElement name := by
  obtain ⟨version, enabled, includeApis, retention⟩ := p
  cases enabled <;> simp [toElement, mapTexts]

theorem CorsRule.mapText_toElement (r : CorsRule) :
    r.toElement.mapText unifyBreaks = (r.mapTexts unifyBreaks).toElement := by
  simp [toElement, mapTexts]

/-- **Unifying the breaks of the element of settings** unifies those of the settings. -/
theorem ServiceProperties.mapText_toElement (p : ServiceProperties) :
    p.toElement.mapText unifyBreaks = (p.mapTexts unifyBreaks).toElement := by
  have hgiven : (givenVersion p.defaultVersion).map unifyBreaks
      = givenVersion (p.defaultVersion.map unifyBreaks) := by
    cases p.defaultVersion with
    | none => rfl
    | some s => by_cases hs : s.isEmpty <;> simp [givenVersion, Option.filter, hs]
  have hrule : (fun r : CorsRule => r.toElement.mapText unifyBreaks)
      = fun r => (r.mapTexts unifyBreaks).toElement := funext CorsRule.mapText_toElement
  simp [toElement, mapTexts, ← hgiven, Option.toList_map, Function.comp_def,
    LoggingProperties.mapText_toElement, MetricsProperties.mapText_toElement, hrule]

/-! ## Legible settings -/

/-- Every string of the settings consists of characters that a document may hold. -/
def ServiceProperties.Legible (p : ServiceProperties) : Prop :=
  ∀ s ∈ p.texts, LegibleText s.toList

instance (p : ServiceProperties) : Decidable p.Legible :=
  inferInstanceAs (Decidable (∀ s ∈ p.texts, LegibleText s.toList))

theorem legibleText_numeral (i : Int) : LegibleText (numeral i).toList := by
  intro c hc
  rcases isDigit_or_minus_of_mem_numeral hc with h | rfl
  · obtain ⟨hlow, hhigh⟩ := isDigit_iff.1 h
    simp only [isXmlChar, Bool.or_eq_true, Bool.and_eq_true, bne_iff_ne, beq_iff_eq,
      decide_eq_true_eq]
    omega
  · decide

theorem legibleText_joined {items : List (List Char)} (h : ∀ item ∈ items, LegibleText item) :
    LegibleText (joined [','] items) := by
  induction items with
  | nil => simp [joined, LegibleText]
  | cons item items ih =>
    obtain ⟨hitem, hitems⟩ := List.forall_mem_cons.1 h
    cases items with
    | nil => exact hitem
    | cons next items =>
      have hcomma : LegibleText [','] := by decide
      rw [joined]
      · exact List.forall_mem_append.2 ⟨List.forall_mem_append.2 ⟨hitem, hcomma⟩, ih hitems⟩
      · simp

theorem plain_textElement {name text : String} (hname : IsName name.toList)
    (htext : LegibleText text.toList) : (textElement name text).Plain :=
  .intro hname htext (List.forall_mem_nil _) (by simp [LegibleText])

theorem plain_boolElement {name : String} (hname : IsName name.toList) (b : Bool) :
    (boolElement name b).Plain := by
  refine plain_textElement hname ?_
  cases b <;> decide +kernel

theorem plain_integerElement {name : String} (hname : IsName name.toList) (i : Int) :
    (integerElement name i).Plain :=
  plain_textElement hname (legibleText_numeral i)

theorem plain_listElement {name : String} (hname : IsName name.toList) {items : List String}
    (h : ∀ item ∈ items, LegibleText item.toList) : (listElement name items).Plain := by
  refine plain_textElement hname ?_
  rw [joinedStrings, String.toList_ofList]
  exact legibleText_joined (List.forall_mem_map.2 h)

theorem plain_make {name : String} {children : List Element} (hname : IsName name.toList)
    (h : ∀ e ∈ children, e.Plain) : (Element.make name "" children).Plain :=
  .intro hname (by simp [LegibleText]) h (by simp [LegibleText])

theorem RetentionPolicy.plain_toElement (p : RetentionPolicy) : p.toElement.Plain := by
  refine plain_make (by decide) ?_
  refine List.forall_mem_cons.2 ⟨plain_boolElement (by decide) _, ?_⟩
  split
  · simp only [forall_mem_toList_map]
    exact fun i _ => plain_integerElement (by decide) i
  · exact List.forall_mem_nil _

theorem LoggingProperties.plain_toElement {p : LoggingProperties}
    (h : LegibleText p.version.toList) : p.toElement.Plain := by
  refine plain_make (by decide) ?_
  simp only [List.forall_mem_cons]
  exact ⟨plain_textElement (by decide) h,
    plain_boolElement (by decide) _, plain_boolElement (by decide) _,
    plain_boolElement (by decide) _, p.retention.plain_toElement,
    List.forall_mem_nil _⟩

theorem MetricsProperties.plain_toElement {name : String} (hname : IsName name.toList)
    {p : MetricsProperties} (h : LegibleText p.version.toList) : (p.toElement name).Plain := by
  refine plain_make hname ?_
  simp only [List.forall_mem_cons, List.forall_mem_append]
  refine ⟨plain_textElement (by decide) h,
    plain_boolElement (by decide) _, ?_, p.retention.plain_toElement,
    List.forall_mem_nil _⟩
  split
  · simpa using plain_boolElement (by decide) _
  · exact List.forall_mem_nil _

theorem CorsRule.plain_toElement {r : CorsRule} (h : ∀ s ∈ r.texts, LegibleText s.toList) :
    r.toElement.Plain := by
  simp only [texts, List.forall_mem_append] at h
  obtain ⟨⟨⟨horigins, hmethods⟩, hexposed⟩, hallowed⟩ := h
  refine plain_make (by decide) ?_
  simp only [List.forall_mem_cons]
  exact ⟨plain_listElement (by decide) horigins,
    plain_listElement (by decide) hmethods,
    plain_integerElement (by decide) _,
    plain_listElement (by decide) hexposed,
    plain_listElement (by decide) hallowed, List.forall_mem_nil _⟩

/-- **Legible settings have a plain element**, which a reader of documents understands. -/
theorem ServiceProperties.plain_toElement {p : ServiceProperties} (h : p.Legible) :
    p.toElement.Plain := by
  obtain ⟨hlogging, hhour, hminute, hcors, hversion⟩ := forall_mem_texts.1 h
  refine plain_make (by decide) ?_
  simp only [List.forall_mem_append, forall_mem_toList_map]
  refine ⟨⟨⟨⟨?_, ?_⟩, ?_⟩, ?_⟩, ?_⟩
  · exact fun l hl => LoggingProperties.plain_toElement (hlogging l hl)
  · exact fun m hm => MetricsProperties.plain_toElement (by decide) (hhour m hm)
  · exact fun m hm => MetricsProperties.plain_toElement (by decide) (hminute m hm)
  · intro rules hrules
    refine plain_make (by decide) (List.forall_mem_map.2 fun r hr => ?_)
    exact CorsRule.plain_toElement (hcors rules hrules r hr)
  · intro s hs
    exact plain_textElement (by decide) (hversion s (Option.mem_filter_iff.1 hs).1)

theorem Xml.Element.Legible.childText? {e : Element} (he : e.Legible) {name s : String}
    (h : e.childText? name = some s) : LegibleText s.toList := by
  obtain ⟨c, hc, rfl⟩ := Option.map_eq_some_iff.1 h
  have hlegible := (he.children c (Element.mem_children_of_child? hc)).text
  intro d hd
  rw [Element.strippedText, stripped, String.toList_ofList] at hd
  exact hlegible d (mem_of_mem_strip hd)

theorem Xml.Element.Legible.versionOf {e : Element} (he : e.Legible) :
    LegibleText (versionOf e).toList := by
  rw [StorageReply.versionOf]
  cases h : e.childText? "Version" with
  | none => decide +kernel
  | some s => exact he.childText? h

theorem Xml.Element.Legible.listOf {e : Element} (he : e.Legible) (name : String) :
    ∀ item ∈ e.listOf name, LegibleText item.toList := by
  intro item hitem
  rw [Element.listOf] at hitem
  cases h : e.childText? name with
  | none => simp [h, Field.list] at hitem
  | some s =>
    rw [h] at hitem
    obtain ⟨part, hpart, rfl⟩ := List.mem_map.1 hitem
    obtain ⟨piece, hpiece, rfl⟩ := List.mem_map.1 (List.mem_filter.1 hpart).1
    intro c hc
    rw [String.toList_ofList] at hc
    exact he.childText? h c (subset_of_mem_pieces hpiece c (mem_of_mem_strip hc))

theorem LoggingProperties.legible_of_ofElement {e : Element} (he : e.Legible)
    {p : LoggingProperties} (h : ofElement e = .ok p) : LegibleText p.version.toList := by
  obtain ⟨_, -, h⟩ := bind_eq_ok_iff.1 h
  obtain ⟨_, -, h⟩ := bind_eq_ok_iff.1 h
  obtain ⟨_, -, h⟩ := bind_eq_ok_iff.1 h
  obtain ⟨_, -, h⟩ := bind_eq_ok_iff.1 h
  obtain rfl := Except.ok.inj h
  exact he.versionOf

theorem MetricsProperties.legible_of_ofElement {e : Element} (he : e.Legible)
    {p : MetricsProperties} (h : ofElement e = .ok p) : LegibleText p.version.toList := by
  obtain ⟨enabled, -, h⟩ := bind_eq_ok_iff.1 h
  cases enabled <;>
  · obtain ⟨_, -, h⟩ := bind_eq_ok_iff.1 h
    obtain ⟨_, -, h⟩ := bind_eq_ok_iff.1 h
    obtain rfl := Except.ok.inj h
    exact he.versionOf

theorem CorsRule.legible_of_ofElement {e : Element} (he : e.Legible) {r : CorsRule}
    (h : ofElement e = .ok r) : ∀ s ∈ r.texts, LegibleText s.toList := by
  obtain ⟨_, -, h⟩ := bind_eq_ok_iff.1 h
  obtain rfl := Except.ok.inj h
  simp only [texts, List.forall_mem_append]
  exact ⟨⟨⟨he.listOf _, he.listOf _⟩, he.listOf _⟩, he.listOf _⟩

/-- **Settings that were read from a legible root are legible.** -/
theorem ServiceProperties.legible_of_ofElement {root : Element} (hroot : root.Legible)
    {p : ServiceProperties} (h : ofElement root = .ok p) : p.Legible := by
  obtain ⟨_, -, h⟩ := bind_eq_ok_iff.1 h
  obtain ⟨logging, hlogging, h⟩ := bind_eq_ok_iff.1 h
  obtain ⟨hour, hhour, h⟩ := bind_eq_ok_iff.1 h
  obtain ⟨minute, hminute, h⟩ := bind_eq_ok_iff.1 h
  obtain ⟨cors, hcors, h⟩ := bind_eq_ok_iff.1 h
  obtain rfl := Except.ok.inj h
  refine forall_mem_texts.2 ⟨?_, ?_, ?_, ?_, ?_⟩
  · intro l hl
    obtain ⟨e, he, hread⟩ := exists_of_partOf hlogging l hl
    exact LoggingProperties.legible_of_ofElement (hroot.children e he) hread
  · intro m hm
    obtain ⟨e, he, hread⟩ := exists_of_partOf hhour m hm
    exact MetricsProperties.legible_of_ofElement (hroot.children e he) hread
  · intro m hm
    obtain ⟨e, he, hread⟩ := exists_of_partOf hminute m hm
    exact MetricsProperties.legible_of_ofElement (hroot.children e he) hread
  · intro rules hrules r hr
    obtain ⟨e, he, hread⟩ := exists_of_partOf hcors rules hrules
    obtain ⟨c, hc, hrule⟩ := exists_of_mem_mapM hread hr
    have hlegible := (hroot.children e he).children c (List.mem_filter.1 hc).1
    exact CorsRule.legible_of_ofElement hlegible hrule
  · intro s hs
    exact hroot.childText? (Option.mem_filter_iff.1 hs).1

/-! ## Kept settings -/

theorem Text.Bare.normalizeBreaks {s : List Char} (h : Bare s) : Bare (normalizeBreaks s) := by
  obtain ⟨hfirst, hlast⟩ := h
  constructor
  · cases s with
    | nil => simp
    | cons c s =>
      have hc := hfirst c rfl
      have hcr : c ≠ '\r' := by
        rintro rfl
        exact absurd hc (by decide)
      rw [normalizeBreaks_cons hcr]
      simpa using hc
  · rcases List.eq_nil_or_concat s with rfl | ⟨init, c, rfl⟩
    · simp
    · rw [List.concat_eq_append] at hlast ⊢
      have hc := hlast c (by simp)
      have hcr : c ≠ '\r' := by
        rintro rfl
        exact absurd hc (by decide)
      have hlf : [c].head? ≠ some '\n' := by
        intro heq
        obtain rfl := Option.some.inj heq
        exact absurd hc (by decide)
      rw [normalizeBreaks_append init hlf, normalizeBreaks_cons hcr]
      simpa using hc

theorem stripped_eq_self_iff {s : String} : stripped s = s ↔ Bare s.toList := by
  rw [← strip_eq_self_iff, stripped, ← String.toList_inj, String.toList_ofList]

theorem stripped_unifyBreaks {s : String} (h : stripped s = s) :
    stripped (unifyBreaks s) = unifyBreaks s := by
  rw [stripped_eq_self_iff] at h ⊢
  simpa using h.normalizeBreaks

theorem Field.IsPart.normalizeBreaks {s : List Char} (h : IsPart s) :
    IsPart (normalizeBreaks s) := by
  obtain ⟨hne, hbare, hcomma⟩ := h
  refine ⟨by simpa [normalizeBreaks_eq_nil_iff] using hne, hbare.normalizeBreaks, ?_⟩
  intro hmem
  rcases (mem_of_mem_normalizeBreaks hmem).2 with hmem | heq
  · exact hcomma hmem
  · exact absurd heq (by decide)

theorem LoggingProperties.normalized_mapTexts {p : LoggingProperties} (h : p.normalized = p) :
    (p.mapTexts unifyBreaks).normalized = p.mapTexts unifyBreaks := by
  obtain ⟨version, delete, read, write, retention⟩ := p
  simp only [normalized, mapTexts, LoggingProperties.mk.injEq, true_and] at h ⊢
  exact ⟨stripped_unifyBreaks h.1, h.2⟩

theorem MetricsProperties.normalized_mapTexts {p : MetricsProperties} (h : p.normalized = p) :
    (p.mapTexts unifyBreaks).normalized = p.mapTexts unifyBreaks := by
  obtain ⟨version, enabled, includeApis, retention⟩ := p
  simp only [normalized, mapTexts, MetricsProperties.mk.injEq, true_and] at h ⊢
  exact ⟨stripped_unifyBreaks h.1, h.2⟩

theorem CorsRule.normalizedList_map {items : List String} (h : normalizedList items = items) :
    normalizedList (items.map unifyBreaks) = items.map unifyBreaks := by
  rw [normalizedList_eq_self_iff] at h ⊢
  refine List.forall_mem_map.2 fun item hitem => ?_
  simpa using (h item hitem).normalizeBreaks

theorem CorsRule.normalized_mapTexts {r : CorsRule} (h : r.normalized = r) :
    (r.mapTexts unifyBreaks).normalized = r.mapTexts unifyBreaks := by
  obtain ⟨origins, methods, age, exposed, allowed⟩ := r
  simp only [normalized, mapTexts, CorsRule.mk.injEq, true_and] at h ⊢
  obtain ⟨horigins, hmethods, hexposed, hallowed⟩ := h
  exact ⟨normalizedList_map horigins, normalizedList_map hmethods, normalizedList_map hexposed,
    normalizedList_map hallowed⟩

/-- **Settings that a document keeps are still kept** with their line breaks unified. -/
theorem ServiceProperties.normalized_mapTexts {p : ServiceProperties} (h : p.normalized = p) :
    (p.mapTexts unifyBreaks).normalized = p.mapTexts unifyBreaks := by
  obtain ⟨logging, hour, minute, cors, version⟩ := p
  simp only [normalized, mapTexts, ServiceProperties.mk.injEq] at h ⊢
  obtain ⟨hlogging, hhour, hminute, hcors, hversion⟩ := h
  refine ⟨optionMap_map_of_eq_self (fun _ => LoggingProperties.normalized_mapTexts) hlogging,
    optionMap_map_of_eq_self (fun _ => MetricsProperties.normalized_mapTexts) hhour,
    optionMap_map_of_eq_self (fun _ => MetricsProperties.normalized_mapTexts) hminute, ?_, ?_⟩
  · refine optionMap_map_of_eq_self ?_ hcors
    exact fun _ => listMap_map_of_eq_self fun _ => CorsRule.normalized_mapTexts
  · cases version with
    | none => rfl
    | some s =>
      obtain ⟨hmap, hne⟩ := Option.filter_eq_some_iff.1 hversion
      have hs := Option.some.inj hmap
      have hne : unifyBreaks s ≠ "" := by
        rw [Ne, ← String.isEmpty_iff, isEmpty_unifyBreaks]
        simpa using hne
      rw [Option.map_some, Option.map_some, stripped_unifyBreaks hs, givenVersion_some hne]

end StorageReply
