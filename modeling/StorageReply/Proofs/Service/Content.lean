import Mathlib.Data.List.Nodup
import StorageReply.Proofs.Service.Fields
import StorageReply.Proofs.Xml.Children
import StorageReply.Service.Stats

/-!
# What service documents say

What a service document says is in the elements that its readers look up, and in their stripped
texts.

* `Part`, `Part.fields`: what the readers take elements for, and the names that they look up.
* `said`: what an element says, as a tree in one fixed form. It does not mind namespaces.
* `Uniform`: the elements that are looked up are in one namespace, or in none. Then a reading of a
  document is a reading of what it says (`ServiceProperties.ofElement_said`,
  `ServiceStats.ofElement_said`).
-/

namespace StorageReply

open Text Xml

namespace Xml.Element

theorem sizeOf_lt_of_mem_children {e c : Element} (h : c ∈ e.children) :
    SizeOf.sizeOf c < SizeOf.sizeOf e := by
  obtain ⟨tag, attributes, text, children, tail⟩ := e
  have hlt : SizeOf.sizeOf c < SizeOf.sizeOf children := List.sizeOf_lt_of_mem h
  simp only [mk.sizeOf_spec]
  omega

/-- What holds of an element whenever it holds of its children holds of all elements. -/
theorem induction_children {P : Element → Prop} (h : ∀ e, (∀ c ∈ e.children, P c) → P e)
    (e : Element) : P e :=
  h e fun c _ => induction_children h c
termination_by SizeOf.sizeOf e
decreasing_by exact sizeOf_lt_of_mem_children ‹_›

/-- Whether all elements of a tree are in one namespace, or in none. -/
inductive Within (space : Option String) : Element → Prop
  /-- The element itself and the trees of its children are. -/
  | mk {e : Element} : e.tag.space = space → (∀ c ∈ e.children, Within space c) → Within space e

mutual

/-- A tree with all its elements moved into a namespace. -/
def moved (space : String) : Element → Element
  | ⟨tag, attributes, text, children, tail⟩ =>
    ⟨⟨some space, tag.name⟩, attributes, text, movedAll space children, tail⟩

/-- Several trees with all their elements moved into a namespace. -/
def movedAll (space : String) : List Element → List Element
  | [] => []
  | child :: rest => child.moved space :: movedAll space rest

end

theorem movedAll_eq_map (space : String) (children : List Element) :
    movedAll space children = children.map (moved space) := by
  induction children with
  | nil => rfl
  | cons c rest ih => rw [movedAll, ih, List.map_cons]

theorem children_moved (space : String) (e : Element) :
    (e.moved space).children = e.children.map (moved space) := by
  obtain ⟨tag, attributes, text, children, tail⟩ := e
  exact movedAll_eq_map space children

@[simp] theorem tag_moved (space : String) (e : Element) :
    (e.moved space).tag = ⟨some space, e.tag.name⟩ := by
  obtain ⟨tag, attributes, text, children, tail⟩ := e
  rfl

@[simp] theorem text_moved (space : String) (e : Element) : (e.moved space).text = e.text := by
  obtain ⟨tag, attributes, text, children, tail⟩ := e
  rfl

theorem within_moved (space : String) (e : Element) : Within (some space) (e.moved space) := by
  induction e using induction_children with
  | h e ih =>
    refine .mk (by rw [tag_moved]) ?_
    rw [children_moved]
    exact List.forall_mem_map.2 ih

/-- Where the children with a name are in one namespace, or in none, the first of them is found. -/
theorem child?_eq_head? {e : Element} {name : String} {space : Option String}
    (h : ∀ c ∈ e.childrenNamed name, c.tag.space = space) :
    e.child? name = (e.childrenNamed name).head? := by
  rw [child?_eq_preferred?, preferred?_eq_head?_iff]
  cases space with
  | none => exact .inl fun c hc => by rw [h c (List.mem_of_mem_head? hc)]; rfl
  | some space => exact .inr fun c hc => by rw [h c hc]; rfl

end Xml.Element

/-! ## What is said -/

/-- What the readers of service documents take elements for. -/
inductive Part
  /-- The settings of a service. -/
  | properties
  /-- Settings of analytics logging. -/
  | logging
  /-- Settings of metrics. -/
  | metrics
  /-- How long data is kept. -/
  | retention
  /-- Rules on requests from other origins. -/
  | cors
  /-- One such rule. -/
  | rule
  /-- The statistics of a service. -/
  | stats
  /-- Replication to the secondary location. -/
  | geo
  /-- A text. -/
  | text
  deriving DecidableEq, Repr

namespace Part

/-- The names that are looked up in an element, with what their elements are taken for. -/
def fields : Part → List (String × Part)
  | properties => [("Logging", logging), ("HourMetrics", metrics), ("MinuteMetrics", metrics),
      ("Cors", cors), ("DefaultServiceVersion", text)]
  | logging => [("Version", text), ("Delete", text), ("Read", text), ("Write", text),
      ("RetentionPolicy", retention)]
  | metrics => [("Version", text), ("Enabled", text), ("IncludeAPIs", text),
      ("RetentionPolicy", retention)]
  | retention => [("Enabled", text), ("Days", text)]
  | cors => [("CorsRule", rule)]
  | rule => [("AllowedOrigins", text), ("AllowedMethods", text), ("MaxAgeInSeconds", text),
      ("ExposedHeaders", text), ("AllowedHeaders", text)]
  | stats => [("GeoReplication", geo)]
  | geo => [("Status", text), ("LastSyncTime", text)]
  | text => []

/-- The names that are looked up in an element. -/
def names (p : Part) : List String := p.fields.map Prod.fst

/-- What a root is taken for. In a root with another name nothing is looked up. -/
def ofRoot (name : String) : Part :=
  if name = ServiceProperties.rootName then properties
  else if name = ServiceStats.rootName then stats
  else text

theorem nodup_names (p : Part) : p.names.Nodup := by cases p <;> decide

theorem mem_names_iff {p : Part} {name : String} : name ∈ p.names ↔ ∃ f ∈ p.fields, f.1 = name :=
  List.mem_map

theorem eq_of_mem_fields {p : Part} {f g : String × Part} (hf : f ∈ p.fields) (hg : g ∈ p.fields)
    (hname : f.1 = g.1) : f = g :=
  List.inj_on_of_nodup_map p.nodup_names hf hg hname

/-- The children that are read under a name: the first one that has it, or all of them if they are
rules. -/
def read (f : String × Part) (children : List Element) : List Element :=
  let named := children.filter (·.localName == f.1)
  if f.2 = rule then named else named.take 1

theorem mem_of_mem_read {f : String × Part} {children : List Element} {c : Element}
    (h : c ∈ read f children) : c ∈ children ∧ c.localName = f.1 := by
  have hnamed : c ∈ children.filter (·.localName == f.1) := by
    rw [read] at h
    split at h
    · exact h
    · exact List.mem_of_mem_take h
  simpa using hnamed

end Part

/-- What an element says to the reader of a part, without its presentation. -/
def said (p : Part) (e : Element) : Element :=
  .make e.localName (stripped e.text) (p.fields.flatMap fun f =>
    (Part.read f e.children).attach.map fun c => said f.2 c.1)
termination_by SizeOf.sizeOf e
decreasing_by exact Element.sizeOf_lt_of_mem_children (Part.mem_of_mem_read c.2).1

theorem said_eq (p : Part) (e : Element) :
    said p e = .make e.localName (stripped e.text)
      (p.fields.flatMap fun f => (Part.read f e.children).map (said f.2)) := by
  rw [said]
  simp only [List.map_subtype, List.unattach_attach]

@[simp] theorem localName_said (p : Part) (e : Element) : (said p e).localName = e.localName := by
  rw [said_eq]
  rfl

@[simp] theorem strippedText_said (p : Part) (e : Element) :
    (said p e).strippedText = e.strippedText := by
  rw [said_eq]
  exact stripped_stripped e.text

/-- Of elements that were read by name, those with one of the names were read under it. -/
theorem filter_flatMap_fields {fields : List (String × Part)} (hnodup : (fields.map Prod.fst).Nodup)
    {children : String × Part → List Element}
    (hname : ∀ f ∈ fields, ∀ c ∈ children f, c.localName = f.1) {f : String × Part}
    (hf : f ∈ fields) :
    (fields.flatMap children).filter (·.localName == f.1) = children f := by
  induction fields with
  | nil => cases hf
  | cons g rest ih =>
    obtain ⟨hg, hrest⟩ := List.nodup_cons.1 hnodup
    obtain ⟨hgname, hrestname⟩ := List.forall_mem_cons.1 hname
    rw [List.flatMap_cons, List.filter_append]
    rcases List.mem_cons.1 hf with rfl | hf
    · rw [List.filter_eq_self.2 fun c hc => by simpa using hgname c hc,
        List.filter_eq_nil_iff.2, List.append_nil]
      intro c hc
      obtain ⟨k, hk, hc⟩ := List.mem_flatMap.1 hc
      rw [hrestname k hk c hc, beq_iff_eq]
      exact fun heq => hg (List.mem_map.2 ⟨k, hk, heq⟩)
    · rw [List.filter_eq_nil_iff.2, List.nil_append, ih hrest hrestname hf]
      intro c hc
      rw [hgname c hc, beq_iff_eq]
      exact fun heq => hg (List.mem_map.2 ⟨f, hf, heq.symm⟩)

theorem childrenNamed_said {p : Part} {e : Element} {f : String × Part} (hf : f ∈ p.fields) :
    (said p e).childrenNamed f.1 = (Part.read f e.children).map (said f.2) := by
  rw [said_eq]
  refine filter_flatMap_fields p.nodup_names (fun g _ c hc => ?_) hf
  obtain ⟨d, hd, rfl⟩ := List.mem_map.1 hc
  rw [localName_said, (Part.mem_of_mem_read hd).2]

/-- No element of what is said has a namespace. -/
theorem bare_said (p : Part) (e : Element) : ∀ c ∈ (said p e).children, c.tag.space = none := by
  rw [said_eq]
  intro c hc
  obtain ⟨f, -, hc⟩ := List.mem_flatMap.1 hc
  obtain ⟨d, -, rfl⟩ := List.mem_map.1 hc
  rw [said_eq]
  rfl

/-- Whether the elements that are looked up, in an element and in all that are read in it, are in
one namespace, or in none. -/
inductive Uniform (space : Option String) : Part → Element → Prop
  /-- Children with a name that is looked up are, and so are the trees of those that are read. -/
  | mk {p : Part} {e : Element} :
      (∀ c ∈ e.children, c.localName ∈ p.names → c.tag.space = space) →
      (∀ f ∈ p.fields, ∀ c ∈ Part.read f e.children, Uniform space f.2 c) → Uniform space p e

namespace Uniform

variable {space : Option String} {p : Part} {e : Element}

theorem space_eq (h : Uniform space p e) :
    ∀ c ∈ e.children, c.localName ∈ p.names → c.tag.space = space := by
  cases h with
  | mk hspace _ => exact hspace

theorem of_mem_read (h : Uniform space p e) {f : String × Part} (hf : f ∈ p.fields) :
    ∀ c ∈ Part.read f e.children, Uniform space f.2 c := by
  cases h with
  | mk _ hread => exact hread f hf

/-- A child is found as the first one that is read. -/
theorem child?_eq (h : Uniform space p e) {f : String × Part} (hf : f ∈ p.fields) :
    e.child? f.1 = (Part.read f e.children).head? := by
  have hspace : ∀ c ∈ e.childrenNamed f.1, c.tag.space = space := by
    intro c hc
    obtain ⟨hmem, hname⟩ := List.mem_filter.1 hc
    exact h.space_eq c hmem (Part.mem_names_iff.2 ⟨f, hf, (beq_iff_eq.1 hname).symm⟩)
  rw [Element.child?_eq_head? hspace, Part.read]
  split
  · rfl
  · rw [List.head?_take, if_neg Nat.one_ne_zero, Element.childrenNamed]

theorem of_child? (h : Uniform space p e) {f : String × Part} (hf : f ∈ p.fields) {c : Element}
    (hc : e.child? f.1 = some c) : Uniform space f.2 c :=
  h.of_mem_read hf c (List.mem_of_mem_head? (h.child?_eq hf ▸ hc))

/-- The child that is found in what is said is what the child says. -/
theorem child?_said (h : Uniform space p e) {f : String × Part} (hf : f ∈ p.fields) :
    (said p e).child? f.1 = (e.child? f.1).map (said f.2) := by
  have hbare : ∀ c ∈ (said p e).childrenNamed f.1, c.tag.space = none := fun c hc =>
    bare_said p e c (List.mem_filter.1 hc).1
  rw [Element.child?_eq_head? hbare, childrenNamed_said hf, h.child?_eq hf, List.head?_map]

theorem childText?_said (h : Uniform space p e) (name : String) (hf : (name, .text) ∈ p.fields) :
    (said p e).childText? name = e.childText? name := by
  have hchild : (said p e).child? name = (e.child? name).map (said .text) := h.child?_said hf
  rw [Element.childText?, Element.childText?, hchild, Option.map_map]
  congr 1
  funext c
  exact strippedText_said .text c

end Uniform

theorem Xml.Element.Within.uniform {space : Option String} {e : Element} (h : e.Within space)
    (p : Part) : Uniform space p e := by
  induction h generalizing p with
  | mk _ hchildren ih =>
    refine .mk (fun c hc _ => ?_) fun f _ c hc => ih c (Part.mem_of_mem_read hc).1 f.2
    obtain ⟨hspace, -⟩ := hchildren c hc
    exact hspace

/-! ## Readings of what is said -/

theorem mapM_congr {ε α β : Type} {f g : α → Except ε β} {as : List α} (h : ∀ a ∈ as, f a = g a) :
    as.mapM f = as.mapM g := by
  induction as with
  | nil => rfl
  | cons a as ih =>
    obtain ⟨ha, has⟩ := List.forall_mem_cons.1 h
    rw [List.mapM_cons, List.mapM_cons, ha, ih has]

section Readings

variable {space : Option String} {e : Element}

theorem RetentionPolicy.ofElement_said (h : Uniform space .retention e) :
    ofElement (said .retention e) = ofElement e := by
  have henabled := h.childText?_said "Enabled" (by decide)
  have hdays := h.childText?_said "Days" (by decide)
  simp only [ofElement, Element.boolOf, Element.integerOf, henabled, hdays]

/-- The policy of a section is that of what the section says. -/
theorem RetentionPolicy.ofParent_said {p : Part} (h : Uniform space p e)
    (hf : ("RetentionPolicy", .retention) ∈ p.fields) : ofParent (said p e) = ofParent e := by
  have hchild : (said p e).child? "RetentionPolicy" = _ := h.child?_said hf
  rw [ofParent, ofParent, hchild]
  cases hpolicy : e.child? "RetentionPolicy" with
  | none => rfl
  | some c => exact ofElement_said (h.of_child? hf hpolicy)

theorem LoggingProperties.ofElement_said (h : Uniform space .logging e) :
    ofElement (said .logging e) = ofElement e := by
  have hversion := h.childText?_said "Version" (by decide)
  have hdelete := h.childText?_said "Delete" (by decide)
  have hread := h.childText?_said "Read" (by decide)
  have hwrite := h.childText?_said "Write" (by decide)
  have hretention := RetentionPolicy.ofParent_said h (by decide)
  simp only [ofElement, Element.boolOf, versionOf, hversion, hdelete, hread, hwrite, hretention]

theorem MetricsProperties.ofElement_said (h : Uniform space .metrics e) :
    ofElement (said .metrics e) = ofElement e := by
  have hversion := h.childText?_said "Version" (by decide)
  have henabled := h.childText?_said "Enabled" (by decide)
  have hapis := h.childText?_said "IncludeAPIs" (by decide)
  have hretention := RetentionPolicy.ofParent_said h (by decide)
  simp only [ofElement, Element.boolOf, versionOf, hversion, henabled, hapis, hretention]

theorem CorsRule.ofElement_said (h : Uniform space .rule e) :
    ofElement (said .rule e) = ofElement e := by
  have horigins := h.childText?_said "AllowedOrigins" (by decide)
  have hmethods := h.childText?_said "AllowedMethods" (by decide)
  have hage := h.childText?_said "MaxAgeInSeconds" (by decide)
  have hexposed := h.childText?_said "ExposedHeaders" (by decide)
  have hallowed := h.childText?_said "AllowedHeaders" (by decide)
  simp only [ofElement, Element.integerOf, Element.listOf, horigins, hmethods, hage, hexposed,
    hallowed]

namespace ServiceProperties

theorem rulesOf_said (h : Uniform space .cors e) : rulesOf (said .cors e) = rulesOf e := by
  have hf : ("CorsRule", Part.rule) ∈ Part.cors.fields := by decide
  have hnamed : (said .cors e).childrenNamed "CorsRule" =
      (e.childrenNamed "CorsRule").map (said .rule) := childrenNamed_said hf
  rw [rulesOf, rulesOf, hnamed, List.mapM_map]
  exact mapM_congr fun c hc => CorsRule.ofElement_said (h.of_mem_read hf c hc)

/-- A section is that of what the document says. -/
theorem partOf_said {α : Type} {p : Part} {f : String × Part} {read : Element → Except Failure α}
    (h : Uniform space p e) (hf : f ∈ p.fields)
    (hread : ∀ c, Uniform space f.2 c → read (said f.2 c) = read c) :
    partOf (said p e) f.1 read = partOf e f.1 read := by
  rw [partOf, partOf, h.child?_said hf]
  cases hchild : e.child? f.1 with
  | none => rfl
  | some c =>
    show (read (said f.2 c)).map some = (read c).map some
    rw [hread c (h.of_child? hf hchild)]

/-- **The settings in a document are those in what it says.** -/
theorem ofElement_said (h : Uniform space (.ofRoot e.localName) e) :
    ofElement (said (.ofRoot e.localName) e) = ofElement e := by
  by_cases hroot : e.localName = rootName
  · have hpart : Part.ofRoot e.localName = .properties := by rw [Part.ofRoot, if_pos hroot]
    rw [hpart] at h ⊢
    have hlogging := partOf_said h (f := ("Logging", .logging)) (by decide)
      fun _ => LoggingProperties.ofElement_said
    have hhour := partOf_said h (f := ("HourMetrics", .metrics)) (by decide)
      fun _ => MetricsProperties.ofElement_said
    have hminute := partOf_said h (f := ("MinuteMetrics", .metrics)) (by decide)
      fun _ => MetricsProperties.ofElement_said
    have hcors := partOf_said h (f := ("Cors", .cors)) (by decide) fun _ => rulesOf_said
    have hversion := h.childText?_said "DefaultServiceVersion" (by decide)
    simp only [ofElement, Element.expect, localName_said, hlogging, hhour, hminute, hcors, hversion]
  · simp only [ofElement, Element.expect, localName_said, if_neg hroot]
    rfl

end ServiceProperties

namespace ServiceStats

theorem geoOf_said (h : Uniform space .geo e) : geoOf (said .geo e) = geoOf e := by
  have hstatus := h.childText?_said statusName (by decide)
  have hsync := h.childText?_said syncName (by decide)
  simp only [geoOf, hstatus, hsync]

/-- **The statistics in a document are those in what it says.** -/
theorem ofElement_said (h : Uniform space (.ofRoot e.localName) e) :
    ofElement (said (.ofRoot e.localName) e) = ofElement e := by
  by_cases hroot : e.localName = rootName
  · have hpart : Part.ofRoot e.localName = .stats := by rw [Part.ofRoot, hroot]; rfl
    rw [hpart] at h ⊢
    have hf : (geoName, Part.geo) ∈ Part.stats.fields := by decide
    have hchild : (said .stats e).child? geoName = _ := h.child?_said hf
    simp only [ofElement, Element.expect, localName_said, hchild]
    cases hgeo : e.child? geoName with
    | none => rfl
    | some c =>
      have hgeoOf := geoOf_said (h.of_child? hf hgeo)
      simp only [Option.map_some, hgeoOf]
  · simp only [ofElement, Element.expect, localName_said, if_neg hroot]
    rfl

end ServiceStats

end Readings

end StorageReply
