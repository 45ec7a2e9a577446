import Mathlib.Data.List.Forall2
import Mathlib.Logic.Relation
import StorageReply.Proofs.Service.Content

/-!
# The presentation of service documents

The same can be said in many ways: in another namespace, in another order, with other attributes,
with blanks around texts, and with elements that are not looked up.

* `Restates`, `RestatesDocument`: the changes of presentation, one at a time. Each keeps what is
  said (`Restates.said_eq`), and keeps the elements that are looked up in one namespace
  (`Restates.uniform`).
* `readings_of_restated`: a document that was restated any number of times is read as before.
-/

namespace StorageReply

open Text Xml

/-! ## Changes of presentation -/

/-- Whether a child is not read, given the children before it: its name is not looked up, or there
is an earlier child with the name and it is not the name of rules. -/
inductive Part.Unread (p : Part) (before : List Element) (c : Element) : Prop
  /-- The name is not looked up. -/
  | unknown : c.localName ∉ p.names → Unread p before c
  /-- Another child with the name comes first. -/
  | later (f : String × Part) (first : Element) : f ∈ p.fields → f.2 ≠ .rule →
      c.localName = f.1 → first ∈ before → first.localName = f.1 → Unread p before c

/-- One change of presentation at some place in the tree of an element that is taken for a part, in
a document whose elements are in the namespace. -/
inductive Restates (space : Option String) : Part → Element → Element → Prop
  /-- Other attributes. -/
  | attributes (p : Part) (e : Element) (attributes : List (Tag × String)) :
      Restates space p e { e with attributes := attributes }
  /-- Another tail. -/
  | tail (p : Part) (e : Element) (tail : String) : Restates space p e { e with tail := tail }
  /-- Blanks around the text. -/
  | text (p : Part) (e : Element) (before after : List Char) :
      (∀ c ∈ before, isBlank c = true) → (∀ c ∈ after, isBlank c = true) →
      Restates space p e { e with text := .ofList (before ++ (e.text.toList ++ after)) }
  /-- The same children in an order that keeps that of children with the same name. -/
  | order (p : Part) (e : Element) (children : List Element) :
      (∀ name, children.filter (·.localName == name) = e.childrenNamed name) →
      Restates space p e { e with children := children }
  /-- One more child, which is not read. If its name is looked up it is in the namespace. -/
  | insert (p : Part) (e c : Element) (before after : List Element) : e.children = before ++ after →
      p.Unread before c → (c.localName ∈ p.names → c.tag.space = space) →
      Restates space p e { e with children := before ++ c :: after }
  /-- Anything else in a child that is not read. -/
  | unread (p : Part) (e c c' : Element) (before after : List Element) :
      e.children = before ++ c :: after → p.Unread before c → c'.tag = c.tag →
      Restates space p e { e with children := before ++ c' :: after }
  /-- A change in a child that is taken for a part. -/
  | inside (p : Part) (e c c' : Element) (before after : List Element) (f : String × Part) :
      e.children = before ++ c :: after → f ∈ p.fields → c.localName = f.1 →
      Restates space f.2 c c' → Restates space p e { e with children := before ++ c' :: after }

/-- One change of presentation of a document: all its elements are moved into a namespace, or there
is a change at some place in its tree. -/
inductive RestatesDocument : Element → Element → Prop
  /-- All elements are moved. -/
  | moved {e : Element} (space : String) : RestatesDocument e (e.moved space)
  /-- There is a change at some place. -/
  | change {e e' : Element} : Restates e.tag.space (.ofRoot e.localName) e e' →
      RestatesDocument e e'

namespace Part

variable {p : Part} {before after : List Element} {c : Element}

theorem read_of_filter_eq {children children' : List Element}
    (h : ∀ name, children'.filter (·.localName == name) = children.filter (·.localName == name))
    (f : String × Part) : read f children' = read f children := by
  rw [read, read, h]

theorem read_map (g : Element → Element) (hname : ∀ c, (g c).localName = c.localName)
    (f : String × Part) (children : List Element) :
    read f (children.map g) = (read f children).map g := by
  have hnamed : (children.map g).filter (·.localName == f.1) =
      (children.filter (·.localName == f.1)).map g := by
    rw [List.filter_map]
    simp only [Function.comp_def, hname]
  simp only [read, hnamed]
  split
  · rfl
  · rw [List.map_take]

theorem Unread.congr {c' : Element} (h : p.Unread before c) (hname : c'.localName = c.localName) :
    p.Unread before c' := by
  cases h with
  | unknown hunknown => exact .unknown (hname ▸ hunknown)
  | later f first hf hrule hc hfirst hfirstname =>
    exact .later f first hf hrule (hname.trans hc) hfirst hfirstname

/-- A child that is not read makes no difference to those that are. -/
theorem read_insert (h : p.Unread before c) {f : String × Part} (hf : f ∈ p.fields) :
    read f (before ++ c :: after) = read f (before ++ after) := by
  by_cases hname : c.localName = f.1
  · cases h with
    | unknown hunknown => exact absurd (mem_names_iff.2 ⟨f, hf, hname.symm⟩) hunknown
    | later g first hg hrule hc hfirst hfirstname =>
      obtain rfl := eq_of_mem_fields hf hg (hname.symm.trans hc)
      obtain ⟨d, rest, hnamed⟩ : ∃ d rest, before.filter (·.localName == f.1) = d :: rest :=
        List.exists_cons_of_ne_nil (List.ne_nil_of_mem
          (List.mem_filter.2 ⟨hfirst, by simpa using hfirstname⟩))
      simp only [read, if_neg hrule, List.filter_append, hnamed, List.cons_append,
        List.take_succ_cons, List.take_zero]
  · have hother : (c.localName == f.1) = false := by simpa using hname
    simp only [read, List.filter_append, List.filter_cons, hother, Bool.false_eq_true, if_false]

/-- Where a child is replaced by another with the same name, the children that are read under a name
differ in that child alone, if it has the name. -/
theorem forall₂_read_replace (before after : List Element) {c' : Element}
    (hname : c'.localName = c.localName) (f : String × Part) :
    List.Forall₂ (fun a b => (a ∈ read f (before ++ c :: after) ∧ a.localName = f.1) ∧
        (a = b ∨ a = c ∧ b = c'))
      (read f (before ++ c :: after)) (read f (before ++ c' :: after)) := by
  refine (List.forall₂_and_left _ _).2 ⟨fun a ha => ⟨ha, (mem_of_mem_read ha).2⟩, ?_⟩
  have hsame : ∀ children : List Element,
      List.Forall₂ (fun a b => a = b ∨ a = c ∧ b = c') children children := fun children =>
    List.forall₂_same.2 fun _ _ => .inl rfl
  have hall : List.Forall₂ (fun a b => a = b ∨ a = c ∧ b = c') (before ++ c :: after)
      (before ++ c' :: after) :=
    List.rel_append (hsame before) (.cons (.inr ⟨rfl, rfl⟩) (hsame after))
  have hnamed := List.rel_filter (p := (·.localName == f.1)) (q := (·.localName == f.1))
    (fun a b hab => by rcases hab with rfl | ⟨rfl, rfl⟩ <;> simp [hname]) hall
  unfold read
  split
  · exact hnamed
  · exact List.forall₂_take 1 hnamed

end Part

theorem forall_mem_right_of_forall₂ {α β : Type} {P : β → Prop} {as : List α} {bs : List β}
    (h : List.Forall₂ (fun _ b => P b) as bs) : ∀ b ∈ bs, P b := by
  induction h with
  | nil => simp
  | cons hb _ ih => exact List.forall_mem_cons.2 ⟨hb, ih⟩

theorem said_congr {p : Part} {e e' : Element} (hname : e'.localName = e.localName)
    (htext : stripped e'.text = stripped e.text)
    (hread : ∀ f ∈ p.fields,
      (Part.read f e'.children).map (said f.2) = (Part.read f e.children).map (said f.2)) :
    said p e' = said p e := by
  rw [said_eq, said_eq, hname, htext, List.flatMap_congr hread]

namespace Restates

variable {space : Option String} {p : Part} {e e' : Element}

/-- Two children with different names can change places. -/
theorem swap (before after : List Element) (a b : Element)
    (hchildren : e.children = before ++ a :: b :: after) (hne : a.localName ≠ b.localName) :
    Restates space p e { e with children := before ++ b :: a :: after } := by
  refine .order p e _ fun name => ?_
  rw [Element.childrenNamed, hchildren, List.filter_append, List.filter_append]
  by_cases ha : a.localName = name
  · have hb : (b.localName == name) = false := by
      rw [beq_eq_false_iff_ne]
      rintro rfl
      exact hne ha
    simp [List.filter_cons, hb]
  · simp [List.filter_cons, ha]

theorem tag_eq (h : Restates space p e e') : e'.tag = e.tag := by
  cases h <;> rfl

/-- **A change of presentation keeps what is said.** -/
theorem said_eq (h : Restates space p e e') : said p e' = said p e := by
  induction h with
  | attributes p e attributes => exact said_congr rfl rfl fun _ _ => rfl
  | tail p e tail => exact said_congr rfl rfl fun _ _ => rfl
  | text p e before after hbefore hafter =>
    refine said_congr rfl ?_ fun _ _ => rfl
    simp only [stripped, String.toList_ofList, strip_append_append e.text.toList hbefore hafter]
  | order p e children horder =>
    exact said_congr rfl rfl fun f _ => by rw [Part.read_of_filter_eq horder f]
  | insert p e c before after hchildren hunread hspace =>
    refine said_congr rfl rfl fun f hf => ?_
    rw [hchildren, Part.read_insert hunread hf]
  | unread p e c c' before after hchildren hunread htag =>
    have hunread' := hunread.congr (congrArg Tag.name htag)
    refine said_congr rfl rfl fun f hf => ?_
    rw [hchildren, Part.read_insert hunread hf, Part.read_insert hunread' hf]
  | inside p e c c' before after f hchildren hf hname hc ih =>
    refine said_congr rfl rfl fun g hg => ?_
    have hread := Part.forall₂_read_replace before after (congrArg Tag.name hc.tag_eq) g
    have hsaid := hread.imp (S := fun a b => said g.2 a = said g.2 b) ?_
    · rw [hchildren]
      exact (List.forall₂_eq_eq_eq ▸
        List.forall₂_map_left_iff.2 (List.forall₂_map_right_iff.2 hsaid)).symm
    · rintro a b ⟨⟨-, ha⟩, rfl | ⟨rfl, rfl⟩⟩
      · rfl
      · obtain rfl := Part.eq_of_mem_fields hf hg (hname.symm.trans ha)
        exact ih.symm

/-- One more child that is in the namespace, or is not looked up, keeps the children so. -/
theorem space_eq_insert (he : Uniform space p e) {before after : List Element} {c : Element}
    (hold : ∀ d ∈ before ++ after, d ∈ e.children)
    (hc : c.localName ∈ p.names → c.tag.space = space) :
    ∀ d ∈ before ++ c :: after, d.localName ∈ p.names → d.tag.space = space := by
  intro d hd
  rcases List.mem_append.1 hd with hd | hd
  · exact he.space_eq d (hold d (List.mem_append_left _ hd))
  · rcases List.mem_cons.1 hd with rfl | hd
    · exact hc
    · exact he.space_eq d (hold d (List.mem_append_right _ hd))

/-- So does another child with the tag of one of them in its place. -/
theorem space_eq_replace (he : Uniform space p e) {before after : List Element} {c c' : Element}
    (hchildren : e.children = before ++ c :: after) (htag : c'.tag = c.tag) :
    ∀ d ∈ before ++ c' :: after, d.localName ∈ p.names → d.tag.space = space := by
  have hc := he.space_eq c (by simp [hchildren])
  refine space_eq_insert he (fun d hd => ?_) ?_
  · rw [hchildren]
    exact ((List.Sublist.refl before).append (List.sublist_cons_self c after)).subset hd
  · rwa [Element.localName, htag]

/-- A change of presentation keeps the elements that are looked up in the namespace. -/
theorem uniform (h : Restates space p e e') (he : Uniform space p e) : Uniform space p e' := by
  induction h with
  | attributes p e attributes => exact .mk he.space_eq fun _ => he.of_mem_read
  | tail p e tail => exact .mk he.space_eq fun _ => he.of_mem_read
  | text p e before after hbefore hafter => exact .mk he.space_eq fun _ => he.of_mem_read
  | order p e children horder =>
    refine .mk (fun c hc => ?_) fun f hf => ?_
    · have hnamed : c ∈ e.childrenNamed c.localName := by
        rw [← horder]
        exact List.mem_filter.2 ⟨hc, beq_self_eq_true _⟩
      exact he.space_eq c (List.mem_filter.1 hnamed).1
    · rw [Part.read_of_filter_eq horder]
      exact he.of_mem_read hf
  | insert p e c before after hchildren hunread hspace =>
    refine .mk (space_eq_insert he (fun d hd => hchildren ▸ hd) hspace) fun f hf => ?_
    have hold := he.of_mem_read hf
    rwa [hchildren, ← Part.read_insert hunread hf] at hold
  | unread p e c c' before after hchildren hunread htag =>
    have hunread' := hunread.congr (congrArg Tag.name htag)
    refine .mk (space_eq_replace he hchildren htag) fun f hf => ?_
    have hold := he.of_mem_read hf
    rwa [hchildren, Part.read_insert hunread hf, ← Part.read_insert hunread' hf] at hold
  | inside p e c c' before after f hchildren hf hname hc ih =>
    refine .mk (space_eq_replace he hchildren hc.tag_eq) fun g hg => ?_
    have hold := he.of_mem_read hg
    rw [hchildren] at hold
    have hread := Part.forall₂_read_replace before after (congrArg Tag.name hc.tag_eq) g
    refine forall_mem_right_of_forall₂ (hread.imp ?_)
    rintro a b ⟨⟨hmem, ha⟩, rfl | ⟨rfl, rfl⟩⟩
    · exact hold a hmem
    · obtain rfl := Part.eq_of_mem_fields hf hg (hname.symm.trans ha)
      exact ih (hold a hmem)

end Restates

/-! ## Documents -/

/-- Whether the elements that are looked up in a document are in the namespace of its root. -/
def UniformDocument (e : Element) : Prop := Uniform e.tag.space (.ofRoot e.localName) e

/-- What a document says. -/
def saidDocument (e : Element) : Element := said (.ofRoot e.localName) e

theorem said_moved (space : String) (p : Part) (e : Element) :
    said p (e.moved space) = said p e := by
  induction e using Element.induction_children generalizing p with
  | h e ih =>
    refine said_congr (by simp [Element.localName]) (by rw [Element.text_moved]) fun f _ => ?_
    have hread : Part.read f (e.moved space).children =
        (Part.read f e.children).map (Element.moved space) := by
      rw [Element.children_moved]
      exact Part.read_map (Element.moved space) (fun c => by simp [Element.localName]) f e.children
    rw [hread, List.map_map]
    exact List.map_congr_left fun c hc => ih c (Part.mem_of_mem_read hc).1 f.2

namespace RestatesDocument

variable {e e' : Element}

/-- A change of presentation keeps what a document says, and its elements in one namespace. -/
theorem saidDocument_eq (h : RestatesDocument e e') (he : UniformDocument e) :
    saidDocument e' = saidDocument e ∧ UniformDocument e' := by
  cases h with
  | moved space =>
    have hname : (e.moved space).localName = e.localName := by simp [Element.localName]
    refine ⟨?_, ?_⟩
    · rw [saidDocument, hname, said_moved, saidDocument]
    · rw [UniformDocument, Element.tag_moved]
      exact (Element.within_moved space e).uniform _
  | change h =>
    have hname : e'.localName = e.localName := congrArg Tag.name h.tag_eq
    refine ⟨?_, ?_⟩
    · rw [saidDocument, hname, h.said_eq, saidDocument]
    · rw [UniformDocument, hname, h.tag_eq]
      exact h.uniform he

theorem saidDocument_eq_of_reflTransGen (h : Relation.ReflTransGen RestatesDocument e e')
    (he : UniformDocument e) : saidDocument e' = saidDocument e ∧ UniformDocument e' := by
  induction h with
  | refl => exact ⟨rfl, he⟩
  | tail _ hstep ih =>
    obtain ⟨hsaid, huniform⟩ := ih
    obtain ⟨hsaid', huniform'⟩ := hstep.saidDocument_eq huniform
    exact ⟨hsaid'.trans hsaid, huniform'⟩

end RestatesDocument

/-- **The presentation of a service document makes no difference to its readings.** A document
without namespaces that is restated any number of times is read as before, with the same settings
and statistics or the same failures. -/
theorem readings_of_restated {e e' : Element} (he : e.Within none)
    (h : Relation.ReflTransGen RestatesDocument e e') :
    ServiceProperties.ofElement e' = ServiceProperties.ofElement e ∧
      ServiceStats.ofElement e' = ServiceStats.ofElement e := by
  have huniform : UniformDocument e := by
    obtain ⟨hspace, -⟩ := id he
    rw [UniformDocument, hspace]
    exact he.uniform _
  obtain ⟨hsaid, huniform'⟩ := RestatesDocument.saidDocument_eq_of_reflTransGen h huniform
  constructor
  · rw [← ServiceProperties.ofElement_said huniform', ← ServiceProperties.ofElement_said huniform]
    exact congrArg ServiceProperties.ofElement hsaid
  · rw [← ServiceStats.ofElement_said huniform', ← ServiceStats.ofElement_said huniform]
    exact congrArg ServiceStats.ofElement hsaid

/-- An element of a namespace. -/
def spaced (name text : String) (children : List Element) : Element :=
  ⟨⟨some "urn:storage", name⟩, [], text, children, ""⟩

/-- Settings of analytics logging, and a rule. -/
def plainSettings : Element :=
  .make "StorageServiceProperties" ""
    [.make "Logging" "" [.make "Read" "true" []],
     .make "Cors" "" [.make "CorsRule" "" [.make "MaxAgeInSeconds" "5" []]]]

/-- Settings of analytics logging, in the namespace. -/
def spacedLogging (read : String) : Element := spaced "Logging" "" [spaced "Read" read []]

/-- The rule, in the namespace. -/
def spacedCors : Element :=
  spaced "Cors" "" [spaced "CorsRule" "" [spaced "MaxAgeInSeconds" "5" []]]

/-- The same settings in the namespace, with the rule first, blanks, and elements that are not
read. -/
def restatedSettings : Element :=
  spaced "StorageServiceProperties" ""
    [.make "Note" "" [], spacedCors, spacedLogging "\n true", spacedLogging "maybe"]

theorem within_plainSettings : plainSettings.Within none := by
  repeat first
    | exact List.forall_mem_nil _
    | refine List.forall_mem_cons.2 ⟨?_, ?_⟩
    | refine .mk rfl ?_

theorem restated_plainSettings :
    Relation.ReflTransGen RestatesDocument plainSettings restatedSettings := by
  let document := spaced "StorageServiceProperties" ""
  have hmoved : RestatesDocument plainSettings (document [spacedLogging "true", spacedCors]) :=
    .moved "urn:storage"
  have hblanks : RestatesDocument (document [spacedLogging "true", spacedCors])
      (document [spacedLogging "\n true", spacedCors]) :=
    .change (.inside _ _ _ _ [] _ ("Logging", .logging) rfl (by decide) rfl
      (.inside _ _ _ _ [] _ ("Read", .text) rfl (by decide) rfl
        (.text _ _ "\n ".toList [] (List.all_eq_true.1 (by decide)) (List.forall_mem_nil _))))
  have hlater : RestatesDocument (document [spacedLogging "\n true", spacedCors])
      (document [spacedLogging "\n true", spacedCors, spacedLogging "maybe"]) :=
    .change (.insert _ _ _ [_, _] [] rfl
      (.later ("Logging", .logging) (spacedLogging "\n true") (by decide) (by decide) rfl
        (List.mem_cons_self ..) rfl) fun _ => rfl)
  have hswapped : RestatesDocument
      (document [spacedLogging "\n true", spacedCors, spacedLogging "maybe"])
      (document [spacedCors, spacedLogging "\n true", spacedLogging "maybe"]) :=
    .change (.swap [] _ (spacedLogging "\n true") spacedCors rfl (by decide))
  have hnote : RestatesDocument
      (document [spacedCors, spacedLogging "\n true", spacedLogging "maybe"]) restatedSettings :=
    .change (.insert _ _ _ [] _ rfl (.unknown (by decide)) fun h => absurd h (by decide))
  exact .tail (.tail (.tail (.tail (.single hmoved) hblanks) hlater) hswapped) hnote

theorem readings_of_restated_plainSettings :
    plainSettings.Within none ∧
      Relation.ReflTransGen RestatesDocument plainSettings restatedSettings ∧
      ServiceProperties.ofElement restatedSettings =
        .ok { logging := some { read := true }, cors := some [{ maxAgeInSeconds := 5 }] } ∧
      ServiceStats.ofElement restatedSettings =
        .error (.document (.unexpectedRoot "StorageServiceStats" "StorageServiceProperties")) := by
  obtain ⟨hsettings, hstats⟩ := readings_of_restated within_plainSettings restated_plainSettings
  refine ⟨within_plainSettings, restated_plainSettings, ?_, hstats⟩
  rw [hsettings]
  exact eq_ok_of_toOption (by decide +kernel)

end StorageReply
