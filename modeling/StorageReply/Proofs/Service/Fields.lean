import StorageReply.Proofs.Number.Numerals
import StorageReply.Proofs.Xml.LineBreaks
import StorageReply.Service.Properties

/-!
# Fields that are written and read

The texts of the elements in a service document, from the writer to the reader and back: truth
values, integers and lists that are written are read again, and what a reader gives is in the form
that it keeps.

* `Field.IsPart`: the form of a member of a list, with `isPart_of_mem_parts` and `parts_of_isPart`.
* `Field.bool_word`, `Field.integer_numeral`, `Field.list_joined`: fields that were written.
* `Xml.Element.child?_of_bare`: looking up a child where no child has a namespace.
-/

namespace StorageReply

open Number Text Xml

/-! ## Parts that may be absent -/

section Parts

variable {α β : Type} {part : Option α} {p : β → Prop}

/-- A change keeps what may be absent just when it keeps it where it is present. -/
theorem optionMap_eq_self_iff {f : α → α} : part.map f = part ↔ ∀ a ∈ part, f a = a := by
  cases part <;> simp

/-- A change keeps a list just when it keeps the members of the list. -/
theorem listMap_eq_self_iff {f : α → α} {as : List α} : as.map f = as ↔ ∀ a ∈ as, f a = a := by
  simpa using List.map_inj_left (f := f) (g := id) (l := as)

/-- What keeps a change's fixed points fixed does so where they may be absent. -/
theorem optionMap_map_of_eq_self {f g : α → α} (hg : ∀ a, f a = a → f (g a) = g a)
    (h : part.map f = part) : (part.map g).map f = part.map g := by
  rw [optionMap_eq_self_iff] at h
  cases part with
  | none => rfl
  | some a => rw [Option.map_some, Option.map_some, hg a (h a rfl)]

/-- So it does in a list. -/
theorem listMap_map_of_eq_self {f g : α → α} (hg : ∀ a, f a = a → f (g a) = g a) {as : List α}
    (h : as.map f = as) : (as.map g).map f = as.map g := by
  rw [listMap_eq_self_iff] at h ⊢
  exact List.forall_mem_map.2 fun a ha => hg a (h a ha)

theorem forall_mem_toList_map {f : α → β} :
    (∀ b ∈ (part.map f).toList, p b) ↔ ∀ a ∈ part, p (f a) := by
  cases part <;> simp

theorem forall_mem_getD_map {f : α → List β} :
    (∀ b ∈ (part.map f).getD [], p b) ↔ ∀ a ∈ part, ∀ b ∈ f a, p b := by
  cases part <;> simp

end Parts

namespace Field

/-! ## Lists -/

/-- A text that is a member of a list: it is not empty, is bare, and has no comma. -/
def IsPart (s : List Char) : Prop := s ≠ [] ∧ Bare s ∧ ',' ∉ s

theorem isPart_of_mem_parts {s part : List Char} (h : part ∈ parts s) : IsPart part := by
  obtain ⟨hmem, hne⟩ := List.mem_filter.1 h
  obtain ⟨piece, hpiece, rfl⟩ := List.mem_map.1 hmem
  refine ⟨by simpa using hne, bare_strip piece, ?_⟩
  exact fun hcomma => mem_pieces hpiece (mem_of_mem_strip hcomma)

theorem parts_of_notMem {s : List Char} (h : ',' ∉ s) :
    parts s = if (strip s).isEmpty then [] else [strip s] := by
  rw [parts, pieces_eq_singleton h]
  split <;> simp_all

theorem parts_of_isPart {s : List Char} (h : IsPart s) : parts s = [s] := by
  obtain ⟨hne, hbare, hcomma⟩ := h
  rw [parts_of_notMem hcomma, strip_eq_self_iff.2 hbare]
  simp [hne]

theorem parts_append_cons (s t : List Char) : parts (s ++ ',' :: t) = parts s ++ parts t := by
  simp [parts, pieces_append_cons]

theorem parts_joined (items : List (List Char)) :
    parts (joined [','] items) = items.flatMap parts := by
  induction items with
  | nil => rfl
  | cons item items ih =>
    cases items with
    | nil => simp [joined]
    | cons next items =>
      have hjoined : joined [','] (item :: next :: items)
          = item ++ ',' :: joined [','] (next :: items) := by
        simp [joined]
      rw [hjoined, parts_append_cons, ih, ← List.flatMap_cons]

/-- Blanks around a list do not matter to its members. -/
theorem parts_append_append {before after : List Char} (s : List Char)
    (hbefore : ∀ c ∈ before, isBlank c = true) (hafter : ∀ c ∈ after, isBlank c = true) :
    parts (before ++ (s ++ after)) = parts s := by
  induction hlength : s.length using Nat.strongRecOn generalizing s before after with
  | _ n ih =>
    have hblank : ∀ t : List Char, (∀ c ∈ t, isBlank c = true) → ',' ∉ t :=
      fun t ht hmem => absurd (ht ',' hmem) (by decide)
    by_cases hcomma : ',' ∈ s
    · obtain ⟨x, y, rfl⟩ := List.append_of_mem hcomma
      rw [List.length_append, List.length_cons] at hlength
      have hx := ih x.length (by omega) x hbefore (List.forall_mem_nil _) rfl
      have hy := ih y.length (by omega) y (List.forall_mem_nil _) hafter rfl
      rw [List.append_nil] at hx
      rw [List.nil_append] at hy
      rw [parts_append_cons, ← hx, ← hy, ← parts_append_cons]
      simp
    · have hnone : ',' ∉ before ++ (s ++ after) := by
        simp [hblank before hbefore, hblank after hafter, hcomma]
      rw [parts_of_notMem hnone, parts_of_notMem hcomma, strip_append_append s hbefore hafter]

@[simp] theorem parts_strip (s : List Char) : parts (strip s) = parts s := by
  obtain ⟨before, after, hs, hbefore, hafter⟩ := exists_eq_append_strip s
  have h := parts_append_append (strip s) hbefore hafter
  rw [← hs] at h
  exact h.symm

/-! ## Fields that were written -/

theorem bool_word (b : Bool) (element : String) (default : Bool) :
    bool (some (stripped (if b then "true" else "false"))) element default = .ok b := by
  cases b <;> rfl

theorem stripped_numeral (i : Int) : stripped (numeral i) = numeral i := by
  have hbare : Bare (numeral i).toList := bare_of_forall fun _ => isBlank_of_mem_numeral
  rw [stripped, strip_eq_self_iff.2 hbare, String.ofList_toList]

theorem integer_numeral {i : Int} (h : hasNumeral i = true) (element : String) :
    integer (some (stripped (numeral i))) element = .ok (some i) := by
  have hread := integer?_numeral h
  have hne : (numeral i).isEmpty = false := by
    rw [← Bool.not_eq_true]
    intro hempty
    rw [String.isEmpty_iff.1 hempty] at hread
    simp [integer?, withoutMargins, dropEndWhile, splitSign, groupedDigits?] at hread
  simp [integer, stripped_numeral, hne, hread]

theorem list_joined (items : List String) :
    list (some (stripped (joinedStrings "," items))) = CorsRule.normalizedList items := by
  have hsep : ",".toList = [','] := rfl
  simp [list, stripped, joinedStrings, hsep, parts_joined, CorsRule.normalizedList,
    List.flatMap_map, List.map_flatMap]

/-! ## Fields that were read -/

/-- An integer that was read has a numeral. -/
theorem hasNumeral_of_integer {text : Option String} {element : String} {i : Int}
    (h : integer text element = .ok (some i)) : hasNumeral i = true := by
  simp only [integer] at h
  split at h
  · simp at h
  · split at h
    · simp at h
    · split at h
      · rename_i hread
        obtain rfl := Option.some.inj (Except.ok.inj h)
        exact hasNumeral_of_integer? hread
      · simp at h

/-- Every member of a list that was read is a part. -/
theorem isPart_of_mem_list {text : Option String} {item : String} (h : item ∈ list text) :
    IsPart item.toList := by
  cases text with
  | none => simp [list] at h
  | some s =>
    obtain ⟨part, hpart, rfl⟩ := List.mem_map.1 h
    simpa using isPart_of_mem_parts hpart

end Field

/-- A list is kept just when its members are parts. -/
theorem CorsRule.normalizedList_eq_self_iff {items : List String} :
    normalizedList items = items ↔ ∀ item ∈ items, Field.IsPart item.toList := by
  constructor
  · intro h item hitem
    rw [← h, normalizedList] at hitem
    obtain ⟨whole, -, hmem⟩ := List.mem_flatMap.1 hitem
    obtain ⟨part, hpart, rfl⟩ := List.mem_map.1 hmem
    simpa using Field.isPart_of_mem_parts hpart
  · intro h
    induction items with
    | nil => rfl
    | cons item items ih =>
      have hitem := Field.parts_of_isPart (h item (List.mem_cons_self ..))
      have hrest := ih fun i hi => h i (List.mem_cons_of_mem _ hi)
      rw [normalizedList] at hrest
      rw [normalizedList, List.flatMap_cons, hrest, hitem, List.map_singleton,
        String.ofList_toList, List.singleton_append]

/-! ## Children -/

/-- Where no child has a namespace, a child is looked up by its local name. -/
theorem Xml.Element.child?_of_bare {e : Element} (h : ∀ c ∈ e.children, c.tag.space = none)
    (name : String) : e.child? name = e.children.find? (·.tag.name == name) := by
  have hsame : e.children.filter (·.tag == ⟨none, name⟩)
      = e.children.filter (·.tag.name == name) := by
    refine List.filter_congr ?_
    intro c hc
    have htag : c.tag = ⟨none, c.tag.name⟩ := by rw [← h c hc]
    rw [Bool.eq_iff_iff, beq_iff_eq, beq_iff_eq, htag]
    simp
  rw [child?, bareChild?, ← List.head?_filter, hsame, childrenNamed, ← List.head?_filter]
  exact Option.or_self

theorem Xml.Element.mem_children_of_child? {e c : Element} {name : String}
    (h : e.child? name = some c) : c ∈ e.children := by
  rcases Option.or_eq_some_iff.1 h with h | ⟨-, h⟩
  · exact List.mem_of_find?_eq_some h
  · exact (List.mem_filter.1 (List.mem_of_head? h)).1

/-- The children of an element that was made are looked up among those it was made with. -/
theorem child?_make {name text : String} {children : List Element}
    (h : ∀ c ∈ children, c.tag.space = none) (child : String) :
    (Element.make name text children).child? child = children.find? (·.tag.name == child) :=
  Element.child?_of_bare h child

theorem childText?_make {name text : String} {children : List Element}
    (h : ∀ c ∈ children, c.tag.space = none) (child : String) :
    (Element.make name text children).childText? child
      = (children.find? (·.tag.name == child)).map Element.strippedText := by
  rw [Element.childText?, child?_make h]

/-! The elements of fields have a name without a namespace, and hold the text of the field. -/

@[simp] theorem tag_make (name text : String) (children : List Element) :
    (Element.make name text children).tag = ⟨none, name⟩ := rfl

@[simp] theorem tag_textElement (name text : String) : (textElement name text).tag = ⟨none, name⟩ :=
  rfl

@[simp] theorem tag_boolElement (name : String) (b : Bool) :
    (boolElement name b).tag = ⟨none, name⟩ := rfl

@[simp] theorem tag_integerElement (name : String) (i : Int) :
    (integerElement name i).tag = ⟨none, name⟩ := rfl

@[simp] theorem tag_listElement (name : String) (items : List String) :
    (listElement name items).tag = ⟨none, name⟩ := rfl

@[simp] theorem strippedText_textElement (name text : String) :
    (textElement name text).strippedText = stripped text := rfl

@[simp] theorem bool_strippedText_boolElement (name : String) (b : Bool) (element : String)
    (default : Bool) :
    Field.bool (some (boolElement name b).strippedText) element default = .ok b :=
  Field.bool_word b element default

theorem integer_strippedText_integerElement (name : String) {i : Int} (h : hasNumeral i = true)
    (element : String) :
    Field.integer (some (integerElement name i).strippedText) element = .ok (some i) :=
  Field.integer_numeral h element

@[simp] theorem list_strippedText_listElement (name : String) (items : List String) :
    Field.list (some (listElement name items).strippedText) = CorsRule.normalizedList items :=
  Field.list_joined items

end StorageReply
