import StorageReply.Xml.Walk
import StorageReply.Proofs.Text.Blanks

/-!
# Children by name

A name without marks of a path (`isPlainName`) leads from an element to its children with that
local name: by itself to those without a namespace (`Element.found_of_isPlainName`), and as a path
with any namespace to all of them (`Element.found_anySpace`).

So the two look-ups of children agree on whether there is such a child; but the single child need
not be the first of the children, for one without a namespace is preferred
(`Element.childAt?_of_isPlainName`).
-/

namespace StorageReply.Xml

open Text

/-! ## Local names -/

/-- What stands after the last brace of the full text of a tag. -/
def Tag.lastName (t : Tag) : String := String.ofList (afterLast '\x7d' t.text.toList)

/-- A tag as documents have them: no brace closes within its local name. -/
def Tag.IsPlain (t : Tag) : Prop := '\x7d' ∉ t.name.toList

theorem endsWith_iff {s t : List Char} : endsWith s t = true ↔ ∃ before, s = before ++ t := by
  rw [endsWith, beginsWith_iff]
  constructor
  · rintro ⟨r, hr⟩
    exact ⟨r.reverse, by simpa using congrArg List.reverse hr⟩
  · rintro ⟨before, rfl⟩
    exact ⟨before.reverse, List.reverse_append⟩

/-- The local name stands after the last brace. -/
theorem Tag.IsPlain.lastName_eq {t : Tag} (h : t.IsPlain) : t.lastName = t.name := by
  obtain ⟨_ | space, name⟩ := t
  · rw [lastName, text, afterLast_eq_self h, String.ofList_toList]
  · have htext : (Tag.text ⟨some space, name⟩).toList =
        ('\x7b' :: space.toList) ++ '\x7d' :: name.toList := by
      simp [text, String.toList_append]
    rw [lastName, htext, afterLast_append_cons _ h, String.ofList_toList]

/-- A text without braces is the full text of one tag only, that without a namespace. -/
theorem Tag.text_eq_iff {t : Tag} {name : String} (hname : '\x7b' ∉ name.toList) :
    t.text = name ↔ t = ⟨none, name⟩ := by
  obtain ⟨_ | space, own⟩ := t
  · simp [text]
  · refine iff_of_false ?_ (by simp)
    rintro rfl
    exact hname (by simp [text, String.toList_append])

/-- A name asks for the tags that have it after the last brace. -/
theorem TagTest.passes_named_iff {t : Tag} {name : String} (hname : '\x7d' ∉ name.toList) :
    TagTest.passes t (.named name) = true ↔ t.lastName = name := by
  rw [passes, Bool.or_eq_true, beq_iff_eq, endsWith_iff, Tag.lastName, ← String.toList_inj,
    ← String.toList_inj, String.toList_ofList]
  constructor
  · rintro (htext | ⟨before, htext⟩)
    · rw [htext, afterLast_eq_self hname]
    · rw [htext, afterLast_append_cons before hname]
  · intro hlast
    by_cases hbrace : '\x7d' ∈ t.text.toList
    · obtain ⟨before, after, htext, hafter⟩ := exists_last_mark hbrace
      rw [htext, afterLast_append_cons before hafter] at hlast
      exact .inr ⟨before, by rw [htext, hlast]⟩
    · rw [afterLast_eq_self hbrace] at hlast
      exact .inl hlast

/-! ## Plain names -/

/-- Whether a character can be part of a name that has no mark of a path and no colon, quote or
brace. -/
def isPlainNameChar (c : Char) : Bool :=
  Path.isNameChar c && !"*.:'\"\x7b\x7d".toList.contains c

/-- Whether a text is a name that means the same as a tag and as a path. Letters and digits make
such names. -/
def isPlainName (s : String) : Bool := !s.isEmpty && s.toList.all isPlainNameChar

theorem isPlainNameChar_of_isPathMark {c : Char} (h : Path.isPathMark c = true) :
    isPlainNameChar c = false := by
  have hall : "/*[@.".toList.all (!isPlainNameChar ·) = true := by decide
  rw [Path.isPathMark, List.contains_eq_mem, decide_eq_true_eq] at h
  simpa using List.all_eq_true.1 hall c h

theorem Path.marked_eq_false {s : List Char}
    (h : ∀ c ∈ s, c ≠ '\x7b' ∧ c ≠ '\x7d' ∧ isPathMark c = false) {outside : Bool} :
    marked outside s = false := by
  induction s with
  | nil => rfl
  | cons c s ih =>
    obtain ⟨⟨hopen, hclose, hmark⟩, hs⟩ := List.forall_mem_cons.1 h
    simp [marked, hopen, hclose, hmark, ih hs]

theorem Path.tokensFrom_of_word {fuel : Nat} {c : Char} {s : List Char} {token : PathToken}
    (hquoted : quoted? (c :: s) = none) (hmark : mark? (c :: s) = none)
    (hword : word? (c :: s) = some (token, [])) : tokensFrom (fuel + 1) (c :: s) = [token] := by
  have hend : tokensFrom fuel [] = [] := by cases fuel <;> rfl
  rw [tokensFrom, hquoted, hmark, hword]
  simp [hend]

section PlainName

variable {name : String} (h : isPlainName name = true)

include h

theorem isPlainNameChar_of_mem : ∀ c ∈ name.toList, isPlainNameChar c = true := by
  rw [isPlainName, Bool.and_eq_true] at h
  exact List.all_eq_true.1 h.2

theorem isNameChar_of_mem : ∀ c ∈ name.toList, Path.isNameChar c = true := fun c hc =>
  (Bool.and_eq_true_iff.1 (isPlainNameChar_of_mem h c hc)).1

theorem notMem_of_isPlainName {c : Char} (hc : isPlainNameChar c = false) : c ∉ name.toList :=
  fun hmem => Bool.false_ne_true (hc.symm.trans (isPlainNameChar_of_mem h c hmem))

theorem ne_nil_of_isPlainName : name.toList ≠ [] := by
  rw [isPlainName, Bool.and_eq_true] at h
  intro hnil
  rw [String.toList_eq_nil_iff.1 hnil] at h
  simp at h

/-- A plain name is no path. -/
theorem isPath_of_isPlainName : Path.isPath name.toList = false := by
  have hopen : '\x7b' ∉ name.toList := notMem_of_isPlainName h (by decide)
  have hstart : ∀ start, beginsWith name.toList ('\x7b' :: start) = false := by
    intro start
    rw [Bool.eq_false_iff, ne_eq, beginsWith_iff]
    rintro ⟨rest, hrest⟩
    exact hopen (by simp [hrest])
  have hmarked : Path.marked true name.toList = false := by
    refine Path.marked_eq_false fun c hc => ⟨?_, ?_, ?_⟩
    · rintro rfl
      exact hopen hc
    · rintro rfl
      exact notMem_of_isPlainName h (by decide) hc
    · rw [Bool.eq_false_iff]
      exact fun hmark => notMem_of_isPlainName h (isPlainNameChar_of_isPathMark hmark) hc
  have hbare : beginsWith name.toList TagTest.noSpace = false := hstart ['\x7d']
  have hany : beginsWith name.toList TagTest.anySpace = false := hstart ['*', '\x7d']
  rw [Path.isPath, hbare, hany, hmarked]
  rfl

/-- A plain name with any namespace in front of it is a name. -/
theorem spanName_anySpace :
    Path.spanName (TagTest.anySpace ++ name.toList) = (TagTest.anySpace ++ name.toList, []) := by
  have hall := isNameChar_of_mem h
  have htake : name.toList.takeWhile Path.isNameChar = name.toList :=
    List.takeWhile_eq_self_iff.2 hall
  have hdrop : name.toList.dropWhile Path.isNameChar = [] := List.dropWhile_eq_nil_iff.2 hall
  have hcut : cut? (· == '\x7d') ('*' :: '\x7d' :: name.toList) =
      some (['*'], '\x7d', name.toList) := @cut?_append_cons _ ['*'] _ _ rfl (by simp)
  show Path.spanName ('\x7b' :: '*' :: '\x7d' :: name.toList) = _
  simp only [Path.spanName, hcut, htake, hdrop]
  rw [if_neg (by simpa using ne_nil_of_isPlainName h)]
  rfl

theorem tokens_anySpace :
    Path.tokens (TagTest.anySpace ++ name.toList) = [.name (TagTest.anySpace ++ name.toList)] := by
  have hword : Path.word? (TagTest.anySpace ++ name.toList) =
      some (.name (TagTest.anySpace ++ name.toList), []) := by
    rw [Path.word?, spanName_anySpace h]
    rfl
  exact Path.tokensFrom_of_word rfl rfl hword

theorem ofName_anySpace : TagTest.ofName (TagTest.anySpace ++ name.toList) = .named name := by
  have hafter : after? (TagTest.anySpace ++ name.toList) TagTest.anySpace = some name.toList := by
    cases name.toList <;> rfl
  have hany : TagTest.anySpace ++ name.toList ≠ TagTest.anySpace ++ ['*'] := by
    intro heq
    have hstar : name.toList = ['*'] := List.append_cancel_left heq
    exact notMem_of_isPlainName h (c := '*') (by decide) (by simp [hstar])
  have hbare : TagTest.anySpace ++ name.toList ≠ TagTest.noSpace ++ ['*'] := by
    intro heq
    cases (List.cons.inj (List.cons.inj heq).2).1
  rw [TagTest.ofName, if_neg hany, if_neg hbare, hafter]
  simp

/-- With any namespace, a plain name is the path of one step, to the children with that name. -/
theorem read_anySpace :
    Path.read (TagTest.anySpace ++ name.toList) = .ok [.children (.named name)] := by
  have hlast : (TagTest.anySpace ++ name.toList).getLast? ≠ some '/' := by
    intro hslash
    rcases List.mem_append.1 (List.mem_of_getLast? hslash) with hmem | hmem
    · exact absurd hmem (by decide)
    · exact notMem_of_isPlainName h (by decide) hmem
  have hhead : (TagTest.anySpace ++ name.toList).head? = some '\x7b' := rfl
  rw [Path.read, hhead, if_neg (by decide), if_neg (by simpa using hlast), tokens_anySpace h]
  rw [← ofName_anySpace h]
  rfl

end PlainName

/-! ## The first of some and of all -/

section Preferred

variable {α : Type} (p : α → Bool) (xs : List α)

/-- The first member of a list that has a property, or the first of all if none has. -/
def preferred? : Option α := (xs.find? p).or xs.head?

theorem preferred?_eq_none_iff : preferred? p xs = none ↔ xs = [] := by
  rw [preferred?, Option.or_eq_none_iff, List.head?_eq_none_iff]
  refine and_iff_right_of_imp fun hnil => ?_
  rw [hnil, List.find?_nil]

/-- The first member is preferred exactly if it has the property, or none has. -/
theorem preferred?_eq_head?_iff :
    preferred? p xs = xs.head? ↔ (∀ x ∈ xs.head?, p x = true) ∨ ∀ x ∈ xs, p x = false := by
  rw [preferred?]
  cases hfound : xs.find? p with
  | none => exact iff_of_true rfl (.inr fun x hx => by simpa using List.find?_eq_none.1 hfound x hx)
  | some x =>
    have hx : p x = true := List.find?_some hfound
    have hsome : ¬∀ y ∈ xs, p y = false := fun hall =>
      Bool.false_ne_true ((hall x (List.mem_of_find?_eq_some hfound)).symm.trans hx)
    rw [Option.some_or, or_iff_left hsome]
    constructor
    · intro hhead y hy
      obtain rfl := Option.some.inj (hhead.trans hy)
      exact hx
    · intro hfirst
      cases xs with
      | nil => cases hfound
      | cons y rest =>
        rw [List.find?_cons_of_pos (hfirst y rfl)] at hfound
        exact hfound.symm

theorem preferred?_congr {p q : α → Bool} {xs : List α} (h : ∀ x ∈ xs, p x = q x) :
    preferred? p xs = preferred? q xs := by
  rw [preferred?, preferred?, ← List.head?_filter, ← List.head?_filter, List.filter_congr h]

end Preferred

/-! ## Children -/

/-- One step to children leads to those that pass its test. -/
theorem Spot.map_walk_children (e : Element) (test : TagTest) :
    (Spot.walk e [.children test]).map (·.element) = e.children.filter (test.passes ·.tag) := by
  have hall : (Spot.root e).children.map (·.element) = e.children :=
    List.ext_getElem (by simp [Spot.children, Spot.root]) (by simp [Spot.children, Spot.root])
  rw [Spot.walk, List.foldl_cons, List.foldl_nil, Spot.take, List.flatMap_singleton, Spot.passing,
    ← hall, List.filter_map]
  rfl

namespace Element

/-- The children whose tags have a name after the last brace. -/
def childrenEnding (e : Element) (name : String) : List Element :=
  e.children.filter (·.tag.lastName == name)

variable {e : Element} {name : String}

/-- By itself, a plain name leads to the children that have it for their full tag. -/
theorem found_of_isPlainName (h : isPlainName name = true) :
    e.found name.toList = .ok (e.children.filter (·.tag.text == name)) := by
  have htext : ∀ c : Element, (c.tag.text.toList == name.toList) = (c.tag.text == name) := by
    intro c
    rw [Bool.eq_iff_iff, beq_iff_eq, beq_iff_eq, String.toList_inj]
  rw [found, isPath_of_isPlainName h]
  simp only [htext]
  rfl

/-- With any namespace, a plain name leads to the children whose tags have it after the last
brace. -/
theorem found_anySpace (h : isPlainName name = true) :
    e.found (TagTest.anySpace ++ name.toList) = .ok (e.childrenEnding name) := by
  have hpath : Path.isPath (TagTest.anySpace ++ name.toList) = true := by
    have hstart : beginsWith (TagTest.anySpace ++ name.toList) TagTest.anySpace = true :=
      beginsWith_iff.2 ⟨name.toList, rfl⟩
    rw [Path.isPath, hstart, Bool.or_true, Bool.true_or]
  have hclose : '\x7d' ∉ name.toList := notMem_of_isPlainName h (by decide)
  have hpasses : ∀ c ∈ e.children,
      TagTest.passes c.tag (.named name) = (c.tag.lastName == name) := by
    intro c _
    rw [Bool.eq_iff_iff, TagTest.passes_named_iff hclose, beq_iff_eq]
  rw [found, hpath, if_pos rfl, read_anySpace h, Except.map, Spot.map_walk_children,
    childrenEnding, List.filter_congr hpasses]

/-- The children with a name for their full tag are among those that have it after the last
brace. -/
theorem filter_text_eq (hname : '\x7d' ∉ name.toList) :
    e.children.filter (·.tag.text == name) =
      (e.childrenEnding name).filter (·.tag.text == name) := by
  rw [childrenEnding, List.filter_filter]
  refine List.filter_congr fun c _ => ?_
  rw [Bool.eq_iff_iff, Bool.and_eq_true, beq_iff_eq, beq_iff_eq]
  refine (and_iff_left_of_imp fun htext => ?_).symm
  rw [Tag.lastName, htext, afterLast_eq_self hname, String.ofList_toList]

/-- A plain name leads to a single child, and one without a namespace is preferred. -/
theorem childAt?_of_isPlainName (h : isPlainName name = true) :
    e.childAt? name = .ok (preferred? (·.tag.text == name) (e.childrenEnding name)) := by
  have hclose : '\x7d' ∉ name.toList := notMem_of_isPlainName h (by decide)
  rw [childAt?, found_of_isPlainName h, found_anySpace h, filter_text_eq hclose, preferred?,
    ← List.head?_filter]
  simp only [bind, Except.bind, pure, Except.pure]
  cases ((e.childrenEnding name).filter (·.tag.text == name)).head? <;> rfl

/-- Where all tags are as documents have them, these are the children of the local name. -/
theorem childrenEnding_eq_childrenNamed (he : ∀ c ∈ e.children, c.tag.IsPlain) (name : String) :
    e.childrenEnding name = e.childrenNamed name :=
  List.filter_congr fun c hc => by rw [(he c hc).lastName_eq, localName]

/-- Of the children with a local name, one without a namespace is preferred. -/
theorem child?_eq_preferred? (e : Element) (name : String) :
    e.child? name = preferred? (·.tag.space == none) (e.childrenNamed name) := by
  have hbare : ∀ c : Element, (c.tag == ⟨none, name⟩) =
      (c.localName == name && c.tag.space == none) := by
    rintro ⟨⟨space, own⟩, attributes, text, children, tail⟩
    rw [Bool.eq_iff_iff]
    simp [localName, and_comm]
  rw [child?, preferred?, bareChild?, childrenNamed, List.find?_filter]
  simp only [hbare, Bool.decide_and, Bool.decide_eq_true]

/-- A child with a local name has no namespace just when the name is its full tag. -/
theorem text_beq_eq_space_beq (hname : '\x7b' ∉ name.toList) :
    ∀ c ∈ e.childrenNamed name, (c.tag.text == name) = (c.tag.space == none) := by
  intro c hc
  obtain rfl : c.localName = name := eq_of_beq (List.mem_filter.1 hc).2
  obtain ⟨⟨space, own⟩, attributes, text, children, tail⟩ := c
  rw [Bool.eq_iff_iff, beq_iff_eq, Tag.text_eq_iff hname, beq_iff_eq]
  simp [localName]

/-- **The two look-ups of children.** In any mixture of namespaces, a plain name leads to exactly
the children whose tags have it after the last brace, in the order of the document. There is a
single child just when there are such children: the first of them that has no namespace, or the
first of all if each has one. So it is the first of all unless that one has a namespace and a later
one has none. In documents these are the children of the local name. -/
theorem lookups_of_isPlainName (h : isPlainName name = true) :
    ∃ child children, e.childAt? name = .ok child ∧ e.childrenAt name = .ok children ∧
      children = e.children.filter (·.tag.lastName == name) ∧
      (child = none ↔ children = []) ∧
      child = (children.find? (·.tag.text == name)).or children.head? ∧
      (child = children.head? ↔
        (∀ c ∈ children.head?, c.tag.text = name) ∨ ∀ c ∈ children, c.tag.text ≠ name) ∧
      ((∀ c ∈ e.children, c.tag.IsPlain) →
        child = e.child? name ∧ children = e.childrenNamed name) := by
  refine ⟨_, _, childAt?_of_isPlainName h, found_anySpace h, rfl, preferred?_eq_none_iff _ _, rfl,
    ?_, fun he => ⟨?_, childrenEnding_eq_childrenNamed he name⟩⟩
  · rw [preferred?_eq_head?_iff]
    simp
  · rw [child?_eq_preferred?, childrenEnding_eq_childrenNamed he]
    exact preferred?_congr (text_beq_eq_space_beq (notMem_of_isPlainName h (by decide)))

/-- An element with children of one name in two namespaces and in none. -/
def mixed : Element :=
  make "root" ""
    [⟨⟨some "urn:u", "A"⟩, [], "1", [], ""⟩, make "B" "" [], make "A" "2" [],
      ⟨⟨some "urn:v", "A"⟩, [], "3", [], ""⟩]

theorem lookups_of_isPlainName_mixed :
    isPlainName "A" = true ∧ (∀ c ∈ mixed.children, c.tag.IsPlain) ∧
      mixed.childAt? "A" = .ok (some (make "A" "2" [])) ∧
      mixed.child? "A" = some (make "A" "2" []) ∧
      ∃ children, mixed.childrenAt "A" = .ok children ∧ children = mixed.childrenNamed "A" ∧
        children.map (·.text) = ["1", "2", "3"] := by
  have hname : isPlainName "A" = true := by decide
  have hplain : ∀ c ∈ mixed.children, c.tag.IsPlain := by
    simp [mixed, make, Tag.IsPlain]
  obtain ⟨child, children, hchild, hchildren, rfl, -, rfl, -, hnamed⟩ :=
    lookups_of_isPlainName (e := mixed) hname
  obtain ⟨hsingle, hall⟩ := hnamed hplain
  exact ⟨hname, hplain, hchild, hsingle.symm, _, hchildren, hall, by decide⟩

/-- The single child need not be the first of the children. -/
theorem childAt?_mixed_ne_head :
    isPlainName "A" = true ∧ ∃ first child rest,
      mixed.childrenAt "A" = .ok (first :: rest) ∧ mixed.childAt? "A" = .ok (some child) ∧
        first.tag.text = "\x7burn:u\x7dA" ∧ child.tag.text = "A" := by
  have hname : isPlainName "A" = true := by decide
  exact ⟨hname, _, _, _, found_anySpace hname, childAt?_of_isPlainName hname,
    by decide, by decide⟩

end Element

end StorageReply.Xml
