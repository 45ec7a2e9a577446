import Mathlib.Data.Option.Basic
import StorageReply.Xml.Encoding

/-!
# Characters of a document

Every text in the tree of a document consists of characters that documents may hold, however it got
there: as character data, in a marked section, by a reference to a number or through an entity.

* `Token.Legible`, `Token.legible_of_next?`: what a token says can stand in a document.
* `Element.Legible`: so can the texts of an element and of all elements in it.
* `Source.legible_of_root`: the root of every document is legible.
-/

namespace StorageReply.Xml

open Text Document

/-- Whether a text consists of characters that a document may hold. -/
def LegibleText (s : List Char) : Prop := ∀ c ∈ s, isXmlChar c = true

instance (s : List Char) : Decidable (LegibleText s) :=
  decidable_of_iff (s.all isXmlChar = true) List.all_eq_true

/-! ## Tokens -/

namespace Token

/-- What a token says can stand in a document. -/
def Legible : Token → Prop
  | .text s => LegibleText s
  | .marked s => LegibleText s
  | .reference (.char c) => isXmlChar c = true
  | _ => True

theorem legible_of_numericReference? {base : Nat} {value? : Char → Option Nat} {s rest : List Char}
    {piece : Piece} (h : numericReference? base value? s = some (piece, rest)) :
    (Token.reference piece).Legible := by
  simp only [numericReference?] at h
  split at h
  · split at h
    · simp at h
    · obtain ⟨c, hc, hpiece⟩ := Option.map_eq_some_iff.1 h
      obtain ⟨rfl, rfl⟩ := Prod.mk.inj hpiece
      simp only [charOfNumber?] at hc
      grind [Legible]
  · simp at h

theorem legible_of_reference? {s rest : List Char} {piece : Piece}
    (h : reference? s = some (piece, rest)) : (Token.reference piece).Legible := by
  unfold reference? at h
  split at h
  · exact legible_of_numericReference? h
  · exact legible_of_numericReference? h
  · split at h
    · simp only [Option.some.injEq, Prod.mk.injEq] at h
      obtain ⟨rfl, rfl⟩ := h
      trivial
    · simp at h

theorem legible_of_characterData? {s rest : List Char} {token : Token}
    (h : characterData? s = some (token, rest)) : token.Legible := by
  simp only [characterData?] at h
  split at h
  · rename_i hdata
    simp only [Option.some.injEq, Prod.mk.injEq] at h
    obtain ⟨rfl, rfl⟩ := h
    exact List.all_eq_true.1 (Bool.and_eq_true_iff.1 hdata).1
  · simp at h

theorem legible_of_markedSection? {s rest : List Char} {token : Token}
    (h : markedSection? s = some (token, rest)) : token.Legible := by
  simp only [markedSection?] at h
  split at h
  · split at h
    · rename_i hbody
      simp only [Option.some.injEq, Prod.mk.injEq] at h
      obtain ⟨rfl, rfl⟩ := h
      exact List.all_eq_true.1 hbody
    · simp at h
  · simp at h

/-- Every token of a text is legible. -/
theorem legible_of_next? {s rest : List Char} {token : Token}
    (h : next? s = some (token, rest)) : token.Legible := by
  unfold next? at h
  split at h
  · unfold closingTag? at h
    grind [Legible]
  · obtain ⟨_, -, hpair⟩ := Option.map_eq_some_iff.1 h
    obtain ⟨rfl, rfl⟩ := Prod.mk.inj hpair
    trivial
  · obtain ⟨_, -, hpair⟩ := Option.map_eq_some_iff.1 h
    obtain ⟨rfl, rfl⟩ := Prod.mk.inj hpair
    trivial
  · split at h
    · exact legible_of_markedSection? h
    · split at h
      · obtain ⟨_, -, hpair⟩ := Option.map_eq_some_iff.1 h
        obtain ⟨rfl, rfl⟩ := Prod.mk.inj hpair
        trivial
      · simp at h
  · simp only [openingTag?, Option.bind_eq_bind, Option.bind_eq_some_iff, Option.pure_def,
      Option.some.injEq] at h
    obtain ⟨_, -, _, -, hpair⟩ := h
    obtain ⟨rfl, rfl⟩ := Prod.mk.inj hpair
    trivial
  · obtain ⟨_, hread, hpair⟩ := Option.map_eq_some_iff.1 h
    obtain ⟨rfl, rfl⟩ := Prod.mk.inj hpair
    exact legible_of_reference? hread
  · exact legible_of_characterData? h

theorem legible_of_allFrom? {fuel : Nat} {s : List Char} {tokens : List Token}
    (h : allFrom? fuel s = some tokens) : ∀ token ∈ tokens, token.Legible := by
  induction fuel generalizing s tokens with
  | zero => cases s <;> simp_all [allFrom?]
  | succ fuel ih =>
    cases s with
    | nil => simp_all [allFrom?]
    | cons c s =>
      simp only [allFrom?, Option.bind_eq_bind, Option.bind_eq_some_iff, Option.pure_def,
        Option.some.injEq] at h
      obtain ⟨⟨first, rest⟩, hnext, others, hothers, rfl⟩ := h
      intro token htoken
      rcases List.mem_cons.1 htoken with rfl | htoken
      · exact legible_of_next? hnext
      · exact ih hothers token htoken

end Token

/-! ## Elements -/

/-- The texts of an element and of all elements in it consist of characters of documents. -/
inductive Element.Legible : Element → Prop
  /-- An element is legible when its texts and its children are. -/
  | intro {tag : Tag} {attributes : List (Tag × String)} {text tail : String}
      {children : List Element} :
      LegibleText text.toList → (∀ e ∈ children, Legible e) → LegibleText tail.toList →
      Legible ⟨tag, attributes, text, children, tail⟩

theorem Element.Legible.text {e : Element} (h : e.Legible) : LegibleText e.text.toList := by
  cases h with
  | intro htext => exact htext

theorem Element.Legible.children {e : Element} (h : e.Legible) : ∀ c ∈ e.children, c.Legible := by
  cases h with
  | intro _ hchildren => exact hchildren

namespace Node

/-- What a part of the content of an element says can stand in a document. -/
def Legible : Node → Prop
  | .text s => LegibleText s
  | .element e => e.Legible

theorem legibleText_leadingText {ns : List Node} (h : ∀ n ∈ ns, n.Legible) :
    LegibleText (leadingText ns) := by
  induction ns with
  | nil => simp [leadingText, LegibleText]
  | cons n ns ih =>
    cases n with
    | text s =>
      have hs : LegibleText s := h (.text s) (List.mem_cons_self ..)
      have hns := ih fun n hn => h n (List.mem_cons_of_mem _ hn)
      intro c hc
      rcases List.mem_append.1 hc with hc | hc
      · exact hs c hc
      · exact hns c hc
    | element e => simp [leadingText, LegibleText]

theorem legible_of_mem_elements {ns : List Node} (h : ∀ n ∈ ns, n.Legible) :
    ∀ e ∈ elements ns, e.Legible := by
  induction ns with
  | nil => simp [elements]
  | cons n ns ih =>
    have hns : ∀ n ∈ ns, n.Legible := fun n hn => h n (List.mem_cons_of_mem _ hn)
    cases n with
    | text s => exact ih hns
    | element e =>
      have he : e.Legible := h (.element e) (List.mem_cons_self ..)
      intro f hf
      rcases List.mem_cons.1 hf with rfl | hf
      · exact .intro he.text he.children (by simpa using legibleText_leadingText hns)
      · exact ih hns f hf

end Node

/-! ## Documents -/

theorem isXmlChar_of_predefined? {name : List Char} {c : Char} (h : predefined? name = some c) :
    isXmlChar c = true := by
  have hmem : c ∈ ['&', '<', '>', '"', '\''] := by
    simp only [predefined?] at h
    grind
  simp only [List.mem_cons, List.not_mem_nil, or_false] at hmem
  obtain rfl | rfl | rfl | rfl | rfl := hmem <;> decide

/-- A part goes in front of legible content. -/
theorem legible_of_map_cons {found : Option (List Node × List Token)} {node : Node}
    {ns : List Node} {left : List Token}
    (hfound : ∀ ns left, found = some (ns, left) →
      (∀ n ∈ ns, Node.Legible n) ∧ ∀ t ∈ left, Token.Legible t)
    (hnode : node.Legible)
    (h : found.map (fun (ns, rest) => (node :: ns, rest)) = some (ns, left)) :
    (∀ n ∈ ns, Node.Legible n) ∧ ∀ t ∈ left, Token.Legible t := by
  obtain ⟨⟨others, rest⟩, hsome, hpair⟩ := Option.map_eq_some_iff.1 h
  obtain ⟨rfl, rfl⟩ := Prod.mk.inj hpair
  obtain ⟨hothers, hrest⟩ := hfound _ _ hsome
  exact ⟨List.forall_mem_cons.2 ⟨hnode, hothers⟩, hrest⟩

/-- What is read of legible tokens as the content of an element is legible, and so are the tokens
after it. -/
def ReadsLegibleContent (d : Doctype) (fuel : Nat) : Prop :=
  ∀ ⦃opened scope tokens ns left⦄, (∀ t ∈ tokens, Token.Legible t) →
    content? d fuel opened scope tokens = some (ns, left) →
    (∀ n ∈ ns, Node.Legible n) ∧ ∀ t ∈ left, Token.Legible t

/-- The element that is read of legible tokens after its start tag is legible, and so are the tokens
after it. -/
def ReadsLegibleElement (d : Doctype) (fuel : Nat) : Prop :=
  ∀ ⦃opened scope name given isClosed tokens e left⦄, (∀ t ∈ tokens, Token.Legible t) →
    element? d fuel opened scope name given isClosed tokens = some (e, left) →
    Element.Legible e ∧ ∀ t ∈ left, Token.Legible t

section

variable {d : Doctype} {fuel : Nat}

/-- An entity gives way to what legible tokens of its own make. -/
theorem ReadsLegibleContent.entity (hcontent : ReadsLegibleContent d fuel)
    {opened : List (List Char)} {scope : Scope} {name : List Char} {rest left : List Token}
    {ns : List Node} (hrest : ∀ t ∈ rest, Token.Legible t)
    (h : content? d (fuel + 1) opened scope (.reference (.entity name) :: rest) =
      some (ns, left)) :
    (∀ n ∈ ns, Node.Legible n) ∧ ∀ t ∈ left, Token.Legible t := by
  rw [content?] at h
  split at h
  · rename_i c hc
    refine legible_of_map_cons (fun _ _ => hcontent hrest) ?_ h
    simpa [Node.Legible, LegibleText] using isXmlChar_of_predefined? hc
  · split at h
    · split at h
      · simp at h
      · simp only [Option.bind_eq_bind, Option.bind_eq_some_iff] at h
        obtain ⟨inside, hinside, ⟨replaced, beyond⟩, hreplaced, h⟩ := h
        obtain ⟨-, -, ⟨others, after⟩, hothers, h⟩ := h
        simp only [Option.pure_def, Option.some.injEq, Prod.mk.injEq] at h
        obtain ⟨rfl, rfl⟩ := h
        have hfirst := (hcontent (Token.legible_of_allFrom? hinside) hreplaced).1
        obtain ⟨hmore, hleft⟩ := hcontent hrest hothers
        exact ⟨List.forall_mem_append.2 ⟨hfirst, hmore⟩, hleft⟩
    · simp at h

theorem ReadsLegibleContent.succ (hcontent : ReadsLegibleContent d fuel)
    (helement : ReadsLegibleElement d fuel) : ReadsLegibleContent d (fuel + 1) := by
  intro opened scope tokens ns left htokens h
  cases tokens with
  | nil =>
    simp only [content?, Option.some.injEq, Prod.mk.injEq] at h
    obtain ⟨rfl, rfl⟩ := h
    simp
  | cons token rest =>
    obtain ⟨htoken, hrest⟩ := List.forall_mem_cons.1 htokens
    cases token with
    | text s =>
      have hnode : (Node.text s).Legible := htoken
      exact legible_of_map_cons (fun _ _ => hcontent hrest) hnode h
    | marked s =>
      have hnode : (Node.text s).Legible := htoken
      exact legible_of_map_cons (fun _ _ => hcontent hrest) hnode h
    | reference piece =>
      cases piece with
      | char c =>
        have hchar : isXmlChar c = true := htoken
        refine legible_of_map_cons (fun _ _ => hcontent hrest) ?_ h
        simpa [Node.Legible, LegibleText] using hchar
      | entity name => exact hcontent.entity hrest h
    | opening name given isClosed =>
      simp only [content?, Option.bind_eq_bind, Option.bind_eq_some_iff] at h
      obtain ⟨⟨e, beyond⟩, he, ⟨others, after⟩, hothers, h⟩ := h
      obtain ⟨hlegible, hbeyond⟩ := helement hrest he
      have hnode : (Node.element e).Legible := hlegible
      obtain ⟨rfl, rfl⟩ := Prod.mk.inj (Option.some.inj h)
      obtain ⟨hmore, hleft⟩ := hcontent hbeyond hothers
      exact ⟨List.forall_mem_cons.2 ⟨hnode, hmore⟩, hleft⟩
    | closing name =>
      simp only [content?, Option.some.injEq, Prod.mk.injEq] at h
      obtain ⟨rfl, rfl⟩ := h
      exact ⟨by simp, htokens⟩
    | aside => exact hcontent hrest h
    | doctype markup => simp [content?] at h

theorem ReadsLegibleContent.element (hcontent : ReadsLegibleContent d fuel) :
    ReadsLegibleElement d (fuel + 1) := by
  intro opened scope name given isClosed tokens e left htokens h
  simp only [element?, Option.bind_eq_bind, Option.bind_eq_some_iff] at h
  obtain ⟨⟨tag, attributes, inner⟩, -, h⟩ := h
  split at h
  · simp only [Option.pure_def, Option.some.injEq, Prod.mk.injEq] at h
    obtain ⟨rfl, rfl⟩ := h
    exact ⟨.intro (by simp [LegibleText]) (by simp) (by simp [LegibleText]), htokens⟩
  · obtain ⟨⟨ns, beyond⟩, hns, h⟩ := Option.bind_eq_some_iff.1 h
    obtain ⟨hlegible, hbeyond⟩ := hcontent htokens hns
    split at h
    · rename_i other rest hclose
      split at h
      · simp only [Option.pure_def, Option.some.injEq, Prod.mk.injEq] at h
        obtain ⟨rfl, rfl⟩ := h
        refine ⟨.intro ?_ (Node.legible_of_mem_elements hlegible) (by simp [LegibleText]), ?_⟩
        · simpa using Node.legibleText_leadingText hlegible
        · have hclosed : beyond = .closing other :: rest := hclose
          rw [hclosed] at hbeyond
          exact (List.forall_mem_cons.1 hbeyond).2
      · simp at h
    · simp at h

end

/-- **What legible tokens make is legible**: the content of an element, replaced entities included,
and an element after its start tag. -/
theorem reads_legible (d : Doctype) (fuel : Nat) :
    ReadsLegibleContent d fuel ∧ ReadsLegibleElement d fuel := by
  induction fuel with
  | zero => exact ⟨fun _ _ _ _ _ _ h => by simp [content?] at h,
      fun _ _ _ _ _ _ _ _ _ h => by simp [element?] at h⟩
  | succ fuel ih =>
    obtain ⟨hcontent, helement⟩ := ih
    exact ⟨hcontent.succ helement, hcontent.element⟩

theorem legible_of_prolog? {standalone : Bool} {tokens rest : List Token} {d : Doctype}
    (htokens : ∀ t ∈ tokens, Token.Legible t) (h : prolog? standalone tokens = some (d, rest)) :
    ∀ t ∈ rest, Token.Legible t := by
  intro t ht
  refine htokens t ?_
  simp only [prolog?] at h
  split at h
  · rename_i first more hdrop
    obtain ⟨_, -, hpair⟩ := Option.map_eq_some_iff.1 h
    obtain ⟨rfl, rfl⟩ := Prod.mk.inj hpair
    have hsub := (List.dropWhile_sublist isOutside).subset ht
    have hcons := List.mem_cons_of_mem (Token.doctype first) hsub
    rw [← hdrop] at hcons
    exact (List.dropWhile_sublist isOutside).subset hcons
  · simp only [Option.some.injEq, Prod.mk.injEq] at h
    obtain ⟨-, rfl⟩ := h
    exact (List.dropWhile_sublist isOutside).subset ht

theorem legible_of_parse? {s : List Char} {e : Element} (h : parse? s = some e) : e.Legible := by
  simp only [parse?, Option.bind_eq_bind, Option.bind_eq_some_iff] at h
  obtain ⟨⟨declaration, rest⟩, -, tokens, htokens, h⟩ := h
  have hlegible := Token.legible_of_allFrom? htokens
  simp only [root?, Option.bind_eq_bind, Option.bind_eq_some_iff] at h
  obtain ⟨⟨d, begun⟩, hprolog, h⟩ := h
  have hbegun := legible_of_prolog? hlegible hprolog
  split at h
  · rename_i name given isClosed inside hopening
    obtain ⟨⟨f, after⟩, hf, h⟩ := Option.bind_eq_some_iff.1 h
    have hopening : begun = .opening name given isClosed :: inside := hopening
    rw [hopening] at hbegun
    have hafter := (List.forall_mem_cons.1 hbegun).2
    have hlegible := ((reads_legible d _).2 hafter hf).1
    split at h
    · obtain rfl := Option.some.inj h
      exact hlegible
    · simp at h
  · simp at h

theorem legible_of_ofChars {s : Option (List Char)} {e : Element}
    (h : ofChars s = .ok e) : e.Legible := by
  simp only [ofChars] at h
  split at h
  · rename_i f hf
    obtain ⟨s, -, hparse⟩ := Option.bind_eq_some_iff.1 hf
    obtain rfl := Except.ok.inj h
    exact legible_of_parse? hparse
  · simp at h

/-- **The root of a document is legible**, whether the document is given as text or as bytes. -/
theorem Source.legible_of_root {s : Source} {e : Element} (h : s.root = .ok e) : e.Legible := by
  cases s with
  | text s =>
    simp only [Source.root, ofText] at h
    split at h <;> exact legible_of_ofChars h
  | bytes data =>
    simp only [Source.root, ofBytes] at h
    split at h
    · exact legible_of_ofChars h
    · split at h
      · exact legible_of_ofChars h
      · simp at h

end StorageReply.Xml
