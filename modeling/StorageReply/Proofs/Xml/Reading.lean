import StorageReply.Proofs.Text.Blanks
import StorageReply.Proofs.Xml.LineBreaks
import StorageReply.Xml.Document

/-!
# Reading a written element

A document that was written from a plain element is read as that element, with the line breaks of
its texts unified. The tree that tokens make is found from the end: each token adds to the content
that the tokens after it make.

* `Makes`: the content that tokens make, given enough steps.
* `Element.Plain.readsBack`: the tokens of a plain element are read as that element.
* `parse?_writeElement`: a written document is read as the element it was written from.
-/

namespace StorageReply.Xml

open Text Document
open Token (Lexes next? allFrom?_eq_some_iff)

/-! ## Names without a prefix -/

/-- A name without attributes is that of an element without a namespace at the root's bindings. -/
theorem enter?_name {name : List Char} (hname : IsName name) :
    enter? {} Scope.root name [] = some (⟨none, String.ofList name⟩, [], Scope.root) := by
  have hcolon : ∀ c ∈ name, (c == ':') = false := by
    intro c hc
    have hchar := hname.isNameChar c hc
    rw [beq_eq_false_iff_ne]
    rintro rfl
    exact absurd hchar (by decide)
  have hsplit : Scope.splitName name = ([], name) := by
    simp only [Scope.splitName, cut?_eq_none hcolon]
  have htag : Scope.root.elementTag? name = some ⟨none, String.ofList name⟩ := by
    simp only [Scope.elementTag?, hsplit]
    rfl
  simp [enter?, distinct, guard, attributeTexts?, Scope.enter?, htag]

/-! ## Content -/

/-- The tokens up to those in `left` make content that begins with a text and goes on with elements,
as long as two steps for each token are allowed. -/
def Makes (tokens : List Token) (text : List Char) (children : List Element) (left : List Token) :
    Prop :=
  ∃ ns, (∀ fuel, 2 * tokens.length + 1 ≤ fuel →
      content? {} fuel [] Scope.root tokens = some (ns, left)) ∧
    Node.leadingText ns = text ∧ Node.elements ns = children

theorem makes_closing (name : List Char) (rest : List Token) :
    Makes (.closing name :: rest) [] [] (.closing name :: rest) := by
  refine ⟨[], ?_, rfl, rfl⟩
  intro fuel hfuel
  obtain ⟨fuel, rfl⟩ := Nat.exists_eq_add_one_of_ne_zero (n := fuel) (by omega)
  rw [content?]

/-- Character data goes in front of the content after it. -/
theorem Makes.text {tokens left : List Token} {text : List Char} {children : List Element}
    (h : Makes tokens text children left) (s : List Char) :
    Makes (.text s :: tokens) (s ++ text) children left := by
  obtain ⟨ns, hns, rfl, rfl⟩ := h
  refine ⟨.text s :: ns, ?_, rfl, rfl⟩
  intro fuel hfuel
  rw [List.length_cons] at hfuel
  obtain ⟨fuel, rfl⟩ := Nat.exists_eq_add_one_of_ne_zero (n := fuel) (by omega)
  simp [content?, hns fuel (by omega)]

/-- So does the character of a predefined entity. -/
theorem Makes.entity {tokens left : List Token} {text : List Char} {children : List Element}
    (h : Makes tokens text children left) {name : List Char} {c : Char}
    (hname : predefined? name = some c) :
    Makes (.reference (.entity name) :: tokens) (c :: text) children left := by
  obtain ⟨ns, hns, rfl, rfl⟩ := h
  refine ⟨.text [c] :: ns, ?_, rfl, rfl⟩
  intro fuel hfuel
  rw [List.length_cons] at hfuel
  obtain ⟨fuel, rfl⟩ := Nat.exists_eq_add_one_of_ne_zero (n := fuel) (by omega)
  simp [content?, hname, hns fuel (by omega)]

theorem Makes.runTokens {tokens left : List Token} {text : List Char} {children : List Element}
    (h : Makes tokens text children left) (run : List Char) :
    Makes (runTokens run ++ tokens) (run ++ text) children left := by
  cases run with
  | nil => exact h
  | cons c run => exact h.text (c :: run)

theorem Makes.textTokensFrom {tokens left : List Token} {text : List Char}
    {children : List Element} (h : Makes tokens text children left) (run s : List Char) :
    Makes (textTokensFrom run s ++ tokens) (run ++ (s ++ text)) children left := by
  induction s generalizing run with
  | nil => exact h.runTokens run
  | cons c s ih =>
    rw [Xml.textTokensFrom]
    cases hc : entityName? c with
    | some name =>
      have hrest := ih []
      simp only [List.append_assoc, List.cons_append]
      exact (hrest.entity (predefined?_entityName? hc)).runTokens run
    | none => simpa using ih (run ++ [c])

/-- The tokens of a written text make that text. -/
theorem Makes.textTokens {tokens left : List Token} {text : List Char} {children : List Element}
    (h : Makes tokens text children left) (s : List Char) :
    Makes (textTokens s ++ tokens) (s ++ text) children left :=
  h.textTokensFrom [] s

/-- What stands between the two tags of an element makes the element. -/
theorem Makes.closed {name : List Char} (hname : IsName name) {tokens rest : List Token}
    {text : List Char} {children : List Element}
    (h : Makes tokens text children (.closing name :: rest)) {fuel : Nat}
    (hfuel : 2 * tokens.length + 2 ≤ fuel) :
    element? {} fuel [] Scope.root name [] false tokens
      = some (⟨⟨none, String.ofList name⟩, [], String.ofList text, children, ""⟩, rest) := by
  obtain ⟨ns, hns, rfl, rfl⟩ := h
  obtain ⟨fuel, rfl⟩ := Nat.exists_eq_add_one_of_ne_zero (n := fuel) (by omega)
  simp [Document.element?, enter?_name hname, hns fuel (by omega)]

/-- An element goes in front of the content after it, and takes the text of that as its tail. -/
theorem Makes.opening {tokens rest left : List Token} {text : List Char} {children : List Element}
    (h : Makes rest text children left) (hlength : rest.length ≤ tokens.length) {name : List Char}
    {isClosed : Bool} {e : Element}
    (he : ∀ fuel, 2 * tokens.length + 2 ≤ fuel →
      element? {} fuel [] Scope.root name [] isClosed tokens = some (e, rest)) :
    Makes (.opening name [] isClosed :: tokens) []
      ({ e with tail := String.ofList text } :: children) left := by
  obtain ⟨ns, hns, rfl, rfl⟩ := h
  refine ⟨.element e :: ns, ?_, rfl, rfl⟩
  intro fuel hfuel
  rw [List.length_cons] at hfuel
  obtain ⟨fuel, rfl⟩ := Nat.exists_eq_add_one_of_ne_zero (n := fuel) (by omega)
  simp [content?, he fuel (by omega), hns fuel (by omega)]

theorem Element.withTail_self (e : Element) :
    (⟨e.tag, e.attributes, e.text, e.children, e.tail⟩ : Element) = e := by
  cases e
  rfl

/-- The tokens of an element, those of its tail left out, are read as the element. -/
def Element.ReadsBack (e : Element) : Prop :=
  ∃ isClosed body,
    elementTokens e = .opening e.tag.name.toList [] isClosed :: (body ++ textTokens e.tail.toList) ∧
    ∀ rest fuel, 2 * (body ++ rest).length + 2 ≤ fuel →
      element? {} fuel [] Scope.root e.tag.name.toList [] isClosed (body ++ rest)
        = some ({ e with tail := "" }, rest)

theorem Makes.elementTokens {e : Element} (he : e.ReadsBack) {tokens left : List Token}
    {text : List Char} {children : List Element} (h : Makes tokens text children left) :
    Makes (elementTokens e ++ tokens) []
      ({ e with tail := String.ofList (e.tail.toList ++ text) } :: children) left := by
  obtain ⟨isClosed, body, htokens, hread⟩ := he
  rw [htokens, List.cons_append, List.append_assoc]
  refine (h.textTokens e.tail.toList).opening (e := { e with tail := "" }) ?_ (hread _)
  simp only [List.length_append]
  omega

/-- Elements one after the other are read as they were written. The text after each is its tail
alone, as the next token opens or closes an element. -/
theorem makes_elementsTokens {es : List Element} (hes : ∀ e ∈ es, e.ReadsBack) (name : List Char)
    (rest : List Token) :
    Makes (elementsTokens es ++ .closing name :: rest) [] es (.closing name :: rest) := by
  induction es with
  | nil => exact makes_closing name rest
  | cons e es ih =>
    have hmore := ih fun e he => hes e (List.mem_cons_of_mem _ he)
    have hcons := hmore.elementTokens (hes e (List.mem_cons_self ..))
    rw [List.append_nil, String.ofList_toList, Element.withTail_self] at hcons
    rw [elementsTokens, List.append_assoc]
    exact hcons

/-- **The tokens of a plain element are read as that element.** -/
theorem Element.Plain.readsBack {e : Element} (he : e.Plain) : e.ReadsBack := by
  induction he with
  | @intro name text tail children hname _ _ _ ih =>
    simp only [Element.ReadsBack, elementTokens]
    split
    · rename_i hempty
      simp only [Bool.and_eq_true, String.isEmpty_iff, List.isEmpty_iff] at hempty
      obtain ⟨rfl, rfl⟩ := hempty
      refine ⟨true, [], rfl, ?_⟩
      intro rest fuel hfuel
      obtain ⟨fuel, rfl⟩ := Nat.exists_eq_add_one_of_ne_zero (n := fuel) (by omega)
      simp [element?, enter?_name hname]
    · refine ⟨false, textTokens text.toList ++ (elementsTokens children ++ [.closing name.toList]),
        rfl, ?_⟩
      intro rest fuel hfuel
      have hbody := (makes_elementsTokens ih name.toList rest).textTokens text.toList
      simp only [List.append_assoc, List.cons_append, List.nil_append] at hfuel ⊢
      simpa using hbody.closed hname hfuel

/-! ## Documents -/

/-- The tokens of a plain element without a tail make the element, given enough steps. -/
theorem root?_elementTokens {e : Element} (he : e.Plain) (htail : e.tail = "") {size : Nat}
    (hsize : 2 * (elementTokens e).length ≤ size) (standalone : Bool) :
    root? standalone size (elementTokens e) = some e := by
  obtain ⟨isClosed, body, htokens, hread⟩ := he.readsBack
  have hself : { e with tail := "" } = e := by
    rw [← htail]
    exact Element.withTail_self e
  rw [htail] at htokens
  have htokens : elementTokens e = .opening e.tag.name.toList [] isClosed :: body := by
    simpa [textTokens, textTokensFrom, runTokens] using htokens
  rw [htokens, List.length_cons] at hsize
  have hroot := hread [] size
  rw [List.append_nil, hself] at hroot
  have hprolog : prolog? standalone (elementTokens e) = some ({}, elementTokens e) := by
    rw [htokens]
    rfl
  rw [root?, hprolog, htokens]
  simp [hroot (by omega)]

/-- **A written document is read as the element it was written from**, with its breaks unified. The
element may stand after any header that the reader passes over. -/
theorem parse?_writeElement {header : List Char} (hheader : '\r' ∉ header)
    (hread : ∀ s, ∃ d, Declaration.read? (header ++ s) = some (d, s)) {e : Element} (he : e.Plain)
    (htail : e.tail = "") :
    parse? (header ++ writeElement e) = some (e.mapText unifyBreaks) := by
  have hplain := he.unifyBreaks
  have hends : EndsRun [] := by simp [EndsRun]
  have hlex := lexes_writeElement hplain hends .nil
  rw [List.append_nil, List.append_nil] at hlex
  have hlength := length_elementTokens_le (e.mapText unifyBreaks)
  have hall : Token.all? (writeElement (e.mapText unifyBreaks))
      = some (elementTokens (e.mapText unifyBreaks)) :=
    allFrom?_eq_some_iff.2 ⟨hlex, hlength⟩
  have hroot : (e.mapText unifyBreaks).tail = "" := by
    obtain ⟨tag, attributes, text, children, tail⟩ := e
    obtain rfl := htail
    rfl
  have hshorter := length_normalizeBreaks_le (writeElement e)
  rw [normalizeBreaks_writeElement he] at hshorter
  obtain ⟨d, hd⟩ := hread (writeElement (e.mapText unifyBreaks))
  rw [parse?, normalizeBreaks_append_of_notMem hheader, normalizeBreaks_writeElement he]
  simp only [hd, hall, Option.bind_eq_bind, Option.bind_some]
  refine root?_elementTokens hplain hroot ?_ _
  rw [List.length_append]
  omega

end StorageReply.Xml
