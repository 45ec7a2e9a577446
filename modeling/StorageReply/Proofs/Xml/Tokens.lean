import StorageReply.Proofs.Xml.Legible
import StorageReply.Xml.Writer

/-!
# Tokens of a written element

What the reader of tokens finds in a written element. The tokens of an element are given beside its
written form, tag for tag and text for text; a text in its written form is a row of runs and of
references to `amp`, `lt` and `gt`.

* `Token.Lexes`: a text is a row of tokens, with `allFrom?_eq_some_iff`.
* `elementTokens`: the tokens of a written element.
* `lexes_writeElement`: a written element that is plain is the row of its tokens, and goes on with
  whatever follows it.
-/

namespace StorageReply.Xml

open Text

namespace Token

/-- A text is a row of tokens. -/
inductive Lexes : List Char → List Token → Prop
  /-- Nothing is the row of no tokens. -/
  | nil : Lexes [] []
  /-- A token and what follows it. -/
  | cons {s rest : List Char} {token : Token} {tokens : List Token} :
      s ≠ [] → next? s = some (token, rest) → Lexes rest tokens → Lexes s (token :: tokens)

/-- Reading a text token by token finds its row of tokens, given a step for each of them. -/
theorem allFrom?_eq_some_iff {fuel : Nat} {s : List Char} {tokens : List Token} :
    allFrom? fuel s = some tokens ↔ Lexes s tokens ∧ tokens.length ≤ fuel := by
  induction fuel generalizing s tokens with
  | zero =>
    cases s with
    | nil =>
      simp only [allFrom?, Option.some.injEq]
      constructor
      · rintro rfl
        exact ⟨.nil, Nat.le_refl 0⟩
      · rintro ⟨h, -⟩
        cases h with
        | nil => rfl
        | cons hne => exact absurd rfl hne
    | cons c s =>
      simp only [allFrom?, reduceCtorEq, false_iff, not_and]
      rintro ⟨⟩
      simp
  | succ fuel ih =>
    cases s with
    | nil =>
      simp only [allFrom?, Option.some.injEq]
      constructor
      · rintro rfl
        exact ⟨.nil, by simp⟩
      · rintro ⟨h, -⟩
        cases h with
        | nil => rfl
        | cons hne => exact absurd rfl hne
    | cons c s =>
      simp only [allFrom?, Option.bind_eq_bind, Option.bind_eq_some_iff, Option.pure_def,
        Option.some.injEq]
      constructor
      · rintro ⟨⟨token, rest⟩, hnext, tokens, hrest, rfl⟩
        obtain ⟨hlex, hle⟩ := ih.1 hrest
        exact ⟨.cons (by simp) hnext hlex, by simpa using hle⟩
      · rintro ⟨h, hle⟩
        cases h with
        | cons _ hnext hlex =>
          exact ⟨_, hnext, _, ih.2 ⟨hlex, by simpa using hle⟩, rfl⟩

end Token

open Token (Lexes attributes? beginsMarkup characterData? closingTag? next? openingTag?)

/-! ## Character data -/

/-- The name of the entity that a character is written as. -/
def entityName? (c : Char) : Option (List Char) :=
  if c = '&' then some ['a', 'm', 'p']
  else if c = '<' then some ['l', 't']
  else if c = '>' then some ['g', 't']
  else none

theorem escapeChar_eq (c : Char) : escapeChar c =
    match entityName? c with
    | some name => '&' :: (name ++ [';'])
    | none => [c] := by
  simp only [escapeChar, entityName?]
  split <;> rename_i h₁
  · rfl
  · split <;> rename_i h₂
    · rfl
    · split <;> rfl

theorem predefined?_entityName? {c : Char} {name : List Char} (h : entityName? c = some name) :
    predefined? name = some c := by
  simp only [entityName?] at h
  split at h <;> rename_i hc
  · obtain rfl := Option.some.inj h
    subst c
    rfl
  · split at h <;> rename_i hc
    · obtain rfl := Option.some.inj h
      subst c
      rfl
    · split at h <;> rename_i hc
      · obtain rfl := Option.some.inj h
        subst c
        rfl
      · simp at h

/-- A run of characters as a token, if there are any. -/
def runTokens (run : List Char) : List Token := if run.isEmpty then [] else [.text run]

/-- The tokens of a text in its written form, after a run that has been read already. -/
def textTokensFrom (run : List Char) : List Char → List Token
  | [] => runTokens run
  | c :: s =>
    match entityName? c with
    | some name => runTokens run ++ .reference (.entity name) :: textTokensFrom [] s
    | none => textTokensFrom (run ++ [c]) s

/-- The tokens of a text in its written form. -/
def textTokens (s : List Char) : List Token := textTokensFrom [] s

/-- What ends a run: markup, or the end of the text. -/
def EndsRun (s : List Char) : Prop := ∀ c ∈ s.head?, beginsMarkup c = true

theorem beginsWith_subset {s t : List Char} (h : beginsWith s t = true) : ∀ c ∈ t, c ∈ s := by
  induction s generalizing t with
  | nil => cases t <;> simp_all [beginsWith]
  | cons d s ih =>
    cases t with
    | nil => simp
    | cons e t =>
      simp only [beginsWith, Bool.and_eq_true, beq_iff_eq] at h
      intro c hc
      rcases List.mem_cons.1 hc with rfl | hc
      · simp [h.1]
      · exact List.mem_cons_of_mem _ (ih h.2 c hc)

theorem contains_subset {s part : List Char} (h : contains s part = true) : ∀ c ∈ part, c ∈ s := by
  induction s with
  | nil => simp_all [contains]
  | cons d s ih =>
    simp only [contains, Bool.or_eq_true] at h
    rcases h with h | h
    · exact beginsWith_subset h
    · exact fun c hc => List.mem_cons_of_mem _ (ih h c hc)

/-- Whether a character stands for itself in a written text. -/
def isRunChar (c : Char) : Bool := isXmlChar c && (entityName? c).isNone

theorem isRunChar_iff {c : Char} :
    isRunChar c = true ↔ isXmlChar c = true ∧ c ≠ '&' ∧ c ≠ '<' ∧ c ≠ '>' := by
  simp only [isRunChar, entityName?, Bool.and_eq_true]
  grind

theorem next?_run {run rest : List Char} (hne : run ≠ []) (hrun : ∀ c ∈ run, isRunChar c = true)
    (hrest : EndsRun rest) : next? (run ++ rest) = some (.text run, rest) := by
  have hin : ∀ c ∈ run, (!beginsMarkup c) = true := by
    intro c hc
    obtain ⟨-, h₁, h₂, -⟩ := isRunChar_iff.1 (hrun c hc)
    simp [beginsMarkup, h₁, h₂]
  have htake : (run ++ rest).takeWhile (fun c => !beginsMarkup c) = run := by
    rw [List.takeWhile_append_of_pos hin]
    cases rest with
    | nil => simp
    | cons c rest => simp [hrest c (by simp)]
  have hdrop : (run ++ rest).dropWhile (fun c => !beginsMarkup c) = rest := by
    rw [List.dropWhile_append_of_pos hin]
    cases rest with
    | nil => rfl
    | cons c rest => simp [hrest c (by simp)]
  have hxml : run.all isXmlChar = true :=
    List.all_eq_true.2 fun c hc => (isRunChar_iff.1 (hrun c hc)).1
  have hmark : contains run [']', ']', '>'] = false := by
    rw [← Bool.not_eq_true]
    intro h
    exact (isRunChar_iff.1 (hrun '>' (contains_subset h '>' (by simp)))).2.2.2 rfl
  have hdata : characterData? (run ++ rest) = some (.text run, rest) := by
    simp only [characterData?, htake, hdrop, hxml, hmark, Bool.not_false, Bool.and_self, if_true]
  cases run with
  | nil => exact absurd rfl hne
  | cons c run =>
    obtain ⟨-, h₁, h₂, -⟩ := isRunChar_iff.1 (hrun c (by simp))
    rw [List.cons_append] at hdata ⊢
    unfold next?
    split <;> simp_all

theorem next?_entity {c : Char} {name : List Char} (h : entityName? c = some name)
    (rest : List Char) :
    next? ('&' :: (name ++ ';' :: rest)) = some (.reference (.entity name), rest) := by
  simp only [entityName?] at h
  split at h
  · obtain rfl := Option.some.inj h
    rfl
  · split at h
    · obtain rfl := Option.some.inj h
      rfl
    · split at h
      · obtain rfl := Option.some.inj h
        rfl
      · simp at h

theorem lexes_runTokens {run rest : List Char} {tokens : List Token}
    (hrun : ∀ c ∈ run, isRunChar c = true) (hrest : EndsRun rest) (h : Lexes rest tokens) :
    Lexes (run ++ rest) (runTokens run ++ tokens) := by
  by_cases hne : run = []
  · subst hne
    exact h
  · have : runTokens run = [.text run] := by simp [runTokens, hne]
    rw [this]
    exact .cons (by simp [hne]) (next?_run hne hrun hrest) h

theorem lexes_textTokensFrom {s run rest : List Char} {tokens : List Token}
    (hs : LegibleText s) (hrun : ∀ c ∈ run, isRunChar c = true)
    (hrest : EndsRun rest) (h : Lexes rest tokens) :
    Lexes (run ++ (escape s ++ rest)) (textTokensFrom run s ++ tokens) := by
  induction s generalizing run with
  | nil => exact lexes_runTokens hrun hrest h
  | cons c s ih =>
    have hs' : LegibleText s := fun d hd => hs d (List.mem_cons_of_mem _ hd)
    have hescape : escape (c :: s) = escapeChar c ++ escape s := rfl
    rw [hescape, escapeChar_eq, textTokensFrom]
    cases hc : entityName? c with
    | some name =>
      simp only [List.append_assoc, List.cons_append, List.nil_append]
      refine lexes_runTokens hrun (by simp [EndsRun, beginsMarkup]) ?_
      exact .cons (by simp) (next?_entity hc _) (ih hs' (List.forall_mem_nil _))
    | none =>
      have hchar : isRunChar c = true := by simp [isRunChar, hs c (by simp), hc]
      have hrun' : ∀ d ∈ run ++ [c], isRunChar d = true := by
        intro d hd
        rcases List.mem_append.1 hd with hd | hd
        · exact hrun d hd
        · rwa [List.mem_singleton.1 hd]
      simpa using ih hs' hrun'

/-- A text in its written form is the row of its tokens. -/
theorem lexes_escape {s rest : List Char} {tokens : List Token} (hs : LegibleText s)
    (hrest : EndsRun rest) (h : Lexes rest tokens) :
    Lexes (escape s ++ rest) (textTokens s ++ tokens) :=
  lexes_textTokensFrom hs (List.forall_mem_nil _) hrest h

/-! ## Tags -/

/-- A name that a tag can have: it begins as a name does, goes on so, and has no colon. -/
def IsName (name : List Char) : Prop :=
  ∃ c rest, name = c :: rest ∧ isNameStart c = true ∧ ∀ d ∈ rest, isNameChar d = true

instance (name : List Char) : Decidable (IsName name) :=
  match name with
  | [] => isFalse fun ⟨_, _, h, _⟩ => by simp at h
  | c :: rest =>
    decidable_of_iff (isNameStart c = true ∧ rest.all isNameChar = true) <| by
      rw [List.all_eq_true]
      constructor
      · rintro ⟨hc, hrest⟩
        exact ⟨c, rest, rfl, hc, hrest⟩
      · rintro ⟨d, more, heq, hd, hmore⟩
        obtain ⟨rfl, rfl⟩ := List.cons.inj heq
        exact ⟨hd, hmore⟩

theorem isNameChar_of_isNameStart {c : Char} (h : isNameStart c = true) : isNameChar c = true := by
  simp only [isNameStart, isNameChar] at h ⊢
  split <;> simp_all [Char.isAlphanum]
  grind

theorem IsName.isNameChar {name : List Char} (h : IsName name) :
    ∀ c ∈ name, isNameChar c = true := by
  obtain ⟨c, rest, rfl, hc, hrest⟩ := h
  intro d hd
  rcases List.mem_cons.1 hd with rfl | hd
  · exact isNameChar_of_isNameStart hc
  · exact hrest d hd

/-- A name is read up to a character that is in no name, unless that is a colon. -/
theorem spanQualified?_name {name rest : List Char} {c : Char} (hname : IsName name)
    (hc : isNameChar c = false) (hcolon : c ≠ ':') :
    spanQualified? (name ++ c :: rest) = some (name, c :: rest) := by
  obtain ⟨d, more, rfl, hd, hmore⟩ := hname
  have htake : (more ++ c :: rest).takeWhile isNameChar = more := by
    rw [List.takeWhile_append_of_pos hmore]
    simp [hc]
  have hdrop : (more ++ c :: rest).dropWhile isNameChar = c :: rest := by
    rw [List.dropWhile_append_of_pos hmore]
    simp [hc]
  simp only [spanQualified?, List.cons_append, spanName?, hd, if_true, htake, hdrop]
  split <;> simp_all

theorem next?_startTag {name : List Char} (hname : IsName name) (rest : List Char) :
    next? (startTag name ++ rest) = some (.opening name [] false, rest) := by
  have hspan : spanQualified? (name ++ '>' :: rest) = some (name, '>' :: rest) :=
    spanQualified?_name hname (by decide) (by decide)
  have htag : openingTag? (name ++ '>' :: rest) = some (.opening name [] false, rest) := by
    simp [openingTag?, hspan, attributes?, skipBlanks, isXmlBlank]
  obtain ⟨c, more, rfl, hc, -⟩ := hname
  simp only [startTag, List.cons_append, List.append_assoc, List.nil_append] at htag ⊢
  unfold next?
  split <;> simp_all [isNameStart]

theorem next?_emptyTag {name : List Char} (hname : IsName name) (rest : List Char) :
    next? (emptyTag name ++ rest) = some (.opening name [] true, rest) := by
  have hspan : spanQualified? (name ++ ' ' :: '/' :: '>' :: rest)
      = some (name, ' ' :: '/' :: '>' :: rest) :=
    spanQualified?_name hname (by decide) (by decide)
  have htag : openingTag? (name ++ ' ' :: '/' :: '>' :: rest)
      = some (.opening name [] true, rest) := by
    simp [openingTag?, hspan, attributes?, skipBlanks, isXmlBlank]
  obtain ⟨c, more, rfl, hc, -⟩ := hname
  simp only [emptyTag, List.cons_append, List.append_assoc, List.nil_append] at htag ⊢
  unfold next?
  split <;> simp_all [isNameStart]

theorem next?_endTag {name : List Char} (hname : IsName name) (rest : List Char) :
    next? (endTag name ++ rest) = some (.closing name, rest) := by
  obtain ⟨c, more, rfl, hc, hmore⟩ := hname
  have hpart : ∀ d ∈ more, (isNameChar d || d == ':') = true := fun d hd => by simp [hmore d hd]
  have hend : (isNameChar '>' || '>' == ':') = false := by decide
  have htake : (more ++ '>' :: rest).takeWhile (fun c => isNameChar c || c == ':') = more := by
    rw [List.takeWhile_append_of_pos hpart, List.takeWhile_cons, hend]
    simp
  have hdrop : (more ++ '>' :: rest).dropWhile (fun c => isNameChar c || c == ':')
      = '>' :: rest := by
    rw [List.dropWhile_append_of_pos hpart, List.dropWhile_cons, hend]
    simp
  simp only [endTag, List.cons_append, List.append_assoc, List.nil_append, next?, closingTag?, hc,
    if_true, htake, hdrop]
  simp [skipBlanks, isXmlBlank]

/-! ## Elements -/

mutual

/-- The tokens of a written element and of its tail. -/
def elementTokens : Element → List Token
  | ⟨tag, _, text, children, tail⟩ =>
    let name := tag.name.toList
    (if text.isEmpty && children.isEmpty then [.opening name [] true]
      else .opening name [] false
        :: (textTokens text.toList ++ (elementsTokens children ++ [.closing name])))
      ++ textTokens tail.toList

/-- The tokens of several written elements. -/
def elementsTokens : List Element → List Token
  | [] => []
  | e :: rest => elementTokens e ++ elementsTokens rest

end

/-- An element as a writer without attributes and namespaces can give it: every name can stand in a
tag, and every text in a document. -/
inductive Element.Plain : Element → Prop
  /-- An element is plain when its children are. -/
  | intro {name text tail : String} {children : List Element} :
      IsName name.toList → LegibleText text.toList →
      (∀ e ∈ children, Plain e) → LegibleText tail.toList →
      Plain ⟨⟨none, name⟩, [], text, children, tail⟩

theorem endsRun_writeElement (e : Element) (rest : List Char) :
    EndsRun (writeElement e ++ rest) := by
  obtain ⟨tag, attributes, text, children, tail⟩ := e
  simp only [writeElement]
  split <;> simp [emptyTag, startTag, EndsRun, beginsMarkup]

theorem endsRun_writeElements (es : List Element) {rest : List Char} (hrest : EndsRun rest) :
    EndsRun (writeElements es ++ rest) := by
  cases es with
  | nil => exact hrest
  | cons e es =>
    rw [writeElements, List.append_assoc]
    exact endsRun_writeElement e _

/-- **A written element is the row of its tokens**, and goes on with whatever follows it. -/
theorem lexes_writeElement {e : Element} (he : e.Plain) {rest : List Char} {tokens : List Token}
    (hrest : EndsRun rest) (h : Lexes rest tokens) :
    Lexes (writeElement e ++ rest) (elementTokens e ++ tokens) := by
  induction he generalizing rest tokens with
  | @intro name text tail children hname htext _ htail ih =>
    -- the children one after the other, with what the induction says of each of them
    have hchildren : ∀ (es : List Element), (∀ e ∈ es, e ∈ children) → ∀ {rest : List Char}
        {tokens : List Token}, EndsRun rest → Lexes rest tokens →
        Lexes (writeElements es ++ rest) (elementsTokens es ++ tokens) := by
      intro es
      induction es with
      | nil => exact fun _ _ _ _ h => h
      | cons e es ihes =>
        intro hsub rest tokens hrest h
        rw [writeElements, elementsTokens, List.append_assoc, List.append_assoc]
        have hes := ihes (fun e he => hsub e (List.mem_cons_of_mem _ he)) hrest h
        exact ih e (hsub e (List.mem_cons_self ..)) (endsRun_writeElements es hrest) hes
    have htail := lexes_escape htail hrest h
    simp only [writeElement, elementTokens]
    split
    · simp only [List.append_assoc, List.cons_append, List.nil_append]
      exact .cons (by simp [emptyTag]) (next?_emptyTag hname _) htail
    · simp only [List.append_assoc, List.cons_append, List.nil_append]
      have hclose : Lexes (endTag name.toList ++ (escape tail.toList ++ rest))
          (.closing name.toList :: (textTokens tail.toList ++ tokens)) :=
        .cons (by simp [endTag]) (next?_endTag hname _) htail
      have hends : EndsRun (endTag name.toList ++ (escape tail.toList ++ rest)) := by
        simp [EndsRun, endTag, beginsMarkup]
      have hbody := hchildren children (fun _ he => he) hends hclose
      have htext := lexes_escape htext (endsRun_writeElements children hends) hbody
      exact .cons (by simp [startTag]) (next?_startTag hname _) htext

/-! ## Lengths -/

theorem length_runTokens_le (run : List Char) : (runTokens run).length ≤ run.length := by
  cases run <;> simp [runTokens]

theorem length_textTokensFrom_le (run s : List Char) :
    (textTokensFrom run s).length ≤ run.length + (escape s).length := by
  have hrun := length_runTokens_le run
  induction s generalizing run with
  | nil => exact hrun
  | cons c s ih =>
    have hescape : escape (c :: s) = escapeChar c ++ escape s := rfl
    rw [hescape, escapeChar_eq, textTokensFrom]
    cases hc : entityName? c with
    | some name =>
      have hrest := ih [] (length_runTokens_le [])
      simp only [List.length_append, List.length_cons, List.length_nil] at hrest ⊢
      omega
    | none =>
      have hrest := ih (run ++ [c]) (length_runTokens_le _)
      simp only [List.length_append, List.length_cons, List.length_nil] at hrest ⊢
      omega

mutual

/-- No token of a written element is empty. -/
theorem length_elementTokens_le (e : Element) :
    (elementTokens e).length ≤ (writeElement e).length := by
  match e with
  | ⟨tag, _, text, children, tail⟩ =>
    have htext := length_textTokensFrom_le [] text.toList
    have htail := length_textTokensFrom_le [] tail.toList
    have hchildren := length_elementsTokens_le children
    simp only [elementTokens, writeElement, textTokens]
    split <;>
      simp only [List.length_append, List.length_cons, List.length_nil, emptyTag, startTag,
        endTag] at * <;> omega

theorem length_elementsTokens_le (es : List Element) :
    (elementsTokens es).length ≤ (writeElements es).length := by
  match es with
  | [] => exact Nat.le_refl _
  | e :: rest =>
    have he := length_elementTokens_le e
    have hrest := length_elementsTokens_le rest
    simp only [elementsTokens, writeElements, List.length_append]
    omega

end

end StorageReply.Xml
