import StorageReply.Proofs.Xml.Tokens

/-!
# Line breaks of a written element

A writer passes a carriage return on as it stands, and a reader takes every line break for a line
feed. What a reader is left with of a written element is the element with the line breaks of its
texts unified.

* `normalizeBreaks_append`: breaks are normalised piece by piece, unless a line feed follows.
* `unifyBreaks`, `Element.mapText`: a text with unified breaks, and an element with its texts
  changed.
* `normalizeBreaks_writeElement`: normalising the breaks of a written element unifies those of its
  texts.
-/

namespace StorageReply.Xml

open Text
open Token (beginsMarkup)

/-! ## Texts -/

@[simp] theorem normalizeBreaks_nil : normalizeBreaks [] = [] := by
  simp [normalizeBreaks]

theorem normalizeBreaks_cons {c : Char} (h : c ≠ '\r') (s : List Char) :
    normalizeBreaks (c :: s) = c :: normalizeBreaks s := by
  rw [normalizeBreaks] <;> simp_all

theorem normalizeBreaks_cr {s : List Char} (h : s.head? ≠ some '\n') :
    normalizeBreaks ('\r' :: s) = '\n' :: normalizeBreaks s := by
  rw [normalizeBreaks]
  rintro rest rfl
  exact h rfl

/-- The breaks of two texts, the second of which does not begin with a line feed, are normalised one
text after the other. -/
theorem normalizeBreaks_append (s : List Char) {t : List Char} (h : t.head? ≠ some '\n') :
    normalizeBreaks (s ++ t) = normalizeBreaks s ++ normalizeBreaks t := by
  fun_induction normalizeBreaks s with
  | case1 => rfl
  | case2 rest ih => simp [normalizeBreaks, ih]
  | case3 rest hrest ih =>
    have hhead : (rest ++ t).head? ≠ some '\n' := by
      cases rest with
      | nil => exact h
      | cons d rest => simpa using hrest rest
    rw [List.cons_append, normalizeBreaks_cr hhead, ih, List.cons_append]
  | case4 c rest _ hcr ih =>
    rw [List.cons_append, normalizeBreaks_cons hcr, ih, List.cons_append]

/-- A beginning without carriage returns is kept. -/
theorem normalizeBreaks_append_of_notMem {s : List Char} (h : '\r' ∉ s) (t : List Char) :
    normalizeBreaks (s ++ t) = s ++ normalizeBreaks t := by
  induction s with
  | nil => rfl
  | cons c s ih =>
    obtain ⟨hc, hs⟩ := List.ne_and_not_mem_of_not_mem_cons h
    rw [List.cons_append, normalizeBreaks_cons hc.symm, ih hs, List.cons_append]

theorem mem_of_mem_normalizeBreaks {s : List Char} {c : Char} (h : c ∈ normalizeBreaks s) :
    c ≠ '\r' ∧ (c ∈ s ∨ c = '\n') := by
  fun_induction normalizeBreaks s with
  | case1 => simp at h
  | case2 rest ih => grind
  | case3 rest _ ih => grind
  | case4 d rest _ hcr ih => grind

theorem normalizeBreaks_eq_nil_iff {s : List Char} : normalizeBreaks s = [] ↔ s = [] := by
  fun_cases normalizeBreaks s <;> simp

theorem length_normalizeBreaks_le (s : List Char) : (normalizeBreaks s).length ≤ s.length := by
  fun_induction normalizeBreaks s <;> simp_all
  omega

theorem LegibleText.normalizeBreaks {s : List Char} (h : LegibleText s) :
    LegibleText (normalizeBreaks s) := by
  intro c hc
  rcases (mem_of_mem_normalizeBreaks hc).2 with hc | rfl
  · exact h c hc
  · decide

/-- A string with each line break as a line feed. -/
def unifyBreaks (s : String) : String := String.ofList (normalizeBreaks s.toList)

@[simp] theorem toList_unifyBreaks (s : String) :
    (unifyBreaks s).toList = normalizeBreaks s.toList := by
  simp [unifyBreaks]

@[simp] theorem isEmpty_unifyBreaks (s : String) : (unifyBreaks s).isEmpty = s.isEmpty := by
  rw [Bool.eq_iff_iff, String.isEmpty_iff, String.isEmpty_iff, ← String.toList_eq_nil_iff,
    ← String.toList_eq_nil_iff, toList_unifyBreaks, normalizeBreaks_eq_nil_iff]

@[simp] theorem unifyBreaks_empty : unifyBreaks "" = "" := rfl

/-- Unifying breaks keeps just the strings without carriage returns. -/
theorem unifyBreaks_eq_self_iff {s : String} : unifyBreaks s = s ↔ '\r' ∉ s.toList := by
  constructor
  · intro h hmem
    rw [← h, toList_unifyBreaks] at hmem
    exact (mem_of_mem_normalizeBreaks hmem).1 rfl
  · intro h
    rw [unifyBreaks, normalizeBreaks_eq_self h, String.ofList_toList]

/-! ## Written elements -/

theorem head?_escape_append {s t : List Char} (hs : s.head? ≠ some '\n')
    (ht : t.head? ≠ some '\n') : (escape s ++ t).head? ≠ some '\n' := by
  cases s with
  | nil => exact ht
  | cons c s =>
    simp only [escape, List.flatMap_cons, escapeChar]
    split
    · simp
    · split
      · simp
      · split
        · simp
        · simpa using hs

theorem notMem_escapeChar {c : Char} (h : c ≠ '\r') : '\r' ∉ escapeChar c := by
  rw [escapeChar]
  split
  · simp
  · split
    · simp
    · split
      · simp
      · simpa using Ne.symm h

/-- Breaks can be normalised before a text is put in its written form or after it. -/
theorem normalizeBreaks_escape (s : List Char) :
    normalizeBreaks (escape s) = escape (normalizeBreaks s) := by
  have hcons : ∀ (c : Char) (t : List Char), escape (c :: t) = escapeChar c ++ escape t :=
    fun _ _ => rfl
  have hlf : escapeChar '\n' = ['\n'] := rfl
  have hcr : escapeChar '\r' = ['\r'] := rfl
  fun_induction normalizeBreaks s with
  | case1 => rfl
  | case2 rest ih =>
    simp only [hcons, hlf, hcr, List.cons_append, List.nil_append, normalizeBreaks, ih]
  | case3 rest hrest ih =>
    have hhead : (escape rest).head? ≠ some '\n' := by
      have hrest : rest.head? ≠ some '\n' := by
        cases rest with
        | nil => simp
        | cons d rest => simpa using hrest rest
      simpa using head?_escape_append hrest (t := []) (by simp)
    simp only [hcons, hlf, hcr, List.cons_append, List.nil_append, normalizeBreaks_cr hhead, ih]
  | case4 c rest _ hcr ih =>
    rw [hcons, hcons, normalizeBreaks_append_of_notMem (notMem_escapeChar hcr), ih]

mutual

/-- An element with its texts changed, those of its children and its tail included. -/
def Element.mapText (f : String → String) : Element → Element
  | ⟨tag, attributes, text, children, tail⟩ =>
    ⟨tag, attributes, f text, Element.mapTexts f children, f tail⟩

/-- Several elements with their texts changed. -/
def Element.mapTexts (f : String → String) : List Element → List Element
  | [] => []
  | e :: rest => Element.mapText f e :: Element.mapTexts f rest

end

@[simp] theorem Element.mapTexts_eq_map (f : String → String) (es : List Element) :
    Element.mapTexts f es = es.map (Element.mapText f) := by
  induction es with
  | nil => rfl
  | cons e es ih => rw [Element.mapTexts, ih, List.map_cons]

@[simp] theorem Element.mapText_make (name text : String) (children : List Element) :
    (Element.make name text children).mapText unifyBreaks
      = .make name (unifyBreaks text) (children.map (Element.mapText unifyBreaks)) := by
  simp [Element.make, Element.mapText]

/-- A plain element stays plain with its breaks unified. -/
theorem Element.Plain.unifyBreaks {e : Element} (h : e.Plain) :
    (e.mapText unifyBreaks).Plain := by
  induction h with
  | intro hname htext _ htail ih =>
    rw [Element.mapText, Element.mapTexts_eq_map]
    refine .intro hname ?_ ?_ ?_
    · simpa using htext.normalizeBreaks
    · intro e he
      obtain ⟨e, hmem, rfl⟩ := List.mem_map.1 he
      exact ih e hmem
    · simpa using htail.normalizeBreaks

theorem IsName.notMem {name : List Char} (h : IsName name) : '\r' ∉ name := by
  intro hmem
  exact absurd (h.isNameChar _ hmem) (by decide)

theorem EndsRun.head?_ne {s : List Char} (h : EndsRun s) : s.head? ≠ some '\n' := by
  intro hs
  exact absurd (h _ hs) (by decide)

/-- **Normalising the breaks of a written element** unifies the breaks of its texts. -/
theorem normalizeBreaks_writeElement {e : Element} (h : e.Plain) :
    normalizeBreaks (writeElement e) = writeElement (e.mapText unifyBreaks) := by
  induction h with
  | @intro name text tail children hname _ _ _ ih =>
    have hchildren : ∀ es : List Element, (∀ e ∈ es, e ∈ children) →
        normalizeBreaks (writeElements es)
          = writeElements (es.map (Element.mapText unifyBreaks)) := by
      intro es
      induction es with
      | nil => exact fun _ => rfl
      | cons e es ihes =>
        intro hsub
        have hnil : EndsRun [] := by simp [EndsRun]
        have hends : EndsRun (writeElements es) := by simpa using endsRun_writeElements es hnil
        rw [writeElements, normalizeBreaks_append _ hends.head?_ne, List.map_cons, writeElements,
          ih e (hsub e (List.mem_cons_self ..)),
          ihes fun e he => hsub e (List.mem_cons_of_mem _ he)]
    have hempty : '\r' ∉ emptyTag name.toList := by simpa [emptyTag] using hname.notMem
    have hstart : '\r' ∉ startTag name.toList := by simpa [startTag] using hname.notMem
    have hend : '\r' ∉ endTag name.toList := by simpa [endTag] using hname.notMem
    have hclose : EndsRun (endTag name.toList ++ escape tail.toList) := by
      simp [EndsRun, endTag, beginsMarkup]
    have hbody := endsRun_writeElements children hclose
    simp only [writeElement, Element.mapText, Element.mapTexts_eq_map, isEmpty_unifyBreaks,
      List.isEmpty_map, toList_unifyBreaks]
    split
    · rw [normalizeBreaks_append_of_notMem hempty, normalizeBreaks_escape]
    · simp only [List.append_assoc]
      rw [normalizeBreaks_append_of_notMem hstart, normalizeBreaks_append _ hbody.head?_ne,
        normalizeBreaks_append _ hclose.head?_ne, normalizeBreaks_append_of_notMem hend,
        normalizeBreaks_escape, normalizeBreaks_escape, hchildren children fun _ he => he]

end StorageReply.Xml
