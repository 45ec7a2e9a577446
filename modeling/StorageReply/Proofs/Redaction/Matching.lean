import Mathlib.Data.List.Basic
import StorageReply.Log.Redaction
import StorageReply.Proofs.Text.Blanks

/-!
# Matches of redaction rules

What a match of a rule is, read off the text, and how a rule goes through a text from one match to
the next.

* `match?_eq_some_iff`: a match is a marker in any letter case with a credential after it, and
  `split?_eq_some_iff` says what a credential is, in terms of `Credential.Stands` and `Words`.
* `apply_of_match` and `apply_cons_of_none` are the two ways in which a rule goes on;
  `Rule.scan_induction` is the induction that follows them.
* `apply_append_of_quiet`: a part of a text in which no match begins is kept, and what follows it
  is treated as if it stood alone.
-/

namespace StorageReply.Redaction

open Text

/-! ## Letter case -/

theorem toNat_ofNat_of_lt {n : Nat} (h : n < 0xD800) : (Char.ofNat n).toNat = n := by
  have hv : n.isValidChar := Or.inl h
  rw [Char.ofNat, dif_pos hv]
  rfl

/-- Only a letter folds to a letter: every other character is the folded form of itself alone. -/
theorem eq_of_foldChar_eq {c m : Char} (h : foldChar c = m) (hm : ¬('a' ≤ m ∧ m ≤ 'z')) :
    c = m := by
  subst h
  unfold foldChar at hm ⊢
  split
  · rename_i hc
    have hc' : 'A' ≤ c ∧ c ≤ 'Z' := by simpa using hc
    have h₁ : 65 ≤ c.toNat := hc'.1
    have h₂ : c.toNat ≤ 90 := hc'.2
    have hn : (Char.ofNat (c.toNat + 32)).toNat = c.toNat + 32 := toNat_ofNat_of_lt (by omega)
    rw [if_pos hc] at hm
    refine absurd ⟨?_, ?_⟩ hm
    · show 97 ≤ Char.toNat _
      omega
    · show Char.toNat _ ≤ 122
      omega
  · rename_i hc
    rw [if_neg hc] at hm
    split <;> rename_i hi
    · rw [if_pos hi] at hm
      exact absurd (by decide) hm
    · rw [if_neg hi] at hm
      split <;> rename_i hs
      · rw [if_pos hs] at hm
        exact absurd (by decide) hm
      · rw [if_neg hs] at hm
        split <;> rename_i hk
        · rw [if_pos hk] at hm
          exact absurd (by decide) hm
        · rfl

theorem foldChar_of_isBlank {c : Char} (h : isBlank c = true) : foldChar c = c := by
  have hne : ∀ m : Char, isBlank m = false → c ≠ m := by
    rintro m hm rfl
    simp [h] at hm
  have hu : ¬('A' ≤ c ∧ c ≤ 'Z') := by
    rintro ⟨h₁, h₂⟩
    have h₁ : 65 ≤ c.toNat := h₁
    have h₂ : c.toNat ≤ 90 := h₂
    simp [isBlank, inRanges, blankRanges] at h
    omega
  simp [foldChar, hu, hne '\u0130' (by decide), hne '\u0131' (by decide),
    hne '\u017F' (by decide), hne '\u212A' (by decide)]

/-! ## Credentials -/

/-- Whether a credential of the kind ends in front of a character. -/
def Credential.endsAt : Credential → Char → Bool
  | .word _ => isBlank
  | .upTo isEnd => isEnd

/-- A credential of the kind ends in front of the text. -/
def Credential.EndsBefore (k : Credential) (s : List Char) : Prop :=
  ∀ c ∈ s.head?, k.endsAt c = true

/-- The words of a credential in front of the rest of a text: one word, or a scheme with a word
behind it. A scheme in front of blanks alone is a word like any other. -/
inductive Words (schemes : List (List Char)) : List Char → List Char → Prop
  | one {word rest : List Char} (hword : ∀ c ∈ word, isInk c = true)
      (hrest : ∀ c ∈ rest.head?, isBlank c = true)
      (h : word.map foldChar ∈ schemes → ∀ c ∈ rest, isBlank c = true) : Words schemes word rest
  | two {scheme blanks word rest : List Char} (hscheme : scheme.map foldChar ∈ schemes)
      (hink : ∀ c ∈ scheme, isInk c = true) (hblanks : ∀ c ∈ blanks, isBlank c = true)
      (hne : blanks ≠ []) (hword : ∀ c ∈ word, isInk c = true) (hne' : word ≠ [])
      (hrest : ∀ c ∈ rest.head?, isBlank c = true) :
      Words schemes (scheme ++ (blanks ++ word)) rest

theorem isInk_eq_false {c : Char} (h : isBlank c = true) : isInk c = false := by
  simp [isInk, h]

theorem isBlank_of_isInk {c : Char} (h : isInk c = false) : isBlank c = true := by
  simpa [isInk] using h

theorem isBlank_eq_false {c : Char} (h : isInk c = true) : isBlank c = false := by
  simpa [isInk] using h

theorem eq_nil_of_head? {s : List Char} (h : ∀ c ∈ s.head?, isBlank c = true)
    (h' : ∀ c ∈ s.head?, isBlank c = false) : s = [] := by
  cases s with
  | nil => rfl
  | cons c s => simp [h' c rfl] at h

theorem forall_head?_append {s t : List Char} {p : Char → Prop} (hs : s ≠ [])
    (h : ∀ c ∈ s.head?, p c) : ∀ c ∈ (s ++ t).head?, p c := by
  rwa [List.head?_append_of_ne_nil _ hs]

theorem afterWords_append {schemes : List (List Char)} {first t : List Char}
    (hink : ∀ c ∈ first, isInk c = true) (ht : ∀ c ∈ t.head?, isBlank c = true) :
    afterWords schemes (first ++ t) =
      if first.map foldChar ∈ schemes ∧ t.dropWhile isBlank ≠ [] then
        (t.dropWhile isBlank).dropWhile isInk
      else t := by
  have ht' : ∀ c ∈ t.head?, isInk c = false := fun c hc => isInk_eq_false (ht c hc)
  simp only [afterWords, takeWhile_append_of_all hink ht', dropWhile_append_of_all hink ht']
  simp

/-- The words of a credential end in front of a blank, or with the text. -/
theorem Words.isBlank_of_mem_head? {schemes : List (List Char)} {w rest : List Char}
    (h : Words schemes w rest) : ∀ c ∈ rest.head?, isBlank c = true := by
  cases h with
  | one _ hrest => exact hrest
  | two _ _ _ _ _ _ hrest => exact hrest

theorem Words.afterWords_eq {schemes : List (List Char)} {w rest : List Char}
    (h : Words schemes w rest) : afterWords schemes (w ++ rest) = rest := by
  cases h with
  | one hword hrest h =>
    rw [afterWords_append hword hrest, if_neg]
    rintro ⟨hscheme, hne⟩
    exact hne (List.dropWhile_eq_nil_iff.2 (h hscheme))
  | @two scheme blanks word rest hscheme hink hblanks hne hword hne' hrest =>
    have hbehind : ∀ c ∈ (blanks ++ (word ++ rest)).head?, isBlank c = true :=
      forall_head?_append hne fun c hc => hblanks c (List.mem_of_mem_head? hc)
    have hnext : ∀ c ∈ (word ++ rest).head?, isBlank c = false :=
      forall_head?_append hne' fun c hc =>
        isBlank_eq_false (hword c (List.mem_of_mem_head? hc))
    rw [List.append_assoc, List.append_assoc, afterWords_append hink hbehind,
      dropWhile_append_of_all hblanks hnext,
      dropWhile_append_of_all hword fun c hc => isInk_eq_false (hrest c hc),
      if_pos ⟨hscheme, by simp [hne']⟩]

theorem exists_words (schemes : List (List Char)) (s : List Char) :
    ∃ w, s = w ++ afterWords schemes s ∧ Words schemes w (afterWords schemes s) := by
  obtain ⟨first, t, rfl, hink, ht⟩ := exists_span isInk s
  have hblank : ∀ c ∈ t.head?, isBlank c = true := fun c hc => isBlank_of_isInk (ht c hc)
  rw [afterWords_append hink hblank]
  split
  · rename_i h
    obtain ⟨blanks, next, rfl, hblanks, hnext⟩ := exists_span isBlank t
    rw [dropWhile_append_of_all hblanks hnext] at h ⊢
    obtain ⟨word, rest, rfl, hword, hrest⟩ := exists_span isInk next
    have hrest' : ∀ c ∈ rest.head?, isBlank c = true := fun c hc => isBlank_of_isInk (hrest c hc)
    rw [dropWhile_append_of_all hword hrest]
    refine ⟨first ++ (blanks ++ word), by simp only [List.append_assoc],
      .two h.1 hink hblanks ?_ hword ?_ hrest'⟩
    · rintro rfl
      exact h.2 (eq_nil_of_head? hblank hnext)
    · rintro rfl
      exact h.2 (eq_nil_of_head? hrest' hnext)
  · rename_i h
    refine ⟨first, rfl, .one hink hblank fun hscheme => ?_⟩
    rw [not_and, not_not] at h
    exact List.dropWhile_eq_nil_iff.1 (h hscheme)

/-- The words of a credential are the same when the text is cut behind them. -/
theorem Words.of_append {schemes : List (List Char)} {w t rest : List Char}
    (h : Words schemes w (t ++ rest)) : Words schemes w t := by
  have hend : ∀ c ∈ t.head?, isBlank c = true := fun c hc =>
    h.isBlank_of_mem_head? c (List.mem_head?_append_of_mem_head? hc)
  cases h with
  | one hword _ h =>
    exact .one hword hend fun hscheme c hc => h hscheme c (List.mem_append_left _ hc)
  | two hscheme hink hblanks hne hword hne' _ =>
    exact .two hscheme hink hblanks hne hword hne' hend

theorem split?_word {schemes : List (List Char)} {blanks s : List Char} (hne : blanks ≠ [])
    (hblanks : ∀ c ∈ blanks, isBlank c = true) (hs : s ≠ [])
    (hfirst : ∀ c ∈ s.head?, isBlank c = false) :
    (Credential.word schemes).split? (blanks ++ s) = some (blanks, afterWords schemes s) := by
  simp only [Credential.split?, takeWhile_append_of_all hblanks hfirst,
    dropWhile_append_of_all hblanks hfirst]
  simp [hne, hs]

/-- A credential with the blanks in front of it and the rest of the text behind it. -/
def Credential.Stands : Credential → List Char → List Char → List Char → Prop
  | .word schemes, blanks, value, rest => blanks ≠ [] ∧ (∀ c ∈ blanks, isBlank c = true) ∧
      value ≠ [] ∧ (∀ c ∈ value.head?, isBlank c = false) ∧ Words schemes value rest
  | .upTo isEnd, blanks, value, rest => blanks = [] ∧ value ≠ [] ∧
      (∀ c ∈ value, isEnd c = false) ∧ ∀ c ∈ rest.head?, isEnd c = true

/-- A credential is the same when the text is cut behind it. -/
theorem Credential.Stands.of_append {k : Credential} {blanks value t rest : List Char}
    (h : k.Stands blanks value (t ++ rest)) : k.Stands blanks value t := by
  cases k with
  | word schemes =>
    obtain ⟨hne, hblanks, hvalue, hfirst, hwords⟩ := h
    exact ⟨hne, hblanks, hvalue, hfirst, hwords.of_append⟩
  | upTo isEnd =>
    obtain ⟨hblanks, hvalue, hin, hend⟩ := h
    exact ⟨hblanks, hvalue, hin, fun c hc => hend c (List.mem_head?_append_of_mem_head? hc)⟩

/-- A credential is found where one stands. -/
theorem split?_eq_some_iff {k : Credential} {s blanks rest : List Char} :
    k.split? s = some (blanks, rest) ↔
      ∃ value, s = blanks ++ (value ++ rest) ∧ k.Stands blanks value rest := by
  cases k with
  | word schemes =>
    constructor
    · intro h
      obtain ⟨b, t, rfl, hb, ht⟩ := exists_span isBlank s
      simp only [Credential.split?, takeWhile_append_of_all hb ht,
        dropWhile_append_of_all hb ht] at h
      split at h
      · simp at h
      · rename_i hne
        simp only [Bool.or_eq_true, List.isEmpty_iff, not_or] at hne
        obtain ⟨rfl, rfl⟩ := Prod.mk.inj (Option.some.inj h)
        obtain ⟨w, hs, hw⟩ := exists_words schemes t
        have hne' : w ≠ [] := by
          rintro rfl
          refine hne.2 (eq_nil_of_head? (fun c hc => hw.isBlank_of_mem_head? c ?_) ht)
          rwa [hs] at hc
        refine ⟨w, by rw [← hs], hne.1, hb, hne', ?_, hw⟩
        rwa [hs, List.head?_append_of_ne_nil _ hne'] at ht
    · rintro ⟨value, rfl, hne, hblanks, hvalue, hfirst, hwords⟩
      rw [split?_word hne hblanks (by simp [hvalue]) (forall_head?_append hvalue hfirst),
        hwords.afterWords_eq]
  | upTo isEnd =>
    constructor
    · intro h
      obtain ⟨value, t, rfl, hvalue, ht⟩ := exists_span (!isEnd ·) s
      simp only [Credential.split?, takeWhile_append_of_all hvalue ht,
        dropWhile_append_of_all hvalue ht] at h
      split at h
      · simp at h
      · rename_i hne
        obtain ⟨rfl, rfl⟩ := Prod.mk.inj (Option.some.inj h)
        exact ⟨value, rfl, rfl, by simpa using hne, by simpa using hvalue, by simpa using ht⟩
    · rintro ⟨value, rfl, rfl, hvalue, hin, hend⟩
      have hin' : ∀ c ∈ value, (!isEnd c) = true := by simpa using hin
      have hend' : ∀ c ∈ rest.head?, (!isEnd c) = false := by simpa using hend
      simp only [Credential.split?, List.nil_append, takeWhile_append_of_all hin' hend',
        dropWhile_append_of_all hin' hend']
      simp [hvalue]

/-- A credential is a part of the text, after blanks that stay, and ends where its kind ends. -/
theorem split?_spec {k : Credential} {s blanks tail : List Char}
    (h : k.split? s = some (blanks, tail)) :
    ∃ value, value ≠ [] ∧ s = blanks ++ (value ++ tail) ∧ (∀ c ∈ blanks, isBlank c = true) ∧
      k.EndsBefore tail := by
  obtain ⟨value, hs, hvalue⟩ := split?_eq_some_iff.1 h
  cases k with
  | word schemes =>
    obtain ⟨-, hblanks, hne, -, hwords⟩ := hvalue
    exact ⟨value, hne, hs, hblanks, hwords.isBlank_of_mem_head?⟩
  | upTo isEnd =>
    obtain ⟨rfl, hne, -, hend⟩ := hvalue
    exact ⟨value, hne, hs, by simp, hend⟩

theorem split?_word_eq_none_iff {schemes : List (List Char)} {s : List Char} :
    (Credential.word schemes).split? s = none ↔
      (∀ c ∈ s.head?, isBlank c = false) ∨ ∀ c ∈ s, isBlank c = true := by
  have hfirst : s.takeWhile isBlank = [] ↔ ∀ c ∈ s.head?, isBlank c = false := by
    cases s <;> simp [List.takeWhile_cons]
  simp only [Credential.split?, Bool.or_eq_true, List.isEmpty_iff, List.dropWhile_eq_nil_iff,
    hfirst]
  split
  · rename_i h
    exact iff_of_true rfl h
  · rename_i h
    exact iff_of_false nofun h

theorem split?_upTo_eq_none_iff {isEnd : Char → Bool} {s : List Char} :
    (Credential.upTo isEnd).split? s = none ↔ ∀ c ∈ s.head?, isEnd c = true := by
  have hfirst : s.takeWhile (!isEnd ·) = [] ↔ ∀ c ∈ s.head?, isEnd c = true := by
    cases s <;> simp [List.takeWhile_cons]
  simp only [Credential.split?, List.isEmpty_iff, hfirst]
  split
  · rename_i h
    exact iff_of_true rfl h
  · rename_i h
    exact iff_of_false nofun h

/-! ## Matches -/

theorem afterMarker?_eq_some_iff {marker s written rest : List Char} :
    afterMarker? marker s = some (written, rest) ↔
      s = written ++ rest ∧ written.map foldChar = marker := by
  induction marker generalizing s written with
  | nil =>
    simp only [afterMarker?, Option.some.injEq, Prod.mk.injEq, List.map_eq_nil_iff]
    constructor <;> rintro ⟨rfl, rfl⟩ <;> exact ⟨rfl, rfl⟩
  | cons m marker ih =>
    cases s with
    | nil => simp [afterMarker?]; grind
    | cons c s =>
      simp only [afterMarker?]
      split
      · rename_i hc
        cases written with
        | nil => simp
        | cons d written => simp [ih]; grind
      · rename_i hc
        cases written with
        | nil => simp
        | cons d written => simp; grind

theorem match?_eq_some_iff {r : Rule} {s kept tail : List Char} :
    r.match? s = some (kept, tail) ↔ ∃ written rest blanks, s = written ++ rest ∧
      written.map foldChar = r.marker ∧ r.credential.split? rest = some (blanks, tail) ∧
      kept = written ++ blanks := by
  constructor
  · intro h
    simp only [Rule.match?] at h
    split at h
    · simp at h
    · rename_i written rest hm
      obtain ⟨hs, hw⟩ := afterMarker?_eq_some_iff.1 hm
      obtain ⟨⟨blanks, tail'⟩, hk, he⟩ := Option.map_eq_some_iff.1 h
      simp only [Prod.mk.injEq] at he
      obtain ⟨rfl, rfl⟩ := he
      exact ⟨written, rest, blanks, hs, hw, hk, rfl⟩
  · rintro ⟨written, rest, blanks, hs, hw, hk, rfl⟩
    simp [Rule.match?, afterMarker?_eq_some_iff.2 ⟨hs, hw⟩, hk]

theorem match?_of_marker {r : Rule} {written : List Char} (hw : written.map foldChar = r.marker)
    (rest : List Char) : r.match? (written ++ rest) =
      (r.credential.split? rest).map fun (blanks, tail) => (written ++ blanks, tail) := by
  simp [Rule.match?, afterMarker?_eq_some_iff.2 ⟨rfl, hw⟩]

theorem match?_of_marker_append {r : Rule} {before written t : List Char}
    (hw : written.map foldChar = r.marker) (hb : before = written ++ t) (rest : List Char) :
    r.match? (before ++ rest) =
      (r.credential.split? (t ++ rest)).map fun (blanks, tail) => (written ++ blanks, tail) := by
  rw [hb, List.append_assoc, match?_of_marker hw]

/-- A match takes a part of the text away. -/
theorem length_lt_of_match? {r : Rule} {s kept tail : List Char}
    (h : r.match? s = some (kept, tail)) : tail.length < s.length := by
  obtain ⟨written, rest, blanks, rfl, -, hk, -⟩ := match?_eq_some_iff.1 h
  obtain ⟨value, hv, rfl, -⟩ := split?_spec hk
  have := List.length_pos_iff.2 hv
  simp only [List.length_append]
  omega

/-! ## Going through a text -/

section Scan

variable (r : Rule)

theorem applyFrom_congr {n m : Nat} {s : List Char} (hn : s.length ≤ n) (hm : s.length ≤ m) :
    r.applyFrom n s = r.applyFrom m s := by
  induction n generalizing m s with
  | zero =>
    obtain rfl : s = [] := List.length_eq_zero_iff.1 (by omega)
    cases m <;> rfl
  | succ n ih =>
    cases s with
    | nil => cases m <;> rfl
    | cons c s =>
      cases m with
      | zero => simp at hm
      | succ m =>
        simp only [List.length_cons] at hn hm
        simp only [Rule.applyFrom]
        split
        · rename_i kept tail hmatch
          have hlt := length_lt_of_match? hmatch
          simp only [List.length_cons] at hlt
          rw [ih (by omega) (by omega : tail.length ≤ m)]
        · rw [ih (by omega) (by omega : s.length ≤ m)]

variable {r}

theorem apply_cons_of_none {c : Char} {s : List Char} (h : r.match? (c :: s) = none) :
    r.apply (c :: s) = c :: r.apply s := by
  simp [Rule.apply, Rule.applyFrom, h]

theorem apply_of_match {s kept tail : List Char} (h : r.match? s = some (kept, tail)) :
    r.apply s = kept ++ (mask ++ r.apply tail) := by
  have hlt := length_lt_of_match? h
  cases s with
  | nil => simp at hlt
  | cons c s =>
    simp only [List.length_cons] at hlt
    simp only [Rule.apply, List.length_cons, Rule.applyFrom, h, List.append_assoc]
    rw [applyFrom_congr r (by omega) (Nat.le_refl tail.length)]

/-- Induction along a rule's way through a text: a character is passed, or a credential is
hidden. -/
@[elab_as_elim]
theorem Rule.scan_induction (r : Rule) {motive : List Char → Prop} (nil : motive [])
    (pass : ∀ c s, r.match? (c :: s) = none → motive s → motive (c :: s))
    (hide : ∀ s kept tail, r.match? s = some (kept, tail) → motive tail → motive s)
    (s : List Char) : motive s := by
  induction hn : s.length using Nat.strongRecOn generalizing s with
  | ind n ih =>
    cases s with
    | nil => exact nil
    | cons c s =>
      cases hm : r.match? (c :: s) with
      | none => exact pass c s hm (ih s.length (by simp [← hn]) s rfl)
      | some found =>
        have hlt := length_lt_of_match? hm
        exact hide _ found.1 found.2 hm (ih found.2.length (by omega) found.2 rfl)

end Scan

/-! ## Parts without a match -/

/-- No match of the rule begins in the first part of a text. -/
def Rule.Quiet (r : Rule) : List Char → List Char → Prop
  | [], _ => True
  | c :: s, rest => r.match? (c :: (s ++ rest)) = none ∧ r.Quiet s rest

/-- A part without a match is kept, and what follows it is treated as if it stood alone. -/
theorem apply_append_of_quiet {r : Rule} {s rest : List Char} (h : r.Quiet s rest) :
    r.apply (s ++ rest) = s ++ r.apply rest := by
  induction s with
  | nil => rfl
  | cons c s ih => rw [List.cons_append, apply_cons_of_none h.1, ih h.2, List.cons_append]

/-- Whether a marker begins nowhere in a text, even if it goes on after its end. -/
def apart (marker : List Char) : List Char → Bool
  | [] => true
  | c :: s => !marker.isPrefixOf (c :: s) && !(c :: s).isPrefixOf marker && apart marker s

theorem match?_eq_none_of_not_startsWith {r : Rule} {s rest : List Char}
    (h₁ : ¬r.marker <+: s.map foldChar) (h₂ : ¬s.map foldChar <+: r.marker) :
    r.match? (s ++ rest) = none := by
  rw [Option.eq_none_iff_forall_ne_some]
  rintro ⟨kept, tail⟩ h
  obtain ⟨written, rest', -, hs, hw, -⟩ := match?_eq_some_iff.1 h
  have hfold : r.marker ++ rest'.map foldChar = s.map foldChar ++ rest.map foldChar := by
    rw [← hw, ← List.map_append, ← List.map_append, hs]
  have hp : r.marker <+: s.map foldChar ++ rest.map foldChar := hfold ▸ List.prefix_append _ _
  rcases List.prefix_or_prefix_of_prefix hp (List.prefix_append _ _) with hp | hp
  · exact h₁ hp
  · exact h₂ hp

theorem quiet_of_apart {r : Rule} {s : List Char} (h : apart r.marker (s.map foldChar) = true)
    (rest : List Char) : r.Quiet s rest := by
  induction s with
  | nil => trivial
  | cons c s ih =>
    simp only [List.map_cons, apart, Bool.and_eq_true, Bool.not_eq_true',
      ← Bool.not_eq_true, List.isPrefixOf_iff_prefix] at h
    exact ⟨match?_eq_none_of_not_startsWith (s := c :: s) h.1.1 h.1.2, ih h.2⟩

end StorageReply.Redaction
