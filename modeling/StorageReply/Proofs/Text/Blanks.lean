import StorageReply.Text.Blank
import StorageReply.Text.Pieces
import Mathlib.Data.List.TakeWhile

/-!
# Texts without blanks at their ends

Stripping a text leaves it bare: it begins and ends with no blank. Bare texts are the ones that
stripping keeps.

* `Bare`, `bare_strip`, `strip_eq_self_iff`: stripped texts and only they are bare.
* `strip_append_append`, `exists_eq_append_strip`: what stripping takes away are blanks.
* `words_strip`, `words_joined`: the words of a text are those with which it was put together.

How texts are taken apart elsewhere is said here too: at the end of a stretch of characters of a
class (`exists_span`, `takeWhile_append_of_all`, `dropWhile_append_of_all`), and at a mark
(`cut?_append_cons`, `exists_last_mark`).
-/

namespace StorageReply.Text

/-! ## Ends -/

/-- A text that neither begins nor ends with a blank. -/
def Bare (s : List Char) : Prop :=
  (∀ c ∈ s.head?, isBlank c = false) ∧ ∀ c ∈ s.getLast?, isBlank c = false

theorem prefix_dropEndWhile (p : Char → Bool) (s : List Char) : dropEndWhile p s <+: s := by
  rw [← List.reverse_suffix, dropEndWhile, List.reverse_reverse]
  exact List.dropWhile_suffix p

theorem getLast?_dropEndWhile (p : Char → Bool) (s : List Char) :
    ∀ c ∈ (dropEndWhile p s).getLast?, p c = false := by
  rw [dropEndWhile, List.getLast?_reverse]
  intro c hc
  have hhead := List.head?_dropWhile_not p s.reverse
  rw [Option.mem_def.1 hc] at hhead
  simpa using hhead

theorem head?_dropWhile (p : Char → Bool) (s : List Char) :
    ∀ c ∈ (s.dropWhile p).head?, p c = false := by
  intro c hc
  have hhead := List.head?_dropWhile_not p s
  rw [Option.mem_def.1 hc] at hhead
  simpa using hhead

theorem takeWhile_append_of_all {p : Char → Bool} {s t : List Char} (hs : ∀ c ∈ s, p c = true)
    (ht : ∀ c ∈ t.head?, p c = false) : (s ++ t).takeWhile p = s := by
  rw [List.takeWhile_append_of_pos hs]
  cases t with
  | nil => simp
  | cons c t => simp [ht c (by simp)]

theorem dropWhile_append_of_all {p : Char → Bool} {s t : List Char} (hs : ∀ c ∈ s, p c = true)
    (ht : ∀ c ∈ t.head?, p c = false) : (s ++ t).dropWhile p = t := by
  rw [List.dropWhile_append_of_pos hs]
  cases t with
  | nil => rfl
  | cons c t => simp [ht c (by simp)]

/-- A text begins with a stretch of characters with a property, and goes on with one without it. -/
theorem exists_span (p : Char → Bool) (s : List Char) :
    ∃ a b, s = a ++ b ∧ (∀ c ∈ a, p c = true) ∧ ∀ c ∈ b.head?, p c = false :=
  ⟨s.takeWhile p, s.dropWhile p, List.takeWhile_append_dropWhile.symm,
    fun _ hc => List.mem_takeWhile_imp hc, fun _ hc => head?_dropWhile p s _ hc⟩

theorem bare_strip (s : List Char) : Bare (strip s) := by
  refine ⟨?_, getLast?_dropEndWhile isBlank _⟩
  intro c hc
  obtain ⟨t, ht⟩ := prefix_dropEndWhile isBlank (stripLeft s)
  refine head?_dropWhile isBlank s c ?_
  have hstrip : stripLeft s = strip s ++ t := ht.symm
  rw [show s.dropWhile isBlank = stripLeft s from rfl, hstrip, List.head?_append,
    Option.mem_def.1 hc]
  rfl

/-- Stripping keeps a text just when it is bare. -/
theorem strip_eq_self_iff {s : List Char} : strip s = s ↔ Bare s := by
  constructor
  · intro h
    rw [← h]
    exact bare_strip s
  · rintro ⟨hhead, hlast⟩
    exact strip_eq_self hhead hlast

@[simp] theorem strip_strip (s : List Char) : strip (strip s) = strip s :=
  strip_eq_self_iff.2 (bare_strip s)

@[simp] theorem stripped_stripped (s : String) : stripped (stripped s) = stripped s := by
  simp [stripped]

theorem mem_of_mem_strip {s : List Char} {c : Char} (h : c ∈ strip s) : c ∈ s :=
  (List.dropWhile_sublist isBlank).subset ((prefix_dropEndWhile isBlank _).subset h)

/-- A text without blanks is bare. -/
theorem bare_of_forall {s : List Char} (h : ∀ c ∈ s, isBlank c = false) : Bare s :=
  ⟨fun c hc => h c (List.mem_of_mem_head? hc), fun c hc => h c (List.mem_of_mem_getLast? hc)⟩

theorem dropEndWhile_append (p : Char → Bool) (s : List Char) {t : List Char}
    (h : ∀ c ∈ t, p c = true) : dropEndWhile p (s ++ t) = dropEndWhile p s := by
  rw [dropEndWhile, List.reverse_append, List.dropWhile_append_of_pos (by simpa using h),
    dropEndWhile]

/-- Blanks around a text do not matter to what is left of it. -/
theorem strip_append_append {before after : List Char} (s : List Char)
    (hbefore : ∀ c ∈ before, isBlank c = true) (hafter : ∀ c ∈ after, isBlank c = true) :
    strip (before ++ (s ++ after)) = strip s := by
  rw [strip, stripLeft, List.dropWhile_append_of_pos hbefore, List.dropWhile_append, strip,
    stripLeft]
  split
  · rename_i hempty
    have hnil : after.dropWhile isBlank = [] := by
      simpa [List.dropWhile_eq_nil_iff] using hafter
    rw [hnil, List.isEmpty_iff.1 hempty]
  · exact dropEndWhile_append isBlank _ hafter

/-- A text is what is left of it, with blanks around that. -/
theorem exists_eq_append_strip (s : List Char) :
    ∃ before after, s = before ++ (strip s ++ after) ∧ (∀ c ∈ before, isBlank c = true) ∧
      ∀ c ∈ after, isBlank c = true := by
  refine ⟨s.takeWhile isBlank, ((stripLeft s).reverse.takeWhile isBlank).reverse, ?_, ?_, ?_⟩
  · rw [strip, dropEndWhile, ← List.reverse_append, List.takeWhile_append_dropWhile,
      List.reverse_reverse, stripLeft, List.takeWhile_append_dropWhile]
  · exact fun c hc => List.mem_takeWhile_imp hc
  · exact fun c hc => List.mem_takeWhile_imp (List.mem_reverse.1 hc)

/-! ## Words -/

theorem ink_of_any {s : List Char} (h : s.any isBlank = false) : ∀ c ∈ s, isBlank c = false :=
  fun c hc => Bool.eq_false_iff.2 (List.any_eq_false.1 h c hc)

/-- A text of at least one character, none of which is blank. -/
structure IsWord (w : List Char) : Prop where
  /-- There is a character. -/
  ne_nil : w ≠ []
  /-- No character is blank. -/
  ink : ∀ c ∈ w, isBlank c = false

section

variable {isGap : Char → Bool} {before after : List Char}

theorem wordsFrom_append_of_ink {w : List Char} (h : ∀ c ∈ w, isGap c = false)
    (run s : List Char) : wordsFrom isGap run (w ++ s) = wordsFrom isGap (w.reverse ++ run) s := by
  induction w generalizing run with
  | nil => rfl
  | cons c w ih =>
    obtain ⟨hc, hw⟩ := List.forall_mem_cons.1 h
    simp [wordsFrom, hc, ih hw]

theorem wordsFrom_of_gaps (h : ∀ c ∈ before, isGap c = true) (s : List Char) :
    wordsFrom isGap [] (before ++ s) = wordsFrom isGap [] s := by
  induction before with
  | nil => rfl
  | cons c before ih =>
    obtain ⟨hc, hbefore⟩ := List.forall_mem_cons.1 h
    simp [wordsFrom, hc, ih hbefore]

theorem wordsFrom_append_of_gaps (h : ∀ c ∈ after, isGap c = true) (run s : List Char) :
    wordsFrom isGap run (s ++ after) = wordsFrom isGap run s := by
  induction s generalizing run with
  | nil =>
    have hend : wordsFrom isGap [] after = [] := by
      simpa [wordsFrom] using wordsFrom_of_gaps h []
    cases after with
    | nil => rfl
    | cons c after =>
      obtain ⟨hc, hafter⟩ := List.forall_mem_cons.1 h
      cases run <;> simp_all [wordsFrom]
  | cons c s ih => simp only [List.cons_append, wordsFrom, ih]

/-- A run that ends where the text ends. -/
theorem wordsFrom_of_ink {w : List Char} (hne : w ≠ []) (h : ∀ c ∈ w, isGap c = false) :
    wordsFrom isGap [] w = [w] := by
  have hread := wordsFrom_append_of_ink h [] []
  obtain ⟨last, run, hrun⟩ := List.exists_cons_of_ne_nil (List.reverse_ne_nil_iff.2 hne)
  rw [List.append_nil, List.append_nil, hrun, wordsFrom, ← hrun, List.reverse_reverse] at hread
  · exact hread
  · simp

/-- A run that ends at a gap. -/
theorem wordsFrom_append_cons {w : List Char} (hne : w ≠ []) (h : ∀ c ∈ w, isGap c = false)
    {gap : Char} (hgap : isGap gap = true) (s : List Char) :
    wordsFrom isGap [] (w ++ gap :: s) = w :: wordsFrom isGap [] s := by
  have hrun : (w.reverse ++ []).isEmpty = false := by simpa using hne
  rw [wordsFrom_append_of_ink h, wordsFrom, if_pos hgap, hrun, List.append_nil,
    List.reverse_reverse]
  rfl

end

/-- Blanks around a text make no words. -/
theorem words_append_append {before after : List Char} (s : List Char)
    (hbefore : ∀ c ∈ before, isBlank c = true) (hafter : ∀ c ∈ after, isBlank c = true) :
    words (before ++ (s ++ after)) = words s := by
  rw [words, wordsFrom_of_gaps hbefore, wordsFrom_append_of_gaps hafter, words]

/-- Stripping takes away no word. -/
@[simp] theorem words_strip (s : List Char) : words (strip s) = words s := by
  obtain ⟨before, after, hs, hbefore, hafter⟩ := exists_eq_append_strip s
  rw [hs, words_append_append _ hbefore hafter, ← hs]

/-- **Words with blanks between them** are the words of the text. -/
theorem words_joined {ws : List (List Char)} (h : ∀ w ∈ ws, IsWord w) :
    words (joined [' '] ws) = ws := by
  induction ws with
  | nil => rfl
  | cons w rest ih =>
    obtain ⟨hw, hrest⟩ := List.forall_mem_cons.1 h
    cases rest with
    | nil => exact wordsFrom_of_ink hw.ne_nil hw.ink
    | cons next rest =>
      rw [joined, List.append_assoc, words, List.singleton_append,
        wordsFrom_append_cons hw.ne_nil hw.ink (by decide), ← words, ih hrest]
      simp

/-! ## Pieces -/

theorem pieces_eq_singleton {sep : Char} {s : List Char} (h : sep ∉ s) : pieces sep s = [s] := by
  induction s with
  | nil => rfl
  | cons c s ih =>
    obtain ⟨hc, hs⟩ := List.ne_and_not_mem_of_not_mem_cons h
    simp [pieces, hc.symm, ih hs]

theorem subset_of_mem_pieces {sep : Char} {s piece : List Char} (h : piece ∈ pieces sep s) :
    ∀ c ∈ piece, c ∈ s := by
  induction s generalizing piece with
  | nil => simp_all [pieces]
  | cons d s ih =>
    simp only [pieces] at h
    split at h
    · rcases List.mem_cons.1 h with rfl | h
      · simp
      · exact fun c hc => List.mem_cons_of_mem _ (ih h c hc)
    · split at h
      · simp_all
      · rename_i first others hpieces
        rcases List.mem_cons.1 h with rfl | h
        · intro c hc
          rcases List.mem_cons.1 hc with rfl | hc
          · exact List.mem_cons_self ..
          · exact List.mem_cons_of_mem _ (ih (by simp [hpieces]) c hc)
        · exact fun c hc => List.mem_cons_of_mem _ (ih (by simp [hpieces, h]) c hc)

theorem cut?_eq_none {p : Char → Bool} {s : List Char} (h : ∀ c ∈ s, p c = false) :
    cut? p s = none := by
  induction s with
  | nil => rfl
  | cons c s ih => simp [cut?, h c (by simp), ih fun d hd => h d (List.mem_cons_of_mem _ hd)]

theorem afterLast_eq_self {mark : Char} {s : List Char} (h : mark ∉ s) : afterLast mark s = s := by
  have hcut : cut? (· == mark) s.reverse = none := by
    refine cut?_eq_none fun c hc => beq_eq_false_iff_ne.2 ?_
    rintro rfl
    exact h (List.mem_reverse.1 hc)
  rw [afterLast, cutLast?, hcut]
  rfl

theorem cut?_append_cons {p : Char → Bool} {before after : List Char} {mark : Char}
    (hmark : p mark = true) (hbefore : ∀ c ∈ before, p c = false) :
    cut? p (before ++ mark :: after) = some (before, mark, after) := by
  induction before with
  | nil => simp [cut?, hmark]
  | cons c before ih =>
    obtain ⟨hc, hrest⟩ := List.forall_mem_cons.1 hbefore
    simp [cut?, hc, ih hrest]

theorem afterLast_append_cons {mark : Char} (before : List Char) {after : List Char}
    (h : mark ∉ after) : afterLast mark (before ++ mark :: after) = after := by
  have hreverse : (before ++ mark :: after).reverse = after.reverse ++ mark :: before.reverse := by
    simp
  have hafter : ∀ c ∈ after.reverse, (c == mark) = false := by
    intro c hc
    rw [beq_eq_false_iff_ne]
    rintro rfl
    exact h (List.mem_reverse.1 hc)
  rw [afterLast, cutLast?, hreverse, cut?_append_cons (by simp) hafter]
  simp

/-- A text that holds a mark is cut at the last one. -/
theorem exists_last_mark {mark : Char} {s : List Char} (h : mark ∈ s) :
    ∃ before after, s = before ++ mark :: after ∧ mark ∉ after := by
  obtain ⟨after, before, hreverse, hafter⟩ := List.eq_append_cons_of_mem (List.mem_reverse.2 h)
  refine ⟨before.reverse, after.reverse, ?_, fun hmem => hafter (List.mem_reverse.1 hmem)⟩
  have hs := congrArg List.reverse hreverse
  simpa using hs

end StorageReply.Text
