import StorageReply.Text.Case
import StorageReply.Proofs.Text.Blanks

/-!
# Lower case, part by part

The lower form of a text is that of its parts, put together, wherever a hyphen divides it
(`lower_append_hyphen`). This is not so at every place, for the capital sigma looks at the letters
around it; but it looks past neither end of a word, and a hyphen ends one.

A text whose lower form has a given beginning has a beginning of the same length
(`lower_eq_append_hyphen_iff`). Here it matters which letters the beginning is made of: a letter
outside ASCII can have an ASCII lower form, and even one of two characters. Letters for which this
does not happen are told by `isPlain`.

A text whose lower form is ASCII as a whole has no such letter but one, the Kelvin sign
(`lower_eq_iff_of_ascii`).
-/

namespace StorageReply.Text

/-! ## Where a hyphen divides a text -/

theorem meetsCased_append_hyphen (s t : List Char) : meetsCased (s ++ '-' :: t) = meetsCased s := by
  induction s with
  | nil => rfl
  | cons c s ih => simp only [List.cons_append, meetsCased, ih]

theorem lowerFrom_append_hyphen (before far s : List Char) :
    lowerFrom (before ++ '-' :: far) s = lowerFrom before s := by
  induction s generalizing before with
  | nil => rfl
  | cons c s ih =>
    have hrest := ih (c :: before)
    rw [List.cons_append] at hrest
    simp only [lowerFrom, meetsCased_append_hyphen, hrest]

/-- After a hyphen a text is put in lower case as if it stood alone. -/
theorem lowerFrom_hyphen (far s : List Char) : lowerFrom ('-' :: far) s = lower s :=
  lowerFrom_append_hyphen [] far s

theorem lowerFrom_append_of_hyphen (before s t : List Char) :
    lowerFrom before (s ++ '-' :: t) = lowerFrom before s ++ '-' :: lower t := by
  induction s generalizing before with
  | nil =>
    simp only [List.nil_append, lowerFrom, lowerFrom_hyphen]
    rfl
  | cons c s ih =>
    simp only [List.cons_append, lowerFrom, meetsCased_append_hyphen, ih]
    split <;> simp

/-- A hyphen divides a text into parts with lower forms of their own. -/
theorem lower_append_hyphen (s t : List Char) :
    lower (s ++ '-' :: t) = lower s ++ '-' :: lower t := lowerFrom_append_of_hyphen [] s t

/-! ## Beginnings -/

theorem CaseRun.exists_of_image? {n m : Nat} {runs : List CaseRun}
    (h : CaseRun.image? n runs = some m) :
    ∃ run ∈ runs, run.first ≤ n ∧ n ≤ run.last ∧ m = (n + run.shift).toNat := by
  induction runs with
  | nil => simp [image?] at h
  | cons run rest ih =>
    rw [image?] at h
    split at h
    · cases h
    · rename_i hfirst
      split at h
      · rename_i hrun
        simp only [Bool.and_eq_true, decide_eq_true_eq] at hrun
        exact ⟨run, List.mem_cons_self .., by omega, hrun.1, (Option.some.inj h).symm⟩
      · obtain ⟨run', hmem, hrun'⟩ := ih h
        exact ⟨run', List.mem_cons_of_mem _ hmem, hrun'⟩

theorem eq_toNat_of_ofNat {n : Nat} {d : Char} (h : Char.ofNat n = d) (hd : 0 < d.toNat) :
    n = d.toNat := by
  by_cases hn : n.isValidChar
  · rw [← h, Char.ofNat, dif_pos hn]
    rfl
  · rw [← h, Char.ofNat, dif_neg hn] at hd
    exact absurd hd (by decide)

/-- A character has a lower form. -/
theorem lowerChar_ne_nil (c : Char) : lowerChar c ≠ [] := by
  unfold lowerChar
  split
  · simp
  split
  · simp
  split <;> simp

/-- Whether only ASCII characters have a lower form that begins with this one. -/
def isPlain (d : Char) : Bool :=
  0 < d.toNat && d.toNat < 128 && d != 'i' && lowerRuns.all fun run =>
    let source := (d.toNat : Int) - run.shift
    decide (run.last < 128) || source < run.first || run.last < source

theorem lowerChar_eq_cons {c d : Char} {rest : List Char} (hd : isPlain d = true)
    (h : lowerChar c = d :: rest) : c.toNat < 128 ∧ rest = [] := by
  simp only [isPlain, Bool.and_eq_true, Bool.or_eq_true, decide_eq_true_eq, bne_iff_ne,
    List.all_eq_true] at hd
  obtain ⟨⟨⟨hpos, hascii⟩, hi⟩, hruns⟩ := hd
  unfold lowerChar at h
  split at h
  · rename_i hc
    exact ⟨hc, (List.cons.inj h).2.symm⟩
  split at h
  · exact absurd (List.cons.inj h).1.symm hi
  rename_i hc _
  split at h
  · rename_i n hn
    obtain ⟨hchar, -⟩ := List.cons.inj h
    obtain ⟨run, hmem, hfirst, hlast, rfl⟩ := CaseRun.exists_of_image? hn
    -- The run takes `c` to `d`, so `c` is the one source that the table was searched for.
    have hnat := eq_toNat_of_ofNat hchar hpos
    have hsource := hruns run hmem
    omega
  · have hcd : c = d := (List.cons.inj h).1
    exact absurd (hcd ▸ hascii) hc

theorem lowerFrom_eq_cons {before s t : List Char} {d : Char} (hd : isPlain d = true)
    (h : lowerFrom before s = d :: t) :
    ∃ c r, s = c :: r ∧ lowerChar c = [d] ∧ c.toNat < 128 ∧ lowerFrom (c :: before) r = t := by
  cases s with
  | nil => simp [lowerFrom] at h
  | cons c r =>
    rw [lowerFrom] at h
    split at h
    · obtain ⟨rfl, -⟩ := List.cons.inj h
      split at hd <;> exact absurd hd (by decide)
    · obtain ⟨d', rest, hc⟩ := List.exists_cons_of_ne_nil (lowerChar_ne_nil c)
      rw [hc, List.cons_append] at h
      obtain ⟨rfl, hrest⟩ := List.cons.inj h
      obtain ⟨hascii, rfl⟩ := lowerChar_eq_cons hd hc
      exact ⟨c, r, rfl, hc, hascii, hrest⟩

/-- A text whose lower form begins with plain characters begins with as many ASCII characters. -/
theorem exists_of_lowerFrom_eq_append {start before s t : List Char}
    (hstart : ∀ d ∈ start, isPlain d = true) (h : lowerFrom before s = start ++ t) :
    ∃ p r, s = p ++ r ∧ p.length = start.length ∧ (∀ c ∈ p, c.toNat < 128) ∧
      p.map asciiLowerChar = start ∧ lowerFrom (p.reverse ++ before) r = t := by
  induction start generalizing before s with
  | nil => exact ⟨[], s, rfl, rfl, by simp, rfl, h⟩
  | cons d start ih =>
    obtain ⟨c, s, rfl, hc, hascii, hrest⟩ := lowerFrom_eq_cons (hstart d (List.mem_cons_self ..)) h
    obtain ⟨p, r, rfl, hlength, hp, hmap, ht⟩ :=
      ih (fun e he => hstart e (List.mem_cons_of_mem _ he)) hrest
    rw [lowerChar_ascii hascii, List.singleton_inj] at hc
    refine ⟨c :: p, r, rfl, by simp [hlength], ?_, by simp [hc, hmap], by simpa using ht⟩
    intro e he
    rcases List.mem_cons.1 he with rfl | he
    · exact hascii
    · exact hp e he

theorem lowerFrom_of_ascii {before s : List Char} (h : ∀ c ∈ s, c.toNat < 128) :
    lowerFrom before s = s.map asciiLowerChar := by
  induction s generalizing before with
  | nil => rfl
  | cons c s ih =>
    have hc : c.toNat < 128 := h c (List.mem_cons_self ..)
    have hsigma : c ≠ capitalSigma := by
      rintro rfl
      exact absurd hc (by decide)
    have hrest : lowerFrom (c :: before) s = s.map asciiLowerChar :=
      ih fun d hd => h d (List.mem_cons_of_mem _ hd)
    rw [lowerFrom, if_neg hsigma, lowerChar_ascii hc, hrest]
    rfl

theorem asciiLowerChar_eq_hyphen_iff {c : Char} (h : c.toNat < 128) :
    asciiLowerChar c = '-' ↔ c = '-' := by
  have hall : ∀ n < 128, asciiLowerChar (Char.ofNat n) = '-' ↔ Char.ofNat n = '-' := by
    decide
  simpa using hall c.toNat h

/-- **Beginnings in lower case.** The lower form of a text begins with plain characters and a hyphen
exactly if the text has as many characters before a hyphen and these have that lower form; the rest
is the lower form of what follows. -/
theorem lower_eq_append_hyphen_iff {start s t : List Char}
    (hstart : ∀ d ∈ start, isPlain d = true) :
    lower s = start ++ '-' :: t ↔
      ∃ p r, s = p ++ '-' :: r ∧ p.length = start.length ∧ lower p = start ∧ lower r = t := by
  constructor
  · intro h
    have hplain : ∀ d ∈ start ++ ['-'], isPlain d = true := by
      intro d hd
      rcases List.mem_append.1 hd with hd | hd
      · exact hstart d hd
      · rw [List.mem_singleton.1 hd]
        decide
    have hstart' : lowerFrom [] s = (start ++ ['-']) ++ t := by simpa [lower] using h
    obtain ⟨q, r, rfl, -, hascii, hmap, hrest⟩ := exists_of_lowerFrom_eq_append hplain hstart'
    obtain ⟨p, last, rfl, hp, hlast⟩ := List.map_eq_append_iff.1 hmap
    obtain ⟨c, rfl, hc⟩ := List.map_eq_singleton_iff.1 hlast
    obtain rfl := (asciiLowerChar_eq_hyphen_iff (hascii c (by simp))).1 hc
    refine ⟨p, r, by simp, by simpa using congrArg List.length hp, ?_, ?_⟩
    · rw [lower, lowerFrom_of_ascii fun d hd => hascii d (by simp [hd]), hp]
    · rw [← hrest]
      simp [lowerFrom_hyphen]
  · rintro ⟨p, r, rfl, -, rfl, rfl⟩
    exact lower_append_hyphen p r

/-! ## Words -/

/-- A blank is in lower case. -/
theorem asciiLowerChar_of_isBlank {c : Char} (h : isBlank c = true) : asciiLowerChar c = c := by
  refine if_neg fun hletter => ?_
  simp only [Bool.and_eq_true, decide_eq_true_eq, Char.le_def, UInt32.le_iff_toNat_le] at hletter
  have hcode : 65 ≤ c.toNat ∧ c.toNat ≤ 90 := hletter
  simp only [isBlank, blankRanges, inRanges] at h
  grind

theorem lowerFrom_eq_nil {before s : List Char} (h : lowerFrom before s = []) : s = [] := by
  cases s with
  | nil => rfl
  | cons c s =>
    rw [lowerFrom] at h
    split at h
    · cases h
    · exact absurd (List.append_eq_nil_iff.1 h).1 (lowerChar_ne_nil c)

theorem toNat_lt_of_asciiLowerChar {c : Char} (h : (asciiLowerChar c).toNat < 128) :
    c.toNat < 128 := by
  unfold asciiLowerChar at h
  split at h
  · rename_i hletter
    simp only [Bool.and_eq_true, decide_eq_true_eq, Char.le_def, UInt32.le_iff_toNat_le] at hletter
    exact Nat.lt_of_le_of_lt hletter.2 (by decide)
  · exact h

/-- The lower form of a text is a word of plain letters exactly if the text is the word, with any of
its letters as capitals of ASCII. -/
theorem lower_eq_iff {word s : List Char} (hword : ∀ d ∈ word, isPlain d = true) :
    lower s = word ↔ s.map asciiLowerChar = word := by
  constructor
  · intro h
    obtain ⟨p, r, rfl, -, -, hmap, hrest⟩ :=
      exists_of_lowerFrom_eq_append (t := []) hword (by simpa [lower] using h)
    obtain rfl := lowerFrom_eq_nil hrest
    rw [List.append_nil, hmap]
  · rintro rfl
    refine lowerFrom_of_ascii fun c hc => toNat_lt_of_asciiLowerChar ?_
    have hplain := hword _ (List.mem_map_of_mem hc)
    simp only [isPlain, Bool.and_eq_true, decide_eq_true_eq] at hplain
    exact hplain.1.1.2

/-- However a word of plain letters is spelled, it is a word. -/
theorem isWord_of_lower {name s : List Char} (hplain : ∀ d ∈ name, isPlain d = true)
    (hname : IsWord name) (h : lower s = name) : IsWord s := by
  have hmap := (lower_eq_iff hplain).1 h
  refine ⟨?_, fun c hc => ?_⟩
  · rintro rfl
    exact hname.ne_nil hmap.symm
  · by_contra hblank
    rw [Bool.not_eq_false] at hblank
    have hmem : c ∈ name := by
      rw [← hmap, ← asciiLowerChar_of_isBlank hblank]
      exact List.mem_map_of_mem hc
    rw [hname.ink c hmem] at hblank
    cases hblank

/-! ## Lower forms within ASCII -/

/-- The sign of the Kelvin scale, a capital letter k by its lower form. -/
def kelvinSign : Char := '\u212A'

/-- The lower form of a character that has one within ASCII; every other character is kept. -/
def asciiForm (c : Char) : Char := if c = kelvinSign then 'k' else asciiLowerChar c

/-- Whether a run leads to characters beyond ASCII only. The one of the Kelvin sign does not. -/
def CaseRun.leadsBeyond (run : CaseRun) : Bool :=
  let first := run.first + run.shift
  let last := run.last + run.shift
  decide (128 ≤ first) && (decide (last < 0xD800) || decide (0xDFFF < first ∧ last < 0x110000))

theorem leadsBeyond_of_mem : ∀ run ∈ lowerRuns, run.last < 128 ∨
    (run.first = kelvinSign.toNat ∧ run.last = kelvinSign.toNat) ∨ run.leadsBeyond = true := by
  decide +kernel

theorem toNat_ofNat_of_leadsBeyond {run : CaseRun} (h : run.leadsBeyond = true) {n : Nat}
    (hfirst : run.first ≤ n) (hlast : n ≤ run.last) :
    128 ≤ (Char.ofNat (n + run.shift).toNat).toNat := by
  simp only [CaseRun.leadsBeyond, Bool.and_eq_true, Bool.or_eq_true, decide_eq_true_eq] at h
  have hvalid : Nat.isValidChar (n + run.shift).toNat := by
    rw [Nat.isValidChar]
    omega
  have hnat : (Char.ofNat (n + run.shift).toNat).toNat = (n + run.shift).toNat := by
    rw [Char.ofNat, dif_pos hvalid]
    rfl
  omega

/-- A character beyond ASCII has one in its lower form, unless it is the Kelvin sign. -/
theorem exists_mem_lowerChar {c : Char} (hc : 128 ≤ c.toNat) (hk : c ≠ kelvinSign) :
    ∃ d ∈ lowerChar c, 128 ≤ d.toNat := by
  unfold lowerChar
  rw [if_neg (Nat.not_lt.2 hc)]
  split
  · exact ⟨'\u0307', by simp, by decide⟩
  split
  · rename_i n hn
    obtain ⟨run, hmem, hfirst, hlast, rfl⟩ := CaseRun.exists_of_image? hn
    refine ⟨_, List.mem_singleton_self _, toNat_ofNat_of_leadsBeyond ?_ hfirst hlast⟩
    rcases leadsBeyond_of_mem run hmem with hascii | ⟨hfirst', hlast'⟩ | hbeyond
    · omega
    · have hsame : c.toNat = kelvinSign.toNat := by omega
      exact absurd (Char.toNat_inj.1 hsame) hk
    · exact hbeyond
  · exact ⟨c, List.mem_singleton_self _, hc⟩

theorem toNat_asciiForm_lt_iff {c : Char} :
    (asciiForm c).toNat < 128 ↔ c.toNat < 128 ∨ c = kelvinSign := by
  unfold asciiForm
  split
  · rename_i hk
    exact iff_of_true (by decide) (.inr hk)
  · rename_i hk
    rw [or_iff_left hk]
    refine ⟨toNat_lt_of_asciiLowerChar, fun hc => ?_⟩
    unfold asciiLowerChar
    split
    · rename_i hletter
      simp only [Bool.and_eq_true, decide_eq_true_eq, Char.le_def, UInt32.le_iff_toNat_le]
        at hletter
      have hcode : 65 ≤ c.toNat ∧ c.toNat ≤ 90 := hletter
      rw [Char.ofNat, dif_pos (show Nat.isValidChar (c.toNat + 32) by rw [Nat.isValidChar]; omega)]
      show c.toNat + 32 < 128
      omega
    · exact hc

theorem lowerChar_of_asciiForm {c : Char} (h : (asciiForm c).toNat < 128) :
    lowerChar c = [asciiForm c] := by
  rcases toNat_asciiForm_lt_iff.1 h with hc | rfl
  · have hk : c ≠ kelvinSign := by
      rintro rfl
      exact absurd hc (by decide)
    rw [lowerChar_ascii hc, asciiForm, if_neg hk]
  · decide

theorem lowerFrom_of_asciiForm {before s : List Char} (h : ∀ c ∈ s, (asciiForm c).toNat < 128) :
    lowerFrom before s = s.map asciiForm := by
  induction s generalizing before with
  | nil => rfl
  | cons c s ih =>
    obtain ⟨hc, hs⟩ := List.forall_mem_cons.1 h
    have hsigma : c ≠ capitalSigma := by
      rintro rfl
      exact absurd hc (by decide)
    rw [lowerFrom, if_neg hsigma, lowerChar_of_asciiForm hc, ih hs]
    rfl

/-- A text has an ASCII lower form only if each of its characters has. -/
theorem asciiForm_of_lowerFrom {before s : List Char}
    (h : ∀ d ∈ lowerFrom before s, d.toNat < 128) : ∀ c ∈ s, (asciiForm c).toNat < 128 := by
  induction s generalizing before with
  | nil => simp
  | cons c s ih =>
    rw [lowerFrom] at h
    split at h
    · -- neither of the two forms of a sigma is ASCII
      have hsigma := h _ (List.mem_cons_self ..)
      split at hsigma <;> exact absurd hsigma (by decide)
    · rename_i hsigma
      obtain ⟨hc, hs⟩ := List.forall_mem_append.1 h
      refine List.forall_mem_cons.2 ⟨?_, ih hs⟩
      by_contra hbeyond
      obtain ⟨hc', hk⟩ := not_or.1 (mt toNat_asciiForm_lt_iff.2 hbeyond)
      obtain ⟨d, hd, hd'⟩ := exists_mem_lowerChar (Nat.not_lt.1 hc') hk
      exact absurd (hc d hd) (Nat.not_lt.2 hd')

/-- **Texts in front of an ASCII word.** The lower form of a text is a word of ASCII exactly if the
text is the word, with any of its letters as capitals of ASCII, or a letter k as the Kelvin
sign. -/
theorem lower_eq_iff_of_ascii {word s : List Char} (hword : ∀ d ∈ word, d.toNat < 128) :
    lower s = word ↔ s.map asciiForm = word := by
  constructor
  · rintro rfl
    exact (lowerFrom_of_asciiForm (asciiForm_of_lowerFrom hword)).symm
  · rintro rfl
    exact lowerFrom_of_asciiForm (by simpa using hword)

end StorageReply.Text
