import Mathlib.Tactic.FinCases
import StorageReply.Log.Template
import StorageReply.Proofs.Text.Blanks

/-!
# The directives of a template

A text as a template is made of characters that stand for themselves, of percent signs written
twice, and of directives: a percent sign, modifiers, and a letter. `directives` lists the directives
of a text, and `Spelled s ws` says that the text `s` is made of such parts and that its directives
are `ws`; then `directives` finds them (`Spelled.directivesFrom_eq`).

Reading a directive takes the characters of one slot off the front of a text, and a value for each
star among them (`exists_takes`). Every stage of reading looks at the first character of what it
leaves at most (`Reads`), so that a directive is read in the same way whatever comes after it.
-/

namespace StorageReply.Template

open Text

/-! ## Spelling -/

/-- Whether a character is the letter of a directive. -/
def isConversion (c : Char) : Bool :=
  ['s', 'r', 'a', 'c', 'd', 'i', 'u', 'x', 'X', 'o', 'e', 'E', 'f', 'F', 'g', 'G'].contains c

/-- Whether a character may stand between the percent sign of a directive and its letter: a flag, a
digit, a star, a point, or a letter for the size of a number. -/
def isModifier (c : Char) : Bool :=
  isAsciiDigit c || ['-', '+', ' ', Char.ofNat 35, '*', '.', 'h', 'l', 'L'].contains c

/-- The directives of a text, each without its percent sign. What has been read of a directive that
is not complete is `opened`; a percent sign right after a percent sign opens none. -/
def directivesFrom (opened : Option (List Char)) : List Char → List (List Char)
  | [] => []
  | c :: s =>
    match opened with
    | none => directivesFrom (if c = '%' then some [] else none) s
    | some w =>
      if w = [] ∧ c = '%' then directivesFrom none s
      else if isConversion c then (w ++ [c]) :: directivesFrom none s
      else directivesFrom (some (w ++ [c])) s

/-- The directives of a text, each without its percent sign. -/
def directives (s : String) : List (List Char) := directivesFrom none s.toList

/-- A directive without its percent sign: modifiers and then a letter. -/
def IsSlot (w : List Char) : Prop :=
  ∃ body letter, w = body ++ [letter] ∧ (∀ c ∈ body, isModifier c = true) ∧
    isConversion letter = true

/-- A text is made of characters that stand for themselves, percent signs written twice, and the
directives `ws` in this order. -/
inductive Spelled : List Char → List (List Char) → Prop
  | nil : Spelled [] []
  | plain {c : Char} {s : List Char} {ws : List (List Char)} (hc : c ≠ '%') (h : Spelled s ws) :
      Spelled (c :: s) ws
  | percent {s : List Char} {ws : List (List Char)} (h : Spelled s ws) :
      Spelled ('%' :: '%' :: s) ws
  | directive {w s : List Char} {ws : List (List Char)} (hw : IsSlot w) (h : Spelled s ws) :
      Spelled ('%' :: (w ++ s)) (w :: ws)

theorem isModifier_of_isConversion {c : Char} (h : isConversion c = true) :
    isModifier c = false := by
  rw [isConversion, List.contains_iff_mem] at h
  fin_cases h <;> decide

theorem IsSlot.ne_nil {w : List Char} (h : IsSlot w) : w ≠ [] := by
  obtain ⟨body, letter, rfl, -, -⟩ := h
  simp

/-- The characters of a directive are modifiers and letters. -/
theorem IsSlot.mem {w : List Char} (h : IsSlot w) {c : Char} (hc : c ∈ w) :
    isModifier c = true ∨ isConversion c = true := by
  obtain ⟨body, letter, rfl, hbody, hletter⟩ := h
  rcases List.mem_append.1 hc with hc | hc
  · exact .inl (hbody c hc)
  · exact .inr (List.mem_singleton.1 hc ▸ hletter)

theorem IsSlot.notMem {w : List Char} (h : IsSlot w) {c : Char} (hm : isModifier c = false)
    (hl : isConversion c = false) : c ∉ w := fun hc => by
  have := h.mem hc
  simp [hm, hl] at this

theorem IsSlot.percent_notMem {w : List Char} (h : IsSlot w) : '%' ∉ w :=
  h.notMem (by decide) (by decide)

theorem directivesFrom_modifiers {body : List Char} (h : ∀ c ∈ body, isModifier c = true)
    (w s : List Char) :
    directivesFrom (some w) (body ++ s) = directivesFrom (some (w ++ body)) s := by
  induction body generalizing w with
  | nil => simp
  | cons c body ih =>
    have hc := h c (List.mem_cons_self ..)
    have hpercent : c ≠ '%' := by
      rintro rfl
      exact absurd hc (by decide)
    have hletter : ¬isConversion c = true := fun hl => by
      simp [isModifier_of_isConversion hl] at hc
    rw [List.cons_append, directivesFrom]
    simp only [hpercent, and_false]
    rw [if_neg not_false, if_neg hletter, ih fun d hd => h d (List.mem_cons_of_mem _ hd),
      List.append_assoc, List.singleton_append]

theorem Spelled.directivesFrom_eq {s : List Char} {ws : List (List Char)} (h : Spelled s ws) :
    directivesFrom none s = ws := by
  induction h with
  | nil => rfl
  | plain hc _ ih => simp [directivesFrom, hc, ih]
  | percent _ ih => simp [directivesFrom, ih]
  | @directive w s ws hw _ ih =>
    have hpercent := hw.percent_notMem
    obtain ⟨body, letter, rfl, hbody, hletter⟩ := hw
    rw [directivesFrom, if_pos rfl, List.append_assoc]
    cases body with
    | nil =>
      have : letter ≠ '%' := by simpa [eq_comm] using hpercent
      simp [directivesFrom, hletter, this, ih]
    | cons c body =>
      rw [directivesFrom_modifiers hbody, List.nil_append, List.singleton_append,
        directivesFrom]
      simp [hletter, ih]

/-! ## Reading -/

/-- The text `w` consists of modifiers, and reading takes it off the front of every text in which
what follows begins as `rest` does. -/
structure Reads {β : Type} (read result : List Char → β) (w rest : List Char) : Prop where
  modifier : ∀ c ∈ w, isModifier c = true
  read_eq : ∀ t, t.head? = rest.head? → read (w ++ t) = result t

theorem isModifier_of_flag? {flags flags' : Flags} {c : Char} (h : flag? flags c = some flags') :
    isModifier c = true ∧ c ≠ '*' := by
  unfold flag? at h
  split at h
  case h_5 =>
    split at h
    · rename_i hc
      rw [hc]
      decide
    · simp at h
  all_goals decide

theorem exists_reads_spanFlags (flags : Flags) (s : List Char) :
    ∃ w, s = w ++ (spanFlags flags s).2 ∧ '*' ∉ w ∧
      Reads (spanFlags flags) (fun t => ((spanFlags flags s).1, t)) w (spanFlags flags s).2 := by
  induction s generalizing flags with
  | nil =>
    refine ⟨[], rfl, by simp, by simp, fun t ht => ?_⟩
    obtain rfl : t = [] := List.head?_eq_none_iff.1 ht
    rfl
  | cons c s ih =>
    rw [spanFlags]
    cases hc : flag? flags c with
    | none =>
      refine ⟨[], rfl, by simp, by simp, fun t ht => ?_⟩
      obtain ⟨t, rfl⟩ : ∃ t', t = c :: t' := by simpa [List.head?_eq_some_iff] using ht
      rw [List.nil_append, spanFlags, hc]
    | some flags' =>
      obtain ⟨w, hs, hstar, hread⟩ := ih flags'
      have hflag := isModifier_of_flag? hc
      refine ⟨c :: w, by rw [List.cons_append, ← hs], ?_, ?_, fun t ht => ?_⟩
      · simp [hstar, hflag.2.symm]
      · simpa [hflag.1] using hread.modifier
      · rw [List.cons_append, spanFlags, hc]
        exact hread.read_eq t ht

/-- A number at the start of a text, if there is one and it is not too great, and the rest. -/
def takeNumber (limit : Nat) (fault : Failure) (s : List Char) :
    Except Failure (Option Nat × List Char) :=
  match spanNumber? s with
  | some (n, rest) => if limit < n then .error fault else .ok (some n, rest)
  | none => .ok (none, s)

theorem spanNumber?_eq_none_iff {s : List Char} :
    spanNumber? s = none ↔ ∀ c ∈ s.head?, isAsciiDigit c = false := by
  cases s with
  | nil => simp [spanNumber?]
  | cons c s =>
    by_cases hc : isAsciiDigit c = true
    · simp [spanNumber?, hc]
    · simp [spanNumber?, hc]

theorem exists_reads_spanNumber? {s s' : List Char} {n : Nat} (h : spanNumber? s = some (n, s')) :
    ∃ w, s = w ++ s' ∧ '*' ∉ w ∧ Reads spanNumber? (fun t => some (n, t)) w s' := by
  simp only [spanNumber?] at h
  split at h
  · simp at h
  · rename_i hne
    simp only [Option.some.injEq, Prod.mk.injEq] at h
    obtain ⟨rfl, rfl⟩ := h
    have hdigits : ∀ c ∈ s.takeWhile isAsciiDigit, isAsciiDigit c = true :=
      fun c hc => List.mem_takeWhile_imp hc
    refine ⟨s.takeWhile isAsciiDigit, List.takeWhile_append_dropWhile.symm, fun hstar => ?_,
      fun c hc => ?_, fun t ht => ?_⟩
    · exact absurd (hdigits _ hstar) (by decide)
    · simp [isModifier, hdigits c hc]
    · have hend : ∀ c ∈ t.head?, isAsciiDigit c = false := fun c hc =>
        head?_dropWhile _ _ c (ht ▸ hc)
      simp only [spanNumber?, takeWhile_append_of_all hdigits hend,
        dropWhile_append_of_all hdigits hend]
      rw [if_neg hne]

theorem exists_reads_takeNumber {limit : Nat} {fault : Failure} {s s' : List Char} {n : Option Nat}
    (h : takeNumber limit fault s = .ok (n, s')) :
    ∃ w, s = w ++ s' ∧ '*' ∉ w ∧ Reads (takeNumber limit fault) (fun t => .ok (n, t)) w s' := by
  unfold takeNumber at h
  split at h
  · rename_i m rest hm
    split at h
    · simp at h
    · rename_i hlimit
      simp only [Except.ok.injEq, Prod.mk.injEq] at h
      obtain ⟨rfl, rfl⟩ := h
      obtain ⟨w, hs, hstar, hread⟩ := exists_reads_spanNumber? hm
      refine ⟨w, hs, hstar, hread.modifier, fun t ht => ?_⟩
      rw [takeNumber, hread.read_eq t ht]
      exact if_neg hlimit
  · rename_i hnone
    simp only [Except.ok.injEq, Prod.mk.injEq] at h
    obtain ⟨rfl, rfl⟩ := h
    refine ⟨[], rfl, by simp, by simp, fun t ht => ?_⟩
    rw [spanNumber?_eq_none_iff, ← ht, ← spanNumber?_eq_none_iff] at hnone
    rw [List.nil_append, takeNumber, hnone]

theorem next_eq_ok_iff {supply supply' : Supply} {v : Value} :
    supply.next = .ok (v, supply') ↔
      supply.pending = v :: supply'.pending ∧ supply.entries = supply'.entries := by
  obtain ⟨pending, entries⟩ := supply
  obtain ⟨pending', entries'⟩ := supply'
  cases pending with
  | nil => simp [Supply.next]
  | cons u pending => simp [Supply.next]; grind

theorem takeKey_of_head {s : List Char} (h : s.head? ≠ some '(') (supply : Supply) :
    takeKey supply s = .ok (supply, s) := by
  unfold takeKey
  split
  · simp at h
  · rfl

/-- Values in order have no keys. -/
theorem takeKey_eq_ok_iff {values : List Value} {supply : Supply} {s s' : List Char} :
    takeKey ⟨values, none⟩ s = .ok (supply, s') ↔
      s.head? ≠ some '(' ∧ supply = ⟨values, none⟩ ∧ s' = s := by
  by_cases hs : s.head? = some '('
  · obtain ⟨t, rfl⟩ := List.head?_eq_some_iff.1 hs
    simp [takeKey]
  · simp [takeKey_of_head hs, hs, eq_comm]

theorem takeWidth_of_head {s : List Char} (h : s.head? ≠ some '*') (supply : Supply)
    (flags : Flags) :
    takeWidth supply flags s = do
      let (n, rest) ← takeNumber widthLimit (.unusable .wideTemplate) s
      return (n, flags, supply, rest) := by
  unfold takeWidth takeNumber
  split
  · simp at h
  · rcases spanNumber? s with _ | ⟨n, rest⟩
    · rfl
    · by_cases hlimit : widthLimit < n
      · simp only [hlimit, if_true]
        rfl
      · simp only [hlimit, if_false]
        rfl

/-- A width is the next value, or a number, or there is none. -/
theorem takeWidth_eq_ok_iff {supply supply' : Supply} {flags flags' : Flags} {width : Option Nat}
    {s s' : List Char} :
    takeWidth supply flags s = .ok (width, flags', supply', s') ↔
      (∃ v i, s = '*' :: s' ∧ supply.next = .ok (v, supply') ∧ measure widthLimit v = .ok i ∧
        width = some i.natAbs ∧ flags' = if i < 0 then { flags with left := true } else flags) ∨
      (s.head? ≠ some '*' ∧ takeNumber widthLimit (.unusable .wideTemplate) s = .ok (width, s') ∧
        flags' = flags ∧ supply' = supply) := by
  by_cases hstar : s.head? = some '*'
  · obtain ⟨rest, rfl⟩ := List.head?_eq_some_iff.1 hstar
    simp only [takeWidth, bind_eq_ok_iff, pure, Except.pure, Except.ok.injEq, Prod.mk.injEq,
      Prod.exists, List.cons.injEq, true_and, hstar, ne_eq, not_true_eq_false, false_and, or_false]
    constructor
    · rintro ⟨v, _, hnext, i, hi, rfl, rfl, rfl, rfl⟩
      exact ⟨v, i, rfl, hnext, hi, rfl, rfl⟩
    · rintro ⟨v, i, rfl, hnext, hi, rfl, rfl⟩
      exact ⟨v, _, hnext, i, hi, rfl, rfl, rfl, rfl⟩
  · rw [takeWidth_of_head hstar]
    simp only [bind_eq_ok_iff, pure, Except.pure, Except.ok.injEq, Prod.mk.injEq, Prod.exists,
      hstar, ne_eq, not_false_eq_true, true_and]
    constructor
    · rintro ⟨n, rest, hn, rfl, rfl, rfl, rfl⟩
      exact .inr ⟨hn, rfl, rfl⟩
    · rintro (⟨v, i, rfl, -⟩ | ⟨hn, rfl, rfl⟩)
      · simp at hstar
      · exact ⟨width, s', hn, rfl, rfl, rfl, rfl⟩

theorem takePrecision_of_head {s : List Char} (h : s.head? ≠ some '*') (supply : Supply) :
    takePrecision supply ('.' :: s) = do
      let (n, rest) ← takeNumber precisionLimit (.unusable .preciseTemplate) s
      return (some (n.getD 0), supply, rest) := by
  unfold takePrecision takeNumber
  split
  · simp_all
  · rename_i hs
    obtain ⟨-, rfl⟩ := List.cons.inj hs
    rcases spanNumber? s with _ | ⟨n, rest⟩
    · rfl
    · by_cases hlimit : precisionLimit < n
      · simp only [hlimit, if_true]
        rfl
      · simp only [hlimit, if_false]
        rfl
  · simp_all

theorem takePrecision_of_head_ne {s : List Char} (h : s.head? ≠ some '.') (supply : Supply) :
    takePrecision supply s = .ok (none, supply, s) := by
  unfold takePrecision
  split
  · simp at h
  · simp at h
  · rfl

/-- A precision is a point with the next value or a number behind it, or there is none. -/
theorem takePrecision_eq_ok_iff {supply supply' : Supply} {precision : Option Nat}
    {s s' : List Char} :
    takePrecision supply s = .ok (precision, supply', s') ↔
      (∃ v i, s = '.' :: '*' :: s' ∧ supply.next = .ok (v, supply') ∧
        measure precisionLimit v = .ok i ∧ precision = some i.toNat) ∨
      (∃ n rest, s = '.' :: rest ∧ rest.head? ≠ some '*' ∧
        takeNumber precisionLimit (.unusable .preciseTemplate) rest = .ok (n, s') ∧
        precision = some (n.getD 0) ∧ supply' = supply) ∨
      (s.head? ≠ some '.' ∧ precision = none ∧ supply' = supply ∧ s' = s) := by
  by_cases hpoint : s.head? = some '.'
  · obtain ⟨rest, rfl⟩ := List.head?_eq_some_iff.1 hpoint
    simp only [hpoint, ne_eq, not_true_eq_false, false_and, or_false, List.cons.injEq, true_and]
    by_cases hstar : rest.head? = some '*'
    · obtain ⟨rest, rfl⟩ := List.head?_eq_some_iff.1 hstar
      simp only [takePrecision, bind_eq_ok_iff, pure, Except.pure, Except.ok.injEq, Prod.mk.injEq,
        Prod.exists, List.cons.injEq, true_and]
      constructor
      · rintro ⟨v, _, hnext, i, hi, rfl, rfl, rfl⟩
        exact .inl ⟨v, i, rfl, hnext, hi, rfl⟩
      · rintro (⟨v, i, rfl, hnext, hi, rfl⟩ | ⟨n, _, rfl, h, -⟩)
        · exact ⟨v, _, hnext, i, hi, rfl, rfl, rfl⟩
        · simp at h
    · rw [takePrecision_of_head hstar]
      simp only [bind_eq_ok_iff, pure, Except.pure, Except.ok.injEq, Prod.mk.injEq, Prod.exists]
      constructor
      · rintro ⟨n, rest', hn, rfl, rfl, rfl⟩
        exact .inr ⟨n, rest, rfl, hstar, hn, rfl, rfl⟩
      · rintro (⟨v, i, rfl, -⟩ | ⟨n, _, rfl, -, hn, rfl, rfl⟩)
        · simp at hstar
        · exact ⟨n, s', hn, rfl, rfl, rfl⟩
  · rw [takePrecision_of_head_ne hpoint]
    simp only [Except.ok.injEq, Prod.mk.injEq, hpoint, ne_eq, not_false_eq_true, true_and]
    constructor
    · rintro ⟨rfl, rfl, rfl⟩
      exact .inr (.inr ⟨rfl, rfl, rfl⟩)
    · rintro (⟨v, i, rfl, -⟩ | ⟨n, rest, rfl, -⟩ | ⟨rfl, rfl, rfl⟩)
      · simp at hpoint
      · simp at hpoint
      · exact ⟨rfl, rfl, rfl⟩

theorem exists_reads_takeWidth {supply supply' : Supply} {flags flags' : Flags} {width : Option Nat}
    {s s' : List Char} (h : takeWidth supply flags s = .ok (width, flags', supply', s')) :
    ∃ w, s = w ++ s' ∧ supply'.entries = supply.entries ∧
      supply.pending.length = supply'.pending.length + w.count '*' ∧
      Reads (takeWidth supply flags) (fun t => .ok (width, flags', supply', t)) w s' := by
  obtain ⟨v, i, rfl, hnext, hi⟩ | ⟨hstar, hn, rfl, rfl⟩ := takeWidth_eq_ok_iff.1 h
  · obtain ⟨hpending, hentries⟩ := next_eq_ok_iff.1 hnext
    exact ⟨['*'], rfl, hentries.symm, by simp [hpending],
      List.forall_mem_singleton.2 (by decide), fun t _ =>
      takeWidth_eq_ok_iff.2 (.inl ⟨v, i, rfl, hnext, hi⟩)⟩
  · obtain ⟨w, rfl, hw, hread⟩ := exists_reads_takeNumber hn
    refine ⟨w, rfl, rfl, by simp [List.count_eq_zero_of_not_mem hw], hread.modifier,
      fun t ht => takeWidth_eq_ok_iff.2 (.inr ⟨?_, hread.read_eq t ht, rfl, rfl⟩)⟩
    rwa [List.head?_append, ht, ← List.head?_append]

theorem exists_reads_takePrecision {supply supply' : Supply} {precision : Option Nat}
    {s s' : List Char} (h : takePrecision supply s = .ok (precision, supply', s')) :
    ∃ w, s = w ++ s' ∧ supply'.entries = supply.entries ∧
      supply.pending.length = supply'.pending.length + w.count '*' ∧
      Reads (takePrecision supply) (fun t => .ok (precision, supply', t)) w s' := by
  obtain ⟨v, i, rfl, hnext, hi⟩ | ⟨n, rest, rfl, hstar, hn, rfl, rfl⟩ | ⟨hpoint, rfl, rfl, rfl⟩ :=
    takePrecision_eq_ok_iff.1 h
  · obtain ⟨hpending, hentries⟩ := next_eq_ok_iff.1 hnext
    exact ⟨['.', '*'], rfl, hentries.symm, by simp [hpending],
      List.forall_mem_cons.2 ⟨by decide, List.forall_mem_singleton.2 (by decide)⟩, fun t _ =>
      takePrecision_eq_ok_iff.2 (.inl ⟨v, i, rfl, hnext, hi⟩)⟩
  · obtain ⟨w, rfl, hw, hread⟩ := exists_reads_takeNumber hn
    refine ⟨'.' :: w, rfl, rfl, by simp [List.count_eq_zero_of_not_mem hw],
      List.forall_mem_cons.2 ⟨by decide, hread.modifier⟩, fun t ht =>
      takePrecision_eq_ok_iff.2 (.inr (.inl ⟨n, w ++ t, rfl, ?_, hread.read_eq t ht, rfl, rfl⟩))⟩
    rwa [List.head?_append, ht, ← List.head?_append]
  · exact ⟨[], rfl, rfl, by simp, by simp, fun t ht =>
      takePrecision_eq_ok_iff.2 (.inr (.inr ⟨by rwa [List.nil_append, ht], rfl, rfl, rfl⟩))⟩

theorem exists_skipSize {s rest : List Char} {letter : Char} (h : skipSize s = letter :: rest) :
    ∃ size, s = size ++ letter :: rest ∧ '*' ∉ size ∧ (∀ c ∈ size, isModifier c = true) ∧
      ∀ t, skipSize (size ++ letter :: t) = letter :: t := by
  cases s with
  | nil => simp [skipSize] at h
  | cons c s =>
    rw [skipSize] at h
    split at h
    · rename_i hc
      have hsize : isModifier c = true ∧ c ≠ '*' := by
        simp only [Bool.or_eq_true, decide_eq_true_eq] at hc
        obtain (rfl | rfl) | rfl := hc <;> decide
      exact ⟨[c], by rw [h, List.singleton_append], by simpa using hsize.2.symm,
        List.forall_mem_singleton.2 hsize.1, fun t => by simp [skipSize, hc]⟩
    · rename_i hc
      obtain ⟨rfl, rfl⟩ := List.cons.inj h
      exact ⟨[], rfl, by simp, by simp, fun t => by simp only [List.nil_append, skipSize, hc]; rfl⟩

/-- Reading takes the directive `w` off the front of every text, and what it needs off the front of
the values. -/
def Takes (values : List Value) (w : List Char) (d : Directive) (values' : List Value) : Prop :=
  ∀ t, takeDirective ⟨values, none⟩ (w ++ t) = .ok (d, ⟨values', none⟩, t)

/-- The stages of reading a directive. -/
theorem takeDirective_eq_ok_iff {supply supply' : Supply} {s rest : List Char} {d : Directive} :
    takeDirective supply s = .ok (d, supply', rest) ↔
      ∃ supply₀ s₀ flags s₁ supply₂ s₂ s₃, takeKey supply s = .ok (supply₀, s₀) ∧
        spanFlags {} s₀ = (flags, s₁) ∧
        takeWidth supply₀ flags s₁ = .ok (d.width, d.flags, supply₂, s₂) ∧
        takePrecision supply₂ s₂ = .ok (d.precision, supply', s₃) ∧
        skipSize s₃ = d.letter :: rest := by
  constructor
  · intro h
    obtain ⟨⟨supply₀, s₀⟩, hkey, h⟩ := bind_eq_ok_iff.1 h
    obtain ⟨⟨width, flags, supply₂, s₂⟩, hwidth, h⟩ := bind_eq_ok_iff.1 h
    obtain ⟨⟨precision, supply₃, s₃⟩, hprecision, h⟩ := bind_eq_ok_iff.1 h
    dsimp only at h
    split at h
    · simp at h
    · rename_i letter rest' hsize
      simp only [pure, Except.pure, Except.ok.injEq, Prod.mk.injEq] at h
      obtain ⟨rfl, rfl, rfl⟩ := h
      exact ⟨_, _, _, _, _, _, _, hkey, rfl, hwidth, hprecision, hsize⟩
  · rintro ⟨supply₀, s₀, flags, s₁, supply₂, s₂, s₃, hkey, hflags, hwidth, hprecision, hsize⟩
    simp [takeDirective, hkey, hflags, hwidth, hprecision, hsize, bind, Except.bind, pure,
      Except.pure]

theorem head?_append_cons (u t t' : List Char) (c : Char) :
    (u ++ c :: t).head? = (u ++ c :: t').head? := by
  cases u <;> rfl

/-- Where a directive can be read, it has a spelling, and it is read in the same way before any
other text. -/
theorem exists_takes {values : List Value} {d : Directive} {supply : Supply} {s rest : List Char}
    (h : takeDirective ⟨values, none⟩ s = .ok (d, supply, rest))
    (hd : isConversion d.letter = true) :
    ∃ w, s = w ++ rest ∧ IsSlot w ∧ supply.entries = none ∧
      values.length = supply.pending.length + w.count '*' ∧ Takes values w d supply.pending := by
  obtain ⟨supply₀, s₀, flags, s₁, supply₂, s₂, s₃, hkey, hflags, hwidth, hprecision, hsize⟩ :=
    takeDirective_eq_ok_iff.1 h
  obtain ⟨hparen, rfl, rfl⟩ := takeKey_eq_ok_iff.1 hkey
  obtain ⟨w₁, hs₁, hstar₁, hread₁⟩ := exists_reads_spanFlags {} s₀
  rw [hflags] at hs₁ hread₁
  obtain ⟨w₂, hs₂, hentries₂, hcount₂, hread₂⟩ := exists_reads_takeWidth hwidth
  obtain ⟨w₃, hs₃, hentries₃, hcount₃, hread₃⟩ := exists_reads_takePrecision hprecision
  obtain ⟨w₄, hs₄, hstar₄, hmodifier₄, hskip⟩ := exists_skipSize hsize
  dsimp only at hs₁ hread₁
  subst hs₄ hs₃ hs₂
  have hentries : supply.entries = none := by rw [hentries₃, hentries₂]
  obtain ⟨pending, entries⟩ := supply
  obtain rfl : entries = none := hentries
  have hw : ∀ t, w₁ ++ (w₂ ++ (w₃ ++ (w₄ ++ d.letter :: t))) =
      w₁ ++ w₂ ++ w₃ ++ w₄ ++ [d.letter] ++ t := fun t => by simp
  have hhead : ∀ (u t : List Char),
      (u ++ (w₄ ++ d.letter :: t)).head? = (u ++ (w₄ ++ d.letter :: rest)).head? := fun u t => by
    rw [← List.append_assoc, ← List.append_assoc, head?_append_cons]
  refine ⟨w₁ ++ w₂ ++ w₃ ++ w₄ ++ [d.letter], ?_, ⟨_, _, rfl, ?_, hd⟩, rfl, ?_, fun t => ?_⟩
  · rw [hs₁, hw]
  · intro c hc
    simp only [List.mem_append] at hc
    obtain ((hc | hc) | hc) | hc := hc
    · exact hread₁.modifier c hc
    · exact hread₂.modifier c hc
    · exact hread₃.modifier c hc
    · exact hmodifier₄ c hc
  · have hletter : d.letter ≠ '*' := fun h => absurd hd (by rw [h]; decide)
    simp only [List.count_append, List.count_eq_zero_of_not_mem hstar₁,
      List.count_eq_zero_of_not_mem hstar₄, List.count_singleton]
    simp [hletter] at *
    omega
  · rw [← hw, takeDirective_eq_ok_iff]
    refine ⟨_, _, flags, w₂ ++ (w₃ ++ (w₄ ++ d.letter :: t)), supply₂,
      w₃ ++ (w₄ ++ d.letter :: t), w₄ ++ d.letter :: t, takeKey_of_head ?_ _, hread₁.read_eq _ ?_,
      hread₂.read_eq _ (hhead w₃ t), hread₃.read_eq _ (hhead [] t), hskip t⟩
    · rw [hs₁] at hparen
      simpa only [← List.append_assoc, head?_append_cons _ t rest] using hparen
    · simp only [← List.append_assoc, head?_append_cons _ t rest]

end StorageReply.Template
