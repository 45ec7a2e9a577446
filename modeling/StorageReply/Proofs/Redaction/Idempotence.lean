import StorageReply.Proofs.Redaction.Markers

/-!
# Redacting twice

Redaction is idempotent (`redactText_redactText`). A text is settled for a rule when every
credential that the rule finds in it, wherever it begins, is the mask already. A rule changes
nothing in a text that is settled for it (`apply_eq_self`), it leaves a text that is settled for it
(`settled_apply`), and it does not unsettle a text for another rule (`settled_apply_of_apart`). So
after all rules have been applied in any order the text is settled for each of them.

What makes this work is that a rule creates nothing: a text without a star that begins the result
began the text before (`prefix_of_prefix_apply`), so every marker in the result was there before.
-/

namespace StorageReply.Redaction

open Text

/-- Every credential that the rule finds in a text is the mask. -/
def Rule.Settled (r : Rule) : List Char → Prop
  | [] => True
  | c :: s =>
    (∀ kept tail, r.match? (c :: s) = some (kept, tail) → c :: s = kept ++ (mask ++ tail)) ∧
      r.Settled s

theorem settled_append_of_quiet {r : Rule} {s rest : List Char} (h : r.Quiet s rest)
    (hrest : r.Settled rest) : r.Settled (s ++ rest) := by
  induction s with
  | nil => exact hrest
  | cons c s ih => exact ⟨by simp [h.1], ih h.2⟩

theorem Rule.Settled.of_append {r : Rule} {s t : List Char} (h : r.Settled (s ++ t)) :
    r.Settled t := by
  induction s with
  | nil => exact h
  | cons c s ih => exact ih h.2

/-- A match in a settled text is one of the mask. -/
theorem Rule.Settled.eq_of_match {r : Rule} {s kept tail : List Char} (h : r.Settled s)
    (hm : r.match? s = some (kept, tail)) : s = kept ++ (mask ++ tail) := by
  cases s with
  | nil => simpa using length_lt_of_match? hm
  | cons c s => exact h.1 kept tail hm

/-- A rule changes nothing in a text that is settled for it. -/
theorem apply_eq_self {r : Rule} {s : List Char} (h : r.Settled s) : r.apply s = s := by
  induction s using Rule.scan_induction r with
  | nil => rfl
  | pass c s hm ih => rw [apply_cons_of_none hm, ih h.2]
  | hide s kept tail hm ih =>
    have hs := h.eq_of_match hm
    rw [hs, ← List.append_assoc] at h
    rw [apply_of_match hm, ih h.of_append, ← hs]

/-! ## What a rule leaves as it was -/

section Regular

variable {r : Rule} (hr : r.Regular)

include hr

theorem ne_nil_of_marker {written : List Char} (hw : written.map foldChar = r.marker) :
    written ≠ [] := by
  rintro rfl
  exact hr.marker_ne hw.symm

/-- A character of a marker, in whatever letter case, may stand in markers. -/
theorem isMarkerChar_of_mem {written : List Char} (hw : written.map foldChar = r.marker) {c : Char}
    (hc : c ∈ written) : isMarkerChar c = true := by
  have hm := hr.marker_char (foldChar c) (hw ▸ List.mem_map_of_mem hc)
  by_cases hb : isBlank c = true
  · rwa [foldChar_of_isBlank hb] at hm
  · simp only [isMarkerChar, Bool.and_eq_true, Bool.not_eq_true', bne_iff_ne] at hm ⊢
    refine ⟨⟨⟨by simpa using hb, ?_⟩, ?_⟩, ?_⟩ <;> rintro rfl
    · exact hm.1.1.2 (by decide)
    · exact hm.1.2 (by decide)
    · exact hm.2 (by decide)

/-- A match begins with a character that may stand in markers. -/
theorem match?_eq_none_of_head {c : Char} {s : List Char} (hc : isMarkerChar c = false) :
    r.match? (c :: s) = none := by
  rw [Option.eq_none_iff_forall_ne_some]
  rintro ⟨kept, tail⟩ h
  obtain ⟨written, rest, -, hs, hw, -⟩ := match?_eq_some_iff.1 h
  cases written with
  | nil => exact ne_nil_of_marker hr hw rfl
  | cons d written =>
    obtain ⟨rfl, -⟩ := List.cons.inj hs
    rw [isMarkerChar_of_mem hr hw (List.mem_cons_self ..)] at hc
    simp at hc

theorem quiet_of_blank {s : List Char} (hs : ∀ c ∈ s, isBlank c = true) (rest : List Char) :
    r.Quiet s rest := by
  induction s with
  | nil => trivial
  | cons c s ih =>
    refine ⟨match?_eq_none_of_head hr ?_, ih fun d hd => hs d (List.mem_cons_of_mem _ hd)⟩
    simp [isMarkerChar, hs c (List.mem_cons_self ..)]

theorem quiet_mask (rest : List Char) : r.Quiet mask rest := quiet_of_apart hr.apart_mask rest

/-- No match begins inside a marker of the same rule. -/
theorem quiet_of_marker {c : Char} {s : List Char} (hw : (c :: s).map foldChar = r.marker)
    (rest : List Char) : r.Quiet s rest := by
  refine quiet_of_apart ?_ rest
  have htail : r.marker.tail = s.map foldChar := by rw [← hw, List.map_cons, List.tail_cons]
  rw [← htail]
  exact hr.apart_self

/-- A rule keeps the first character of a text. -/
theorem head?_apply (s : List Char) : (r.apply s).head? = s.head? := by
  induction s using Rule.scan_induction r with
  | nil => rfl
  | pass c s hm _ => rw [apply_cons_of_none hm, List.head?_cons, List.head?_cons]
  | hide s kept tail hm _ =>
    obtain ⟨written, rest, blanks, rfl, hw, -, rfl⟩ := match?_eq_some_iff.1 hm
    rw [apply_of_match hm]
    cases written with
    | nil => exact absurd rfl (ne_nil_of_marker hr hw)
    | cons c written => rfl

end Regular

theorem mask_eq_cons : mask = '*' :: mask.tail := rfl

theorem mask_ne_nil : mask ≠ [] := nofun

/-- A beginning without a star is a beginning of the text before. -/
theorem prefix_of_prefix_apply {r : Rule} {p s : List Char} (hp : '*' ∉ p)
    (h : p <+: r.apply s) : p <+: s := by
  induction s using Rule.scan_induction r generalizing p with
  | nil => exact h
  | pass c s hm ih =>
    rw [apply_cons_of_none hm] at h
    cases p with
    | nil => exact List.nil_prefix
    | cons d p =>
      obtain ⟨rfl, hrest⟩ := List.cons_prefix_cons.1 h
      exact List.cons_prefix_cons.2 ⟨rfl, ih (fun hd => hp (List.mem_cons_of_mem _ hd)) hrest⟩
  | hide s kept tail hm _ =>
    obtain ⟨written, rest, blanks, rfl, -, hk, rfl⟩ := match?_eq_some_iff.1 hm
    obtain ⟨value, -, rfl, -⟩ := split?_spec hk
    rw [apply_of_match hm] at h
    have hkept : p <+: written ++ blanks := by
      rcases List.prefix_or_prefix_of_prefix h (List.prefix_append _ _) with h' | ⟨q, rfl⟩
      · exact h'
      · -- what goes beyond the part that stays begins with the mask, and so with a star
        cases q with
        | nil => exact ⟨[], by rw [List.append_nil, List.append_nil]⟩
        | cons d q =>
          rw [List.prefix_append_right_inj, mask_eq_cons, List.cons_append] at h
          obtain ⟨rfl, -⟩ := List.cons_prefix_cons.1 h
          simp at hp
    rw [← List.append_assoc]
    exact hkept.trans (List.prefix_append _ _)



/-! ## The mask as a credential -/

theorem mask_chars : ∀ c ∈ mask, isBlank c = false ∧ c ≠ ';' ∧ c ≠ '&' := by
  have h : mask.all (fun c => !isBlank c && c != ';' && c != '&') = true := by decide
  simpa [and_assoc] using h

theorem star_mem_mask : '*' ∈ mask.map foldChar := by
  decide

/-- Where a credential was found, the mask is one as well, and whatever may follow a credential can
follow it. -/
theorem split?_mask {k : Credential} (hk : k.Regular) {s blanks tail : List Char}
    (h : k.split? s = some (blanks, tail)) {rest : List Char} (hrest : k.EndsBefore rest) :
    k.split? (blanks ++ (mask ++ rest)) = some (blanks, rest) := by
  obtain ⟨value, -, hvalue⟩ := split?_eq_some_iff.1 h
  have hblank : ∀ c ∈ mask, isBlank c = false := fun c hc => (mask_chars c hc).1
  refine split?_eq_some_iff.2 ⟨mask, rfl, ?_⟩
  cases k with
  | word schemes =>
    obtain ⟨hne, hblanks, -⟩ := hvalue
    refine ⟨hne, hblanks, mask_ne_nil, fun c hc => hblank c (List.mem_of_mem_head? hc),
      .one (fun c hc => by simp [isInk, hblank c hc]) hrest fun hscheme => ?_⟩
    exact absurd star_mem_mask (hk _ hscheme).1
  | upTo isEnd =>
    obtain ⟨rfl, -⟩ := hvalue
    refine ⟨rfl, mask_ne_nil, fun c hc => ?_, hrest⟩
    obtain ⟨h₁, h₂, h₃⟩ := mask_chars c hc
    rw [← Bool.not_eq_true]
    intro he
    rcases hk.2 c he with rfl | rfl | h
    · exact h₂ rfl
    · exact h₃ rfl
    · simp [h₁] at h

/-- Where there is no credential, redaction brings none. -/
theorem split?_apply_eq_none {r : Rule} (hr : r.Regular) {k : Credential} {s : List Char}
    (h : k.split? s = none) : k.split? (r.apply s) = none := by
  cases k with
  | word schemes =>
    rcases split?_word_eq_none_iff.1 h with hfirst | hblank
    · exact split?_word_eq_none_iff.2 (.inl (by rwa [head?_apply hr]))
    · have hs : r.apply s = s := by
        simpa using apply_append_of_quiet (quiet_of_blank hr hblank [])
      rwa [hs]
  | upTo isEnd =>
    rw [split?_upTo_eq_none_iff] at h ⊢
    rwa [head?_apply hr]

theorem endsBefore_apply {r : Rule} (hr : r.Regular) {k : Credential} {s : List Char}
    (h : k.EndsBefore s) : k.EndsBefore (r.apply s) := by
  rwa [Credential.EndsBefore, head?_apply hr]

/-! ## Settled texts -/

/-- A marker in the result of a rule was in the text before, and what follows it there is the result
of what followed it before, provided no match of the rule begins in the marker. -/
theorem exists_of_marker_apply {r r' : Rule} (hr : r.Regular) {s written rest : List Char}
    (h : r'.apply s = written ++ rest) (hw : written.map foldChar = r.marker)
    (quiet : ∀ before, s = written ++ before → r'.Quiet written before) :
    ∃ before, s = written ++ before ∧ rest = r'.apply before := by
  have hstar : '*' ∉ written := fun hs => by simpa [isMarkerChar] using isMarkerChar_of_mem hr hw hs
  obtain ⟨before, hs⟩ := prefix_of_prefix_apply hstar (h ▸ List.prefix_append written rest)
  refine ⟨before, hs.symm, ?_⟩
  rw [← hs, apply_append_of_quiet (quiet before hs.symm)] at h
  exact (List.append_cancel_left h).symm

theorem split?_eq_none_of_match? {r : Rule} {written rest : List Char}
    (h : r.match? (written ++ rest) = none) (hw : written.map foldChar = r.marker) :
    r.credential.split? rest = none := by
  rw [Option.eq_none_iff_forall_ne_some]
  rintro ⟨blanks, tail⟩ hk
  have hm : r.match? (written ++ rest) = some (written ++ blanks, tail) :=
    match?_eq_some_iff.2 ⟨written, rest, blanks, rfl, hw, hk, rfl⟩
  simp [h] at hm

/-- A rule leaves a text that is settled for it. -/
theorem settled_apply {r : Rule} (hr : r.Regular) (s : List Char) : r.Settled (r.apply s) := by
  induction s using Rule.scan_induction r with
  | nil => trivial
  | pass c s hm ih =>
    have happly := apply_cons_of_none hm
    rw [happly]
    refine ⟨fun kept tail h => ?_, ih⟩
    -- a match here would need a credential where there was none before
    obtain ⟨written, rest, blanks, hs, hw, hk, -⟩ := match?_eq_some_iff.1 h
    have quiet : ∀ before, c :: s = written ++ before → r.Quiet written before := by
      intro before hb
      cases written with
      | nil => trivial
      | cons d written => exact ⟨by rw [← List.cons_append, ← hb, hm], quiet_of_marker hr hw before⟩
    obtain ⟨before, hb, rfl⟩ := exists_of_marker_apply hr (happly.trans hs) hw quiet
    have hnone := split?_apply_eq_none hr (split?_eq_none_of_match? (hb ▸ hm) hw)
    simp [hk] at hnone
  | hide s kept tail hm ih =>
    obtain ⟨written, rest, blanks, rfl, hw, hk, rfl⟩ := match?_eq_some_iff.1 hm
    obtain ⟨value, -, -, hb, hend⟩ := split?_spec hk
    rw [apply_of_match hm, List.append_assoc]
    have hmask := split?_mask hr.credential hk (endsBefore_apply hr hend)
    have hrest := settled_append_of_quiet (quiet_of_blank hr hb _)
      (settled_append_of_quiet (quiet_mask hr _) ih)
    cases written with
    | nil => exact hrest
    | cons c written =>
      refine ⟨fun kept' tail' h => ?_, settled_append_of_quiet (quiet_of_marker hr hw _) hrest⟩
      have hm' := match?_eq_some_iff.2 ⟨c :: written, _, blanks, rfl, hw, hmask, rfl⟩
      obtain ⟨rfl, rfl⟩ := Prod.mk.inj (Option.some.inj (h.symm.trans hm'))
      simp only [List.cons_append, List.append_assoc]
      rfl

/-- What follows a marker of a settled text is changed by `f`, which brings no credential where
there was none and passes over masks. A credential that follows the marker afterwards is the
mask. -/
theorem Rule.Settled.eq_mask_of_split? {r : Rule} (hr : r.Regular) {f : List Char → List Char}
    {written before blanks tail : List Char} (hs : r.Settled (written ++ before))
    (hw : written.map foldChar = r.marker)
    (hnone : r.credential.split? before = none → r.credential.split? (f before) = none)
    (hmask : ∀ b t, (∀ c ∈ b, isBlank c = true) → f (b ++ (mask ++ t)) = b ++ (mask ++ f t))
    (hend : ∀ t, r.credential.EndsBefore t → r.credential.EndsBefore (f t))
    (hk : r.credential.split? (f before) = some (blanks, tail)) :
    f before = blanks ++ (mask ++ tail) := by
  cases hk' : r.credential.split? before with
  | none => simp [hnone hk'] at hk
  | some found =>
    obtain ⟨blanks', tail'⟩ := found
    -- the credential was there before, so it was the mask
    have hbefore :=
      hs.eq_of_match (match?_eq_some_iff.2 ⟨written, before, blanks', rfl, hw, hk', rfl⟩)
    rw [List.append_assoc, List.append_cancel_left_eq] at hbefore
    obtain ⟨value, -, -, hblank, hend'⟩ := split?_spec hk'
    have hafter : f before = blanks' ++ (mask ++ f tail') := by rw [hbefore, hmask _ _ hblank]
    rw [hafter, split?_mask hr.credential hk' (hend _ hend')] at hk
    obtain ⟨rfl, rfl⟩ := Prod.mk.inj (Option.some.inj hk)
    exact hafter

/-- A rule does not unsettle a text for a rule whose marker is apart from its own. -/
theorem settled_apply_of_apart {r r' : Rule} (hr : r.Regular) (hr' : r'.Regular)
    (h₁ : apart r.marker r'.marker = true) (h₂ : apart r'.marker r.marker = true) {s : List Char}
    (hs : r.Settled s) : r.Settled (r'.apply s) := by
  induction s using Rule.scan_induction r' with
  | nil => trivial
  | pass c s hm ih =>
    have happly := apply_cons_of_none hm
    rw [happly]
    refine ⟨fun kept tail h => ?_, ih hs.2⟩
    obtain ⟨written, rest, blanks, hc, hw, hk, rfl⟩ := match?_eq_some_iff.1 h
    have quiet : ∀ before, c :: s = written ++ before → r'.Quiet written before :=
      fun before _ => quiet_of_apart (hw ▸ h₂) before
    obtain ⟨before, hb, rfl⟩ := exists_of_marker_apply hr (happly.trans hc) hw quiet
    have hmask : ∀ b t, (∀ c ∈ b, isBlank c = true) →
        r'.apply (b ++ (mask ++ t)) = b ++ (mask ++ r'.apply t) := fun b t hblank => by
      rw [apply_append_of_quiet (quiet_of_blank hr' hblank _),
        apply_append_of_quiet (quiet_mask hr' _)]
    rw [hb] at hs
    rw [hc, hs.eq_mask_of_split? hr hw (split?_apply_eq_none hr') hmask
      (fun _ => endsBefore_apply hr') hk, List.append_assoc]
  | hide s kept tail hm ih =>
    obtain ⟨written, rest, blanks, rfl, hw, hk, rfl⟩ := match?_eq_some_iff.1 hm
    obtain ⟨value, -, rfl, hb, -⟩ := split?_spec hk
    rw [apply_of_match hm, List.append_assoc]
    simp only [← List.append_assoc] at hs
    exact settled_append_of_quiet (quiet_of_apart (hw ▸ h₁) _)
      (settled_append_of_quiet (quiet_of_blank hr hb _)
        (settled_append_of_quiet (quiet_mask hr _) (ih hs.of_append)))

/-! ## All rules -/

theorem rules_pairwise : rules.Pairwise fun r r' => r.marker ≠ r'.marker := by
  decide

theorem settled_foldl {r : Rule} (hr : r ∈ rules) {later : List Rule}
    (h : ∀ r' ∈ later, r' ∈ rules ∧ r.marker ≠ r'.marker) {s : List Char} (hs : r.Settled s) :
    r.Settled (later.foldl (fun text rule => rule.apply text) s) := by
  induction later generalizing s with
  | nil => exact hs
  | cons r' later ih =>
    obtain ⟨hr', hne⟩ := h r' (List.mem_cons_self ..)
    exact ih (fun r'' hr'' => h r'' (List.mem_cons_of_mem _ hr''))
      (settled_apply_of_apart (regular_of_mem_rules hr) (regular_of_mem_rules hr')
        (apart_of_ne r hr r' hr' hne) (apart_of_ne r' hr' r hr hne.symm) hs)

/-- A redacted text is settled for every rule. -/
theorem settled_redactText {r : Rule} (hr : r ∈ rules) (s : List Char) :
    r.Settled (redactText s) := by
  obtain ⟨earlier, later, hsplit⟩ := List.append_of_mem hr
  have hlater : ∀ r' ∈ later, r' ∈ rules ∧ r.marker ≠ r'.marker := by
    intro r' hr'
    have hp := rules_pairwise
    rw [hsplit, List.pairwise_append, List.pairwise_cons] at hp
    exact ⟨by rw [hsplit]; simp [hr'], hp.2.1.1 r' hr'⟩
  rw [redactText, hsplit, List.foldl_append, List.foldl_cons]
  exact settled_foldl hr hlater (settled_apply (regular_of_mem_rules hr) _)

/-- Redaction changes nothing in a text that is settled for every rule. -/
theorem redactText_eq_self {s : List Char} (h : ∀ r ∈ rules, r.Settled s) : redactText s = s := by
  rw [redactText]
  generalize rules = rs at h
  induction rs with
  | nil => rfl
  | cons r rs ih =>
    rw [List.foldl_cons, apply_eq_self (h r (List.mem_cons_self ..))]
    exact ih fun r' hr' => h r' (List.mem_cons_of_mem _ hr')

/-- **Redaction is idempotent**, on lists of characters. -/
theorem redactText_redactText (s : List Char) : redactText (redactText s) = redactText s :=
  redactText_eq_self fun _ hr => settled_redactText hr s

@[simp] theorem redact_redact (s : String) : redact (redact s) = redact s := by
  simp [redact, redactText_redactText]

end StorageReply.Redaction
