import StorageReply.Log.Record
import StorageReply.Proofs.Log.Filling
import StorageReply.Proofs.Redaction.Idempotence

/-!
# Redaction of templates

What redaction does to a template and to the values that fill it. A credential may hide directives,
but redaction never makes one, and it never cuts one in two so that half a directive is left
(`exists_spelled_redactText`): no marker has a percent sign, a marker that begins inside a directive
goes on to its end, and no credential ends in front of a percent sign. The values are taken up after
redaction as before (`Fits.redacted`), since only texts change, and a text counts for no number.

So a message that could be written with its values can be written after redaction exactly when no
directive was hidden (`LogRecord.exists_messageText_redacted_iff`).
-/

namespace StorageReply

open Text

namespace Template

/-! ## Parts of spelled texts -/

theorem Spelled.append_plain {a s : List Char} {ws : List (List Char)} (ha : '%' ∉ a)
    (h : Spelled s ws) : Spelled (a ++ s) ws := by
  induction a with
  | nil => exact h
  | cons c a ih =>
    rw [List.mem_cons, not_or] at ha
    exact .plain (fun hc => ha.1 hc.symm) (ih ha.2)

/-- What is left of a spelled text behind a cut that is not in front of a percent sign has the
directives behind the cut: a directive in which the text is cut leaves characters that stand for
themselves. -/
theorem Spelled.exists_of_append {s t : List Char} {ws : List (List Char)}
    (h : Spelled (s ++ t) ws) (ht : t.head? ≠ some '%') :
    ∃ ws', ws'.Sublist ws ∧ Spelled t ws' := by
  generalize hst : s ++ t = u at h
  induction h generalizing s with
  | nil =>
    obtain ⟨-, rfl⟩ := List.append_eq_nil_iff.1 hst
    exact ⟨[], .slnil, .nil⟩
  | @plain c u ws hc h ih =>
    cases s with
    | nil => exact ⟨ws, .refl ws, by rw [List.nil_append] at hst; exact hst ▸ .plain hc h⟩
    | cons d s => exact ih (List.cons.inj hst).2
  | @percent u ws h ih =>
    cases s with
    | nil => exact ⟨ws, .refl ws, by rw [List.nil_append] at hst; exact hst ▸ .percent h⟩
    | cons d s =>
      cases s with
      | nil =>
        obtain rfl : t = '%' :: u := (List.cons.inj hst).2
        simp at ht
      | cons e s => exact ih (List.cons.inj (List.cons.inj hst).2).2
  | @directive w u ws hw h ih =>
    cases s with
    | nil => exact ⟨w :: ws, .refl _, by rw [List.nil_append] at hst; exact hst ▸ .directive hw h⟩
    | cons d s =>
      obtain ⟨a, rfl, rfl⟩ | ⟨a, rfl, hu⟩ := List.append_eq_append_iff.1 (List.cons.inj hst).2
      · refine ⟨ws, List.sublist_cons_self .., h.append_plain fun ha => ?_⟩
        exact hw.percent_notMem (List.mem_append_right _ ha)
      · obtain ⟨ws', hws', ht'⟩ := ih hu.symm
        exact ⟨ws', hws'.cons w, ht'⟩

end Template

namespace Redaction

open Template

/-! ## Rules and spelled texts -/

/-- Percent signs are outside of markers, and no credential ends in front of one; every marker has a
sign. -/
theorem percent_of_mem_rules : ∀ r ∈ rules, '%' ∉ r.marker ∧ r.credential.endsAt '%' = false ∧
    (':' ∈ r.marker ∨ '=' ∈ r.marker) := by
  decide +kernel

section Rule

variable {r : Rule} (hr : r ∈ rules)

include hr

theorem percent_notMem_marker {written : List Char} (hw : written.map foldChar = r.marker) :
    '%' ∉ written := fun h => by
  have hmem : foldChar '%' ∈ r.marker := hw ▸ List.mem_map_of_mem h
  exact (percent_of_mem_rules r hr).1 hmem

/-- A marker is never inside a directive. -/
theorem not_subset_slot {written w : List Char} (hw : written.map foldChar = r.marker)
    (hslot : IsSlot w) : ¬written ⊆ w := by
  intro hsubset
  have hsign : ∀ sign, ¬('a' ≤ sign ∧ sign ≤ 'z') → isModifier sign = false →
      isConversion sign = false → sign ∉ r.marker := by
    intro sign hletter hm hc h
    rw [← hw] at h
    obtain ⟨c, hc', hfold⟩ := List.mem_map.1 h
    obtain rfl := eq_of_foldChar_eq hfold hletter
    exact hslot.notMem hm hc (hsubset hc')
  rcases (percent_of_mem_rules r hr).2.2 with h | h
  · exact hsign ':' (by decide) (by decide) (by decide) h
  · exact hsign '=' (by decide) (by decide) (by decide) h

/-- A marker that begins inside a directive goes on behind it. -/
theorem exists_marker_eq_append {written rest w₁ w₂ s : List Char}
    (hw : written.map foldChar = r.marker) (hslot : IsSlot (w₁ ++ w₂))
    (hs : w₂ ++ s = written ++ rest) : ∃ x, written = w₂ ++ x ∧ s = x ++ rest := by
  obtain ⟨x, hx⟩ | ⟨x, hx, -⟩ := List.append_eq_append_iff.1 hs
  · exact ⟨x, hx⟩
  · refine absurd ?_ (not_subset_slot hr hw hslot)
    rw [hx]
    exact fun c hc => List.mem_append_right _ (List.mem_append_left _ hc)

theorem match?_percent (s : List Char) : r.match? ('%' :: s) = none := by
  rw [Option.eq_none_iff_forall_ne_some]
  rintro ⟨kept, tail⟩ h
  obtain ⟨written, rest, -, hs, hw, -⟩ := match?_eq_some_iff.1 h
  cases written with
  | nil => exact ne_nil_of_marker (regular_of_mem_rules hr) hw rfl
  | cons c written =>
    obtain ⟨rfl, -⟩ := List.cons.inj hs
    exact percent_notMem_marker hr hw (List.mem_cons_self ..)

/-- What stays in front of a credential has no percent sign, and what follows the credential is
spelled as it was. -/
theorem exists_spelled_of_split? {before rest blanks tail : List Char} {ws : List (List Char)}
    (h : Spelled (before ++ rest) ws) (hk : r.credential.split? rest = some (blanks, tail)) :
    '%' ∉ blanks ∧ ∃ ws', ws'.Sublist ws ∧ Spelled tail ws' := by
  obtain ⟨value, -, rfl, hblank, hend⟩ := split?_spec hk
  refine ⟨fun hb => absurd (hblank _ hb) (by decide), ?_⟩
  simp only [← List.append_assoc] at h
  refine h.exists_of_append fun htail => ?_
  have := hend '%' htail
  simp [(percent_of_mem_rules r hr).2.1] at this

end Rule

/-- In a part of a text no match begins, or there is a first one. -/
theorem quiet_or_exists_match (r : Rule) (s rest : List Char) :
    r.Quiet s rest ∨ ∃ s₁ s₂ kept tail, s = s₁ ++ s₂ ∧ s₂ ≠ [] ∧ r.Quiet s₁ (s₂ ++ rest) ∧
      r.match? (s₂ ++ rest) = some (kept, tail) := by
  induction s with
  | nil => exact .inl trivial
  | cons c s ih =>
    cases hm : r.match? (c :: (s ++ rest)) with
    | some found =>
      exact .inr ⟨[], c :: s, found.1, found.2, rfl, nofun, trivial, hm⟩
    | none =>
      rcases ih with h | ⟨s₁, s₂, kept, tail, rfl, hne, hquiet, hmatch⟩
      · exact .inl ⟨hm, h⟩
      · rw [List.append_assoc] at hm
        exact .inr ⟨c :: s₁, s₂, kept, tail, rfl, hne, ⟨hm, hquiet⟩, hmatch⟩

theorem percent_notMem_mask : '%' ∉ mask := by decide

/-- A rule leaves a spelled text with some of its directives. -/
theorem exists_spelled_apply {r : Rule} (hr : r ∈ rules) {s : List Char} {ws : List (List Char)}
    (h : Spelled s ws) : ∃ ws', ws'.Sublist ws ∧ Spelled (r.apply s) ws' := by
  -- a match takes the text up to the end of its credential at once, so the length decreases
  induction hn : s.length using Nat.strongRecOn generalizing s ws with
  | ind n ih =>
    cases h with
    | nil => exact ⟨[], .slnil, .nil⟩
    | @plain c s _ hc h =>
      cases hm : r.match? (c :: s) with
      | none =>
        obtain ⟨ws', hws', hs⟩ := ih s.length (by simp [← hn]) h rfl
        exact ⟨ws', hws', by rw [apply_cons_of_none hm]; exact .plain hc hs⟩
      | some found =>
        obtain ⟨kept, tail⟩ := found
        have hlt := length_lt_of_match? hm
        obtain ⟨written, rest, blanks, hs, hw, hk, rfl⟩ := match?_eq_some_iff.1 hm
        have hspelled : Spelled (written ++ rest) ws := hs ▸ .plain hc h
        obtain ⟨hblanks, ws', hws', htail⟩ := exists_spelled_of_split? hr hspelled hk
        obtain ⟨ws'', hws'', htail⟩ := ih tail.length (by omega) htail rfl
        refine ⟨ws'', hws''.trans hws', ?_⟩
        rw [apply_of_match hm]
        refine .append_plain ?_ (.append_plain percent_notMem_mask htail)
        simp [percent_notMem_marker hr hw, hblanks]
    | @percent s _ h =>
      obtain ⟨ws', hws', hs⟩ := ih s.length (by simp only [← hn, List.length_cons]; omega) h rfl
      refine ⟨ws', hws', ?_⟩
      rw [apply_cons_of_none (match?_percent hr _), apply_cons_of_none (match?_percent hr _)]
      exact .percent hs
    | @directive w s ws hslot h =>
      rw [apply_cons_of_none (match?_percent hr _)]
      obtain hquiet | ⟨w₁, w₂, kept, tail, rfl, hne, hquiet, hm⟩ := quiet_or_exists_match r w s
      · obtain ⟨ws', hws', hs⟩ := ih s.length
          (by simp only [← hn, List.length_cons, List.length_append]; omega) h rfl
        refine ⟨w :: ws', hws'.cons_cons w, ?_⟩
        rw [apply_append_of_quiet hquiet]
        exact .directive hslot hs
      · have hlt := length_lt_of_match? hm
        obtain ⟨written, rest, blanks, hs, hw, hk, rfl⟩ := match?_eq_some_iff.1 hm
        obtain ⟨x, rfl, rfl⟩ := exists_marker_eq_append hr hw hslot hs
        obtain ⟨hblanks, ws', hws', htail⟩ := exists_spelled_of_split? hr h hk
        obtain ⟨ws'', hws'', htail⟩ := ih tail.length (by simp at hn hlt; omega) htail rfl
        refine ⟨(w₁ ++ w₂) :: ws'', (hws''.trans hws').cons_cons _, ?_⟩
        have hx : '%' ∉ x := fun hx =>
          percent_notMem_marker hr hw (List.mem_append_right _ hx)
        have happly : r.apply (w₁ ++ w₂ ++ (x ++ rest)) =
            w₁ ++ w₂ ++ (x ++ (blanks ++ (mask ++ r.apply tail))) := by
          rw [List.append_assoc, apply_append_of_quiet hquiet, apply_of_match hm]
          simp
        rw [happly]
        exact .directive hslot (.append_plain hx (.append_plain hblanks
          (.append_plain percent_notMem_mask htail)))

theorem exists_spelled_foldl {rs : List Rule} (hrs : rs ⊆ rules) {s : List Char}
    {ws : List (List Char)} (h : Spelled s ws) :
    ∃ ws', ws'.Sublist ws ∧ Spelled (rs.foldl (fun text rule => rule.apply text) s) ws' := by
  induction rs generalizing s ws with
  | nil => exact ⟨ws, .refl ws, h⟩
  | cons r rs ih =>
    obtain ⟨hr, hrs⟩ := List.cons_subset.1 hrs
    obtain ⟨ws', hws', h'⟩ := exists_spelled_apply hr h
    obtain ⟨ws'', hws'', h''⟩ := ih hrs h'
    exact ⟨ws'', hws''.trans hws', h''⟩

/-- Redaction leaves a spelled text with some of its directives. -/
theorem exists_spelled_redactText {s : List Char} {ws : List (List Char)} (h : Spelled s ws) :
    ∃ ws', ws'.Sublist ws ∧ Spelled (redactText s) ws' :=
  exists_spelled_foldl (List.Subset.refl _) h

/-- A single character is no credential with its marker. -/
theorem redactText_singleton (c : Char) : redactText [c] = [c] := by
  refine redactText_eq_self fun r hr => ⟨fun kept tail h => ?_, trivial⟩
  obtain ⟨written, rest, blanks, hs, hw, hk, -⟩ := match?_eq_some_iff.1 h
  obtain ⟨value, hvalue, rfl, -⟩ := split?_spec hk
  have h₁ := List.length_pos_iff.2 (ne_nil_of_marker (regular_of_mem_rules hr) hw)
  have h₂ := List.length_pos_iff.2 hvalue
  have hlength := congrArg List.length hs
  simp only [List.length_append, List.length_singleton] at hlength
  omega

theorem redact_of_length {s : String} (h : s.length = 1) : redact s = s := by
  obtain ⟨c, hc⟩ := List.length_eq_one_iff.1 (String.length_toList ▸ h)
  apply String.toList_injective
  rw [redact, String.toList_ofList, hc, redactText_singleton]

end Redaction

/-! ## Values -/

namespace LogFilter

@[simp] theorem integer?_redactValue (v : Value) : (redactValue v).integer? = v.integer? := by
  cases v <;> simp only [redactValue, Value.integer?]

end LogFilter

namespace Template

open LogFilter

/-- The arguments with their credentials hidden. -/
def Supply.redacted (supply : Supply) : Supply :=
  { supply with pending := supply.pending.map redactValue }

theorem next_redacted {supply supply' : Supply} {v : Value} (h : supply.next = .ok (v, supply')) :
    supply.redacted.next = .ok (redactValue v, supply'.redacted) := by
  obtain ⟨hpending, hentries⟩ := next_eq_ok_iff.1 h
  exact next_eq_ok_iff.2 ⟨by simp [Supply.redacted, hpending], hentries⟩

@[simp] theorem measure_redactValue (limit : Nat) (v : Value) :
    measure limit (redactValue v) = measure limit v := by
  simp [measure]

theorem takeWidth_redacted {supply supply' : Supply} {flags flags' : Flags} {width : Option Nat}
    {s s' : List Char} (h : takeWidth supply flags s = .ok (width, flags', supply', s')) :
    takeWidth supply.redacted flags s = .ok (width, flags', supply'.redacted, s') := by
  rw [takeWidth_eq_ok_iff] at h ⊢
  obtain ⟨v, i, hs, hnext, hi, hrest⟩ | ⟨hstar, hn, rfl, rfl⟩ := h
  · exact .inl ⟨redactValue v, i, hs, next_redacted hnext, by rwa [measure_redactValue], hrest⟩
  · exact .inr ⟨hstar, hn, rfl, rfl⟩

theorem takePrecision_redacted {supply supply' : Supply} {precision : Option Nat}
    {s s' : List Char} (h : takePrecision supply s = .ok (precision, supply', s')) :
    takePrecision supply.redacted s = .ok (precision, supply'.redacted, s') := by
  rw [takePrecision_eq_ok_iff] at h ⊢
  obtain ⟨v, i, hs, hnext, hi, hrest⟩ | ⟨n, rest, hs, hstar, hn, hp, rfl⟩ |
    ⟨hpoint, hp, rfl, hs⟩ := h
  · exact .inl ⟨redactValue v, i, hs, next_redacted hnext, by rwa [measure_redactValue], hrest⟩
  · exact .inr (.inl ⟨n, rest, hs, hstar, hn, hp, rfl⟩)
  · exact .inr (.inr ⟨hpoint, hp, rfl, hs⟩)

theorem Takes.redacted {values values' : List Value} {w : List Char} {d : Directive}
    (h : Takes values w d values') :
    Takes (values.map redactValue) w d (values'.map redactValue) := by
  intro t
  obtain ⟨supply₀, s₀, flags, s₁, supply₂, s₂, s₃, hkey, hflags, hwidth, hprecision, hsize⟩ :=
    takeDirective_eq_ok_iff.1 (h t)
  obtain ⟨hparen, rfl, rfl⟩ := takeKey_eq_ok_iff.1 hkey
  exact takeDirective_eq_ok_iff.2 ⟨_, _, flags, s₁, supply₂.redacted, s₂, s₃,
    takeKey_eq_ok_iff.2 ⟨hparen, rfl, rfl⟩, hflags, takeWidth_redacted hwidth,
    takePrecision_redacted hprecision, hsize⟩

/-- A directive that can write a value can write it with its credentials hidden. -/
theorem exists_place_redactValue {d : Directive} {index : Nat} {v : Value} {codes : List CodePoint}
    (h : place d index v = .ok codes) : ∃ codes', place d index (redactValue v) = .ok codes' := by
  cases v with
  | text s =>
    have hd := isConversion_of_place h
    obtain ⟨flags, width, precision, letter⟩ := d
    rw [isConversion, List.contains_iff_mem] at hd
    rw [List.mem_cons, List.mem_cons, List.mem_cons, List.mem_cons] at hd
    -- a text is written as itself, quoted in two ways, or as its only character
    obtain rfl | rfl | rfl | rfl | hd := hd
    · exact ⟨_, rfl⟩
    · exact ⟨_, rfl⟩
    · exact ⟨_, rfl⟩
    · obtain ⟨c, hc, -⟩ := bind_eq_ok_iff.1 h
      have hlength : s.length = 1 := by
        by_contra hne
        simp [codeOf, hne] at hc
      exact ⟨codes, by rw [redactValue, Redaction.redact_of_length hlength, h]⟩
    · fin_cases hd <;> nomatch h
  | _ => exact ⟨codes, h⟩

/-- Values that fit directives fit them with their credentials hidden. -/
theorem Fits.redacted {values : List Value} {ws : List (List Char)} (h : Fits values ws) :
    Fits (values.map redactValue) ws := by
  induction h with
  | nil => exact .nil
  | cons takes letter place _ ih =>
    obtain ⟨index, codes, hcodes⟩ := place
    exact .cons takes.redacted letter ⟨index, exists_place_redactValue hcodes⟩ ih

end Template

/-! ## Messages -/

namespace LogRecord

open Template

/-- A message has a text exactly if its template can be filled. -/
theorem exists_messageText_iff {r : LogRecord} {t : String} (ht : r.message = .text t) :
    (∃ m, r.messageText = .ok m) ↔ ∃ codes, render t r.arguments = .ok codes := by
  have htext : r.messageText = (render t r.arguments).map CodePoint.shaded := by
    simp [messageText, messageCodes, ht]
  simp [htext, map_eq_ok_iff]

/-- **Redaction loses a message exactly when it hides a directive.** A message that can be written
with its values can be written after redaction if there are no values, or if the directives of the
redacted template are those of the template; in every other case the values are too many for what
is left. -/
theorem exists_messageText_redacted_iff {active : Option String} {r : LogRecord} {t : String}
    {values : List Value} (ht : r.message = .text t) (hvalues : r.arguments = .positional values)
    (hok : ∃ m, r.messageText = .ok m) :
    (∃ m, (LogFilter.apply active r .credentials).messageText = .ok m) ↔
      values = [] ∨ directives (Redaction.redact t) = directives t := by
  have ht' : (LogFilter.apply active r .credentials).message = .text (Redaction.redact t) := by
    simp [LogFilter.apply, ht, LogFilter.redactValue]
  have hvalues' : (LogFilter.apply active r .credentials).arguments =
      .positional (values.map LogFilter.redactValue) := by
    simp [LogFilter.apply, hvalues, LogFilter.redactArguments]
  rw [exists_messageText_iff ht, hvalues] at hok
  rw [exists_messageText_iff ht', hvalues']
  by_cases hne : values = []
  · subst hne
    simp
  obtain ⟨ws, hspelled, hfits⟩ := (exists_render_iff hne).1 hok
  obtain ⟨ws', hsublist, hspelled'⟩ := Redaction.exists_spelled_redactText hspelled
  have htext : (Redaction.redact t).toList = Redaction.redactText t.toList := by
    rw [Redaction.redact, String.toList_ofList]
  have hws : directives t = ws := hspelled.directivesFrom_eq
  have hws' : directives (Redaction.redact t) = ws' := by
    rw [directives, htext]
    exact hspelled'.directivesFrom_eq
  rw [exists_render_iff (by simpa using hne), htext, hws, hws']
  constructor
  · rintro ⟨ws'', hspelled'', hfits''⟩
    obtain rfl : ws'' = ws' := by
      rw [← hspelled''.directivesFrom_eq, hspelled'.directivesFrom_eq]
    -- the values are as many as before, so no directive is missing
    have hlength := hfits''.length_eq
    rw [List.length_map, hfits.length_eq] at hlength
    exact .inr ((demand_of_sublist hsublist).2 hlength.symm)
  · rintro (h | rfl)
    · exact absurd h hne
    · exact ⟨ws', hspelled', hfits.redacted⟩

/-- A template in which a marker begins inside a directive and another directive takes its width
from the values. -/
def overlapping : LogRecord where
  logger := "zurestore"
  level := 20
  message := .text "%sig=%%k;%%%-*.3s|"
  arguments := .positional [.text "AccountKey=k", .int 6, .text "abcd"]
  created := .whole 0
  stamp := none
  context := none
  error := none

theorem exists_messageText_redacted_iff_overlapping :
    overlapping.messageText = .ok "AccountKey=kig=%k;%abc   |" ∧
      Redaction.redact "%sig=%%k;%%%-*.3s|" = "%sig=***REDACTED***;%%%-*.3s|" ∧
      ∃ m, (LogFilter.apply none overlapping .credentials).messageText = .ok m := by
  have hok : overlapping.messageText = .ok "AccountKey=kig=%k;%abc   |" :=
    eq_ok_of_toOption (by decide +kernel)
  have hredact : Redaction.redact "%sig=%%k;%%%-*.3s|" = "%sig=***REDACTED***;%%%-*.3s|" := by
    decide +kernel
  refine ⟨hok, hredact, (exists_messageText_redacted_iff rfl rfl ⟨_, hok⟩).2 (.inr ?_)⟩
  decide +kernel

/-- A message with the key of an account as its value. -/
def keyMessage : LogRecord :=
  { overlapping with message := .text "AccountKey=%s", arguments := .positional [.text "abc"] }

/-- A message is lost whose directive stands where a credential is hidden. -/
theorem messageText_keyMessage :
    keyMessage.messageText = .ok "AccountKey=abc" ∧
      (LogFilter.apply none keyMessage .credentials).messageText = .error .wrongKind :=
  ⟨eq_ok_of_toOption (by decide +kernel), rfl⟩

end LogRecord

end StorageReply
