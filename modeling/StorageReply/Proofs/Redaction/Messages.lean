import StorageReply.Proofs.Log.Parts
import StorageReply.Proofs.Redaction.Templates

/-!
# Redacted messages

Redaction is done before a template is filled, on the template and on the texts among values in
order. So a message is redacted part by part (`LogRecord.exists_redactedInParts`): a stretch of the
template without its directives is settled as the template was (`settled_lead`), and a text among
values in order is settled by itself (`Composed.settled`). A credential that is exposed in the
message (`Exposed`) does not lie within such a part, since a credential is the same whatever follows
it (`split?_of_append`): it reaches over a joint between parts, or lies in a value of another kind.
-/

namespace StorageReply

open Text

namespace Redaction

open Template

/-! ## Stretches of a settled template -/

theorem head?_lead {s : List Char} (h : lead s ≠ []) : (lead s).head? = s.head? := by
  fun_induction lead s with
  | case2 => exact absurd rfl h
  | _ => rfl

theorem mem_head?_of_lead {s : List Char} {c : Char} (h : c ∈ (lead s).head?) : c ∈ s.head? := by
  by_cases hne : lead s = []
  · simp [hne] at h
  · rwa [head?_lead hne] at h

theorem lead_append {a : List Char} (ha : '%' ∉ a) (s : List Char) :
    lead (a ++ s) = a ++ lead s := by
  induction a with
  | nil => rfl
  | cons c a ih =>
    rw [List.mem_cons, not_or] at ha
    rw [List.cons_append, lead_plain (Ne.symm ha.1), ih ha.2, List.cons_append]

theorem exists_of_lead_eq_append {s a b : List Char} (h : lead s = a ++ b) (ha : '%' ∉ a) :
    ∃ s', s = a ++ s' ∧ b = lead s' := by
  induction a generalizing s with
  | nil => exact ⟨s, rfl, h.symm⟩
  | cons c a ih =>
    rw [List.mem_cons, not_or] at ha
    have hhead : c ∈ s.head? := mem_head?_of_lead (by simp [h])
    obtain ⟨s', rfl⟩ := List.head?_eq_some_iff.1 hhead
    rw [lead_plain (Ne.symm ha.1), List.cons_append] at h
    obtain ⟨s'', rfl, hb⟩ := ih (List.cons.inj h).2 ha.2
    exact ⟨s'', rfl, hb⟩

theorem split?_eq_none_of_lead {k : Credential} {s : List Char} (h : k.split? s = none) :
    k.split? (lead s) = none := by
  cases k with
  | word schemes =>
    rw [split?_word_eq_none_iff] at h ⊢
    rcases h with h | h
    · exact .inl fun c hc => h c (mem_head?_of_lead hc)
    · have hpercent : '%' ∉ s := fun hs => absurd (h _ hs) (by decide)
      have hs : lead s = s := by simpa using lead_append hpercent []
      exact .inr (hs.symm ▸ h)
  | upTo isEnd =>
    rw [split?_upTo_eq_none_iff] at h ⊢
    exact fun c hc => h c (mem_head?_of_lead hc)

theorem endsBefore_lead {k : Credential} {s : List Char} (h : k.EndsBefore s) :
    k.EndsBefore (lead s) := fun c hc => h c (mem_head?_of_lead hc)

/-- The stretch in front of the first directive of a settled template is settled. -/
theorem settled_lead {r : Rule} (hr : r ∈ rules) {s : List Char} (h : r.Settled s) :
    r.Settled (lead s) := by
  fun_induction lead s with
  | case1 s ih => exact ⟨by simp [match?_percent hr], ih h.2.2⟩
  | case2 => trivial
  | case3 c s _ hc ih =>
    have hlead : lead (c :: s) = c :: lead s := lead_plain hc s
    refine ⟨fun kept tail hm => ?_, ih h.2⟩
    obtain ⟨written, rest, blanks, hwritten, hw, hk, rfl⟩ := match?_eq_some_iff.1 hm
    rw [← hlead] at hwritten ⊢
    obtain ⟨before, hs, rfl⟩ := exists_of_lead_eq_append hwritten (percent_notMem_marker hr hw)
    have hmask : ∀ b t, (∀ c ∈ b, isBlank c = true) →
        lead (b ++ (mask ++ t)) = b ++ (mask ++ lead t) := fun b t hblank => by
      rw [lead_append fun hb => absurd (hblank _ hb) (by decide), lead_append percent_notMem_mask]
    rw [hs] at h
    rw [hwritten, h.eq_mask_of_split? (regular_of_mem_rules hr) hw split?_eq_none_of_lead hmask
      (fun _ => endsBefore_lead) hk, List.append_assoc]
  | case4 => trivial

/-! ## Credentials that are not hidden -/

/-- Between `before` and `after` the text has a marker with a credential that is not the mask. -/
def Exposed (s before shown after : List Char) : Prop :=
  ∃ r ∈ rules, ∃ kept value, s = before ++ (shown ++ after) ∧ shown = kept ++ value ∧
    value ≠ mask ∧ r.match? (shown ++ after) = some (kept, after)

theorem exists_value_of_match? {r : Rule} {s kept tail : List Char}
    (h : r.match? s = some (kept, tail)) : ∃ value, value ≠ [] ∧ s = kept ++ (value ++ tail) := by
  obtain ⟨written, rest, blanks, rfl, -, hk, rfl⟩ := match?_eq_some_iff.1 h
  obtain ⟨value, hvalue, rfl, -⟩ := split?_spec hk
  exact ⟨value, hvalue, by rw [List.append_assoc]⟩

theorem settled_iff {r : Rule} {s : List Char} :
    r.Settled s ↔ ∀ before rest kept tail, s = before ++ rest → r.match? rest = some (kept, tail) →
      rest = kept ++ (mask ++ tail) := by
  constructor
  · rintro h before rest kept tail rfl hm
    exact h.of_append.eq_of_match hm
  · intro h
    induction s with
    | nil => trivial
    | cons c s ih =>
      exact ⟨fun kept tail hm => h [] _ kept tail rfl hm,
        ih fun before rest kept tail hs => h (c :: before) rest kept tail (by rw [hs]; rfl)⟩

/-- Redaction changes nothing exactly where no credential is exposed. -/
theorem redactText_eq_self_iff {s : List Char} :
    redactText s = s ↔ ∀ before shown after, ¬Exposed s before shown after := by
  constructor
  · rintro h before shown after ⟨r, hr, kept, value, hs, rfl, hvalue, hm⟩
    have hsettled := h ▸ settled_redactText hr s
    have hmask := settled_iff.1 hsettled _ _ _ _ hs hm
    rw [List.append_assoc, List.append_cancel_left_eq, List.append_cancel_right_eq] at hmask
    exact hvalue hmask
  · refine fun h => redactText_eq_self fun r hr => settled_iff.2 ?_
    intro before rest kept tail hs hm
    obtain ⟨value, -, rfl⟩ := exists_value_of_match? hm
    by_contra hne
    refine h before (kept ++ value) tail ⟨r, hr, kept, value, ?_, rfl, ?_, ?_⟩
    · rw [hs, List.append_assoc]
    · rintro rfl
      exact hne rfl
    · rwa [List.append_assoc]

/-! ## Credentials in front of a cut -/

/-- A credential is the same when the text is cut behind it. -/
theorem split?_of_append {k : Credential} {s rest blanks tail : List Char}
    (h : k.split? (s ++ (tail ++ rest)) = some (blanks, tail ++ rest)) :
    k.split? (s ++ tail) = some (blanks, tail) := by
  obtain ⟨value, hs, hvalue⟩ := split?_eq_some_iff.1 h
  rw [← List.append_assoc blanks, List.append_cancel_right_eq] at hs
  exact split?_eq_some_iff.2 ⟨value, by rw [hs, List.append_assoc], hvalue.of_append⟩

/-- A credential that lies in a settled part of a text is hidden, whatever follows the part. -/
theorem Rule.Settled.eq_mask {r : Rule} {before kept value tail rest : List Char}
    (h : r.Settled (before ++ (kept ++ value ++ tail)))
    (hm : r.match? (kept ++ value ++ (tail ++ rest)) = some (kept, tail ++ rest)) :
    value = mask := by
  obtain ⟨written, after, blanks, hs, hw, hk, rfl⟩ := match?_eq_some_iff.1 hm
  obtain rfl : after = blanks ++ value ++ (tail ++ rest) := by
    simp only [List.append_assoc, List.append_cancel_left_eq] at hs ⊢
    exact hs.symm
  have hm' : r.match? (written ++ blanks ++ value ++ tail) = some (written ++ blanks, tail) :=
    match?_eq_some_iff.2 ⟨written, blanks ++ value ++ tail, blanks, by simp, hw,
      split?_of_append hk, rfl⟩
  have hmask := h.of_append.eq_of_match hm'
  rwa [List.append_assoc, List.append_cancel_left_eq, List.append_cancel_right_eq] at hmask

theorem settled_of_redact_eq {r : Rule} (hr : r ∈ rules) {s : String} (h : redact s = s) :
    r.Settled s.toList := by
  rw [← h, redact, String.toList_ofList]
  exact settled_redactText hr _

end Redaction

/-! ## Guarded parts -/

namespace Template

open Redaction LogFilter

/-- Redaction guards a part: it is a stretch of the template, or it is a text among values in order
as it stands, perhaps with spaces in front. `entries` is the map of named arguments, if there is
one. -/
def Part.Guarded (entries : Option Fields) : Part → Prop
  | .stretch _ => True
  | .filled _ (.text s) codes =>
    entries = none ∧ ∃ gap, codes = CodePoint.ofChars (List.replicate gap ' ' ++ s.toList)
  | .filled _ _ _ => False

/-- The guarded parts of a settled template that is filled with redacted values are settled. -/
theorem Composed.settled {r : Rule} (hr : r ∈ rules) {supply : Supply} {s : List Char}
    {parts : List Part} (h : Composed supply s parts) (hs : r.Settled s)
    (hvalues : supply.entries = none → ∀ v ∈ supply.pending, redactValue v = v) :
    ∀ p ∈ parts, p.Guarded supply.entries → r.Settled p.text := by
  intro p hp hguarded
  cases p with
  | stretch u =>
    obtain ⟨s', ⟨before, rfl⟩, rfl⟩ := h.exists_suffix_of_mem hp
    exact settled_lead hr hs.of_append
  | filled d v codes =>
    cases v with
    | text t =>
      obtain ⟨hnone, gap, rfl⟩ := hguarded
      rw [Part.text, CodePoint.shade_ofChars]
      -- redaction leaves the value as it is, and a marker does not begin in the spaces
      have ht : redact t = t := Value.text.inj (hvalues hnone _ (h.mem_pending hnone hp))
      refine settled_append_of_quiet (quiet_of_blank (regular_of_mem_rules hr) ?_ _)
        (settled_of_redact_eq hr ht)
      intro c hc
      rw [List.eq_of_mem_replicate hc]
      decide
    | _ => exact hguarded.elim

end Template

/-! ## Messages by their parts -/

namespace LogRecord

open Redaction Template

/-- The text between `before` and `after` lies within the part `p` of a message that is made of the
given parts. -/
def Within (parts : List Part) (p : Part) (before shown after : List Char) : Prop :=
  ∃ ps qs x y, parts = ps ++ p :: qs ∧ before = ps.flatMap Part.text ++ x ∧
    p.text = x ++ (shown ++ y) ∧ after = y ++ qs.flatMap Part.text

/-- A message is made of the parts of its redacted template, and redaction guards those that it has
seen as a whole. -/
structure RedactedInParts (template : String) (arguments : Arguments) (m : String)
    (parts : List Part) : Prop where
  /-- The template and its arguments were redacted before they made the message. -/
  composed : IsComposed (redact template) (LogFilter.redactArguments arguments) parts
  /-- The message is its parts one after the other. -/
  toList_eq : m.toList = parts.flatMap Part.text
  /-- Redaction changes nothing in a part that it guards. -/
  guarded : ∀ p ∈ parts, p.Guarded (Supply.ofArguments arguments).entries →
    redactText p.text = p.text
  /-- Redaction changes the message exactly if a credential is exposed in it. -/
  eq_self_iff : redact m = m ↔ ∀ before shown after, ¬Exposed m.toList before shown after
  /-- No part that it guards has an exposed credential within. -/
  not_within : ∀ before shown after, Exposed m.toList before shown after →
    ∀ p, Within parts p before shown after → ¬p.Guarded (Supply.ofArguments arguments).entries

theorem entries_redactArguments (arguments : Arguments) :
    (Supply.ofArguments (LogFilter.redactArguments arguments)).entries =
      (Supply.ofArguments arguments).entries := by
  cases arguments <;> rfl

theorem redactValue_of_mem {arguments : Arguments}
    (h : (Supply.ofArguments (LogFilter.redactArguments arguments)).entries = none) {v : Value}
    (hv : v ∈ (Supply.ofArguments (LogFilter.redactArguments arguments)).pending) :
    LogFilter.redactValue v = v := by
  cases arguments with
  | named entries => simp [Supply.ofArguments, LogFilter.redactArguments] at h
  | positional values =>
    obtain ⟨u, -, rfl⟩ := List.mem_map.1 hv
    cases u <;> simp [LogFilter.redactValue]

theorem settled_of_isComposed {r : Rule} (hr : r ∈ rules) {t : String} (ht : redact t = t)
    {arguments : Arguments} {parts : List Part}
    (h : IsComposed t (LogFilter.redactArguments arguments) parts) :
    ∀ p ∈ parts, p.Guarded (Supply.ofArguments arguments).entries → r.Settled p.text := by
  unfold IsComposed at h
  split at h
  · subst h
    intro p hp _
    rw [List.mem_singleton.1 hp, Part.text]
    exact settled_of_redact_eq hr ht
  · rw [← entries_redactArguments]
    exact h.settled hr (settled_of_redact_eq hr ht) fun hnone v hv => redactValue_of_mem hnone hv

/-- **No credential is exposed within a part that was redacted as a whole.** After redaction a
message with any arguments is made of stretches of the redacted template and of what its directives
have made of values. Redaction leaves the stretches and the texts among values in order as they are,
and a credential that is exposed in the message nevertheless does not lie within one of them: it
reaches over a joint between parts, or stands in another kind of value. -/
theorem exists_redactedInParts {active : Option String} {r : LogRecord} {t m : String}
    (ht : r.message = .text t)
    (hm : (LogFilter.apply active r .credentials).messageText = .ok m) :
    ∃ parts, RedactedInParts t r.arguments m parts := by
  have hafter : (LogFilter.apply active r .credentials).messageText =
      (render (redact t) (LogFilter.redactArguments r.arguments)).map CodePoint.shaded := by
    simp [messageText, messageCodes, LogFilter.apply, ht, LogFilter.redactValue]
  obtain ⟨codes, hcodes, rfl⟩ := map_eq_ok_iff.1 (hafter ▸ hm)
  obtain ⟨parts, hparts, htext⟩ := exists_isComposed hcodes
  refine ⟨parts, hparts, String.toList_ofList.trans htext, fun p hp hguarded => ?_, ?_, ?_⟩
  · exact redactText_eq_self fun r hr =>
      settled_of_isComposed hr (redact_redact t) hparts p hp hguarded
  · rw [← redactText_eq_self_iff, redact, ← String.toList_inj, String.toList_ofList]
  · rintro before shown after ⟨r, hr, kept, value, -, rfl, hvalue, hmatch⟩ p
      ⟨ps, qs, x, y, rfl, -, hp, rfl⟩ hguarded
    have hsettled := settled_of_isComposed hr (redact_redact t) hparts p (by simp) hguarded
    rw [hp] at hsettled
    exact hvalue (hsettled.eq_mask hmatch)

/-- A message in which a marker at the end of one text meets the beginning of the next one. -/
def jointMessage : LogRecord :=
  { keyMessage with
    message := .text "sig=%%1;%8s%s;[%%]"
    arguments := .positional [.text "x SIG=", .text "k;AccountKey=z"] }

theorem exists_redactedInParts_jointMessage :
    (LogFilter.apply none jointMessage .credentials).messageText =
        .ok "sig=***REDACTED***;  x SIG=k;AccountKey=***REDACTED***;[%]" ∧
      ∃ parts, RedactedInParts "sig=%%1;%8s%s;[%%]" jointMessage.arguments
        "sig=***REDACTED***;  x SIG=k;AccountKey=***REDACTED***;[%]" parts := by
  have hm : (LogFilter.apply none jointMessage .credentials).messageText =
      .ok "sig=***REDACTED***;  x SIG=k;AccountKey=***REDACTED***;[%]" :=
    eq_ok_of_toOption (by decide +kernel)
  exact ⟨hm, exists_redactedInParts rfl hm⟩

/-- A marker in one text and its credential in the next one are written as they are, and so is a
credential in a list. -/
theorem exposed_of_joint_of_list :
    (LogFilter.apply none { keyMessage with
        message := .text "%s=%s"
        arguments := .positional [.text "AccountKey", .text "abc"] } .credentials).messageText =
      .ok "AccountKey=abc" ∧ redact "AccountKey=abc" ≠ "AccountKey=abc" ∧
    (LogFilter.apply none { keyMessage with
        message := .text "%s"
        arguments := .positional [.list [.text "AccountKey=abc"]] } .credentials).messageText =
      .ok "['AccountKey=abc']" ∧ redact "['AccountKey=abc']" ≠ "['AccountKey=abc']" := by
  refine ⟨eq_ok_of_toOption ?_, ?_, eq_ok_of_toOption ?_, ?_⟩ <;> decide +kernel

end LogRecord

end StorageReply
