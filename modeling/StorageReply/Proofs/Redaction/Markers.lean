import StorageReply.Proofs.Redaction.Matching

/-!
# Markers and the mask

What the five rules have in common, said once as `Rule.Regular`: a marker has no blanks, no stars
and nothing that ends a credential, it does not overlap with itself or with the mask, and the mask
is a credential. No marker overlaps with another one (`apart_of_ne`), so that the rules keep out of
each other's way.
-/

namespace StorageReply.Redaction

open Text

/-- Whether a character may stand in a marker: no blank, no star and nothing that ends a
credential. -/
def isMarkerChar (m : Char) : Bool := !isBlank m && m != '*' && m != ';' && m != '&'

/-- The mask is a credential of the kind, and only marks and blanks end one. -/
def Credential.Regular : Credential → Prop
  | .word schemes => ∀ scheme ∈ schemes, '*' ∉ scheme ∧ '=' ∉ scheme
  | .upTo isEnd => isEnd ';' = true ∧ ∀ c, isEnd c = true → c = ';' ∨ c = '&' ∨ isBlank c = true

/-- What the rules have in common. -/
structure Rule.Regular (r : Rule) : Prop where
  /-- There is a marker. -/
  marker_ne : r.marker ≠ []
  /-- Its characters may stand in markers. -/
  marker_char : ∀ m ∈ r.marker, isMarkerChar m = true
  /-- It does not begin inside itself. -/
  apart_self : apart r.marker r.marker.tail = true
  /-- It does not begin inside the mask. -/
  apart_mask : apart r.marker (mask.map foldChar) = true
  /-- The mask is a credential. -/
  credential : r.credential.Regular
  /-- The name of a setting ends with an equals sign. -/
  setting : ∀ isEnd, r.credential = .upTo isEnd → '=' ∈ r.marker

theorem marker_of_mem_rules : ∀ r ∈ rules, r.marker ≠ [] ∧
    (∀ m ∈ r.marker, isMarkerChar m = true) ∧ apart r.marker r.marker.tail = true ∧
    apart r.marker (mask.map foldChar) = true := by
  simp only [← List.all_eq_true]
  decide

theorem credential_of_mem_rules : ∀ r ∈ rules, r.credential.Regular := by
  intro r hr
  simp only [rules, List.mem_cons, List.not_mem_nil, or_false] at hr
  obtain rfl | rfl | rfl | rfl | rfl := hr
  · show ∀ scheme ∈ schemes, _
    decide
  · rintro scheme ⟨⟩
  · refine ⟨rfl, fun c h => ?_⟩
    simp only [endsSetting, beq_iff_eq] at h
    exact .inl h
  · refine ⟨rfl, fun c h => ?_⟩
    simp only [endsSignature, Bool.or_eq_true, beq_iff_eq] at h
    exact h.imp_right .inl
  · refine ⟨rfl, fun c h => ?_⟩
    simp only [endsParameter, Bool.or_eq_true, beq_iff_eq] at h
    exact or_assoc.1 h

theorem setting_of_mem_rules : ∀ r ∈ rules, ∀ isEnd, r.credential = .upTo isEnd →
    '=' ∈ r.marker := by
  intro r hr
  simp only [rules, List.mem_cons, List.not_mem_nil, or_false] at hr
  obtain rfl | rfl | rfl | rfl | rfl := hr
  · rintro isEnd ⟨⟩
  · rintro isEnd ⟨⟩
  · exact fun _ _ => by decide
  · exact fun _ _ => by decide
  · exact fun _ _ => by decide

theorem regular_of_mem_rules {r : Rule} (hr : r ∈ rules) : r.Regular := by
  obtain ⟨h₁, h₂, h₃, h₄⟩ := marker_of_mem_rules r hr
  exact ⟨h₁, h₂, h₃, h₄, credential_of_mem_rules r hr, setting_of_mem_rules r hr⟩

/-- No marker begins inside another one. -/
theorem apart_of_ne : ∀ r ∈ rules, ∀ r' ∈ rules, r.marker ≠ r'.marker →
    apart r.marker r'.marker = true := by
  decide

end StorageReply.Redaction
