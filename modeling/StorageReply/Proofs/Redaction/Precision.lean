import StorageReply.Proofs.Redaction.Authorization

/-!
# What redaction leaves alone

A text without markers is left as it is (`redactText_of_markerFree`), and of a setting nothing but
its value changes (`redact_only_credential`): the text before the name, the name in its letter case,
the mark behind the value and the text after it all stay.

The rules of other names find nothing to hide in such a text, before and after the value has been
hidden (`apply_setting_of_ne`): no marker stands in one of its parts, none runs from one part into
the next, since no two markers overlap and the mark behind the value stands in no marker. The rule
of the name itself finds the value and nothing more (`apply_setting`). The mask is such a value as
well, so the text with the value hidden needs no argument of its own.
-/

namespace StorageReply.Redaction

open Text

/-! ## Texts without a marker -/

/-- No match begins in a text without markers, in front of something that stands in no marker. -/
theorem quiet_of_markerFree_of_head {r : Rule} (hr : r ∈ rules) {s : List Char} (hs : MarkerFree s)
    {rest : List Char} (hrest : ∀ c ∈ rest.head?, isMarkerChar c = false) : r.Quiet s rest := by
  induction s with
  | nil => trivial
  | cons c s ih =>
    refine ⟨?_, ih fun r' hr' h => hs r' hr' (h.trans (List.suffix_cons ..).isInfix)⟩
    rw [Option.eq_none_iff_forall_ne_some]
    rintro ⟨kept, tail⟩ h
    obtain ⟨written, after, blanks, he, hw, -⟩ := match?_eq_some_iff.1 h
    obtain ⟨t, ht, -⟩ := exists_of_marker_append (regular_of_mem_rules hr) (s := c :: s) hw hrest he
    refine hs r hr ?_
    rw [ht, List.map_append, hw]
    exact (List.prefix_append _ _).isInfix

theorem apply_of_quiet {r : Rule} {s : List Char} (h : r.Quiet s []) : r.apply s = s := by
  simpa using apply_append_of_quiet h

theorem apply_of_markerFree {r : Rule} (hr : r ∈ rules) {s : List Char} (hs : MarkerFree s) :
    r.apply s = s :=
  apply_of_quiet (quiet_of_markerFree_of_head hr hs (by simp))

/-- Redaction leaves a text alone that no rule changes. -/
theorem foldl_apply_eq_self {rs : List Rule} {s : List Char} (h : ∀ r ∈ rs, r.apply s = s) :
    rs.foldl (fun text rule => rule.apply text) s = s := by
  induction rs with
  | nil => rfl
  | cons r rs ih =>
    rw [List.foldl_cons, h r (List.mem_cons_self ..)]
    exact ih fun r' hr' => h r' (List.mem_cons_of_mem _ hr')

/-- A text without markers is left as it is. -/
theorem redactText_of_markerFree {s : List Char} (hs : MarkerFree s) : redactText s = s :=
  foldl_apply_eq_self fun _ hr => apply_of_markerFree hr hs

/-! ## Settings -/

/-- A setting in a text: its name, its value, and the mark behind the value, with the text before
and after them. -/
def settingText (pre name value : List Char) (mark : Char) (post : List Char) : List Char :=
  pre ++ (name ++ (value ++ mark :: post))

section Setting

variable {r : Rule} {pre name value post : List Char} {mark : Char}

/-- A rule of another name changes nothing. -/
theorem apply_setting_of_ne (hr : r ∈ rules) {r' : Rule} (hr' : r' ∈ rules)
    (hne : r'.marker ≠ r.marker) (hname : name.map foldChar = r.marker)
    (hmark : isMarkerChar mark = false) (hpre : MarkerFree pre) (hvalue : MarkerFree value)
    (hpost : MarkerFree post) :
    r'.apply (settingText pre name value mark post) = settingText pre name value mark post := by
  have hbefore : apart (name.map foldChar) r'.marker.tail = true := by
    rw [hname]
    exact apart_tail (apart_of_ne _ hr _ hr' hne.symm)
  have hin : apart r'.marker (name.map foldChar) = true := by
    rw [hname]
    exact apart_of_ne _ hr' _ hr hne
  have hrest : r'.apply (mark :: post) = mark :: post := by
    rw [apply_cons_of_none (match?_eq_none_of_head (regular_of_mem_rules hr') hmark),
      apply_of_markerFree hr' hpost]
  rw [settingText, apply_append_of_quiet (quiet_of_markerFree hr' hbefore hpre _),
    apply_append_of_quiet (quiet_of_apart hin _),
    apply_append_of_quiet (quiet_of_markerFree_of_head hr' hvalue (by simpa using hmark)), hrest]

/-- The rule of the name hides the value and nothing else. -/
theorem apply_setting (hr : r ∈ rules) {isEnd : Char → Bool} (hk : r.credential = .upTo isEnd)
    (hname : name.map foldChar = r.marker) (hmark : isMarkerChar mark = false)
    (hend : isEnd mark = true) (hpre : MarkerFree pre) (hne : value ≠ [])
    (hchars : ∀ c ∈ value, isSecretChar c = true) (hpost : MarkerFree post) :
    r.apply (settingText pre name value mark post) = settingText pre name mask mark post := by
  have hreg := regular_of_mem_rules hr
  have hbefore : apart (name.map foldChar) r.marker.tail = true := by
    rw [hname]
    exact hreg.apart_self
  have hsplit : r.credential.split? (value ++ mark :: post) = some ([], mark :: post) := by
    rw [hk]
    exact split?_upTo_append (hk ▸ hreg.credential) hne hchars (by simpa using hend)
  have hmatch : r.match? (name ++ (value ++ mark :: post)) = some (name, mark :: post) :=
    match?_eq_some_iff.2 ⟨name, _, [], rfl, hname, hsplit, (List.append_nil name).symm⟩
  have hrest : r.apply (mark :: post) = mark :: post := by
    rw [apply_cons_of_none (match?_eq_none_of_head hreg hmark), apply_of_markerFree hr hpost]
  rw [settingText, apply_append_of_quiet (quiet_of_markerFree hr hbefore hpre _),
    apply_of_match hmatch, hrest, settingText]

theorem markerFree_mask : MarkerFree mask := by decide +kernel

/-- Redaction hides the value of a setting and nothing else. -/
theorem redactText_setting (hr : r ∈ rules) {isEnd : Char → Bool} (hk : r.credential = .upTo isEnd)
    (hname : name.map foldChar = r.marker) (hmark : isMarkerChar mark = false)
    (hend : isEnd mark = true) (hpre : MarkerFree pre) (hvalue : MarkerFree value)
    (hne : value ≠ []) (hchars : ∀ c ∈ value, isSecretChar c = true) (hpost : MarkerFree post) :
    redactText (settingText pre name value mark post) = settingText pre name mask mark post := by
  obtain ⟨earlier, later, hrules⟩ := List.append_of_mem hr
  have hpairwise := rules_pairwise
  rw [hrules, List.pairwise_append, List.pairwise_cons] at hpairwise
  obtain ⟨-, ⟨hlater, -⟩, hearlier⟩ := hpairwise
  have hmem : ∀ r', r' ∈ earlier ∨ r' ∈ later → r' ∈ rules := by
    intro r' h
    rw [hrules]
    simp only [List.mem_append, List.mem_cons]
    exact h.imp_right .inr
  have hkeep : ∀ v, MarkerFree v → ∀ r', r' ∈ earlier ∨ r' ∈ later →
      r'.apply (settingText pre name v mark post) = settingText pre name v mark post := by
    intro v hv r' h
    refine apply_setting_of_ne hr (hmem r' h) ?_ hname hmark hpre hv hpost
    rcases h with h | h
    · exact hearlier r' h r (List.mem_cons_self ..)
    · exact (hlater r' h).symm
  rw [redactText, hrules, List.foldl_append, List.foldl_cons,
    foldl_apply_eq_self fun r' h => hkeep value hvalue r' (.inl h),
    apply_setting hr hk hname hmark hend hpre hne hchars hpost,
    foldl_apply_eq_self fun r' h => hkeep mask markerFree_mask r' (.inr h)]

end Setting

theorem toList_maskText : "***REDACTED***".toList = mask := rfl

/-- A setting in a string. -/
theorem redact_setting {r : Rule} (hr : r ∈ rules) {isEnd : Char → Bool}
    (hk : r.credential = .upTo isEnd) {pre name value mark post : String} {m : Char}
    (hname : name.toList.map foldChar = r.marker) (hm : mark.toList = [m])
    (hmark : isMarkerChar m = false) (hend : isEnd m = true) (hpre : MarkerFree pre.toList)
    (hvalue : MarkerFree value.toList) (hsecret : IsSecret value) (hpost : MarkerFree post.toList) :
    redact (pre ++ name ++ value ++ mark ++ post) =
      pre ++ name ++ "***REDACTED***" ++ mark ++ post := by
  have hne : value.toList ≠ [] := fun h => hsecret.1 (String.toList_eq_nil_iff.1 h)
  have htext : ∀ v : String, (pre ++ name ++ v ++ mark ++ post).toList =
      settingText pre.toList name.toList v.toList m post.toList := fun v => by
    simp only [String.toList_append, settingText, hm, List.append_assoc, List.cons_append,
      List.nil_append]
  apply String.toList_injective
  rw [redact, String.toList_ofList, htext, htext, toList_maskText,
    redactText_setting hr hk hname hmark hend hpre hvalue hne hsecret.2 hpost]

/-- **Redaction changes the credential and nothing else.** A text without a marker is left as it is.
In a text with one setting, the value gives way to the mask, and all else stays: the name in its
letter case, the mark behind the value, and what stands before and after, even where it looks like
the beginning or the end of a marker. The value of an account key ends in front of a semicolon, and
that of a signature also in front of an ampersand. -/
theorem redact_only_credential :
    (∀ s : String, MarkerFree s.toList → redact s = s) ∧
    ∀ pre name value mark post : String, MarkerFree pre.toList → MarkerFree value.toList →
      IsSecret value → MarkerFree post.toList →
      (name.toList.map foldChar = "accountkey=".toList ∧ mark = ";" ∨
        name.toList.map foldChar ∈ ["sharedaccesssignature=".toList, "sig=".toList] ∧
          mark ∈ [";", "&"]) →
      redact (pre ++ name ++ value ++ mark ++ post) =
        pre ++ name ++ "***REDACTED***" ++ mark ++ post := by
  refine ⟨fun s hs => ?_, fun pre name value mark post hpre hvalue hsecret hpost hname => ?_⟩
  · rw [redact, redactText_of_markerFree hs, String.ofList_toList]
  · simp only [List.mem_cons, List.not_mem_nil, or_false] at hname
    obtain ⟨hname, rfl⟩ | ⟨hname | hname, rfl | rfl⟩ := hname
    · exact redact_setting (r := accountKey) (by simp [rules]) rfl hname rfl (by decide) (by decide)
        hpre hvalue hsecret hpost
    · exact redact_setting (r := accessSignature) (by simp [rules]) rfl hname rfl (by decide)
        (by decide) hpre hvalue hsecret hpost
    · exact redact_setting (r := accessSignature) (by simp [rules]) rfl hname rfl (by decide)
        (by decide) hpre hvalue hsecret hpost
    · exact redact_setting (r := signature) (by simp [rules]) rfl hname rfl (by decide) (by decide)
        hpre hvalue hsecret hpost
    · exact redact_setting (r := signature) (by simp [rules]) rfl hname rfl (by decide) (by decide)
        hpre hvalue hsecret hpost

/-- A signature between the halves of other markers, its name spelled with letters beyond ASCII, and
with a scheme for its value. -/
theorem redact_only_credential_halves :
    MarkerFree "Authorization, AccountKey and SharedAccess".toList ∧
      MarkerFree "Bearer".toList ∧ IsSecret "Bearer" ∧ MarkerFree "ig=x-ms-encryption-key".toList ∧
      "\u017F\u0131G=".toList.map foldChar ∈ ["sharedaccesssignature=".toList, "sig=".toList] ∧
      redact ("Authorization, AccountKey and SharedAccess" ++ "\u017F\u0131G=" ++ "Bearer" ++ "&"
          ++ "ig=x-ms-encryption-key") =
        "Authorization, AccountKey and SharedAccess" ++ "\u017F\u0131G=" ++ "***REDACTED***" ++ "&"
          ++ "ig=x-ms-encryption-key" := by
  have hpre : MarkerFree "Authorization, AccountKey and SharedAccess".toList := by decide +kernel
  have hvalue : MarkerFree "Bearer".toList := by decide +kernel
  have hsecret : IsSecret "Bearer" := by decide
  have hpost : MarkerFree "ig=x-ms-encryption-key".toList := by decide +kernel
  have hname : "\u017F\u0131G=".toList.map foldChar ∈
      ["sharedaccesssignature=".toList, "sig=".toList] := by decide
  exact ⟨hpre, hvalue, hsecret, hpost, hname,
    redact_only_credential.2 _ _ _ _ _ hpre hvalue hsecret hpost (.inr ⟨hname, by simp⟩)⟩

end StorageReply.Redaction
