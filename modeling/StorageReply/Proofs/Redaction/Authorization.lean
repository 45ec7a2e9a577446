import StorageReply.Proofs.Redaction.Secrecy

/-!
# Authorization headers

What redaction makes of an authorization header with a scheme and a credential
(`redact_authorization`). Behind one of the known schemes both words are hidden. Any other scheme
is taken for the credential itself, so that it is hidden and the word after it stays. So the result
does not depend on the credential exactly for the known schemes (`redact_authorization_eq_iff`).

The part of the text up to the mask is quiet for every rule (`quiet_of_markerFree`): no marker
stands in front of the header, and none begins there and goes on into it, since no two markers
overlap.
-/

namespace StorageReply.Redaction

open Text

/-- No marker of a rule stands in a text, in whatever letter case. -/
def MarkerFree (s : List Char) : Prop := ∀ r ∈ rules, ¬r.marker <:+: s.map foldChar

instance : DecidablePred MarkerFree := fun s =>
  inferInstanceAs (Decidable (∀ r ∈ rules, ¬r.marker <:+: s.map foldChar))

/-- A text is one word: it is not empty and has no blank. -/
def IsWord (s : List Char) : Prop := s ≠ [] ∧ ∀ c ∈ s, isBlank c = false

instance : DecidablePred IsWord := fun s =>
  decidable_of_iff (s ≠ [] ∧ s.all (!isBlank ·) = true) (by simp [IsWord])

theorem IsWord.isInk {s : List Char} (h : IsWord s) : ∀ c ∈ s, isInk c = true := fun c hc => by
  simp [Redaction.isInk, h.2 c hc]

/-! ## Quiet parts -/

theorem quiet_append {r : Rule} {s t rest : List Char} :
    r.Quiet (s ++ t) rest ↔ r.Quiet s (t ++ rest) ∧ r.Quiet t rest := by
  induction s with
  | nil => simp [Rule.Quiet]
  | cons c s ih => simp [Rule.Quiet, ih, and_assoc]

/-- No match begins in a text without markers, in front of a name that no marker runs into. -/
theorem quiet_of_markerFree {r : Rule} (hr : r ∈ rules) {name : List Char}
    (hname : apart (name.map foldChar) r.marker.tail = true) {s : List Char} (hs : MarkerFree s)
    (rest : List Char) : r.Quiet s (name ++ rest) := by
  induction s with
  | nil => trivial
  | cons c s ih =>
    refine ⟨?_, ih fun r' hr' h => hs r' hr' (h.trans (List.suffix_cons ..).isInfix)⟩
    rw [Option.eq_none_iff_forall_ne_some]
    rintro ⟨kept, tail⟩ h
    obtain ⟨written, after, blanks, he, hw, -⟩ := match?_eq_some_iff.1 h
    obtain ⟨t, ht, -⟩ := exists_of_marker_before hname hw (q := s) he
    refine hs r hr ?_
    rw [ht, List.map_append, hw]
    exact (List.prefix_append _ _).isInfix

theorem foldl_apply_append_of_quiet {rs : List Rule} {s : List Char}
    (h : ∀ r ∈ rs, ∀ rest, r.Quiet s rest) (rest : List Char) :
    rs.foldl (fun text rule => rule.apply text) (s ++ rest) =
      s ++ rs.foldl (fun text rule => rule.apply text) rest := by
  induction rs generalizing rest with
  | nil => rfl
  | cons r rs ih =>
    rw [List.foldl_cons, apply_append_of_quiet (h r (List.mem_cons_self ..) rest),
      ih fun r' hr' => h r' (List.mem_cons_of_mem _ hr')]
    rfl

/-! ## The header -/

/-- The name of an authorization header. -/
def headerName : List Char := "Authorization:".toList

theorem headerName_fold : headerName.map foldChar = authorization.marker := by decide

theorem toList_header : "Authorization: ".toList = headerName ++ [' '] := by decide

theorem toList_hiddenHeader :
    "Authorization: ***REDACTED***".toList = headerName ++ (' ' :: mask) := by decide

/-- What is left of the words after the header: nothing of a known scheme and its credential, the
credential behind any other scheme. -/
theorem afterWords_scheme {scheme credential post : List Char} (hs : IsWord scheme)
    (hc : IsWord credential) (hpost : ∀ c ∈ post.head?, isBlank c = true) :
    afterWords schemes (scheme ++ (' ' :: (credential ++ post))) =
      if scheme.map foldChar ∈ schemes then post else ' ' :: (credential ++ post) := by
  have hspace : ∀ c ∈ [' '], isBlank c = true := List.forall_mem_singleton.2 (by decide)
  split
  · rename_i hscheme
    have hwords : Words schemes (scheme ++ ([' '] ++ credential)) post :=
      .two hscheme hs.isInk hspace (by simp) hc.isInk hc.1 hpost
    simpa using hwords.afterWords_eq
  · rename_i hscheme
    refine Words.afterWords_eq (.one hs.isInk ?_ fun h => absurd h hscheme)
    rintro c ⟨⟩
    exact hspace _ (List.mem_singleton_self _)

/-- The rule on authorization headers hides what comes first after the header. -/
theorem match?_header {s : List Char} (hne : s ≠ []) (hs : ∀ c ∈ s.head?, isBlank c = false) :
    authorization.match? (headerName ++ (' ' :: s)) =
      some (headerName ++ [' '], afterWords schemes s) := by
  have hsplit : authorization.credential.split? ([' '] ++ s) = some ([' '], afterWords schemes s) :=
    split?_word (by simp) (List.forall_mem_singleton.2 (by decide)) hne hs
  rw [← List.singleton_append, match?_of_marker headerName_fold, hsplit, Option.map_some]

/-- Everything up to the mask is quiet for the rules that follow. -/
theorem quiet_header {r : Rule} (hr : r ∈ rules) (hne : r.marker ≠ authorization.marker)
    {pre : List Char} (hpre : MarkerFree pre) (rest : List Char) :
    r.Quiet (pre ++ (headerName ++ (' ' :: mask))) rest := by
  have hauth : authorization ∈ rules := List.mem_cons_self ..
  have hname : apart (headerName.map foldChar) r.marker.tail = true := by
    rw [headerName_fold]
    exact apart_tail (apart_of_ne _ hauth r hr hne.symm)
  have hreg := regular_of_mem_rules hr
  refine quiet_append.2 ⟨?_, quiet_append.2 ⟨quiet_of_apart ?_ _, ?_⟩⟩
  · rw [List.append_assoc]
    exact quiet_of_markerFree hr hname hpre _
  · rw [headerName_fold]
    exact apart_of_ne r hr _ hauth hne
  · exact quiet_append (s := [' ']).2
      ⟨quiet_of_blank hreg (List.forall_mem_singleton.2 (by decide)) _, quiet_mask hreg _⟩

theorem redactText_header {pre : List Char} (hpre : MarkerFree pre) {s : List Char} (hne : s ≠ [])
    (hs : ∀ c ∈ s.head?, isBlank c = false) :
    redactText (pre ++ (headerName ++ (' ' :: s))) =
      pre ++ (headerName ++ (' ' :: (mask ++ redactText (afterWords schemes s)))) := by
  have hauth : authorization ∈ rules := List.mem_cons_self ..
  have hself : apart (headerName.map foldChar) authorization.marker.tail = true := by
    rw [headerName_fold]
    exact (regular_of_mem_rules hauth).apart_self
  have hfirst : authorization.apply (pre ++ (headerName ++ (' ' :: s))) =
      pre ++ (headerName ++ (' ' :: mask)) ++ authorization.apply (afterWords schemes s) := by
    rw [apply_append_of_quiet (quiet_of_markerFree hauth hself hpre _),
      apply_of_match (match?_header hne hs)]
    simp
  have hlater : ∀ r ∈ rules.tail, r ∈ rules ∧ r.marker ≠ authorization.marker := fun r hr =>
    ⟨List.mem_of_mem_tail hr, fun h => List.rel_of_pairwise_cons rules_pairwise hr h.symm⟩
  have hcons : rules = authorization :: rules.tail := rfl
  rw [redactText, redactText, hcons, List.foldl_cons, List.foldl_cons, hfirst,
    foldl_apply_append_of_quiet fun r hr rest =>
      quiet_header (hlater r hr).1 (hlater r hr).2 hpre rest]
  simp

/-- Redaction of an authorization header: behind one of the known schemes the scheme and the
credential are hidden, and any other scheme is hidden in place of the credential. -/
theorem redact_authorization {pre scheme credential post : String} (hpre : MarkerFree pre.toList)
    (hs : IsWord scheme.toList) (hc : IsWord credential.toList)
    (hpost : ∀ c ∈ post.toList.head?, isBlank c = true) :
    redact (pre ++ "Authorization: " ++ scheme ++ " " ++ credential ++ post) =
      pre ++ "Authorization: ***REDACTED***" ++
        if scheme.toList.map foldChar ∈ schemes then redact post
        else redact (" " ++ credential ++ post) := by
  have hne : scheme.toList ++ (' ' :: (credential.toList ++ post.toList)) ≠ [] := by simp
  have hfirst : ∀ c ∈ (scheme.toList ++ (' ' :: (credential.toList ++ post.toList))).head?,
      isBlank c = false := by
    obtain ⟨d, rest, hd⟩ := List.exists_cons_of_ne_nil hs.1
    rw [hd]
    rintro c ⟨⟩
    exact hs.2 _ (hd ▸ List.mem_cons_self ..)
  have h := redactText_header hpre hne hfirst
  rw [afterWords_scheme hs hc hpost] at h
  have htext : (pre ++ "Authorization: " ++ scheme ++ " " ++ credential ++ post).toList =
      pre.toList ++ (headerName ++ (' ' :: (scheme.toList ++
        (' ' :: (credential.toList ++ post.toList))))) := by
    simp only [String.toList_append, toList_header, List.append_assoc, List.cons_append,
      List.nil_append]
    rfl
  have hrest : (if scheme.toList.map foldChar ∈ schemes then redact post
      else redact (" " ++ credential ++ post)).toList =
        redactText (if scheme.toList.map foldChar ∈ schemes then post.toList
          else ' ' :: (credential.toList ++ post.toList)) := by
    split
    · rw [redact, String.toList_ofList]
    · rw [redact, String.toList_ofList, String.toList_append, String.toList_append,
        List.append_assoc]
      rfl
  apply String.toList_injective
  rw [redact, htext, h, String.toList_ofList, String.toList_append, String.toList_append, hrest,
    toList_hiddenHeader]
  simp only [List.append_assoc, List.cons_append]

/-- **The result does not depend on the credential exactly for the known schemes.** Whatever stands
in front of the header, as long as it holds no marker, and behind the credential, two headers with
the same scheme and different credentials are redacted to the same text if the scheme is one of the
known ones in any letter case, and for no other scheme. -/
theorem redact_authorization_eq_iff {scheme : String} (hs : IsWord scheme.toList) :
    (∀ pre c₁ c₂ post : String, MarkerFree pre.toList → IsWord c₁.toList → IsWord c₂.toList →
        (∀ c ∈ post.toList.head?, isBlank c = true) →
        redact (pre ++ "Authorization: " ++ scheme ++ " " ++ c₁ ++ post) =
          redact (pre ++ "Authorization: " ++ scheme ++ " " ++ c₂ ++ post)) ↔
      scheme.toList.map foldChar ∈ schemes := by
  constructor
  · intro h
    by_contra hunknown
    have hfree : MarkerFree "".toList := by decide
    have ha : IsWord "a".toList := by decide
    have hb : IsWord "b".toList := by decide
    have hpost : ∀ c ∈ "".toList.head?, isBlank c = true := by simp
    have hab := h "" "a" "b" "" hfree ha hb hpost
    rw [redact_authorization hfree hs ha hpost, redact_authorization hfree hs hb hpost,
      if_neg hunknown, if_neg hunknown] at hab
    have hab : redact " a" = redact " b" := by simpa using hab
    exact absurd hab (by decide)
  · intro hknown pre c₁ c₂ post hpre h₁ h₂ hpost
    rw [redact_authorization hpre hs h₁ hpost, redact_authorization hpre hs h₂ hpost,
      if_pos hknown, if_pos hknown]

/-- The known schemes in other letter cases, one of them with a letter beyond ASCII. -/
theorem redact_authorization_eq_iff_folded :
    IsWord "\u017FHAREDKEYlite".toList ∧ MarkerFree "sig, x-ms-encryption-key".toList ∧
      IsWord "acct:c2ln=".toList ∧ IsWord "sig=AccountKey=x;y".toList ∧
      redact ("sig, x-ms-encryption-key" ++ "Authorization: " ++ "\u017FHAREDKEYlite" ++ " "
          ++ "acct:c2ln=" ++ "\nAccountKey=k") =
        redact ("sig, x-ms-encryption-key" ++ "Authorization: " ++ "\u017FHAREDKEYlite" ++ " "
          ++ "sig=AccountKey=x;y" ++ "\nAccountKey=k") := by
  have hscheme : IsWord "\u017FHAREDKEYlite".toList := by decide
  have hpre : MarkerFree "sig, x-ms-encryption-key".toList := by decide +kernel
  have h₁ : IsWord "acct:c2ln=".toList := by decide
  have h₂ : IsWord "sig=AccountKey=x;y".toList := by decide
  have hpost : ∀ c ∈ "\nAccountKey=k".toList.head?, isBlank c = true := by
    rintro c ⟨⟩
    decide
  exact ⟨hscheme, hpre, h₁, h₂, (redact_authorization_eq_iff hscheme).2 (by decide) _ _ _ _
    hpre h₁ h₂ hpost⟩

/-- The credential behind a scheme that is not among the known ones stays in the text. -/
theorem redact_authorization_basic :
    IsWord "Basic".toList ∧ IsWord "dXNlcjpwYXNz".toList ∧ IsWord "cm9vdDpyb290".toList ∧
      MarkerFree "".toList ∧
      redact ("" ++ "Authorization: " ++ "Basic" ++ " " ++ "dXNlcjpwYXNz" ++ "") =
        "Authorization: ***REDACTED*** dXNlcjpwYXNz" ∧
      redact ("" ++ "Authorization: " ++ "Basic" ++ " " ++ "dXNlcjpwYXNz" ++ "") ≠
        redact ("" ++ "Authorization: " ++ "Basic" ++ " " ++ "cm9vdDpyb290" ++ "") := by
  decide

end StorageReply.Redaction
