import StorageReply.Proofs.Redaction.Idempotence

/-!
# The result does not depend on the secret

Two texts that differ in nothing but a secret after the name of a setting are redacted to the same
text (`redact_eq_of_isSecret`), whatever stands before the name and after the secret.

A rule treats such a text in one of two ways (`reaches_apply`). A match that begins before the name
may reach over name and secret, and then it ends where it would end with any other secret. Otherwise
the part before the name, the name and the secret are treated each by itself, and the rule leaves a
secret in place of the secret: one that may hold a mask. So two texts stay twins until the rule of
the name itself makes them equal.
-/

namespace StorageReply.Redaction

open Text

/-- Whether a character may stand in a secret: no blank, no semicolon and no ampersand. -/
def isSecretChar (c : Char) : Bool := !isBlank c && c != ';' && c != '&'

/-- A secret in front of a text that ends it. Where an ampersand does, the secret has no equals
sign. -/
structure Secret (rest s : List Char) : Prop where
  /-- The secret is not empty. -/
  ne_nil : s ≠ []
  /-- Its characters may stand in secrets. -/
  chars : ∀ c ∈ s, isSecretChar c = true
  /-- What follows ends it. -/
  closed : ∀ c ∈ rest.head?, c = ';' ∨ c = '&' ∧ '=' ∉ s

theorem isEnd_eq_false {isEnd : Char → Bool} (hk : (Credential.upTo isEnd).Regular) {c : Char}
    (hc : isSecretChar c = true) : isEnd c = false := by
  simp only [isSecretChar, Bool.and_eq_true, Bool.not_eq_true', bne_iff_ne] at hc
  rw [← Bool.not_eq_true]
  intro he
  rcases hk.2 c he with rfl | rfl | hb
  · exact hc.1.2 rfl
  · exact hc.2 rfl
  · simp [hb] at hc

theorem isBlank_eq_false_of_isSecretChar {c : Char} (hc : isSecretChar c = true) :
    isBlank c = false := by
  simp only [isSecretChar, Bool.and_eq_true, Bool.not_eq_true'] at hc
  exact hc.1.1

/-! ## Secrets under a rule -/

theorem mem_apply {r : Rule} {s : List Char} {c : Char} (h : c ∈ r.apply s) : c ∈ s ∨ c ∈ mask := by
  induction s using Rule.scan_induction r with
  | nil => exact .inl h
  | pass d s hm ih =>
    rw [apply_cons_of_none hm] at h
    rcases List.mem_cons.1 h with rfl | h
    · exact .inl (List.mem_cons_self ..)
    · exact (ih h).imp_left (List.mem_cons_of_mem _)
  | hide s kept tail hm ih =>
    obtain ⟨written, rest, blanks, rfl, -, hk, rfl⟩ := match?_eq_some_iff.1 hm
    obtain ⟨value, -, rfl, -⟩ := split?_spec hk
    rw [apply_of_match hm] at h
    simp only [List.mem_append] at h ⊢
    grind

/-- A secret is a credential as far as it goes. -/
theorem split?_upTo_append {isEnd : Char → Bool} (hk : (Credential.upTo isEnd).Regular)
    {s rest : List Char} (hne : s ≠ []) (hs : ∀ c ∈ s, isSecretChar c = true)
    (hrest : ∀ c ∈ rest.head?, isEnd c = true) :
    (Credential.upTo isEnd).split? (s ++ rest) = some ([], rest) := by
  have hin : ∀ c ∈ s, (!isEnd c) = true := fun c hc => by simp [isEnd_eq_false hk (hs c hc)]
  have hend : ∀ c ∈ rest.head?, (!isEnd c) = false := fun c hc => by simp [hrest c hc]
  simp [Credential.split?, takeWhile_append_of_all hin hend, dropWhile_append_of_all hin hend, hne]

/-- Without a blank there is no word after a marker. -/
theorem split?_word_eq_none {schemes : List (List Char)} {s : List Char}
    (h : ∀ c ∈ s.head?, isBlank c = false) : (Credential.word schemes).split? s = none :=
  split?_word_eq_none_iff.2 (.inl h)

section Regular

variable {r : Rule} (hr : r.Regular)

include hr

theorem sign_mem_of_marker {isEnd : Char → Bool} (hk : r.credential = .upTo isEnd)
    {written : List Char} (hw : written.map foldChar = r.marker) : '=' ∈ written := by
  obtain ⟨c, hc, he⟩ := List.mem_map.1 (hw ▸ hr.setting isEnd hk)
  rwa [← eq_of_foldChar_eq he (by decide)]

/-- A marker does not reach over a mark that ends credentials. -/
theorem exists_of_marker_append {s rest written after : List Char}
    (hw : written.map foldChar = r.marker) (hrest : ∀ c ∈ rest.head?, isMarkerChar c = false)
    (h : s ++ rest = written ++ after) : ∃ t, s = written ++ t ∧ after = t ++ rest := by
  rcases List.append_eq_append_iff.1 h with ⟨t, rfl, rfl⟩ | ⟨t, rfl, rfl⟩
  · cases t with
    | nil => exact ⟨[], by simp, by simp⟩
    | cons c t =>
      have hc := isMarkerChar_of_mem hr hw (c := c) (by simp)
      simp [hrest c (by simp)] at hc
  · exact ⟨t, rfl, rfl⟩

/-- A secret and what follows it are treated each by itself. -/
theorem apply_append_of_secret {s rest : List Char} (hs : ∀ c ∈ s, isSecretChar c = true)
    (hrest : ∀ c ∈ rest.head?, c = ';' ∨ c = '&' ∧ '=' ∉ s) :
    r.apply (s ++ rest) = r.apply s ++ r.apply rest := by
  have hmark : ∀ c ∈ rest.head?, isMarkerChar c = false := by
    intro c hc
    rcases hrest c hc with rfl | ⟨rfl, -⟩ <;> decide
  -- what ends the secret ends the credential of any setting whose name is in the secret
  have hends : ∀ isEnd, r.credential = .upTo isEnd → ∀ written : List Char,
      written.map foldChar = r.marker → (∀ c ∈ written, c ∈ s) →
      ∀ c ∈ rest.head?, isEnd c = true := by
    intro isEnd hk written hw hsub c hc
    rcases hrest c hc with rfl | ⟨-, hsign⟩
    · exact (hk ▸ hr.credential : (Credential.upTo isEnd).Regular).1
    · exact absurd (hsub _ (sign_mem_of_marker hr hk hw)) hsign
  induction s using Rule.scan_induction r with
  | nil => rfl
  | pass c s hm ih =>
    have hs' : ∀ d ∈ s, isSecretChar d = true := fun d hd => hs d (List.mem_cons_of_mem _ hd)
    have hnone : r.match? (c :: (s ++ rest)) = none := by
      rw [Option.eq_none_iff_forall_ne_some]
      rintro ⟨kept, tail⟩ h
      obtain ⟨written, after, blanks, he, hw, hk, -⟩ := match?_eq_some_iff.1 h
      obtain ⟨t, ht, rfl⟩ := exists_of_marker_append hr hw hmark (s := c :: s) he
      have hnone := split?_eq_none_of_match? (ht ▸ hm) hw
      have hsub : ∀ d ∈ written ++ t, d ∈ c :: s := fun d hd => ht ▸ hd
      cases hcred : r.credential with
      | word schemes =>
        rw [hcred, split?_word_eq_none] at hk
        · simp at hk
        · intro d hd
          cases t with
          | nil =>
            rcases hrest d hd with rfl | ⟨rfl, -⟩ <;> decide
          | cons e t =>
            obtain rfl : e = d := by simpa using hd
            exact isBlank_eq_false_of_isSecretChar (hs e (hsub e (by simp)))
      | upTo isEnd =>
        rw [hcred, split?_upTo_eq_none_iff] at hnone
        cases t with
        | nil =>
          have hrestEnd := hends isEnd hcred written hw fun d hd => hsub d (by simp [hd])
          rw [hcred, List.nil_append, split?_upTo_eq_none_iff.2 hrestEnd] at hk
          simp at hk
        | cons e t =>
          have he := isEnd_eq_false (hcred ▸ hr.credential) (hs e (hsub e (by simp)))
          simp [hnone e (by simp)] at he
    rw [apply_cons_of_none hm, List.cons_append, apply_cons_of_none hnone,
      ih hs' (fun d hd => (hrest d hd).imp_right fun h => ⟨h.1, fun hm => h.2 (by simp [hm])⟩)
        (fun isEnd hk written hw hsub => hends isEnd hk written hw fun d hd => by simp [hsub d hd]),
      List.cons_append]
  | hide s kept tail hm _ =>
    obtain ⟨written, after, blanks, rfl, hw, hk, rfl⟩ := match?_eq_some_iff.1 hm
    cases hcred : r.credential with
    | word schemes =>
      rw [hcred, split?_word_eq_none] at hk
      · simp at hk
      · intro d hd
        exact isBlank_eq_false_of_isSecretChar (hs d (by simp [List.mem_of_mem_head? hd]))
    | upTo isEnd =>
      have hreg : (Credential.upTo isEnd).Regular := hcred ▸ hr.credential
      have hne : after ≠ [] := by
        rintro rfl
        rw [hcred, split?_upTo_eq_none_iff.2 (by simp)] at hk
        simp at hk
      have hafter : ∀ c ∈ after, isSecretChar c = true := fun c hc => hs c (by simp [hc])
      have hrestEnd := hends isEnd hcred written hw fun d hd => by simp [hd]
      have hnil : ∀ c ∈ ([] : List Char).head?, isEnd c = true := by simp
      have hshort : r.match? (written ++ after) = some (written ++ [], []) :=
        match?_eq_some_iff.2 ⟨written, after, [], rfl, hw,
          by simpa [hcred] using split?_upTo_append hreg hne hafter hnil, rfl⟩
      have hlong : r.match? (written ++ after ++ rest) = some (written ++ [], rest) :=
        match?_eq_some_iff.2 ⟨written, after ++ rest, [], by simp, hw,
          by rw [hcred, split?_upTo_append hreg hne hafter hrestEnd], rfl⟩
      rw [apply_of_match hshort, apply_of_match hlong]
      simp

/-- A rule leaves a secret in place of a secret. -/
theorem Secret.apply {rest s : List Char} (h : Secret rest s) :
    Secret (r.apply rest) (r.apply s) := by
  have hmask : '=' ∉ mask := by decide
  refine ⟨fun hnil => ?_, fun c hc => ?_, fun c hc => ?_⟩
  · have hhead := head?_apply hr s
    rw [hnil] at hhead
    exact h.ne_nil (List.head?_eq_none_iff.1 hhead.symm)
  · rcases mem_apply hc with hc | hc
    · exact h.chars c hc
    · obtain ⟨h₁, h₂, h₃⟩ := mask_chars c hc
      simp [isSecretChar, h₁, h₂, h₃]
  · rw [head?_apply hr] at hc
    exact (h.closed c hc).imp_right fun hsign => ⟨hsign.1, fun hm =>
      (mem_apply hm).elim hsign.2 hmask⟩

end Regular

/-! ## Credentials that reach over a setting -/

/-- The name of a setting with its equals sign, and more of the same: no blank and nothing that ends
a credential. -/
structure Setting (w : List Char) : Prop where
  /-- There is an equals sign. -/
  sign_mem : '=' ∈ w
  /-- Its characters may stand in secrets. -/
  chars : ∀ c ∈ w, isSecretChar c = true

theorem Setting.ne_nil {w : List Char} (h : Setting w) : w ≠ [] := List.ne_nil_of_mem h.sign_mem

theorem Setting.isInk {w : List Char} (h : Setting w) : ∀ c ∈ w, isInk c = true := fun c hc => by
  simp [Redaction.isInk, isBlank_eq_false_of_isSecretChar (h.chars c hc)]

/-- Characters of a class end where they end, or go on over a part that belongs to the class. -/
theorem dropWhile_over {p : Char → Bool} {w : List Char} (hw : ∀ c ∈ w, p c = true)
    (q rest : List Char) : (q ++ (w ++ rest)).dropWhile p =
      if q.dropWhile p = [] then rest.dropWhile p else q.dropWhile p ++ (w ++ rest) := by
  simp only [List.dropWhile_append, List.isEmpty_iff, List.dropWhile_append_of_pos hw]

/-- Characters of a class do not go on into a part that has none of them. -/
theorem dropWhile_before {p : Char → Bool} {w : List Char} (hne : w ≠ [])
    (hw : ∀ c ∈ w, p c = false) (q rest : List Char) :
    (q ++ (w ++ rest)).dropWhile p = q.dropWhile p ++ (w ++ rest) := by
  simp only [List.dropWhile_append, List.isEmpty_iff]
  split
  · rename_i hq
    rw [hq, List.nil_append]
    cases w with
    | nil => exact absurd rfl hne
    | cons c w => simp [hw c (by simp)]
  · rfl

theorem takeWhile_before {p : Char → Bool} {w : List Char} (hne : w ≠ [])
    (hw : ∀ c ∈ w, p c = false) (q rest : List Char) :
    (q ++ (w ++ rest)).takeWhile p = q.takeWhile p := by
  rw [List.takeWhile_append]
  split
  · rename_i hq
    cases w with
    | nil => exact absurd rfl hne
    | cons c w =>
      rw [List.cons_append, List.takeWhile_cons_of_neg (by simp [hw c (by simp)]), List.append_nil]
      exact (List.takeWhile_prefix p).eq_of_length hq |>.symm
  · rfl

theorem takeWhile_of_dropWhile_ne_nil {p : Char → Bool} {q : List Char} (h : q.dropWhile p ≠ [])
    (rest : List Char) : (q ++ rest).takeWhile p = q.takeWhile p := by
  rw [List.takeWhile_append]
  split
  · rename_i hq
    have hlen := congrArg List.length (List.takeWhile_append_dropWhile (p := p) (l := q))
    rw [List.length_append, hq] at hlen
    exact absurd (List.length_eq_zero_iff.1 (by omega)) h
  · rfl

/-- Words that begin before a setting end at a place that does not depend on the setting: behind it
or before it. -/
theorem afterWords_over {schemes : List (List Char)} (hs : ∀ scheme ∈ schemes, '=' ∉ scheme)
    (q rest : List Char) :
    (∃ out, ∀ w, Setting w → afterWords schemes (q ++ (w ++ rest)) = out) ∨
      ∃ q' : List Char, q'.length ≤ q.length ∧
        ∀ w, Setting w → afterWords schemes (q ++ (w ++ rest)) = q' ++ (w ++ rest) := by
  by_cases hq : q.dropWhile isInk = []
  · -- the first word goes on over the setting, and is no scheme
    refine .inl ⟨rest.dropWhile isInk, fun w hw => ?_⟩
    have hink : ∀ c ∈ q ++ w, isInk c = true := by
      intro c hc
      rcases List.mem_append.1 hc with hc | hc
      · exact List.dropWhile_eq_nil_iff.1 hq c hc
      · exact hw.isInk c hc
    have hscheme : ((q ++ (w ++ rest)).takeWhile isInk).map foldChar ∉ schemes := by
      intro h
      refine hs _ h (List.mem_map.2 ⟨'=', ?_, by decide⟩)
      rw [← List.append_assoc, List.takeWhile_append_of_pos hink]
      simp [hw.sign_mem]
    simp [afterWords, hscheme, dropWhile_over hw.isInk, hq]
  · have hfirst : ∀ w, Setting w → (q ++ (w ++ rest)).takeWhile isInk = q.takeWhile isInk :=
      fun w _ => takeWhile_of_dropWhile_ne_nil hq _
    have hrest : ∀ w, Setting w →
        (q ++ (w ++ rest)).dropWhile isInk = q.dropWhile isInk ++ (w ++ rest) :=
      fun w hw => by rw [dropWhile_over hw.isInk, if_neg hq]
    have hle : (q.dropWhile isInk).length ≤ q.length := (List.dropWhile_sublist _).length_le
    by_cases hscheme : (q.takeWhile isInk).map foldChar ∈ schemes
    · -- a scheme, so the next word counts
      have hnext : ∀ w, Setting w → ((q ++ (w ++ rest)).dropWhile isInk).dropWhile isBlank =
          (q.dropWhile isInk).dropWhile isBlank ++ (w ++ rest) := fun w hw => by
        rw [hrest w hw, dropWhile_before hw.ne_nil fun c hc =>
          isBlank_eq_false_of_isSecretChar (hw.chars c hc)]
      have hafter : ∀ w, Setting w → afterWords schemes (q ++ (w ++ rest)) =
          ((q.dropWhile isInk).dropWhile isBlank ++ (w ++ rest)).dropWhile isInk := fun w hw => by
        have hne : (q.dropWhile isInk).dropWhile isBlank ++ (w ++ rest) ≠ [] := by
          simp [hw.ne_nil]
        simp [afterWords, hfirst w hw, hscheme, hnext w hw, hne]
      by_cases hn : ((q.dropWhile isInk).dropWhile isBlank).dropWhile isInk = []
      · exact .inl ⟨rest.dropWhile isInk, fun w hw => by
          rw [hafter w hw, dropWhile_over hw.isInk, if_pos hn]⟩
      · refine .inr ⟨((q.dropWhile isInk).dropWhile isBlank).dropWhile isInk, ?_, fun w hw => by
          rw [hafter w hw, dropWhile_over hw.isInk, if_neg hn]⟩
        exact ((List.dropWhile_sublist _).trans (List.dropWhile_sublist _)).length_le.trans hle
    · exact .inr ⟨q.dropWhile isInk, hle, fun w hw => by
        simp [afterWords, hfirst w hw, hscheme, hrest w hw]⟩

/-- A credential that begins before a setting ends at a place that does not depend on the setting,
behind it or before it, if there is a credential at all. -/
theorem split?_over {k : Credential} (hk : k.Regular) (q rest : List Char) :
    (∃ out, ∀ w, Setting w → k.split? (q ++ (w ++ rest)) = out) ∨
      ∃ blanks q' : List Char, q'.length ≤ q.length ∧
        ∀ w, Setting w → k.split? (q ++ (w ++ rest)) = some (blanks, q' ++ (w ++ rest)) := by
  cases k with
  | word schemes =>
    have hsplit : ∀ w, Setting w → (Credential.word schemes).split? (q ++ (w ++ rest)) =
        if q.takeWhile isBlank = [] then none
        else some (q.takeWhile isBlank,
          afterWords schemes (q.dropWhile isBlank ++ (w ++ rest))) := fun w hw => by
      have hblank : ∀ c ∈ w, isBlank c = false := fun c hc =>
        isBlank_eq_false_of_isSecretChar (hw.chars c hc)
      have hne : q.dropWhile isBlank ++ (w ++ rest) ≠ [] := by simp [hw.ne_nil]
      simp only [Credential.split?, takeWhile_before hw.ne_nil hblank,
        dropWhile_before hw.ne_nil hblank, Bool.or_eq_true, List.isEmpty_iff, hne, or_false]
    by_cases hq : q.takeWhile isBlank = []
    · exact .inl ⟨none, fun w hw => by rw [hsplit w hw, if_pos hq]⟩
    · rcases afterWords_over (fun s hs => (hk s hs).2) (q.dropWhile isBlank) rest with
        ⟨out, hout⟩ | ⟨q', hle, hout⟩
      · exact .inl ⟨some (q.takeWhile isBlank, out), fun w hw => by
          rw [hsplit w hw, if_neg hq, hout w hw]⟩
      · exact .inr ⟨q.takeWhile isBlank, q', hle.trans (List.dropWhile_sublist _).length_le,
          fun w hw => by rw [hsplit w hw, if_neg hq, hout w hw]⟩
  | upTo isEnd =>
    have hin : ∀ w, Setting w → ∀ c ∈ w, (!isEnd c) = true := fun w hw c hc => by
      simp [isEnd_eq_false hk (hw.chars c hc)]
    by_cases hq : q.dropWhile (!isEnd ·) = []
    · refine .inl ⟨some ([], rest.dropWhile (!isEnd ·)), fun w hw => ?_⟩
      have hall : ∀ c ∈ q ++ w, (!isEnd c) = true := by
        intro c hc
        rcases List.mem_append.1 hc with hc | hc
        · exact List.dropWhile_eq_nil_iff.1 hq c hc
        · exact hin w hw c hc
      simp only [Credential.split?]
      rw [dropWhile_over (hin w hw), if_pos hq, ← List.append_assoc,
        List.takeWhile_append_of_pos hall, if_neg (by simp [hw.ne_nil])]
    · have hsplit : ∀ w, Setting w → (Credential.upTo isEnd).split? (q ++ (w ++ rest)) =
          if q.takeWhile (!isEnd ·) = [] then none
          else some ([], q.dropWhile (!isEnd ·) ++ (w ++ rest)) := fun w hw => by
        simp only [Credential.split?, takeWhile_of_dropWhile_ne_nil hq, List.isEmpty_iff]
        rw [dropWhile_over (hin w hw), if_neg hq]
      by_cases ht : q.takeWhile (!isEnd ·) = []
      · exact .inl ⟨none, fun w hw => by rw [hsplit w hw, if_pos ht]⟩
      · exact .inr ⟨[], q.dropWhile (!isEnd ·), (List.dropWhile_sublist _).length_le,
          fun w hw => by rw [hsplit w hw, if_neg ht]⟩

/-! ## A rule on a text with a secret -/

theorem apart_append {marker s t : List Char} (h : apart marker (s ++ t) = true) :
    apart marker t = true := by
  induction s with
  | nil => exact h
  | cons c s ih =>
    simp only [List.cons_append, apart, Bool.and_eq_true] at h
    exact ih h.2

theorem apart_tail {marker s : List Char} (h : apart marker s = true) :
    apart marker s.tail = true := by
  cases s with
  | nil => exact h
  | cons c s => exact apart_append (s := [c]) h

theorem not_isPrefix_of_apart {marker t : List Char} (h : apart marker t = true) (ht : t ≠ []) :
    ¬marker <+: t ∧ ¬t <+: marker := by
  cases t with
  | nil => exact absurd rfl ht
  | cons c t =>
    simp only [apart, Bool.and_eq_true, Bool.not_eq_true', ← Bool.not_eq_true,
      List.isPrefixOf_iff_prefix] at h
    exact h.1

/-- A marker that begins before the name of a setting ends before it. -/
theorem exists_of_marker_before {r : Rule} {name : List Char}
    (hname : apart (name.map foldChar) r.marker.tail = true) {c : Char}
    {q written rest after : List Char} (hw : written.map foldChar = r.marker)
    (h : c :: q ++ (name ++ rest) = written ++ after) :
    ∃ t, c :: q = written ++ t ∧ after = t ++ (name ++ rest) := by
  rcases List.append_eq_append_iff.1 h with ⟨t, rfl, ht⟩ | ⟨t, ht, rfl⟩
  · cases t with
    | nil => exact ⟨[], by simp, by simpa using ht.symm⟩
    | cons d t =>
      -- the part of the marker behind the beginning of the name would overlap with the name
      have htail : r.marker.tail = q.map foldChar ++ (d :: t).map foldChar := by
        rw [← hw]
        simp
      rw [htail] at hname
      obtain ⟨h₁, h₂⟩ := not_isPrefix_of_apart (apart_append hname) (by simp)
      have hfold : name.map foldChar ++ rest.map foldChar =
          (d :: t).map foldChar ++ after.map foldChar := by
        rw [← List.map_append, ht, List.map_append]
      have hp : name.map foldChar <+: (d :: t).map foldChar ++ after.map foldChar :=
        hfold ▸ List.prefix_append _ _
      rcases List.prefix_or_prefix_of_prefix hp (List.prefix_append _ _) with hp | hp
      · exact absurd hp h₁
      · exact absurd hp h₂
  · exact ⟨t, ht, rfl⟩

/-- A text that depends on a secret either does not depend on it after all, or the rule comes as far
as the name of the setting. -/
def Rule.Reaches (r : Rule) (name rest : List Char) (text : List Char → List Char) : Prop :=
  (∃ out, ∀ s, Setting (name ++ s) → text s = out) ∨
    ∃ before, ∀ s, Setting (name ++ s) → text s = before ++ r.apply (name ++ s ++ rest)

theorem Rule.Reaches.append {r : Rule} {name rest : List Char} {text text' : List Char → List Char}
    (h : r.Reaches name rest text) {p : List Char}
    (hp : ∀ s, Setting (name ++ s) → text' s = p ++ text s) : r.Reaches name rest text' := by
  rcases h with ⟨out, hout⟩ | ⟨before, hbefore⟩
  · exact .inl ⟨p ++ out, fun s hs => by rw [hp s hs, hout s hs]⟩
  · exact .inr ⟨p ++ before, fun s hs => by
      rw [hp s hs, hbefore s hs, List.append_assoc p]⟩

/-- A rule that goes through a text with a setting either makes something of it that does not depend
on the secret, or comes to the name of the setting. -/
theorem reaches_apply {r : Rule} (hr : r.Regular) {name : List Char}
    (hname : apart (name.map foldChar) r.marker.tail = true) (rest pre : List Char) :
    r.Reaches name rest fun s => r.apply (pre ++ (name ++ s ++ rest)) := by
  induction hn : pre.length using Nat.strongRecOn generalizing pre with
  | ind n ih =>
    cases pre with
    | nil => exact .inr ⟨[], fun s _ => rfl⟩
    | cons c q =>
      simp only [List.length_cons] at hn
      -- no match begins at the first character
      have pass (hnone : ∀ s, Setting (name ++ s) →
          r.match? (c :: (q ++ (name ++ s ++ rest))) = none) :
          r.Reaches name rest fun s => r.apply (c :: q ++ (name ++ s ++ rest)) :=
        (ih q.length (by omega) q rfl).append (p := [c]) fun s hs =>
          apply_cons_of_none (hnone s hs)
      by_cases hm : ∃ written t, c :: q = written ++ t ∧ written.map foldChar = r.marker
      · obtain ⟨written, t, ht, hw⟩ := hm
        have hlt : t.length < n := by
          have := List.length_pos_iff.2 (ne_nil_of_marker hr hw)
          have := congrArg List.length ht
          simp only [List.length_cons, List.length_append] at this
          omega
        have hmatch := fun s => match?_of_marker_append hw ht (name ++ s ++ rest)
        rcases split?_over hr.credential t rest with ⟨out, hout⟩ | ⟨blanks, q', hle, hout⟩
        · cases out with
          | none => exact pass fun s hs => (hmatch s).trans (by rw [hout _ hs, Option.map_none])
          | some found =>
            refine .inl ⟨written ++ found.1 ++ (mask ++ r.apply found.2), fun s hs => ?_⟩
            exact apply_of_match (by rw [hmatch, hout _ hs, Option.map_some])
        · refine (ih q'.length (by omega) q' rfl).append (p := written ++ blanks ++ mask)
            fun s hs => ?_
          rw [apply_of_match (by rw [hmatch, hout _ hs, Option.map_some]), List.append_assoc _ mask]
      · refine pass fun s hs => ?_
        rw [Option.eq_none_iff_forall_ne_some]
        rintro ⟨kept, tail⟩ h
        obtain ⟨written, after, blanks, he, hw, -⟩ := match?_eq_some_iff.1 h
        have he : c :: q ++ (name ++ (s ++ rest)) = written ++ after := by simpa using he
        obtain ⟨t, ht, -⟩ := exists_of_marker_before hname hw he
        exact hm ⟨written, t, ht, hw⟩

/-! ## Twins -/

/-- Two texts that are the same, or differ in nothing but a secret after the name of a setting. -/
inductive Twins (name : List Char) : List Char → List Char → Prop
  /-- The texts are the same. -/
  | same (s : List Char) : Twins name s s
  /-- The texts differ in a secret. -/
  | secret (pre s₁ s₂ rest : List Char) : Secret rest s₁ → Secret rest s₂ →
      Twins name (pre ++ (name ++ s₁ ++ rest)) (pre ++ (name ++ s₂ ++ rest))

theorem Secret.setting {name rest s : List Char} (hsign : '=' ∈ name)
    (hname : ∀ c ∈ name, isSecretChar c = true) (h : Secret rest s) : Setting (name ++ s) :=
  ⟨List.mem_append_left _ hsign, fun c hc => (List.mem_append.1 hc).elim (hname c) (h.chars c)⟩

/-- A rule whose marker is apart from the name of the setting leaves twins. -/
theorem Twins.apply {r : Rule} (hr : r.Regular) {name : List Char} (hsign : '=' ∈ name)
    (hname : ∀ c ∈ name, isSecretChar c = true)
    (h₁ : apart (name.map foldChar) r.marker.tail = true)
    (h₂ : apart r.marker (name.map foldChar) = true) {s t : List Char} (h : Twins name s t) :
    Twins name (r.apply s) (r.apply t) := by
  cases h with
  | same => exact .same _
  | secret pre s₁ s₂ rest hs₁ hs₂ =>
    rcases reaches_apply hr h₁ rest pre with ⟨out, hout⟩ | ⟨before, hbefore⟩
    · simp only at hout
      rw [hout s₁ (hs₁.setting hsign hname), hout s₂ (hs₂.setting hsign hname)]
      exact .same out
    · have hpart : ∀ s, Secret rest s → r.apply (name ++ s ++ rest) =
          name ++ r.apply s ++ r.apply rest := fun s hs => by
        rw [List.append_assoc, apply_append_of_quiet (quiet_of_apart h₂ _),
          apply_append_of_secret hr hs.chars hs.closed, ← List.append_assoc]
      simp only at hbefore
      rw [hbefore s₁ (hs₁.setting hsign hname), hbefore s₂ (hs₂.setting hsign hname),
        hpart s₁ hs₁, hpart s₂ hs₂]
      exact .secret before _ _ _ (hs₁.apply hr) (hs₂.apply hr)

/-- The rule of the setting makes twins equal. -/
theorem Twins.apply_eq {r : Rule} (hr : r.Regular) {isEnd : Char → Bool}
    (hk : r.credential = .upTo isEnd) {name : List Char} (hw : name.map foldChar = r.marker)
    (hname : ∀ c ∈ name, isSecretChar c = true) {s t : List Char} (h : Twins name s t) :
    r.apply s = r.apply t := by
  have hsign := sign_mem_of_marker hr hk hw
  cases h with
  | same => rfl
  | secret pre s₁ s₂ rest hs₁ hs₂ =>
    have hself : apart (name.map foldChar) r.marker.tail = true := by
      rw [hw]
      exact hr.apart_self
    rcases reaches_apply hr hself rest pre with ⟨out, hout⟩ | ⟨before, hbefore⟩
    · simp only at hout
      rw [hout s₁ (hs₁.setting hsign hname), hout s₂ (hs₂.setting hsign hname)]
    · have hpart : ∀ s, Secret rest s → r.apply (name ++ s ++ rest) =
          name ++ [] ++ (mask ++ r.apply (rest.dropWhile (!isEnd ·))) := fun s hs => by
        have hin : ∀ c ∈ s, (!isEnd c) = true := fun c hc => by
          simp [isEnd_eq_false (hk ▸ hr.credential) (hs.chars c hc)]
        refine apply_of_match ?_
        rw [List.append_assoc, match?_of_marker hw, hk, Credential.split?,
          List.takeWhile_append_of_pos hin, List.dropWhile_append_of_pos hin,
          if_neg (by simp [hs.ne_nil]), Option.map_some]
      simp only at hbefore
      rw [hbefore s₁ (hs₁.setting hsign hname), hbefore s₂ (hs₂.setting hsign hname),
        hpart s₁ hs₁, hpart s₂ hs₂]

/-- Redaction makes twins equal when there is a rule for the name of the setting. -/
theorem Twins.redactText_eq {r : Rule} (hr : r ∈ rules) {isEnd : Char → Bool}
    (hk : r.credential = .upTo isEnd) {name : List Char} (hw : name.map foldChar = r.marker)
    {s t : List Char} (h : Twins name s t) : redactText s = redactText t := by
  have hreg := regular_of_mem_rules hr
  have hname : ∀ c ∈ name, isSecretChar c = true := fun c hc => by
    have := isMarkerChar_of_mem hreg hw hc
    simp_all [isMarkerChar, isSecretChar]
  obtain ⟨earlier, later, hsplit⟩ := List.append_of_mem hr
  have hearlier : ∀ r' ∈ earlier, r' ∈ rules ∧ r'.marker ≠ r.marker := by
    intro r' hr'
    have hp := rules_pairwise
    rw [hsplit, List.pairwise_append] at hp
    exact ⟨by rw [hsplit]; simp [hr'], hp.2.2 r' hr' r (List.mem_cons_self ..)⟩
  have htwins : Twins name (earlier.foldl (fun text rule => rule.apply text) s)
      (earlier.foldl (fun text rule => rule.apply text) t) := by
    clear hsplit
    induction earlier generalizing s t with
    | nil => exact h
    | cons r' earlier ih =>
      obtain ⟨hr', hne⟩ := hearlier r' (List.mem_cons_self ..)
      have hapart : apart (name.map foldChar) r'.marker.tail = true := by
        rw [hw]
        exact apart_tail (apart_of_ne r hr r' hr' hne.symm)
      exact ih (h.apply (regular_of_mem_rules hr') (sign_mem_of_marker hreg hk hw) hname hapart
        (hw ▸ apart_of_ne r' hr' r hr hne))
        fun r'' hr'' => hearlier r'' (List.mem_cons_of_mem _ hr'')
  rw [redactText, redactText, hsplit, List.foldl_append, List.foldl_append, List.foldl_cons,
    List.foldl_cons, htwins.apply_eq hreg hk hw hname]

/-! ## Secrets in strings -/

/-- A text that can be a secret: it is not empty and has no blank, no semicolon and no ampersand. -/
def IsSecret (s : String) : Prop := s ≠ "" ∧ ∀ c ∈ s.toList, isSecretChar c = true

instance : DecidablePred IsSecret := fun s =>
  decidable_of_iff (s ≠ "" ∧ s.toList.all isSecretChar = true)
    (and_congr_right fun _ => List.all_eq_true)

theorem IsSecret.secret {s : String} (h : IsSecret s) {rest : List Char}
    (hrest : ∀ c ∈ rest.head?, c = ';' ∨ c = '&' ∧ '=' ∉ s.toList) : Secret rest s.toList :=
  ⟨fun hs => h.1 (String.toList_eq_nil_iff.1 hs), h.2, hrest⟩

theorem redactText_eq_of_secret {name : List Char}
    (hn : name.map foldChar ∈ ["accountkey=".toList, "sharedaccesssignature=".toList,
      "sig=".toList]) (pre : List Char) {rest s₁ s₂ : List Char} (h₁ : Secret rest s₁)
    (h₂ : Secret rest s₂) :
    redactText (pre ++ (name ++ s₁ ++ rest)) = redactText (pre ++ (name ++ s₂ ++ rest)) := by
  have htwins : Twins name (pre ++ (name ++ s₁ ++ rest)) (pre ++ (name ++ s₂ ++ rest)) :=
    .secret pre s₁ s₂ rest h₁ h₂
  simp only [List.mem_cons, List.not_mem_nil, or_false] at hn
  rcases hn with hn | hn | hn
  · exact htwins.redactText_eq (r := accountKey) (by simp [rules]) rfl hn
  · exact htwins.redactText_eq (r := accessSignature) (by simp [rules]) rfl hn
  · exact htwins.redactText_eq (r := signature) (by simp [rules]) rfl hn

/-- **The result does not depend on the secret.** Two texts that differ in nothing but a secret
after the name of a setting, in any letter case, are redacted to the same text, whatever stands
before the name and behind the secret: a semicolon and anything, nothing, or, if the secrets have no
equals sign, an ampersand and anything. -/
theorem redact_eq_of_isSecret (pre post : String) {name s₁ s₂ : String}
    (hn : name.toList.map foldChar ∈ ["accountkey=".toList, "sharedaccesssignature=".toList,
      "sig=".toList]) (h₁ : IsSecret s₁) (h₂ : IsSecret s₂) :
    redact (pre ++ name ++ s₁ ++ ";" ++ post) = redact (pre ++ name ++ s₂ ++ ";" ++ post) ∧
      redact (pre ++ name ++ s₁) = redact (pre ++ name ++ s₂) ∧
      ('=' ∉ s₁.toList → '=' ∉ s₂.toList →
        redact (pre ++ name ++ s₁ ++ "&" ++ post) = redact (pre ++ name ++ s₂ ++ "&" ++ post)) := by
  have key : ∀ rest : List Char, Secret rest s₁.toList → Secret rest s₂.toList →
      redactText (pre.toList ++ (name.toList ++ s₁.toList ++ rest)) =
        redactText (pre.toList ++ (name.toList ++ s₂.toList ++ rest)) :=
    fun rest h₁ h₂ => redactText_eq_of_secret hn pre.toList h₁ h₂
  simp only [redact, String.toList_append]
  refine ⟨?_, ?_, fun hs₁ hs₂ => ?_⟩
  · simpa using congrArg String.ofList (key (';' :: post.toList) (h₁.secret (by simp))
      (h₂.secret (by simp)))
  · simpa using congrArg String.ofList (key [] (h₁.secret (by simp)) (h₂.secret (by simp)))
  · simpa using congrArg String.ofList (key ('&' :: post.toList) (h₁.secret (by simp [hs₁]))
      (h₂.secret (by simp [hs₂])))

/-- Two secrets of which one holds the name of another setting, behind a header and the open setting
of another signature. -/
theorem redact_eq_of_isSecret_nested :
    "SiG=".toList.map foldChar ∈ ["accountkey=".toList, "sharedaccesssignature=".toList,
        "sig=".toList] ∧
      IsSecret "aAccountKey=b" ∧ IsSecret "z" ∧
      redact "Authorization:\nx SIG=1 SiG=aAccountKey=b;AccountKey=c" =
        redact "Authorization:\nx SIG=1 SiG=z;AccountKey=c" := by
  have hn : "SiG=".toList.map foldChar ∈ ["accountkey=".toList, "sharedaccesssignature=".toList,
      "sig=".toList] := by decide
  have h₁ : IsSecret "aAccountKey=b" := by decide
  have h₂ : IsSecret "z" := by decide
  exact ⟨hn, h₁, h₂, (redact_eq_of_isSecret "Authorization:\nx SIG=1 " "AccountKey=c" hn h₁ h₂).1⟩

end StorageReply.Redaction
