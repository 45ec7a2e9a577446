import StorageReply.Proofs.Text.Blanks
import StorageReply.Proofs.Uri.Endpoints
import Mathlib.Data.List.TakeWhile

/-!
# References and their texts

The text of a web reference reads as the reference (`WebParts.parse_text`). The parts that are read
from a text cannot be mistaken for one another when they are written side by side (`WebParts`):
none holds a character that ends it, and the network location is there. Reading a web reference
gives such parts (`webParts_of_parse`), and a segment at the end of the path keeps them so
(`WebParts.append`).
-/

namespace StorageReply

open Text

namespace Uri

/-! ## Marks between parts -/

theorem splitMark_append_marked {mark : Char} {s : List Char} (h : mark ∉ s) (t : List Char) :
    splitMark mark (s ++ marked mark t) = (s, t) := by
  have hkept : ∀ c ∈ s, (c != mark) = true := by
    intro c hc
    rw [bne_iff_ne]
    rintro rfl
    exact h hc
  rw [splitMark, List.takeWhile_append_of_pos hkept, List.dropWhile_append_of_pos hkept]
  cases t <;> simp [marked]

theorem notMem_splitMark (mark : Char) (s : List Char) : mark ∉ (splitMark mark s).1 := by
  intro h
  simpa using List.mem_takeWhile_imp h

theorem splitMark_fst_isPrefixOf (mark : Char) (s : List Char) : (splitMark mark s).1 <+: s :=
  List.takeWhile_prefix _

theorem splitMark_suffix (mark : Char) (s : List Char) : (splitMark mark s).2 <:+ s :=
  (List.drop_suffix _ _).trans (List.dropWhile_suffix _)

theorem mem_marked {mark c : Char} {s : List Char} (h : c ∈ marked mark s) : c = mark ∨ c ∈ s := by
  unfold marked at h
  split at h
  · simp at h
  · simpa using h

theorem splitParams_append_cons (before : List Char) {segment : List Char} (h : '/' ∉ segment) :
    splitParams (before ++ '/' :: segment) =
      (before ++ '/' :: (splitMark ';' segment).1, (splitMark ';' segment).2) := by
  have htake : (before ++ '/' :: segment).take
      ((before ++ '/' :: segment).length - segment.length) = before ++ ['/'] := by
    have hlength : (before ++ '/' :: segment).length - segment.length =
        (before ++ ['/']).length := by
      simp
      omega
    rw [hlength, List.append_cons before '/' segment, List.take_left]
  rw [splitParams, afterLast_append_cons before h]
  simp only [htake]
  simp

/-! ## Slashes at the end -/

theorem dropSlashes_isPrefixOf (s : List Char) : dropSlashes s <+: s :=
  prefix_dropEndWhile (· == '/') s

theorem dropSlashes_eq_self {s : List Char} (h : s.getLast? ≠ some '/') : dropSlashes s = s := by
  have hkept : s.reverse.dropWhile (· == '/') = s.reverse := by
    cases hs : s.reverse with
    | nil => rfl
    | cons c t =>
      have hc : c ≠ '/' := by
        rintro rfl
        exact h (by rw [List.getLast?_eq_head?_reverse, hs]; rfl)
      simp [hc]
  rw [dropSlashes, hkept, List.reverse_reverse]

theorem dropSlashes_append_cons (before : List Char) {segment : List Char} (hne : segment ≠ [])
    (h : '/' ∉ segment) :
    dropSlashes (before ++ '/' :: segment) = before ++ '/' :: segment := by
  refine dropSlashes_eq_self fun hlast => h ?_
  rw [List.append_cons, List.getLast?_append, Option.or_eq_some_iff] at hlast
  rcases hlast with hlast | ⟨hnone, -⟩
  · exact List.mem_of_getLast? hlast
  · exact absurd (List.getLast?_eq_none_iff.1 hnone) hne

theorem stripSlashes_eq_self {s : List Char} (h : '/' ∉ s) : stripSlashes s = s := by
  have hkept : s.dropWhile (· == '/') = s := by
    cases s with
    | nil => rfl
    | cons c s => simp [(List.ne_and_not_mem_of_not_mem_cons h).1.symm]
  rw [stripSlashes, hkept, dropSlashes_eq_self fun hlast => h (List.mem_of_getLast? hlast)]

/-! ## Web references -/

/-- A reference to a place on the web: it has a network location, under one of two protocols. -/
def IsWeb (u : Uri) : Prop := (∃ p : Protocol, u.scheme = p.word.toList) ∧ u.host ≠ []

/-- What follows the network location in the text of a reference. -/
def restText (u : Uri) : List Char :=
  u.path ++ marked ';' u.params ++ marked '?' u.query ++ marked '#' u.fragment

/-- The parts of a web reference, as they are read from a text. No part holds a character that ends
it, and none a character that is dropped from a text. -/
structure WebParts (u : Uri) : Prop where
  /-- The protocol and the network location are there. -/
  web : u.IsWeb
  /-- The network location can be used. -/
  host : IsHost u.host
  /-- No character of it ends it. -/
  host_open : ∀ c ∈ u.host, endsHost c = false
  /-- The path is empty, or begins with a slash; then its last segment has no semicolon. -/
  path : (u.path = [] ∧ u.params = []) ∨
    u.path.head? = some '/' ∧
      ∃ before segment, u.path = before ++ '/' :: segment ∧ '/' ∉ segment ∧ ';' ∉ segment
  /-- The path ends before the query and the fragment. -/
  path_open : '?' ∉ u.path ∧ '#' ∉ u.path
  /-- The parameters belong to the last segment, and end as the path does. -/
  params_open : '/' ∉ u.params ∧ '?' ∉ u.params ∧ '#' ∉ u.params
  /-- The query ends before the fragment. -/
  query_open : '#' ∉ u.query
  /-- No character is one that texts lose. -/
  kept : ∀ part ∈ [u.host, u.path, u.params, u.query, u.fragment], ∀ c ∈ part, isDropped c = false

theorem paramSchemes_contains (p : Protocol) :
    paramSchemes.contains (String.ofList p.word.toList) = true := by
  cases p <;> decide

theorem located_protocol {p : Protocol} {host : List Char} (h : IsHost host) (rest : List Char) :
    located p.word.toList host rest =
      .ok ⟨p.word.toList, host, (splitParams (splitMark '?' (splitMark '#' rest).1).1).1,
        (splitParams (splitMark '?' (splitMark '#' rest).1).1).2,
        (splitMark '?' (splitMark '#' rest).1).2, (splitMark '#' rest).2⟩ := by
  simp only [located, h.1, h.2, paramSchemes_contains, Bool.not_true, Bool.false_eq_true, if_false,
    if_true]

namespace WebParts

variable {u : Uri}

/-- The path with its parameters is empty or begins with a slash. -/
theorem head?_path (h : u.WebParts) :
    u.path ++ marked ';' u.params = [] ∨
      ∃ t, u.path ++ marked ';' u.params = '/' :: t := by
  rcases h.path with ⟨hpath, hparams⟩ | ⟨hhead, -⟩
  · exact .inl (by rw [hpath, hparams]; rfl)
  · obtain ⟨t, ht⟩ := List.head?_eq_some_iff.1 hhead
    exact .inr ⟨t ++ marked ';' u.params, by rw [ht]; rfl⟩

theorem isDropped_of_mem (h : u.WebParts) {c : Char} (hc : c ∈ u.host ++ u.restText) :
    isDropped c = false := by
  obtain ⟨hhost, hpath, hparams, hquery, hfragment⟩ :
      (∀ c ∈ u.host, isDropped c = false) ∧ (∀ c ∈ u.path, isDropped c = false) ∧
        (∀ c ∈ u.params, isDropped c = false) ∧ (∀ c ∈ u.query, isDropped c = false) ∧
        ∀ c ∈ u.fragment, isDropped c = false := by
    simpa using h.kept
  have hmarked : ∀ {mark : Char} {s : List Char}, isDropped mark = false →
      (∀ c ∈ s, isDropped c = false) → ∀ c ∈ marked mark s, isDropped c = false := by
    intro mark s hmark hs c hc
    rcases mem_marked hc with rfl | hc
    · exact hmark
    · exact hs c hc
  simp only [restText, List.mem_append] at hc
  rcases hc with hc | ((hc | hc) | hc) | hc
  · exact hhost c hc
  · exact hpath c hc
  · exact hmarked (by decide) hparams c hc
  · exact hmarked (by decide) hquery c hc
  · exact hmarked (by decide) hfragment c hc

theorem text_eq (h : u.WebParts) {p : Protocol} (hp : u.scheme = p.word.toList) :
    u.text = p.word.toList ++ ':' :: '/' :: '/' :: (u.host ++ u.restText) := by
  have hscheme : p.word.toList.isEmpty = false := by cases p <;> rfl
  have hhost : u.host.isEmpty = false := by simpa using h.web.2
  have hpath : ((u.path ++ marked ';' u.params).isEmpty ||
      beginsWith (u.path ++ marked ';' u.params) ['/']) = true := by
    rcases h.head?_path with hnil | ⟨t, ht⟩
    · simp [hnil]
    · simp [ht, beginsWith]
  rw [text, hostAndPath, hp]
  simp only [hscheme, hhost, hpath, Bool.not_false, Bool.true_or, Bool.false_eq_true, if_true,
    if_false, restText]
  simp

/-- What follows the network location begins with a character that ends it. -/
theorem head?_restText (h : u.WebParts) : ∀ c ∈ u.restText.head?, endsHost c = true := by
  intro c hc
  rcases h.head?_path with hnil | ⟨t, ht⟩
  · rw [restText, hnil] at hc
    cases hquery : u.query <;> cases hfragment : u.fragment <;>
      simp [marked, hquery, hfragment] at hc <;> subst hc <;> rfl
  · rw [restText, ht] at hc
    obtain rfl : '/' = c := by simpa using hc
    rfl

/-- The path and the parameters are told apart. -/
theorem splitParams_path (h : u.WebParts) :
    splitParams (u.path ++ marked ';' u.params) = (u.path, u.params) := by
  rcases h.path with ⟨hpath, hparams⟩ | ⟨-, before, segment, hpath, hslash, hmark⟩
  · rw [hpath, hparams]
    rfl
  · have hsegment : '/' ∉ segment ++ marked ';' u.params := by
      rw [List.mem_append, not_or]
      refine ⟨hslash, fun hmem => ?_⟩
      rcases mem_marked hmem with hc | hc
      · exact absurd hc (by decide)
      · exact h.params_open.1 hc
    rw [hpath, List.append_assoc, List.cons_append, splitParams_append_cons before hsegment,
      splitMark_append_marked hmark]

/-- **The text of a web reference reads as the reference.** -/
theorem parse_text (h : u.WebParts) : parse u.text = .ok u := by
  obtain ⟨p, hp⟩ := h.web.1
  have hfilter : (u.host ++ u.restText).filter (!isDropped ·) = u.host ++ u.restText := by
    rw [List.filter_eq_self]
    intro c hc
    simp [h.isDropped_of_mem hc]
  have hhost : ∀ c ∈ u.host, (!endsHost c) = true := by
    intro c hc
    simp [h.host_open c hc]
  have htake : u.restText.takeWhile (!endsHost ·) = [] := by
    cases hrest : u.restText with
    | nil => rfl
    | cons c t => simp [h.head?_restText c (by simp [hrest])]
  have hdrop : u.restText.dropWhile (!endsHost ·) = u.restText := by
    cases hrest : u.restText with
    | nil => rfl
    | cons c t => simp [h.head?_restText c (by simp [hrest])]
  have hfragment : splitMark '#' u.restText =
      (u.path ++ marked ';' u.params ++ marked '?' u.query, u.fragment) := by
    refine splitMark_append_marked ?_ _
    intro hmem
    rcases List.mem_append.1 hmem with hmem | hmem
    · rcases List.mem_append.1 hmem with hmem | hmem
      · exact h.path_open.2 hmem
      · exact (mem_marked hmem).elim (by decide) h.params_open.2.2
    · exact (mem_marked hmem).elim (by decide) h.query_open
  have hquery : splitMark '?' (u.path ++ marked ';' u.params ++ marked '?' u.query) =
      (u.path ++ marked ';' u.params, u.query) := by
    refine splitMark_append_marked ?_ _
    intro hmem
    rcases List.mem_append.1 hmem with hmem | hmem
    · exact h.path_open.1 hmem
    · exact (mem_marked hmem).elim (by decide) h.params_open.2.1
  rw [h.text_eq hp, parse_protocol, hfilter, List.takeWhile_append_of_pos hhost,
    List.dropWhile_append_of_pos hhost, htake, hdrop, List.append_nil, located_protocol h.host,
    hfragment]
  simp only [hquery, h.splitParams_path, ← hp]

end WebParts

/-- A text that can stand in a path: no character of it ends the path or begins the parameters, and
none is one that texts lose. -/
def IsPathText (s : List Char) : Prop :=
  ∀ c ∈ s, c ≠ '?' ∧ c ≠ '#' ∧ c ≠ ';' ∧ isDropped c = false

theorem IsPathText.notMem {s : List Char} (h : IsPathText s) : '?' ∉ s ∧ '#' ∉ s ∧ ';' ∉ s :=
  ⟨fun hc => (h _ hc).1 rfl, fun hc => (h _ hc).2.1 rfl, fun hc => (h _ hc).2.2.1 rfl⟩

/-- A text that stands for itself as a segment of a path. -/
def IsSegment (s : List Char) : Prop :=
  ∀ c ∈ s, endsHost c = false ∧ c ≠ ';' ∧ isDropped c = false

theorem IsSegment.notMem {s : List Char} (h : IsSegment s) :
    '/' ∉ s ∧ '?' ∉ s ∧ '#' ∉ s ∧ ';' ∉ s := by
  refine ⟨fun hc => ?_, fun hc => ?_, fun hc => ?_, fun hc => (h _ hc).2.1 rfl⟩ <;>
    exact absurd (h _ hc).1 (by decide)

theorem IsSegment.isPathText {s : List Char} (h : IsSegment s) : IsPathText s := by
  obtain ⟨-, hquery, hfragment, hmark⟩ := h.notMem
  intro c hc
  refine ⟨?_, ?_, ?_, (h c hc).2.2⟩ <;> rintro rfl
  · exact hquery hc
  · exact hfragment hc
  · exact hmark hc

/-- A web reference with a segment at the end of its path is one, and so it is with several segments
and slashes between them. -/
theorem WebParts.append {u : Uri} (h : u.WebParts) {segment : List Char}
    (hsegment : IsPathText segment) : (u.append segment).WebParts := by
  obtain ⟨hquery, hfragment, hmark⟩ := hsegment.notMem
  have htrimmed : ∀ {c}, c ∈ u.trimmedPath → c ∈ u.path :=
    fun hc => (dropSlashes_isPrefixOf u.path).subset hc
  obtain ⟨before, last, hcut, hslash⟩ :=
    exists_last_mark (List.mem_cons_self (a := '/') (l := segment))
  have hlast : ';' ∉ last := by
    intro hc
    have hmem : ';' ∈ '/' :: segment := by
      rw [hcut]
      simp [hc]
    simp [hmark] at hmem
  refine ⟨h.web, h.host, h.host_open,
    .inr ⟨?_, u.trimmedPath ++ before, last, ?_, hslash, hlast⟩, ?_, h.params_open, h.query_open,
    ?_⟩
  · obtain ⟨t, ht⟩ := dropSlashes_isPrefixOf u.path
    show (u.trimmedPath ++ '/' :: segment).head? = some '/'
    cases hhead : u.trimmedPath with
    | nil => rfl
    | cons c rest =>
      rw [show dropSlashes u.path = c :: rest from hhead] at ht
      rcases h.path with ⟨hpath, -⟩ | ⟨hfirst, -⟩
      · simp [hpath] at ht
      · rw [← ht] at hfirst
        exact hfirst
  · show u.trimmedPath ++ '/' :: segment = _
    rw [hcut, List.append_assoc]
  · constructor
    · intro hc
      rcases List.mem_append.1 hc with hc | hc
      · exact h.path_open.1 (htrimmed hc)
      · simp [hquery] at hc
    · intro hc
      rcases List.mem_append.1 hc with hc | hc
      · exact h.path_open.2 (htrimmed hc)
      · simp [hfragment] at hc
  · obtain ⟨hhost, hparts⟩ := List.forall_mem_cons.1 h.kept
    obtain ⟨hpath, hrest⟩ := List.forall_mem_cons.1 hparts
    refine List.forall_mem_cons.2 ⟨hhost, List.forall_mem_cons.2 ⟨fun c hc => ?_, hrest⟩⟩
    rcases List.mem_append.1 hc with hc | hc
    · exact hpath c (htrimmed hc)
    · rcases List.mem_cons.1 hc with rfl | hc
      · rfl
      · exact (hsegment c hc).2.2.2

/-! ## Reading -/

theorem parse_eq_located (s : List Char) :
    parse s = located (splitScheme (s.filter (!isDropped ·))).1
      (splitHost (splitScheme (s.filter (!isDropped ·))).2).1
      (splitHost (splitScheme (s.filter (!isDropped ·))).2).2 := rfl

theorem scheme_of_located {scheme host rest : List Char} {u : Uri}
    (h : located scheme host rest = .ok u) : u.scheme = scheme ∧ u.host = host := by
  obtain ⟨hpair, hplain⟩ := exists_located_iff.1 ⟨u, h⟩
  simp only [located, hpair, hplain, Bool.not_true, Bool.false_eq_true, if_false,
    Except.ok.injEq] at h
  subst h
  exact ⟨rfl, rfl⟩

theorem splitScheme_suffix (s : List Char) : (splitScheme s).2 <:+ s := by
  unfold splitScheme
  split
  · rename_i name mark rest hcut
    split
    · obtain ⟨rfl, -⟩ := cut?_eq hcut
      exact ⟨name ++ [mark], by simp⟩
    · exact List.suffix_refl s
  · exact List.suffix_refl s

/-- A network location that is there is cut from what follows it at the first character that ends
it. -/
theorem splitHost_spec {s : List Char} (h : (splitHost s).1 ≠ []) :
    s = '/' :: '/' :: ((splitHost s).1 ++ (splitHost s).2) ∧
      (∀ c ∈ (splitHost s).1, endsHost c = false) ∧
      ∀ c ∈ (splitHost s).2.head?, endsHost c = true := by
  unfold splitHost at h ⊢
  split at h
  · rename_i rest
    dsimp only
    refine ⟨by rw [List.takeWhile_append_dropWhile], fun c hc => ?_, fun c hc => ?_⟩
    · simpa using List.mem_takeWhile_imp hc
    · simpa using head?_dropWhile (!endsHost ·) rest c hc
  · exact absurd rfl h

/-- The path in what follows a network location is empty or begins with a slash. -/
theorem head?_splitMark {rest : List Char} (h : ∀ c ∈ rest.head?, endsHost c = true) :
    (splitMark '?' (splitMark '#' rest).1).1 = [] ∨
      (splitMark '?' (splitMark '#' rest).1).1.head? = some '/' := by
  cases rest with
  | nil => exact .inl rfl
  | cons c t =>
    have hc : c = '/' ∨ c = '?' ∨ c = '#' := by
      simpa [endsHost, or_assoc] using h c rfl
    rcases hc with rfl | rfl | rfl
    · exact .inr (by simp [splitMark])
    · exact .inl (by simp [splitMark])
    · exact .inl (by simp [splitMark])

/-- The parameters of a path that is empty or begins with a slash are cut from its last segment. -/
theorem splitParams_spec {path : List Char} (h : path = [] ∨ path.head? = some '/') :
    (((splitParams path).1 = [] ∧ (splitParams path).2 = []) ∨
      (splitParams path).1.head? = some '/' ∧ ∃ before segment,
        (splitParams path).1 = before ++ '/' :: segment ∧ '/' ∉ segment ∧ ';' ∉ segment) ∧
    (splitParams path).1 <+: path ∧ (splitParams path).2 <:+ path ∧ '/' ∉ (splitParams path).2 := by
  rcases h with rfl | hhead
  · exact ⟨.inl ⟨rfl, rfl⟩, List.prefix_refl _, List.suffix_refl _, by decide⟩
  · obtain ⟨before, segment, rfl, hslash⟩ := exists_last_mark (List.mem_of_mem_head? hhead)
    obtain ⟨kept, hkept⟩ := splitMark_fst_isPrefixOf ';' segment
    have hname : '/' ∉ (splitMark ';' segment).1 := fun hc =>
      hslash ((splitMark_fst_isPrefixOf ';' segment).subset hc)
    rw [splitParams_append_cons before hslash]
    refine ⟨.inr ⟨?_, before, _, rfl, hname, notMem_splitMark ';' segment⟩, ?_, ?_, ?_⟩
    · cases before with
      | nil => rfl
      | cons c t => exact hhead
    · exact ⟨kept, by simp [hkept]⟩
    · exact (splitMark_suffix ';' segment).trans ⟨before ++ ['/'], by simp⟩
    · exact fun hc => hslash ((splitMark_suffix ';' segment).subset hc)

/-- **Reading a web reference gives parts that can be told apart in its text.** -/
theorem webParts_of_parse {s : List Char} {u : Uri} (h : parse s = .ok u) (hweb : u.IsWeb) :
    u.WebParts := by
  rw [parse_eq_located] at h
  obtain ⟨p, hp⟩ := hweb.1
  obtain ⟨hscheme, hhost⟩ := scheme_of_located h
  generalize ht : s.filter (!isDropped ·) = t at h hscheme hhost
  have hkept : ∀ c ∈ t, isDropped c = false := by
    intro c hc
    rw [← ht] at hc
    simpa using (List.mem_filter.1 hc).2
  have hplace := exists_located_iff.1 ⟨u, h⟩
  rw [← hscheme, hp, located_protocol hplace, Except.ok.injEq] at h
  obtain ⟨hsplit, hopen, hhead⟩ := splitHost_spec (hhost ▸ hweb.2)
  have hsub : ∀ c ∈ (splitScheme t).2, isDropped c = false := fun c hc =>
    hkept c ((splitScheme_suffix t).subset hc)
  rw [hsplit] at hsub
  generalize (splitHost (splitScheme t).2).1 = host at h hplace hopen hsub hhost
  generalize (splitHost (splitScheme t).2).2 = rest at h hhead hsub
  have hpath := splitParams_spec (head?_splitMark hhead)
  have hquery : '?' ∉ (splitMark '?' (splitMark '#' rest).1).1 := notMem_splitMark _ _
  have hquerySub := splitMark_suffix '?' (splitMark '#' rest).1
  have hpathSub := splitMark_fst_isPrefixOf '?' (splitMark '#' rest).1
  generalize (splitMark '?' (splitMark '#' rest).1).1 = path at h hpath hquery hpathSub
  generalize (splitMark '?' (splitMark '#' rest).1).2 = query at h hquerySub
  have hfragment : '#' ∉ (splitMark '#' rest).1 := notMem_splitMark _ _
  have hfragmentSub := splitMark_suffix '#' rest
  have hbeforeSub := splitMark_fst_isPrefixOf '#' rest
  obtain ⟨hcut, hstart, hsuffix, hslash⟩ := hpath
  have hrest : ∀ c ∈ rest, isDropped c = false := fun c hc => hsub c (by simp [hc])
  have hbefore : ∀ c ∈ (splitMark '#' rest).1, isDropped c = false := fun c hc =>
    hrest c (hbeforeSub.subset hc)
  subst h
  refine ⟨hweb, hplace, hopen, hcut, ?_, ?_, ?_, ?_⟩
  · exact ⟨fun hc => hquery (hstart.subset hc),
      fun hc => hfragment (hpathSub.subset (hstart.subset hc))⟩
  · exact ⟨hslash, fun hc => hquery (hsuffix.subset hc),
      fun hc => hfragment (hpathSub.subset (hsuffix.subset hc))⟩
  · exact fun hc => hfragment (hquerySub.subset hc)
  · simp only [List.forall_mem_cons, List.not_mem_nil, false_implies, implies_true, and_true]
    exact ⟨fun c hc => hsub c (by simp [hc]),
      fun c hc => hbefore c (hpathSub.subset (hstart.subset hc)),
      fun c hc => hbefore c (hpathSub.subset (hsuffix.subset hc)),
      fun c hc => hbefore c (hquerySub.subset hc),
      fun c hc => hrest c (hfragmentSub.subset hc)⟩

end Uri

end StorageReply
