import StorageReply.Proofs.Uri.Texts

/-!
# Segments at the ends of paths

A segment at the end of the paths of a web resource makes the URIs of a resource below it
(`appendPath_of_isWeb`): each location that is set stays set, and its URI reads as before, but for
the path, which is the one before without the slashes at its end, then a slash, then the segment
without the slashes at its ends. Two locations that address one resource go on doing so, for their
paths differ in slashes at the end at most (`sameResource_append`).

Segments that are appended one after the other are appended as one, with slashes between them
(`foldlM_appendPath`), since none of them is lost and no slash is doubled on the way
(`Extends.trans`).
-/

namespace StorageReply

open Text

namespace Uri

/-! ## Slashes around segments -/

/-- A text that is there, with no slash at its ends. -/
structure IsTrimmed (s : List Char) : Prop where
  /-- It is there. -/
  ne_nil : s ≠ []
  /-- It does not begin with a slash. -/
  head?_ne : s.head? ≠ some '/'
  /-- It does not end with a slash. -/
  getLast?_ne : s.getLast? ≠ some '/'

theorem isTrimmed_stripSlashes {s : List Char} (h : stripSlashes s ≠ []) :
    IsTrimmed (stripSlashes s) := by
  refine ⟨h, fun hhead => ?_, fun hlast => ?_⟩
  · obtain ⟨t, ht⟩ := dropSlashes_isPrefixOf (s.dropWhile (· == '/'))
    have hmem : (s.dropWhile (· == '/')).head? = some '/' := by
      rw [← ht, List.head?_append, ← stripSlashes, hhead]
      rfl
    have hfirst := head?_dropWhile (· == '/') s '/' hmem
    simp at hfirst
  · have hend := getLast?_dropEndWhile (· == '/') (s.dropWhile (· == '/')) '/' hlast
    simp at hend

theorem getLast?_append_slash (s : List Char) {t : List Char} (h : t ≠ []) :
    (s ++ '/' :: t).getLast? = t.getLast? := by
  rw [List.append_cons, List.getLast?_append, List.getLast?_eq_some_getLast h, Option.some_or]

namespace IsTrimmed

variable {s t : List Char}

theorem stripSlashes_eq (h : IsTrimmed s) : stripSlashes s = s := by
  have hkept : s.dropWhile (· == '/') = s := by
    cases s with
    | nil => rfl
    | cons c s =>
      have hc : c ≠ '/' := fun hc => h.head?_ne (by rw [hc]; rfl)
      simp [hc]
  rw [stripSlashes, hkept, dropSlashes_eq_self h.getLast?_ne]

/-- Two texts with a slash between them. -/
theorem append (hs : IsTrimmed s) (ht : IsTrimmed t) : IsTrimmed (s ++ '/' :: t) := by
  refine ⟨by simp, ?_, ?_⟩
  · obtain ⟨c, s, rfl⟩ := List.exists_cons_of_ne_nil hs.ne_nil
    exact hs.head?_ne
  · rw [getLast?_append_slash s ht.ne_nil]
    exact ht.getLast?_ne

end IsTrimmed

instance : DecidablePred IsPathText := fun s => List.decidableBAll _ s

theorem IsPathText.stripSlashes {s : List Char} (h : IsPathText s) :
    IsPathText (stripSlashes s) := fun c hc =>
  h c ((List.dropWhile_sublist _).subset ((dropSlashes_isPrefixOf _).subset hc))

theorem IsPathText.append {s t : List Char} (hs : IsPathText s) (ht : IsPathText t) :
    IsPathText (s ++ '/' :: t) := by
  intro c hc
  rcases List.mem_append.1 hc with hc | hc
  · exact hs c hc
  · rcases List.mem_cons.1 hc with rfl | hc
    · exact ⟨by decide, by decide, by decide, by decide⟩
    · exact ht c hc

/-- A segment behind another is one longer segment, where the first one ends in no slash. -/
theorem append_append (u : Uri) {s : List Char} (h : IsTrimmed s) (t : List Char) :
    (u.append s).append t = u.append (s ++ '/' :: t) := by
  have hlast : (u.trimmedPath ++ '/' :: s).getLast? ≠ some '/' := by
    rw [getLast?_append_slash _ h.ne_nil]
    exact h.getLast?_ne
  have htrimmed : (u.append s).trimmedPath = u.trimmedPath ++ '/' :: s :=
    dropSlashes_eq_self hlast
  rw [append, htrimmed, List.append_assoc]
  rfl

end Uri

namespace StorageUri

/-! ## Locations -/

/-- The URIs that are set are references to places on the web. -/
def IsWeb (u : StorageUri) : Prop :=
  ∀ uri ∈ u.locations, ∃ parts, Uri.parse uri.toList = .ok parts ∧ parts.IsWeb

/-- A location of a container: it is set where that of the service is, and its URI reads as that of
the service with the name at the end of the path. -/
def Below (name : List Char) (service container : Option String) : Prop :=
  (service = none ∧ container = none) ∨
    ∃ uri parts below, service = some uri ∧ Uri.parse uri.toList = .ok parts ∧ parts.IsWeb ∧
      container = some below ∧ Uri.parse below.toList = .ok (parts.append name)

theorem Below.isSome {name : List Char} {service container : Option String}
    (h : Below name service container) : container.isSome = service.isSome := by
  rcases h with ⟨rfl, rfl⟩ | ⟨_, _, _, rfl, -, -, rfl, -⟩ <;> rfl

/-- The URI of such a location leads to a place on the web. -/
theorem Below.reads {name : List Char} {service container : Option String}
    (h : Below name service container) :
    ∀ uri ∈ container, ∃ parts, Uri.parse uri.toList = .ok parts ∧ parts.IsWeb := by
  rcases h with ⟨-, rfl⟩ | ⟨_, parts, below, -, -, hweb, rfl, hread⟩
  · rintro _ ⟨⟩
  · rintro _ ⟨⟩
    exact ⟨_, hread, hweb⟩

/-- Two references that address the same resource do so with a segment at the end of each. -/
theorem sameResource_append {a b : Uri} (h : sameResource a b = true) (segment : List Char) :
    sameResource (a.append segment) (b.append segment) = true := by
  simp only [sameResource, Bool.and_eq_true, beq_iff_eq] at h ⊢
  refine ⟨?_, h.2⟩
  show Uri.dropSlashes (a.trimmedPath ++ _) = Uri.dropSlashes (b.trimmedPath ++ _)
  rw [h.1]

/-- The two locations of a resource below another agree as those of the other do. -/
theorem coherent_below {u v : StorageUri} {segment : List Char}
    (hprimary : Below segment u.primary v.primary)
    (hsecondary : Below segment u.secondary v.secondary) (h : u.Coherent) : v.Coherent := by
  intro p s hp hs
  rcases hprimary with ⟨-, hnone⟩ | ⟨uri, a, below, huri, ha, -, hbelow, hread⟩
  · rw [hnone] at hp
    cases hp
  rcases hsecondary with ⟨-, hnone⟩ | ⟨uri', b, below', huri', hb, -, hbelow', hread'⟩
  · rw [hnone] at hs
    cases hs
  obtain rfl := Option.some.inj (hbelow.symm.trans hp)
  obtain rfl := Option.some.inj (hbelow'.symm.trans hs)
  obtain ⟨a', b', ha', hb', hsame⟩ := h uri uri' huri huri'
  obtain rfl := Except.ok.inj (ha'.symm.trans ha)
  obtain rfl := Except.ok.inj (hb'.symm.trans hb)
  exact ⟨_, _, hread, hread', sameResource_append hsame segment⟩

/-- A location with a segment at the end of its path: it is set where it was, to the text of its
reference with the segment. -/
inductive Extends (segment : List Char) : Option String → Option String → Prop
  /-- It is not set. -/
  | none : Extends segment none none
  /-- It is set. -/
  | some {uri : String} {parts : Uri} : Uri.parse uri.toList = .ok parts → parts.IsWeb →
      Extends segment (some uri) (some (String.ofList (parts.append segment).text))

namespace Extends

variable {segment other : List Char} {location longer longest : Option String}

/-- The text reads as the reference with the segment. -/
theorem below (h : Extends segment location longer) (hsegment : Uri.IsPathText segment) :
    Below segment location longer := by
  cases h with
  | none => exact .inl ⟨rfl, rfl⟩
  | @some uri parts hparts hweb =>
    refine .inr ⟨uri, parts, _, rfl, hparts, hweb, rfl, ?_⟩
    rw [String.toList_ofList]
    exact ((Uri.webParts_of_parse hparts hweb).append hsegment).parse_text

/-- There is only one such location. -/
theorem unique (h : Extends segment location longer) (h' : Extends segment location longest) :
    longer = longest := by
  cases h with
  | none => cases h' with | none => rfl
  | some hparts hweb =>
    cases h' with
    | some hparts' hweb' =>
      obtain rfl := Except.ok.inj (hparts.symm.trans hparts')
      rfl

/-- A segment behind another is one longer segment. -/
theorem trans (h : Extends segment location longer) (h' : Extends other longer longest)
    (hsegment : Uri.IsPathText segment) (htrimmed : Uri.IsTrimmed segment) :
    Extends (segment ++ '/' :: other) location longest := by
  cases h with
  | none => cases h' with | none => exact .none
  | @some uri parts hparts hweb =>
    cases h' with
    | @some _ parts' hparts' hweb' =>
      rw [String.toList_ofList,
        ((Uri.webParts_of_parse hparts hweb).append hsegment).parse_text] at hparts'
      obtain rfl := Except.ok.inj hparts'
      rw [Uri.append_append parts htrimmed]
      exact .some hparts hweb

end Extends

/-! ## Resources below others -/

theorem get?_injective {u v : StorageUri} (h : ∀ location, u.get? location = v.get? location) :
    u = v := by
  obtain ⟨primary, secondary⟩ := u
  obtain ⟨primary', secondary'⟩ := v
  obtain rfl : primary = primary' := h .primary
  obtain rfl : secondary = secondary' := h .secondary
  rfl

theorem isWeb_iff {u : StorageUri} :
    u.IsWeb ↔ ∀ location, ∀ uri ∈ u.get? location,
      ∃ parts, Uri.parse uri.toList = .ok parts ∧ parts.IsWeb := by
  constructor
  · rintro h (_ | _) uri huri
    · exact h uri (List.mem_filterMap.2 ⟨u.primary, by simp, huri⟩)
    · exact h uri (List.mem_filterMap.2 ⟨u.secondary, by simp, huri⟩)
  · intro h uri huri
    obtain ⟨location, hlocation, hset⟩ := List.mem_filterMap.1 huri
    rcases List.mem_cons.1 hlocation with rfl | hlocation
    · exact h .primary uri hset
    · obtain rfl := List.mem_singleton.1 hlocation
      exact h .secondary uri hset

theorem exists_appendToOptional {location : Option String} (segment : List Char)
    (hweb : ∀ uri ∈ location, ∃ parts, Uri.parse uri.toList = .ok parts ∧ parts.IsWeb) :
    ∃ longer, appendToOptional segment location = .ok longer ∧ Extends segment location longer := by
  cases location with
  | none => exact ⟨none, rfl, .none⟩
  | some uri =>
    obtain ⟨parts, hparts, hplace⟩ := hweb uri rfl
    refine ⟨some (String.ofList (parts.append segment).text), ?_, .some hparts hplace⟩
    simp only [appendToOptional, appendTo, hparts]
    rfl

/-- A segment makes URIs of a resource below one on the web, which is on the web as well. -/
theorem exists_extends {u : StorageUri} {segment : String}
    (hu : make u.primary u.secondary = .ok u) (hweb : u.IsWeb)
    (hsegment : Uri.IsPathText segment.toList) :
    ∃ v, u.appendPath segment = .ok v ∧ make v.primary v.secondary = .ok v ∧ v.IsWeb ∧
      ∀ location,
        Extends (Uri.stripSlashes segment.toList) (u.get? location) (v.get? location) := by
  obtain ⟨-, hset, hcoherent⟩ := make_eq_ok_iff.1 hu
  obtain ⟨primary, happend, hprimary⟩ := @exists_appendToOptional u.primary
    (Uri.stripSlashes segment.toList) (isWeb_iff.1 hweb .primary)
  obtain ⟨secondary, happend', hsecondary⟩ := @exists_appendToOptional u.secondary
    (Uri.stripSlashes segment.toList) (isWeb_iff.1 hweb .secondary)
  have hextends : ∀ location, Extends (Uri.stripSlashes segment.toList) (u.get? location)
      ((⟨primary, secondary⟩ : StorageUri).get? location) := by
    rintro (_ | _)
    · exact hprimary
    · exact hsecondary
  have hbelow := fun location => (hextends location).below hsegment.stripSlashes
  have hmake : make primary secondary = .ok ⟨primary, secondary⟩ := by
    have hprimary' : primary.isSome = u.primary.isSome := (hbelow .primary).isSome
    have hsecondary' : secondary.isSome = u.secondary.isSome := (hbelow .secondary).isSome
    refine make_eq_ok_iff.2 ⟨rfl, ?_, coherent_below (hbelow .primary) (hbelow .secondary)
      hcoherent⟩
    rwa [hprimary', hsecondary']
  refine ⟨⟨primary, secondary⟩, ?_, hmake, ?_, hextends⟩
  · simp only [appendPath, happend, happend']
    exact hmake
  · exact isWeb_iff.2 fun location => (hbelow location).reads

/-- A segment without the slashes at its ends. -/
def slashless (segment : String) : String := String.ofList (Uri.stripSlashes segment.toList)

/-- A segment that can stand in a path, and of which something is left without slashes. -/
structure IsStep (segment : String) : Prop where
  /-- It can stand in a path. -/
  isPathText : Uri.IsPathText segment.toList
  /-- Something is left of it. -/
  ne_empty : slashless segment ≠ ""

namespace IsStep

variable {a b : String}

theorem isTrimmed (h : IsStep a) : Uri.IsTrimmed (Uri.stripSlashes a.toList) :=
  Uri.isTrimmed_stripSlashes fun hnil => h.ne_empty (by rw [slashless, hnil, String.ofList_nil])

theorem toList_join (a b : String) :
    (slashless a ++ "/" ++ slashless b).toList =
      Uri.stripSlashes a.toList ++ '/' :: Uri.stripSlashes b.toList := by
  simp [slashless, String.toList_append]

theorem stripSlashes_join (ha : IsStep a) (hb : IsStep b) :
    Uri.stripSlashes (slashless a ++ "/" ++ slashless b).toList =
      Uri.stripSlashes a.toList ++ '/' :: Uri.stripSlashes b.toList := by
  rw [toList_join]
  exact (ha.isTrimmed.append hb.isTrimmed).stripSlashes_eq

/-- Two segments with a slash between them are one. -/
theorem join (ha : IsStep a) (hb : IsStep b) : IsStep (slashless a ++ "/" ++ slashless b) := by
  refine ⟨?_, fun hempty => ?_⟩
  · rw [toList_join]
    exact ha.isPathText.stripSlashes.append hb.isPathText.stripSlashes
  · have hnil := congrArg String.toList hempty
    rw [slashless, String.toList_ofList, ha.stripSlashes_join hb] at hnil
    simp at hnil

end IsStep

/-- A segment after another is one segment, with a slash between the two. -/
theorem appendPath_appendPath {u : StorageUri} (hu : make u.primary u.secondary = .ok u)
    (hweb : u.IsWeb) {a b : String} (ha : IsStep a) (hb : IsStep b) :
    (u.appendPath a >>= fun v => v.appendPath b) =
      u.appendPath (slashless a ++ "/" ++ slashless b) := by
  obtain ⟨v, hv, hmake, hplace, hfirst⟩ := exists_extends hu hweb ha.isPathText
  obtain ⟨w, hw, -, -, hsecond⟩ := exists_extends hmake hplace hb.isPathText
  obtain ⟨x, hx, -, -, hboth⟩ := exists_extends hu hweb (ha.join hb).isPathText
  obtain rfl : w = x := by
    refine get?_injective fun location => ?_
    have htrans := (hfirst location).trans (hsecond location) ha.isPathText.stripSlashes
      ha.isTrimmed
    rw [← ha.stripSlashes_join hb] at htrans
    exact htrans.unique (hboth location)
  rw [hv, hx, ← hw]
  rfl

/-- Segments with slashes between them. -/
def joinedSegments (segments : List String) : String :=
  joinedStrings "/" (segments.map slashless)

theorem joinedSegments_cons (first next : String) (rest : List String) :
    joinedSegments (first :: next :: rest) =
      slashless first ++ "/" ++ joinedSegments (next :: rest) := by
  simp [joinedSegments, joinedStrings, joined, String.append_assoc]

theorem slashless_of_isStep {segment : String} (h : IsStep segment) :
    IsStep (slashless segment) ∧ slashless (slashless segment) = slashless segment := by
  have hagain : slashless (slashless segment) = slashless segment := by
    rw [slashless, slashless, String.toList_ofList, h.isTrimmed.stripSlashes_eq]
  refine ⟨⟨?_, fun hempty => h.ne_empty (hagain.symm.trans hempty)⟩, hagain⟩
  rw [slashless, String.toList_ofList]
  exact h.isPathText.stripSlashes

/-- Segments with slashes between them are one segment, which has no slash at its ends. -/
theorem joinedSegments_of_isStep {segments : List String} (hne : segments ≠ [])
    (h : ∀ segment ∈ segments, IsStep segment) :
    IsStep (joinedSegments segments) ∧
      slashless (joinedSegments segments) = joinedSegments segments := by
  induction segments with
  | nil => exact absurd rfl hne
  | cons first rest ih =>
    obtain ⟨hfirst, hrest⟩ := List.forall_mem_cons.1 h
    cases rest with
    | nil =>
      have hsingle : joinedSegments [first] = slashless first := by
        simp [joinedSegments, joinedStrings, joined]
      rw [hsingle]
      exact slashless_of_isStep hfirst
    | cons next rest =>
      obtain ⟨hstep, hkept⟩ := ih (by simp) hrest
      have hjoined := hfirst.join hstep
      rw [hkept, ← joinedSegments_cons] at hjoined
      refine ⟨hjoined, ?_⟩
      have htext := hfirst.stripSlashes_join hstep
      rw [← IsStep.toList_join, hkept, ← joinedSegments_cons] at htext
      rw [slashless, htext, String.ofList_toList]

/-- Segments one after the other are one segment, with slashes between them. -/
theorem foldlM_appendPath {segments : List String} (hne : segments ≠ [])
    (h : ∀ segment ∈ segments, IsStep segment) {u : StorageUri}
    (hu : make u.primary u.secondary = .ok u) (hweb : u.IsWeb) :
    segments.foldlM appendPath u = u.appendPath (joinedSegments segments) := by
  induction segments generalizing u with
  | nil => exact absurd rfl hne
  | cons first rest ih =>
    obtain ⟨hfirst, hrest⟩ := List.forall_mem_cons.1 h
    cases rest with
    | nil =>
      have hsingle : joinedSegments [first] = slashless first := by
        simp [joinedSegments, joinedStrings, joined]
      rw [hsingle, List.foldlM_cons, appendPath, appendPath, slashless, String.toList_ofList,
        hfirst.isTrimmed.stripSlashes_eq]
      exact bind_pure _
    | cons next rest =>
      obtain ⟨hstep, hkept⟩ := joinedSegments_of_isStep (by simp) hrest
      obtain ⟨v, hv, hmake, hplace, -⟩ := exists_extends hu hweb hfirst.isPathText
      have hpair := appendPath_appendPath hu hweb hfirst hstep
      rw [hkept, ← joinedSegments_cons, hv] at hpair
      rw [List.foldlM_cons, hv, ← hpair]
      exact ih (by simp) hrest hmake hplace

/-- **Appending to paths keeps the pair valid and composes.** A segment that can stand in a path is
appended to the URIs of every resource on the web. The pair that results is one that can be made, on
the web and set at the same locations. Each of its URIs reads as the one before, but for the path:
it is the one before without the slashes at its end, a slash, and the segment without the slashes at
its ends.

Of segments of which something is left without slashes, two in turn are appended as one, with a
slash between them, and so are any number. -/
theorem appendPath_of_isWeb {u : StorageUri} (hu : make u.primary u.secondary = .ok u)
    (hweb : u.IsWeb) :
    (∀ segment : String, Uri.IsPathText segment.toList →
      ∃ v, u.appendPath segment = .ok v ∧ make v.primary v.secondary = .ok v ∧ v.IsWeb ∧
        ∀ location, (v.get? location).isSome = (u.get? location).isSome ∧
          ∀ uri ∈ u.get? location, ∀ parts, Uri.parse uri.toList = .ok parts →
            ∃ longer ∈ v.get? location, Uri.parse longer.toList = .ok
              { parts with path :=
                  Uri.dropSlashes parts.path ++ '/' :: Uri.stripSlashes segment.toList }) ∧
    (∀ a b : String, IsStep a → IsStep b →
      (u.appendPath a >>= fun v => v.appendPath b) =
        u.appendPath (slashless a ++ "/" ++ slashless b)) ∧
    ∀ segments : List String, segments ≠ [] → (∀ segment ∈ segments, IsStep segment) →
      segments.foldlM appendPath u =
        u.appendPath (joinedStrings "/" (segments.map slashless)) := by
  refine ⟨fun segment hsegment => ?_, fun a b => appendPath_appendPath hu hweb,
    fun segments hne h => foldlM_appendPath hne h hu hweb⟩
  obtain ⟨v, hv, hmake, hplace, hextends⟩ := exists_extends hu hweb hsegment
  refine ⟨v, hv, hmake, hplace, fun location => ?_⟩
  have hbelow := (hextends location).below hsegment.stripSlashes
  refine ⟨hbelow.isSome, fun uri huri parts hparts => ?_⟩
  obtain ⟨hnone, -⟩ | ⟨uri', parts', longer, huri', hparts', -, hlonger, hread⟩ := hbelow
  · rw [hnone] at huri
    cases huri
  · obtain rfl := Option.some.inj (huri'.symm.trans huri)
    obtain rfl := Except.ok.inj (hparts'.symm.trans hparts)
    exact ⟨longer, hlonger, hread⟩

/-- Two endpoints with paths, parameters, queries and a fragment. -/
def someEndpoints : StorageUri where
  primary := some "HTTPS://one.example/blobs;v=1?sig=a#top"
  secondary := some "http://two.example:80/blobs/;w?sig=a"

theorem isWeb_someEndpoints : someEndpoints.IsWeb := by
  have hlocations : someEndpoints.locations =
      ["HTTPS://one.example/blobs;v=1?sig=a#top", "http://two.example:80/blobs/;w?sig=a"] := rfl
  intro uri huri
  rw [hlocations, List.mem_cons, List.mem_singleton] at huri
  rcases huri with rfl | rfl
  · exact ⟨⟨"https".toList, "one.example".toList, "/blobs".toList, "v=1".toList, "sig=a".toList,
      "top".toList⟩, eq_ok_of_toOption (by decide +kernel), ⟨.https, rfl⟩, by decide⟩
  · exact ⟨⟨"http".toList, "two.example:80".toList, "/blobs/".toList, "w".toList, "sig=a".toList,
      []⟩, eq_ok_of_toOption (by decide +kernel), ⟨.http, rfl⟩, by decide⟩

theorem appendPath_of_isWeb_someEndpoints :
    make someEndpoints.primary someEndpoints.secondary = .ok someEndpoints ∧
      someEndpoints.IsWeb ∧ Uri.IsPathText "/a//b/".toList ∧
      (∃ v, someEndpoints.appendPath "/a//b/" = .ok v ∧
        (∃ longer ∈ v.get? .primary, Uri.parse longer.toList = .ok
          ⟨"https".toList, "one.example".toList, "/blobs/a//b".toList, "v=1".toList, "sig=a".toList,
            "top".toList⟩) ∧
        ∃ longer ∈ v.get? .secondary, Uri.parse longer.toList = .ok
          ⟨"http".toList, "two.example:80".toList, "/blobs/a//b".toList, "w".toList,
            "sig=a".toList, []⟩) ∧
      (∀ segment ∈ ["/a/", "b c", "d//"], IsStep segment) ∧
      (someEndpoints.appendPath "/a/" >>= fun v => v.appendPath "b c") =
        someEndpoints.appendPath "a/b c" ∧
      ["/a/", "b c", "d//"].foldlM appendPath someEndpoints =
        someEndpoints.appendPath "a/b c/d" := by
  have hmake : make someEndpoints.primary someEndpoints.secondary = .ok someEndpoints :=
    eq_ok_of_toOption (by decide +kernel)
  have hsteps : ∀ segment ∈ ["/a/", "b c", "d//"], IsStep segment := by
    simp only [List.forall_mem_cons, List.not_mem_nil, false_implies, implies_true, and_true]
    exact ⟨⟨by decide, by decide⟩, ⟨by decide, by decide⟩, by decide, by decide⟩
  have hplace : Uri.IsPathText "/a//b/".toList := by decide
  obtain ⟨happend, hpair, hmany⟩ := appendPath_of_isWeb hmake isWeb_someEndpoints
  obtain ⟨v, hv, -, -, hreads⟩ := happend "/a//b/" hplace
  refine ⟨hmake, isWeb_someEndpoints, hplace, ⟨v, hv, ?_, ?_⟩, hsteps, ?_, ?_⟩
  · exact (hreads .primary).2 _ rfl
      ⟨"https".toList, "one.example".toList, "/blobs".toList, "v=1".toList, "sig=a".toList,
        "top".toList⟩ (eq_ok_of_toOption (by decide +kernel))
  · exact (hreads .secondary).2 _ rfl
      ⟨"http".toList, "two.example:80".toList, "/blobs/".toList, "w".toList, "sig=a".toList, []⟩
      (eq_ok_of_toOption (by decide +kernel))
  · exact hpair "/a/" "b c" (hsteps _ (by simp)) (hsteps _ (by simp))
  · exact hmany _ (by simp) hsteps

end StorageUri

end StorageReply
