import StorageReply.Proofs.Uri.Appending

/-!
# Containers below a service

The URIs of a container are those of its service with the name at the end of their paths. From them
the name is read again (`containerName_containerUri`), whatever paths, parameters, queries and
fragments the URIs of the service have: each reads as the reference of the service with one more
segment (`StorageUri.exists_appendPath`), its last segment is the name, and a name without a percent
sign stands for itself (`Uri.percentDecode_eq_self`).

Two hosts that are named after an account of plain letters always make URIs of a service
(`Settings.exists_serviceUri`).
-/

namespace StorageReply

open Text

namespace Uri

/-! ## Names in URIs -/

theorem decodeLossyFrom_ascii {s : List Char} (h : ∀ c ∈ s, c.toNat < 0x80) :
    Utf8.decodeLossyFrom s.length (s.map fun c => UInt8.ofNat c.toNat) = s := by
  induction s with
  | nil => rfl
  | cons c s ih =>
    obtain ⟨hc, hs⟩ := List.forall_mem_cons.1 h
    have hbyte : (UInt8.ofNat c.toNat).toNat = c.toNat := by
      rw [UInt8.toNat_ofNat']
      omega
    rw [List.map_cons, List.length_cons, Utf8.decodeLossyFrom,
      Utf8.next_ascii (by rw [hbyte]; exact hc), hbyte]
    show Char.ofNat c.toNat :: _ = _
    rw [ih hs, Char.ofNat_toNat]

theorem percentBytes_eq_map {s : List Char} (h : '%' ∉ s) :
    percentBytes s = s.map fun c => UInt8.ofNat c.toNat := by
  induction s with
  | nil => rfl
  | cons c s ih =>
    obtain ⟨hc, hs⟩ := List.ne_and_not_mem_of_not_mem_cons h
    rw [percentBytes, ih hs, List.map_cons]
    rintro a b rest rfl
    exact absurd rfl hc

theorem flushRun_eq_reverse {run : List Char} (hascii : ∀ c ∈ run, c.toNat < 0x80)
    (h : '%' ∉ run) : flushRun run = run.reverse := by
  rw [flushRun, percentBytes_eq_map (by simpa using h), Utf8.decodeLossy, List.length_map,
    decodeLossyFrom_ascii (by simpa using hascii)]

theorem percentDecodeFrom_eq {run s : List Char} (hascii : ∀ c ∈ run, c.toNat < 0x80)
    (hrun : '%' ∉ run) (h : '%' ∉ s) : percentDecodeFrom run s = run.reverse ++ s := by
  induction s generalizing run with
  | nil => rw [percentDecodeFrom, flushRun_eq_reverse hascii hrun, List.append_nil]
  | cons c s ih =>
    obtain ⟨hc, hs⟩ := List.ne_and_not_mem_of_not_mem_cons h
    rw [percentDecodeFrom]
    split
    · rename_i hsmall
      have hrun' := List.not_mem_cons_of_ne_of_not_mem hc hrun
      rw [ih (List.forall_mem_cons.2 ⟨hsmall, hascii⟩) hrun' hs]
      simp
    · rw [flushRun_eq_reverse hascii hrun, ih (by simp) (by simp) hs]
      simp

/-- A text without a percent sign stands for itself. -/
theorem percentDecode_eq_self {s : List Char} (h : '%' ∉ s) : percentDecode s = s :=
  percentDecodeFrom_eq (by simp) (by simp) h

/-- Whether a character cannot stand for itself in the name of a container in a URI. -/
def isReserved (c : Char) : Bool := "/?#;%\t\r\n".toList.contains c

/-- A name that stands for itself at the end of a URI. -/
def IsPlainName (name : List Char) : Prop := name ≠ [] ∧ ∀ c ∈ name, isReserved c = false

namespace IsPlainName

variable {name : List Char}

theorem isSegment (h : IsPlainName name) : IsSegment name := by
  intro c hc
  have hplain := h.2 c hc
  simp only [isReserved, List.contains_eq_mem, decide_eq_false_iff_not] at hplain
  refine ⟨?_, ?_, ?_⟩
  · cases hends : endsHost c with
    | false => rfl
    | true =>
      refine absurd ?_ hplain
      have hmark : c = '/' ∨ c = '?' ∨ c = '#' := by simpa [endsHost, or_assoc] using hends
      rcases hmark with rfl | rfl | rfl <;> decide
  · rintro rfl
    exact hplain (by decide)
  · cases hdropped : isDropped c with
    | false => rfl
    | true =>
      refine absurd ?_ hplain
      have hmark : c = '\t' ∨ c = '\r' ∨ c = '\n' := by
        simpa [isDropped, or_assoc] using hdropped
      rcases hmark with rfl | rfl | rfl <;> decide

theorem percent_notMem (h : IsPlainName name) : '%' ∉ name := fun hc =>
  absurd (h.2 _ hc) (by decide)

end IsPlainName

/-- Appending a name keeps the path up to slashes at its end, so that the name is the last
segment. -/
theorem trimmedPath_append (u : Uri) {name : List Char} (h : IsPlainName name) :
    (u.append name).trimmedPath = u.trimmedPath ++ '/' :: name :=
  dropSlashes_append_cons u.trimmedPath h.1 h.isSegment.notMem.1

theorem lastSegment_append (u : Uri) {name : List Char} (h : IsPlainName name) :
    (u.append name).lastSegment = name := by
  rw [lastSegment, trimmedPath_append u h, afterLast_append_cons _ h.isSegment.notMem.1]

end Uri

namespace StorageUri

/-- **A name makes URIs of a container from those of a service**, each location of which is that of
the service with the name at the end of its path. -/
theorem exists_appendPath {u : StorageUri} {name : String} (hu : make u.primary u.secondary = .ok u)
    (hweb : u.IsWeb) (hname : Uri.IsPlainName name.toList) :
    ∃ v, u.appendPath name = .ok v ∧ Below name.toList u.primary v.primary ∧
      Below name.toList u.secondary v.secondary := by
  have htext := hname.isSegment.isPathText
  obtain ⟨v, happend, -, -, hextends⟩ := exists_extends hu hweb htext
  rw [Uri.stripSlashes_eq_self hname.isSegment.notMem.1] at hextends
  exact ⟨v, happend, (hextends .primary).below htext, (hextends .secondary).below htext⟩

/-- The name is read from the URIs of the container again. -/
theorem containerName_of_below {u v : StorageUri} {name : String}
    (hname : Uri.IsPlainName name.toList) (hprimary : Below name.toList u.primary v.primary)
    (hsecondary : Below name.toList u.secondary v.secondary)
    (hset : u.primary.isSome = true ∨ u.secondary.isSome = true) :
    v.containerName = .ok name := by
  have hfound : ∀ {parts : Uri} {below : String},
      Uri.parse below.toList = .ok (parts.append name.toList) → v.naming = some below →
        v.containerName = .ok name := by
    intro parts below hread hnaming
    simp only [containerName, hnaming, hread, Uri.lastSegment_append parts hname,
      Uri.percentDecode_eq_self hname.percent_notMem, String.ofList_toList]
  rcases hprimary with ⟨hnone, hnone'⟩ | ⟨uri, parts, below, -, -, hplace, hbelow, hread⟩
  · rcases hsecondary with ⟨hnone'', -⟩ | ⟨uri, parts, below, -, -, -, hbelow, hread⟩
    · rw [hnone, hnone''] at hset
      simp at hset
    · exact hfound hread (by rw [naming, hnone', hbelow])
  · refine hfound hread ?_
    have hne : below.isEmpty = false := by
      rw [Bool.eq_false_iff]
      intro hempty
      rw [String.isEmpty_iff.1 hempty] at hread
      obtain ⟨⟨p, hp⟩, -⟩ := hplace
      have hscheme : ([] : List Char) = p.word.toList :=
        (congrArg Uri.scheme (Except.ok.inj hread)).trans hp
      cases p <;> simp [Protocol.word] at hscheme
    rw [naming, hbelow]
    simp [hne]

end StorageUri

namespace Uri

/-- Whether a character is a plain one of host names. -/
def isHostNameChar (c : Char) : Bool := c.isAlphanum || c == '-' || c == '.'

theorem toNat_lt_of_isHostNameChar {c : Char} (h : isHostNameChar c = true) : c.toNat < 0x80 := by
  have hsmall : ∀ high : Char, c.val ≤ high.val → high.toNat < 0x80 → c.toNat < 0x80 :=
    fun _ hle hhigh => Nat.lt_of_le_of_lt hle hhigh
  simp only [isHostNameChar, Char.isAlphanum, Bool.or_eq_true, beq_iff_eq] at h
  rcases h with ((hletter | hdigit) | rfl) | rfl
  · rcases Bool.or_eq_true_iff.1 hletter with hupper | hlower
    · exact hsmall 'Z' (of_decide_eq_true hupper).2 (by decide)
    · exact hsmall 'z' (of_decide_eq_true (Bool.and_eq_true_iff.1 hlower).2) (by decide)
  · exact hsmall '9' (of_decide_eq_true (Bool.and_eq_true_iff.1 hdigit).2) (by decide)
  · decide
  · decide

theorem endsHost_of_isHostNameChar {c : Char} (h : isHostNameChar c = true) :
    endsHost c = false := by
  cases hends : endsHost c with
  | false => rfl
  | true =>
    have hmark : c = '/' ∨ c = '?' ∨ c = '#' := by simpa [endsHost, or_assoc] using hends
    rcases hmark with rfl | rfl | rfl <;> exact absurd h (by decide)

/-- A network location of plain characters can be used. -/
theorem isHost_of_forall {host : List Char} (h : ∀ c ∈ host, isHostNameChar c = true) :
    IsHost host := by
  constructor
  · have hbracket : '[' ∉ host ∧ ']' ∉ host :=
      ⟨fun hc => absurd (h _ hc) (by decide), fun hc => absurd (h _ hc) (by decide)⟩
    simp [bracketsPair, hbracket]
  · rw [hasDisguise, List.any_eq_false]
    intro c hc
    have hsmall := toNat_lt_of_isHostNameChar (h c hc)
    have hlarge : ∀ n ∈ disguisedSeparators, 0x80 ≤ n := by decide
    simp only [List.contains_eq_mem, decide_eq_true_eq]
    exact fun hmem => absurd (hlarge _ hmem) (by omega)

end Uri

namespace Settings

theorem hostUri_ne (account : AccountSettings) {host other : String}
    (h : host.length ≠ other.length) : hostUri account host ≠ hostUri account other := by
  intro heq
  have hlength := congrArg (fun s : String => s.toList.length) heq
  simp only [toList_hostUri, List.length_append, List.length_cons, String.length_toList] at hlength
  omega

/-- Without endpoints, an account whose name and suffix are plain has two hosts that agree. -/
theorem exists_serviceUri {s : Settings} (hp : given s.account.primaryEndpoint = none)
    (hs : given s.account.secondaryEndpoint = none)
    (hplain : ∀ c ∈ s.account.name.toList ++ s.account.endpointSuffix.toList,
      Uri.isHostNameChar c = true) :
    ∃ primary secondary, s.serviceUri = .ok ⟨some primary, some secondary⟩ ∧
      primary ≠ secondary := by
  obtain ⟨hname, hsuffix⟩ := List.forall_mem_append.1 hplain
  have huris : s.account.uris = ⟨some (hostUri s.account s.account.name),
      some (hostUri s.account (s.account.name ++ "-secondary"))⟩ := by
    rw [AccountSettings.uris, hp, hs]
  have hblob : ∀ c ∈ ".blob.".toList, Uri.isHostNameChar c = true :=
    List.all_eq_true.1 (by decide)
  have hcoherent : s.account.uris.Coherent := by
    rw [coherent_uris_iff hp hs fun c hc => Uri.endsHost_of_isHostNameChar (hname c hc),
      toList_hostUri, Uri.parse_protocol, Uri.exists_located_iff]
    refine Uri.isHost_of_forall fun c hc => ?_
    have hmem := (List.mem_filter.1 ((List.takeWhile_prefix _).subset hc)).1
    rw [String.toList_append, List.mem_append, List.mem_append] at hmem
    rcases hmem with hmem | hmem | hmem
    · exact hname c hmem
    · exact hblob c hmem
    · exact hsuffix c hmem
  refine ⟨_, _, serviceUri_eq_ok_iff.2 ⟨huris.symm, hcoherent⟩, hostUri_ne s.account ?_⟩
  simp

/-- **The name of a container is read from its URIs again.** Where a service has URIs and they lead
to places on the web, so has a container with a plain name: each location of the service with the
name at the end of its path. The name that is read from them is the container's.

Without endpoints, an account whose name and suffix are plain always has URIs, two different ones,
so that every mode can be served. -/
theorem containerName_containerUri (s : Settings) :
    (∀ (u : StorageUri) (name : String), s.serviceUri = .ok u → u.IsWeb →
      Uri.IsPlainName name.toList →
      ∃ v, s.containerUri name = .ok v ∧
        (∀ location, StorageUri.Below name.toList (u.get? location) (v.get? location)) ∧
        v.containerName = .ok name) ∧
    (given s.account.primaryEndpoint = none → given s.account.secondaryEndpoint = none →
      (∀ c ∈ s.account.name.toList ++ s.account.endpointSuffix.toList,
        Uri.isHostNameChar c = true) →
      ∃ primary secondary, s.serviceUri = .ok ⟨some primary, some secondary⟩ ∧
        primary ≠ secondary ∧
        ∀ mode, StorageUri.canServe ⟨some primary, some secondary⟩ mode = true) := by
  constructor
  · intro u name hu hweb hname
    obtain rfl := (serviceUri_eq_ok_iff.1 hu).1
    have hmake := s.serviceUri_eq_make.symm.trans hu
    obtain ⟨v, happend, hprimary, hsecondary⟩ := StorageUri.exists_appendPath hmake hweb hname
    refine ⟨v, ?_, ?_, ?_⟩
    · rw [containerUri, hu]
      exact happend
    · rintro (_ | _)
      · exact hprimary
      · exact hsecondary
    · exact StorageUri.containerName_of_below hname hprimary hsecondary
        (StorageUri.make_eq_ok_iff.1 hmake).2.1
  · intro hp hs hplain
    obtain ⟨primary, secondary, hu, hne⟩ := exists_serviceUri hp hs hplain
    exact ⟨primary, secondary, hu, hne, fun mode => by cases mode <;> rfl⟩

/-- Settings with endpoints. -/
def endpointSettings : Settings where
  account :=
    { primaryEndpoint := StorageUri.someEndpoints.primary
      secondaryEndpoint := StorageUri.someEndpoints.secondary }

theorem containerName_containerUri_endpointSettings :
    (endpointSettings.serviceUri = .ok StorageUri.someEndpoints ∧ StorageUri.someEndpoints.IsWeb ∧
      Uri.IsPlainName "ä b".toList ∧
      ∃ v, endpointSettings.containerUri "ä b" = .ok v ∧ v.containerName = .ok "ä b") ∧
      ∃ primary secondary, serviceUri {} = .ok ⟨some primary, some secondary⟩ ∧
        primary ≠ secondary := by
  have hservice : endpointSettings.serviceUri = .ok StorageUri.someEndpoints :=
    eq_ok_of_toOption (by decide +kernel)
  have hopen : "ä b".toList.any Uri.isReserved = false := by decide
  have hplain : Uri.IsPlainName "ä b".toList :=
    ⟨by decide, fun c hc => by simpa using List.any_eq_false.1 hopen c hc⟩
  constructor
  · obtain ⟨v, hv, -, hname⟩ := (containerName_containerUri endpointSettings).1
      StorageUri.someEndpoints "ä b" hservice StorageUri.isWeb_someEndpoints hplain
    exact ⟨hservice, StorageUri.isWeb_someEndpoints, hplain, v, hv, hname⟩
  · obtain ⟨primary, secondary, hu, hne, -⟩ :=
      (containerName_containerUri {}).2 rfl rfl (List.all_eq_true.1 (by decide))
    exact ⟨primary, secondary, hu, hne⟩

end Settings

end StorageReply
