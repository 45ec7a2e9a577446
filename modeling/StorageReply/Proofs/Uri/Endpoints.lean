import StorageReply.Config.Settings

/-!
# Endpoints of accounts

The URIs of a service are one or two endpoints that are given, or two hosts that are named after the
account. They can be used just when they agree: both can be read, and have the same path and query
(`serviceUri_eq_ok_iff`).

The two hosts of an account differ in what follows its name only, so that they agree as soon as the
first one can be read, unless the name itself ends the network location (`coherent_uris_iff`).
-/

namespace StorageReply

open Text

namespace Uri

/-- The reference whose scheme and network location are known, with the rest that follows them. -/
def located (scheme host rest : List Char) : Except TextFault Uri :=
  if !bracketsPair host then .error .unbalancedBrackets
  else
    let (rest, fragment) := splitMark '#' rest
    let (path, query) := splitMark '?' rest
    if hasDisguise host then .error (.disguisedSeparator (String.ofList host))
    else
      let (path, params) :=
        if paramSchemes.contains (String.ofList scheme) then splitParams path else (path, [])
      .ok ⟨scheme, host, path, params, query, fragment⟩

/-- A network location that can be used. -/
def IsHost (host : List Char) : Prop := bracketsPair host = true ∧ hasDisguise host = false

theorem exists_located_iff {scheme host rest : List Char} :
    (∃ u, located scheme host rest = .ok u) ↔ IsHost host := by
  unfold located IsHost
  cases bracketsPair host <;> cases hasDisguise host <;> simp

/-- What follows the network location does not depend on it. -/
theorem located_rest {scheme host other rest : List Char} {u v : Uri}
    (hu : located scheme host rest = .ok u) (hv : located scheme other rest = .ok v) :
    v.path = u.path ∧ v.query = u.query := by
  obtain ⟨hpair, hplain⟩ := exists_located_iff.1 ⟨u, hu⟩
  obtain ⟨hpair', hplain'⟩ := exists_located_iff.1 ⟨v, hv⟩
  simp only [located, hpair, hplain, hpair', hplain', Bool.not_true, Bool.false_eq_true, if_false,
    Except.ok.injEq] at hu hv
  subst hu hv
  exact ⟨rfl, rfl⟩

theorem parse_protocol (p : Protocol) (s : List Char) :
    parse (p.word.toList ++ ':' :: '/' :: '/' :: s) =
      located p.word.toList ((s.filter (!isDropped ·)).takeWhile (!endsHost ·))
        ((s.filter (!isDropped ·)).dropWhile (!endsHost ·)) := by
  cases p <;> rfl

/-- A text without brackets and disguises in a network location does not matter. -/
theorem isHost_append_iff {before between after : List Char} (hopen : '[' ∉ between)
    (hclose : ']' ∉ between) (hplain : hasDisguise between = false) :
    IsHost (before ++ between ++ after) ↔ IsHost (before ++ after) := by
  have hdisguise : hasDisguise (before ++ between ++ after) = hasDisguise (before ++ after) := by
    rw [hasDisguise] at hplain
    simp only [hasDisguise, List.any_append, hplain, Bool.or_false]
  have hpair : bracketsPair (before ++ between ++ after) = bracketsPair (before ++ after) := by
    simp only [bracketsPair, List.contains_eq_mem, List.mem_append, hopen, hclose, or_false]
  rw [IsHost, hdisguise, hpair, IsHost]

end Uri

namespace StorageUri

/-- Where both URIs are set, they can be read and address the same resource. -/
def Coherent (u : StorageUri) : Prop :=
  ∀ p s, u.primary = some p → u.secondary = some s →
    ∃ a b, Uri.parse p.toList = .ok a ∧ Uri.parse s.toList = .ok b ∧ sameResource a b = true

/-- A storage URI is made just when at least one URI is set, and they agree if both are. -/
theorem make_eq_ok_iff {p s : Option String} {u : StorageUri} :
    make p s = .ok u ↔
      u = ⟨p, s⟩ ∧ (p.isSome = true ∨ s.isSome = true) ∧ (⟨p, s⟩ : StorageUri).Coherent := by
  have hpair : make p s = .ok ⟨p, s⟩ ↔
      (p.isSome = true ∨ s.isSome = true) ∧ (⟨p, s⟩ : StorageUri).Coherent := by
    cases p with
    | none => cases s <;> simp [make, check, Coherent]
    | some p =>
      cases s with
      | none => simp [make, check, Coherent]
      | some s =>
        cases hp : Uri.parse p.toList with
        | error fault => simp [make, check, Coherent, hp]
        | ok a =>
          cases hs : Uri.parse s.toList with
          | error fault => simp [make, check, Coherent, hp, hs]
          | ok b => cases hsame : sameResource a b <;> simp [make, check, Coherent, hp, hs, hsame]
  rw [← hpair]
  constructor
  · intro h
    obtain rfl := make_eq_ok h
    exact ⟨rfl, h⟩
  · rintro ⟨rfl, h⟩
    exact h

end StorageUri

/-- The URIs of the service of an account, whether they can be used or not. -/
def AccountSettings.uris (account : AccountSettings) : StorageUri :=
  match Settings.given account.primaryEndpoint, Settings.given account.secondaryEndpoint with
  | none, none =>
    ⟨some (Settings.hostUri account account.name),
      some (Settings.hostUri account (account.name ++ "-secondary"))⟩
  | primary, secondary => ⟨primary.map Settings.trimmed, secondary.map Settings.trimmed⟩

namespace Settings

/-- The URIs of the service are those of the account, checked. -/
theorem serviceUri_eq_make (s : Settings) :
    s.serviceUri = StorageUri.make s.account.uris.primary s.account.uris.secondary := by
  rw [serviceUri, AccountSettings.uris]
  cases given s.account.primaryEndpoint <;> cases given s.account.secondaryEndpoint <;> rfl

/-- The service has URIs just when those of the account agree. -/
theorem serviceUri_eq_ok_iff {s : Settings} {u : StorageUri} :
    s.serviceUri = .ok u ↔ u = s.account.uris ∧ s.account.uris.Coherent := by
  have hset : s.account.uris.primary.isSome = true ∨ s.account.uris.secondary.isSome = true := by
    rw [AccountSettings.uris]
    cases given s.account.primaryEndpoint <;> cases given s.account.secondaryEndpoint <;> simp
  rw [serviceUri_eq_make, StorageUri.make_eq_ok_iff]
  exact and_congr_right fun _ => and_iff_right hset

theorem toList_hostUri (account : AccountSettings) (host : String) :
    (hostUri account host).toList =
      account.protocol.word.toList ++ ':' :: '/' :: '/' ::
        (host.toList ++ (".blob." ++ account.endpointSuffix).toList) := by
  simp [hostUri, String.toList_append]

/-- Where the name of an account does not end the network location, the two hosts that are named
after it agree as soon as the first one can be read. -/
theorem coherent_uris_iff {account : AccountSettings} (hp : given account.primaryEndpoint = none)
    (hs : given account.secondaryEndpoint = none)
    (hname : ∀ c ∈ account.name.toList, Uri.endsHost c = false) :
    account.uris.Coherent ↔ ∃ u, Uri.parse (hostUri account account.name).toList = .ok u := by
  generalize htail : (".blob." ++ account.endpointSuffix).toList.filter (!Uri.isDropped ·) = tail
  have hparse : ∀ host : String, (∀ c ∈ host.toList, Uri.endsHost c = false) →
      Uri.parse (hostUri account host).toList =
        Uri.located account.protocol.word.toList
          (host.toList.filter (!Uri.isDropped ·) ++ tail.takeWhile (!Uri.endsHost ·))
          (tail.dropWhile (!Uri.endsHost ·)) := by
    intro host hhost
    have hkept : ∀ c ∈ host.toList.filter (!Uri.isDropped ·), (!Uri.endsHost c) = true := by
      intro c hc
      rw [hhost c ((List.mem_filter.1 hc).1)]
      rfl
    rw [toList_hostUri, Uri.parse_protocol, List.filter_append, htail,
      List.takeWhile_append_of_pos hkept, List.dropWhile_append_of_pos hkept]
  have hsecondary : (account.name ++ "-secondary").toList =
      account.name.toList ++ "-secondary".toList := String.toList_append
  have hboth : ∀ c ∈ (account.name ++ "-secondary").toList, Uri.endsHost c = false := by
    have hending : "-secondary".toList.all (!Uri.endsHost ·) = true := by decide
    intro c hc
    rw [hsecondary, List.mem_append] at hc
    refine hc.elim (hname c) fun hc => ?_
    simpa using List.all_eq_true.1 hending c hc
  have huris : account.uris = ⟨some (hostUri account account.name),
      some (hostUri account (account.name ++ "-secondary"))⟩ := by
    rw [AccountSettings.uris, hp, hs]
  rw [huris]
  constructor
  · intro h
    obtain ⟨a, -, ha, -⟩ := h _ _ rfl rfl
    exact ⟨a, ha⟩
  · rintro ⟨a, ha⟩ p s hp hs
    obtain rfl := Option.some.inj hp
    obtain rfl := Option.some.inj hs
    have hparsed := ha
    rw [hparse _ hname] at ha
    have hhost := Uri.exists_located_iff.1 ⟨a, ha⟩
    have hother : Uri.IsHost
        ((account.name ++ "-secondary").toList.filter (!Uri.isDropped ·)
          ++ tail.takeWhile (!Uri.endsHost ·)) := by
      rw [hsecondary, List.filter_append]
      exact (Uri.isHost_append_iff (by decide) (by decide) (by decide)).2 hhost
    obtain ⟨b, hb⟩ := Uri.exists_located_iff.2 hother
    obtain ⟨hpath, hquery⟩ := Uri.located_rest ha hb
    refine ⟨a, b, hparsed, (hparse _ hboth).trans hb, ?_⟩
    simp [StorageUri.sameResource, Uri.trimmedPath, hpath, hquery]

end Settings

end StorageReply
