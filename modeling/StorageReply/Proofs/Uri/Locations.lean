import StorageReply.Proofs.Uri.Endpoints

/-!
# Names from either location

The name of a container is the last segment of the path of one of its URIs. Which of the two is
asked does not matter where both are set, for their paths agree up to the slashes at their ends
(`StorageUri.endName_eq_of_readsAs`); so the locations can be exchanged
(`StorageUri.containerName_of_make`).

An empty primary URI is passed over as if it were not set. Where it is the only one that is set,
there is nothing left to ask, and the name cannot be told (`StorageUri.containerName_nameless`).
-/

namespace StorageReply

/-- The name at the end of the path of a reference. -/
def Uri.endName (parts : Uri) : String := String.ofList (Uri.percentDecode parts.lastSegment)

namespace StorageUri

variable {u : StorageUri} {location : StorageLocation} {parts : Uri}

/-- The URI at a location is set, and reads as a reference. -/
def ReadsAs (u : StorageUri) (location : StorageLocation) (parts : Uri) : Prop :=
  ∃ uri, u.get? location = some uri ∧ Uri.parse uri.toList = .ok parts

/-- Each URI that is set can be read. -/
def Readable (u : StorageUri) : Prop :=
  ∀ location, (u.get? location).isSome = true → ∃ parts, u.ReadsAs location parts

/-- The URIs with their locations exchanged. -/
def exchanged (u : StorageUri) : StorageUri := ⟨u.secondary, u.primary⟩

/-- The storage URI whose only URI is an empty primary one. -/
def nameless : StorageUri := ⟨some "", none⟩

/-! ## The location that is asked -/

/-- A URI that is set is asked for the name, except that of `nameless`. -/
theorem exists_naming (hset : u.primary.isSome = true ∨ u.secondary.isSome = true)
    (hne : u ≠ nameless) : ∃ location uri, u.get? location = some uri ∧ u.naming = some uri := by
  obtain ⟨_ | p, _ | s⟩ := u
  · simp at hset
  · exact ⟨.secondary, s, rfl, rfl⟩
  · have hp : p.isEmpty = false := by
      rw [Bool.eq_false_iff]
      intro hempty
      rw [String.isEmpty_iff.1 hempty] at hne
      exact hne rfl
    exact ⟨.primary, p, rfl, by simp [naming, hp]⟩
  · cases hp : p.isEmpty with
    | true => exact ⟨.secondary, s, rfl, by simp [naming, hp]⟩
    | false => exact ⟨.primary, p, rfl, by simp [naming, hp]⟩

theorem containerName_of_naming {uri : String} (hnaming : u.naming = some uri)
    (hparts : Uri.parse uri.toList = .ok parts) : u.containerName = .ok parts.endName := by
  simp only [containerName, hnaming, hparts, Uri.endName]

theorem containerName_nameless : nameless.containerName = .error .wrongKind := rfl

/-! ## Both locations -/

theorem ReadsAs.unique {other : Uri} (h : u.ReadsAs location parts)
    (h' : u.ReadsAs location other) : parts = other := by
  obtain ⟨uri, huri, hparts⟩ := h
  obtain ⟨uri', huri', hother⟩ := h'
  obtain rfl := Option.some.inj (huri.symm.trans huri')
  exact Except.ok.inj (hparts.symm.trans hother)

theorem endName_eq_of_sameResource {a b : Uri} (h : sameResource a b = true) :
    a.endName = b.endName := by
  simp only [sameResource, Bool.and_eq_true, beq_iff_eq] at h
  rw [Uri.endName, Uri.lastSegment, h.1, Uri.endName, Uri.lastSegment]

/-- The two URIs of a resource end in one name. -/
theorem endName_eq_of_readsAs (hu : u.Coherent) {other : StorageLocation} {parts' : Uri}
    (h : u.ReadsAs location parts) (h' : u.ReadsAs other parts') :
    parts.endName = parts'.endName := by
  have hboth : ∀ {a b : Uri}, u.ReadsAs .primary a → u.ReadsAs .secondary b →
      a.endName = b.endName := by
    rintro a b ⟨p, hp, ha⟩ ⟨s, hs, hb⟩
    obtain ⟨a', b', ha', hb', hsame⟩ := hu p s hp hs
    obtain rfl := Except.ok.inj (ha.symm.trans ha')
    obtain rfl := Except.ok.inj (hb.symm.trans hb')
    exact endName_eq_of_sameResource hsame
  cases location <;> cases other
  · rw [h.unique h']
  · exact hboth h h'
  · exact (hboth h' h).symm
  · rw [h.unique h']

theorem sameResource_comm (a b : Uri) : sameResource a b = sameResource b a := by
  simp only [sameResource, Bool.beq_comm (a := a.trimmedPath), Bool.beq_comm (a := a.query)]

theorem Coherent.exchanged (h : u.Coherent) : u.exchanged.Coherent := by
  intro p s hp hs
  obtain ⟨a, b, ha, hb, hsame⟩ := h s p hs hp
  exact ⟨b, a, hb, ha, (sameResource_comm b a).trans hsame⟩

theorem Readable.exchanged (h : u.Readable) : u.exchanged.Readable := by
  rintro (_ | _) hset
  · exact h .secondary hset
  · exact h .primary hset

/-! ## Names -/

/-- A storage URI has the name that each of its URIs ends in. -/
theorem exists_containerName (hset : u.primary.isSome = true ∨ u.secondary.isSome = true)
    (hu : u.Coherent) (hread : u.Readable) (hne : u ≠ nameless) :
    ∃ name, u.containerName = .ok name ∧
      ∀ location parts, u.ReadsAs location parts → parts.endName = name := by
  obtain ⟨location, uri, huri, hnaming⟩ := exists_naming hset hne
  obtain ⟨parts, hreads⟩ := hread location (by rw [huri]; rfl)
  have hparts : Uri.parse uri.toList = .ok parts := by
    obtain ⟨uri', huri', hparts⟩ := hreads
    rwa [Option.some.inj (huri.symm.trans huri')]
  exact ⟨parts.endName, containerName_of_naming hnaming hparts,
    fun _ _ hreads' => endName_eq_of_readsAs hu hreads' hreads⟩

/-- **The name of a container can be told from either location.** Where the URIs of a storage URI
can be read, it has the name that each of them ends in, unless an empty primary URI is all that is
set. Where both are set, they make a storage URI with the locations exchanged as well, and that has
the same name. -/
theorem containerName_of_make (hu : make u.primary u.secondary = .ok u) (hread : u.Readable) :
    (u ≠ nameless → ∃ name, u.containerName = .ok name ∧
      ∀ location parts, u.ReadsAs location parts → parts.endName = name) ∧
    (u = nameless → u.containerName = .error .wrongKind) ∧
    (u.primary.isSome = true → u.secondary.isSome = true →
      make u.secondary u.primary = .ok u.exchanged ∧
        u.exchanged.containerName = u.containerName) := by
  obtain ⟨-, hset, hcoherent⟩ := make_eq_ok_iff.1 hu
  refine ⟨exists_containerName hset hcoherent hread, ?_, fun hp hs => ⟨?_, ?_⟩⟩
  · rintro rfl
    exact containerName_nameless
  · exact make_eq_ok_iff.2 ⟨rfl, hset.symm, hcoherent.exchanged⟩
  · have hne : ∀ {v : StorageUri}, v.secondary.isSome = true → v ≠ nameless := by
      rintro v hv rfl
      cases hv
    obtain ⟨name, hname, hends⟩ := exists_containerName hset hcoherent hread (hne hs)
    obtain ⟨name', hname', hends'⟩ :=
      exists_containerName (u := u.exchanged) hset.symm hcoherent.exchanged hread.exchanged (hne hp)
    obtain ⟨parts, hreads⟩ := hread .primary hp
    rw [hname, hname', ← hends .primary parts hreads, ← hends' .secondary parts hreads]

/-- Two URIs of a container, the second one relative, with another host, parameters, slashes and a
fragment. -/
def unlikeUris : StorageUri where
  primary := some "HTTP://one.example/a/%E4%B8%AD;p?q#f"
  secondary := some "/a/%E4%B8%AD//?q"

theorem containerName_of_make_unlikeUris :
    make unlikeUris.primary unlikeUris.secondary = .ok unlikeUris ∧ unlikeUris.Readable ∧
      unlikeUris ≠ nameless ∧ unlikeUris.containerName = .ok "中" ∧
      make unlikeUris.secondary unlikeUris.primary = .ok unlikeUris.exchanged ∧
      unlikeUris.exchanged.containerName = .ok "中" := by
  have hmake : make unlikeUris.primary unlikeUris.secondary = .ok unlikeUris :=
    eq_ok_of_toOption (by decide)
  have hprimary : unlikeUris.ReadsAs .primary ⟨"http".toList, "one.example".toList,
      "/a/%E4%B8%AD".toList, "p".toList, "q".toList, "f".toList⟩ :=
    ⟨_, rfl, eq_ok_of_toOption (by decide)⟩
  have hsecondary : unlikeUris.ReadsAs .secondary ⟨[], [], "/a/%E4%B8%AD//".toList, [],
      "q".toList, []⟩ := ⟨_, rfl, eq_ok_of_toOption (by decide)⟩
  have hread : unlikeUris.Readable := by
    rintro (_ | _) -
    · exact ⟨_, hprimary⟩
    · exact ⟨_, hsecondary⟩
  have hne : unlikeUris ≠ nameless := by decide
  obtain ⟨hnamed, -, hswap⟩ := containerName_of_make hmake hread
  obtain ⟨name, hname, hends⟩ := hnamed hne
  obtain rfl : "中" = name := (by decide : _ = "中").symm.trans (hends _ _ hsecondary)
  obtain ⟨hexchanged, hsame⟩ := hswap rfl rfl
  exact ⟨hmake, hread, hne, hname, hexchanged, hsame.trans hname⟩

/-- Not every storage URI that can be made and read has a name. -/
theorem containerName_not_total :
    ¬∀ u : StorageUri, make u.primary u.secondary = .ok u → u.Readable →
      ∃ name, u.containerName = .ok name := by
  intro h
  have hread : nameless.Readable := by
    rintro (_ | _) hset
    · exact ⟨⟨[], [], [], [], [], []⟩, "", rfl, rfl⟩
    · cases hset
  obtain ⟨name, hname⟩ := h nameless rfl hread
  rw [containerName_nameless] at hname
  cases hname

end StorageUri

end StorageReply
