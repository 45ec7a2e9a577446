import StorageReply.Proofs.Service.Edits
import StorageReply.Xml.Encoding

/-!
# Documents of service properties

Settings that are written and read again. Writing and reading normalise settings, and turn the line
breaks in their strings into line feeds; nothing else happens to them.

* `ServiceProperties.read_document`: the settings in a written document.
* `ServiceProperties.read_write`: settings without carriage returns come back normalised, each field
  by itself.
* `ServiceProperties.read_write_of_read`: settings that were read come back with their line breaks
  unified, so they come back just when they have no carriage return.
-/

namespace StorageReply

open Number Text Xml

namespace ServiceProperties

/-! ## Reading what was written -/

/-- What stands between the opening of the declaration and its end. -/
theorem body?_declaration :
    Declaration.body? " version=\"1.0\" encoding=\"utf-8\"".toList =
      some ⟨some "utf-8".toList, false⟩ := by
  decide +kernel

theorem read?_declaration (s : List Char) :
    Declaration.read? (declaration.toList ++ s) = some (some ⟨some "utf-8".toList, false⟩, s) := by
  have hblank : isXmlBlank ' ' = true := by decide
  have hchars : " version=\"1.0\" encoding=\"utf-8\"".toList.all isXmlChar = true := by
    decide +kernel
  have hbody := body?_declaration
  simp only [String.reduceToList, List.all_eq_true] at hchars hbody
  have hlist : declaration.toList =
      "<?xml".toList ++ (" version=\"1.0\" encoding=\"utf-8\"".toList ++ "?>".toList) := by
    decide +kernel
  simp [Declaration.read?, hlist, after?, cutAt?, hblank, hbody, hchars]

@[simp] theorem integers_mapTexts (f : String → String) (p : ServiceProperties) :
    (p.mapTexts f).integers = p.integers := by
  simp [integers, mapTexts, Function.comp_def, LoggingProperties.mapTexts,
    MetricsProperties.mapTexts, CorsRule.mapTexts]

theorem write_eq_ok {p : ServiceProperties} (h : ∀ i ∈ p.integers, hasNumeral i = true) :
    p.write = .ok p.document := by
  rw [write, if_pos (List.all_eq_true.2 h)]

theorem root_document {p : ServiceProperties} (h : p.Legible) :
    (Source.text p.document).root = .ok (p.mapTexts unifyBreaks).toElement := by
  have hheader : '\r' ∉ declaration.toList := by decide +kernel
  have hparse := parse?_writeElement hheader (fun s => ⟨_, read?_declaration s⟩)
    (plain_toElement h) rfl
  have hlist : p.document.toList = declaration.toList ++ writeElement p.toElement := by
    simp [document, Element.write]
  have hmark : ∀ rest, p.document.toList ≠ '\uFEFF' :: rest := by
    intro rest hrest
    rw [hlist] at hrest
    exact absurd (List.cons.inj hrest).1 (by decide)
  rw [Source.root, Document.ofText]
  split
  · rename_i rest hrest
    exact absurd hrest (hmark rest)
  · rw [Document.ofChars, hlist, Option.bind_some, hparse, mapText_toElement]

/-- **The settings in a written document** are those that were written, with their line breaks
unified, as far as a document keeps them. -/
theorem read_document {p : ServiceProperties} (hlegible : p.Legible)
    (hintegers : ∀ i ∈ p.integers, hasNumeral i = true) :
    (Source.text p.document).read ofElement = .ok (p.mapTexts unifyBreaks).normalized := by
  have hread := ofElement_toElement (p := p.mapTexts unifyBreaks) (by simpa using hintegers)
  rw [Source.read, root_document hlegible]
  exact hread

theorem mapTexts_unifyBreaks_eq_self_iff {p : ServiceProperties} :
    p.mapTexts unifyBreaks = p ↔ ∀ s ∈ p.texts, '\r' ∉ s.toList := by
  simp only [mapTexts_eq_self_iff, unifyBreaks_eq_self_iff]

/-- Without carriage returns, writing and reading normalise settings and do nothing else. -/
theorem read_document_of_notMem {p : ServiceProperties} (hlegible : p.Legible)
    (hbreaks : ∀ s ∈ p.texts, '\r' ∉ s.toList) (hintegers : ∀ i ∈ p.integers, hasNumeral i = true) :
    (Source.text p.document).read ofElement = .ok p.normalized := by
  rw [read_document hlegible hintegers, mapTexts_unifyBreaks_eq_self_iff.2 hbreaks]

/-- **Settings that are written come back normalised.** If their strings consist of characters of
documents other than the carriage return and their integers have numerals, settings can be written,
and what is read again is what is kept of them. So they come back as they were just when all of them
is kept. And strings put into one field make no difference to another: reading changed settings
again gives what is kept of the settings, with what is kept of the change made in it. -/
theorem read_write (p : ServiceProperties) (hlegible : p.Legible)
    (hbreaks : ∀ s ∈ p.texts, '\r' ∉ s.toList) (hintegers : ∀ i ∈ p.integers, hasNumeral i = true) :
    ∃ text, p.write = .ok text ∧
      (Source.text text).read ofElement = .ok p.normalized ∧
      ((Source.text text).read ofElement = .ok p ↔ p.normalized = p) ∧
      ∀ edit : TextEdit, (∀ s ∈ edit.texts, LegibleText s.toList ∧ '\r' ∉ s.toList) →
        ∃ changed, (edit.apply p).write = .ok changed ∧
          (Source.text changed).read ofElement = .ok (edit.normalized.apply p.normalized) := by
  have hread := read_document_of_notMem hlegible hbreaks hintegers
  refine ⟨p.document, write_eq_ok hintegers, hread, ?_, ?_⟩
  · rw [hread]
    exact ⟨Except.ok.inj, congrArg Except.ok⟩
  · intro edit hedit
    have hchanged : ∀ i ∈ (edit.apply p).integers, hasNumeral i = true := by simpa using hintegers
    have hlegible' : (edit.apply p).Legible :=
      TextEdit.forall_mem_texts_apply (fun s hs => (hedit s hs).1) hlegible
    have hbreaks' : ∀ s ∈ (edit.apply p).texts, '\r' ∉ s.toList :=
      TextEdit.forall_mem_texts_apply (fun s hs => (hedit s hs).2) hbreaks
    refine ⟨(edit.apply p).document, write_eq_ok hchanged, ?_⟩
    rw [read_document_of_notMem hlegible' hbreaks' hchanged, TextEdit.normalized_apply]

/-- Settings with markup, commas and blanks in their strings, and with a version of logging that
looks like the end of its element. -/
theorem read_write_markup :
    ∃ text changed,
      ServiceProperties.write
        { logging := some { version := " 1.0&amp; ", delete := true }
          cors := some [{ allowedMethods := ["GET, PUT", " "], maxAgeInSeconds := -5 }] } =
            .ok text ∧
      (Source.text text).read ofElement = .ok
        { logging := some { version := "1.0&amp;", delete := true }
          cors := some [{ allowedMethods := ["GET", "PUT"], maxAgeInSeconds := -5 }] } ∧
      ServiceProperties.write
        { logging := some { version := "</Version>", delete := true }
          cors := some [{ allowedMethods := ["GET, PUT", " "], maxAgeInSeconds := -5 }] }
        = .ok changed ∧
      (Source.text changed).read ofElement = .ok
        { logging := some { version := "</Version>", delete := true }
          cors := some [{ allowedMethods := ["GET", "PUT"], maxAgeInSeconds := -5 }] } := by
  obtain ⟨text, hwrite, hread, -, hedit⟩ := read_write
    { logging := some { version := " 1.0&amp; ", delete := true }
      cors := some [{ allowedMethods := ["GET, PUT", " "], maxAgeInSeconds := -5 }] }
    (by decide +kernel) (by decide +kernel) (by decide +kernel)
  obtain ⟨changed, hwrite', hread'⟩ := hedit (.loggingVersion "</Version>") (by decide +kernel)
  refine ⟨text, changed, hwrite, hread.trans (congrArg _ (by decide +kernel)), hwrite',
    hread'.trans (congrArg _ (by decide +kernel))⟩

/-! ## Settings that were read -/

/-- **Settings that were read come back with their line breaks unified**, from whatever document
they were read. So they come back as they were just when none of their strings has a carriage
return, which a reference to its number can bring in. -/
theorem read_write_of_read {source : Source} {p : ServiceProperties}
    (h : source.read ofElement = .ok p) :
    ∃ text, p.write = .ok text ∧
      (Source.text text).read ofElement = .ok (p.mapTexts unifyBreaks) ∧
      ((Source.text text).read ofElement = .ok p ↔ ∀ s ∈ p.texts, '\r' ∉ s.toList) := by
  obtain ⟨root, hroot, h⟩ := bind_eq_ok_iff.1 h
  have hlegible := legible_of_ofElement (Source.legible_of_root hroot) h
  obtain ⟨hkept, hintegers⟩ := kept_of_ofElement h
  have hread := read_document hlegible hintegers
  rw [normalized_mapTexts hkept] at hread
  refine ⟨p.document, write_eq_ok hintegers, hread, ?_⟩
  rw [hread, ← mapTexts_unifyBreaks_eq_self_iff]
  exact ⟨Except.ok.inj, congrArg Except.ok⟩

/-- A document with a prefix and two references to a carriage return, of which one is stripped and
one comes back as a line feed. -/
theorem read_write_of_read_prefixed :
    (Source.text ("<s:StorageServiceProperties xmlns:s='u'><s:DefaultServiceVersion>&lt;&#13;b&#13;"
        ++ "</s:DefaultServiceVersion></s:StorageServiceProperties>")).read ofElement
      = .ok { defaultVersion := some "<\rb" } ∧
    ∃ text, ServiceProperties.write { defaultVersion := some "<\rb" } = .ok text ∧
      (Source.text text).read ofElement = .ok { defaultVersion := some "<\nb" } := by
  have h : (Source.text
      ("<s:StorageServiceProperties xmlns:s='u'><s:DefaultServiceVersion>&lt;&#13;b&#13;"
        ++ "</s:DefaultServiceVersion></s:StorageServiceProperties>")).read ofElement
      = .ok { defaultVersion := some "<\rb" } :=
    eq_ok_of_toOption (by decide +kernel)
  obtain ⟨text, hwrite, hread, -⟩ := read_write_of_read h
  exact ⟨h, text, hwrite, hread.trans (congrArg _ (by decide +kernel))⟩

/-- A reference to a carriage return inside a text: what was read does not come back. -/
theorem read_write_carriageReturn :
    (Source.text ("<StorageServiceProperties><DefaultServiceVersion>a&#13;b"
        ++ "</DefaultServiceVersion></StorageServiceProperties>")).read ofElement
      = .ok { defaultVersion := some "a\rb" } ∧
    ∃ text, ServiceProperties.write { defaultVersion := some "a\rb" } = .ok text ∧
      (Source.text text).read ofElement ≠ .ok { defaultVersion := some "a\rb" } := by
  refine ⟨eq_ok_of_toOption (by decide +kernel), _, write_eq_ok (by decide +kernel), ?_⟩
  rw [read_document (by decide +kernel) (by decide +kernel)]
  exact fun h => absurd (Except.ok.inj h) (by decide +kernel)

end ServiceProperties

end StorageReply
