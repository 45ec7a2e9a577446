import StorageReply.Headers.Readers
import StorageReply.Proofs.Headers.Views
import StorageReply.Proofs.Text.LowerCase

/-!
# The words of leases

Each facet of a lease has a word for every member but the unspecified one, and a header value names
the member whose word it spells (`Facet.Spells`): up to blanks around it, and with any of its
letters as capitals of ASCII or, for a letter k, as the Kelvin sign. What a reader answers to all
other values is told by `Facet.Answers`: a missing or empty one is unspecified, and any other is
refused as it came. `answers_parse_and_lease` says this of the three facets, for values by
themselves and for the headers of a reply.

The words are ASCII (`Facet.IsSpelled`), so that the lower form of a value need not be known where
it is something else (`Text.lower_eq_iff_of_ascii`).
-/

namespace StorageReply

open Text

namespace Facet

variable {α : Type}

/-- A text is a word up to the blanks around it and the case of its letters. -/
def Spells (text word : String) : Prop := (strip text.toList).map asciiForm = word.toList

instance (text word : String) : Decidable (Spells text word) :=
  inferInstanceAs (Decidable (_ = _))

/-- Texts that cannot spell a word of the wire: blank ones, the word of the unspecified member, and
those with a character beyond ASCII other than the Kelvin sign. -/
def IsForeign (text : String) : Prop :=
  strip text.toList = [] ∨ Spells text unspecifiedWord ∨
    ∃ c ∈ strip text.toList, 128 ≤ c.toNat ∧ c ≠ kelvinSign

/-- The words of the members: the wire has those of all members but the unspecified one, none of
them empty, and they are ASCII. -/
structure IsSpelled (facet : Facet α) (word : α → String) : Prop where
  /-- No word stands on the wire twice. -/
  nodup : (facet.wire.map Prod.fst).Nodup
  /-- A word on the wire stands there with the member that has it. -/
  mem_wire : ∀ w m, (w, m) ∈ facet.wire ↔ m ≠ facet.unspecified ∧ word m = w
  /-- The words are ASCII. -/
  ascii : ∀ m, ∀ c ∈ (word m).toList, c.toNat < 128
  /-- No word is empty. -/
  ne_nil : ∀ m, (word m).toList ≠ []
  /-- No other member has the word of the unspecified one. -/
  ne_unspecified : ∀ m, m ≠ facet.unspecified → word m ≠ unspecifiedWord

theorem ascii_of_all {w : String} (h : w.toList.all (·.toNat < 128) = true) :
    ∀ c ∈ w.toList, c.toNat < 128 := by
  simpa using h

theorem isSpelled_leaseStatus : leaseStatus.IsSpelled LeaseStatus.word where
  nodup := by decide
  mem_wire w m := by cases m <;> simp [leaseStatus, LeaseStatus.word, eq_comm]
  ascii m := ascii_of_all (by cases m <;> decide)
  ne_nil m := by cases m <;> decide
  ne_unspecified m := by cases m <;> decide

theorem isSpelled_leaseState : leaseState.IsSpelled LeaseState.word where
  nodup := by decide
  mem_wire w m := by cases m <;> simp [leaseState, LeaseState.word, eq_comm]
  ascii m := ascii_of_all (by cases m <;> decide)
  ne_nil m := by cases m <;> decide
  ne_unspecified m := by cases m <;> decide

theorem isSpelled_leaseDuration : leaseDuration.IsSpelled LeaseDuration.word where
  nodup := by decide
  mem_wire w m := by cases m <;> simp [leaseDuration, LeaseDuration.word, eq_comm]
  ascii m := ascii_of_all (by cases m <;> decide)
  ne_nil m := by cases m <;> decide
  ne_unspecified m := by cases m <;> decide

/-! ## Words and their members -/

theorem lookup_eq_some_iff_of_nodup {wire : List (String × α)} (h : (wire.map Prod.fst).Nodup)
    {w : String} {m : α} : wire.lookup w = some m ↔ (w, m) ∈ wire := by
  induction wire with
  | nil => simp
  | cons entry wire ih =>
    obtain ⟨w', m'⟩ := entry
    rw [List.map_cons, List.nodup_cons] at h
    rw [List.lookup_cons, List.mem_cons, Prod.mk.injEq]
    by_cases hw : w = w'
    · subst hw
      have habsent : (w, m) ∉ wire := fun hmem => h.1 (List.mem_map.2 ⟨_, hmem, rfl⟩)
      simp [habsent, eq_comm]
    · simp [hw, beq_false_of_ne hw, ih h.2]

namespace IsSpelled

variable {facet : Facet α} {word : α → String} (h : facet.IsSpelled word)

include h

/-- A value is found on the wire in its lower form exactly if it spells the word. -/
theorem lookup_normalized {text : String} {m : α} :
    facet.wire.lookup (normalized text) = some m ↔
      m ≠ facet.unspecified ∧ Spells text (word m) := by
  rw [lookup_eq_some_iff_of_nodup h.nodup, h.mem_wire, normalized, ← String.toList_inj,
    String.toList_ofList, eq_comm (a := (word m).toList), lower_eq_iff_of_ascii (h.ascii m), Spells]

theorem lookup_normalized_eq_none {text : String} :
    facet.wire.lookup (normalized text) = none ↔
      ∀ m, m ≠ facet.unspecified → ¬Spells text (word m) := by
  simp only [Option.eq_none_iff_forall_ne_some, ne_eq, h.lookup_normalized, not_and]

/-- A foreign text spells no word. -/
theorem not_spells_of_isForeign {text : String} (hforeign : IsForeign text) (m : α)
    (hm : m ≠ facet.unspecified) : ¬Spells text (word m) := by
  intro hspells
  rcases hforeign with hblank | hunspecified | ⟨c, hc, hbeyond, hk⟩
  · rw [Spells, hblank] at hspells
    exact h.ne_nil m hspells.symm
  · exact h.ne_unspecified m hm (String.toList_inj.1 (hspells.symm.trans hunspecified))
  · have hform : (asciiForm c).toNat < 128 := by
      refine h.ascii m _ ?_
      rw [← hspells]
      exact List.mem_map_of_mem hc
    rcases toNat_asciiForm_lt_iff.1 hform with hascii | hkelvin
    · omega
    · exact hk hkelvin

end IsSpelled

/-! ## Answers -/

/-- What a reader that takes exactly the words of a facet answers to a value. -/
structure Answers {ε : Type} (facet : Facet α) (word : α → String) (fault : String → ε)
    (value : Option String) (answer : Except ε α) : Prop where
  /-- A missing or empty value, and no other, is unspecified. -/
  unspecified : answer = .ok facet.unspecified ↔ value = none ∨ value = some ""
  /-- Any other member is named by the texts that spell its word. -/
  member : ∀ m, m ≠ facet.unspecified →
    (answer = .ok m ↔ ∃ text, value = some text ∧ text ≠ "" ∧ Spells text (word m))
  /-- The texts that spell no word, and no others, are refused as they came. -/
  refused : ∀ failure, answer = .error failure ↔
    ∃ text, value = some text ∧ text ≠ "" ∧
      (∀ m, m ≠ facet.unspecified → ¬Spells text (word m)) ∧ failure = fault text
  /-- Foreign texts are among these. -/
  foreign : ∀ text, value = some text → text ≠ "" → IsForeign text → answer = .error (fault text)

theorem parse_of_ne_empty (facet : Facet α) {text : String} (hne : text ≠ "")
    (header : Option String) :
    facet.parse (some text) header =
      match facet.wire.lookup (normalized text) with
      | some member => .ok member
      | none => .error ⟨text, facet.typeName, header⟩ := by
  rw [parse]
  exact if_neg (by simpa using hne)

theorem parse_eq_ok_iff {facet : Facet α} {text : String} (hne : text ≠ "")
    {header : Option String} {m : α} :
    facet.parse (some text) header = .ok m ↔ facet.wire.lookup (normalized text) = some m := by
  rw [parse_of_ne_empty facet hne]
  cases facet.wire.lookup (normalized text) <;> simp

theorem parse_eq_error_iff {facet : Facet α} {text : String} (hne : text ≠ "")
    {header : Option String} {failure : InvalidHeader} :
    facet.parse (some text) header = .error failure ↔
      facet.wire.lookup (normalized text) = none ∧ failure = ⟨text, facet.typeName, header⟩ := by
  rw [parse_of_ne_empty facet hne]
  cases facet.wire.lookup (normalized text) <;> simp [eq_comm]

/-- **A facet is parsed by its words.** -/
theorem IsSpelled.answers_parse {facet : Facet α} {word : α → String} (h : facet.IsSpelled word)
    (value header : Option String) :
    facet.Answers word (fun text => ⟨text, facet.typeName, header⟩) value
      (facet.parse value header) := by
  by_cases habsent : value = none ∨ value = some ""
  · have hparse : facet.parse value header = .ok facet.unspecified := by
      rcases habsent with rfl | rfl <;> rfl
    have hempty : ∀ text, value = some text → text = "" := by
      rintro text rfl
      simpa using habsent
    constructor
    · exact iff_of_true hparse habsent
    · intro m hm
      rw [hparse]
      refine iff_of_false (fun hok => hm (Except.ok.inj hok).symm) ?_
      rintro ⟨text, hvalue, hne, -⟩
      exact hne (hempty text hvalue)
    · intro failure
      rw [hparse]
      refine iff_of_false (by simp) ?_
      rintro ⟨text, hvalue, hne, -⟩
      exact hne (hempty text hvalue)
    · exact fun text hvalue hne => absurd (hempty text hvalue) hne
  · obtain ⟨hsome, hempty⟩ := not_or.1 habsent
    obtain ⟨text, rfl⟩ := Option.ne_none_iff_exists'.1 hsome
    have hne : text ≠ "" := fun h => hempty (by rw [h])
    constructor
    · rw [parse_eq_ok_iff hne, h.lookup_normalized]
      exact iff_of_false (fun hm => hm.1 rfl) habsent
    · intro m hm
      rw [parse_eq_ok_iff hne, h.lookup_normalized]
      simp [hm, hne]
    · intro failure
      rw [parse_eq_error_iff hne, h.lookup_normalized_eq_none]
      simp [hne]
    · rintro _ ⟨⟩ - hforeign
      exact (parse_eq_error_iff hne).2
        ⟨h.lookup_normalized_eq_none.2 (h.not_spells_of_isForeign hforeign), rfl⟩

/-- A reader that hands the failures of another one on answers as that one does. -/
theorem Answers.mapError {ε ε' : Type} {facet : Facet α} {word : α → String}
    {fault : String → ε} {value : Option String} {answer : Except ε α}
    (h : facet.Answers word fault value answer) (f : ε → ε') :
    facet.Answers word (fun text => f (fault text)) value (answer.mapError f) := by
  have hok : ∀ m, answer.mapError f = .ok m ↔ answer = .ok m := by
    cases answer <;> simp [Except.mapError]
  have herror : ∀ failure', answer.mapError f = .error failure' ↔
      ∃ failure, answer = .error failure ∧ failure' = f failure := by
    cases answer <;> simp [Except.mapError, eq_comm]
  constructor
  · rw [hok, h.unspecified]
  · intro m hm
    rw [hok, h.member m hm]
  · intro failure'
    rw [herror]
    constructor
    · rintro ⟨failure, hfailure, rfl⟩
      obtain ⟨text, hvalue, hne, hnone, rfl⟩ := (h.refused failure).1 hfailure
      exact ⟨text, hvalue, hne, hnone, rfl⟩
    · rintro ⟨text, hvalue, hne, hnone, rfl⟩
      exact ⟨_, (h.refused _).2 ⟨text, hvalue, hne, hnone, rfl⟩, rfl⟩
  · intro text hvalue hne hforeign
    rw [h.foreign text hvalue hne hforeign]
    rfl

end Facet

/-! ## Headers -/

namespace Headers.View

/-- The first value that was received under a name. -/
def firstValue? (entries : List Entry) (name : String) : Option String :=
  (valuesOf entries name).head?

/-- A facet is read from the first value of its header. -/
theorem lease_ofEntries {α : Type} (entries : List Entry) (facet : Facet α) (name : String) :
    (ofEntries entries).lease facet name =
      (facet.parse (firstValue? entries name) (some name)).mapError Failure.invalidHeader := by
  rw [lease, header?, all_ofEntries, firstValue?]
  cases facet.parse (valuesOf entries name).head? (some name) <;> rfl

end Headers.View

open Headers Facet

/-- **The wire language of leases.** A missing or empty value is unspecified, a value that spells
the word of another member names it, and every other value is refused as it came, with the names of
the facet and of the header. Blank values, the word of the unspecified member and values with a
character beyond ASCII other than the Kelvin sign are refused. A reader of headers answers so to the
first value that was received under the name of its header. -/
theorem answers_parse_and_lease (value header : Option String) (entries : List Entry) :
    (leaseStatus.Answers LeaseStatus.word (fun text => ⟨text, "LeaseStatus", header⟩) value
        (leaseStatus.parse value header) ∧
      leaseState.Answers LeaseState.word (fun text => ⟨text, "LeaseState", header⟩) value
        (leaseState.parse value header) ∧
      leaseDuration.Answers LeaseDuration.word (fun text => ⟨text, "LeaseDuration", header⟩) value
        (leaseDuration.parse value header)) ∧
    leaseStatus.Answers LeaseStatus.word
        (fun text => Failure.invalidHeader ⟨text, "LeaseStatus", some "x-ms-lease-status"⟩)
        (View.firstValue? entries "x-ms-lease-status") (View.ofEntries entries).leaseStatus ∧
      leaseState.Answers LeaseState.word
        (fun text => Failure.invalidHeader ⟨text, "LeaseState", some "x-ms-lease-state"⟩)
        (View.firstValue? entries "x-ms-lease-state") (View.ofEntries entries).leaseState ∧
      leaseDuration.Answers LeaseDuration.word
        (fun text => Failure.invalidHeader ⟨text, "LeaseDuration", some "x-ms-lease-duration"⟩)
        (View.firstValue? entries "x-ms-lease-duration")
        (View.ofEntries entries).leaseDuration := by
  refine ⟨⟨isSpelled_leaseStatus.answers_parse value header,
    isSpelled_leaseState.answers_parse value header,
    isSpelled_leaseDuration.answers_parse value header⟩, ?_, ?_, ?_⟩
  · rw [View.leaseStatus, View.lease_ofEntries]
    exact (isSpelled_leaseStatus.answers_parse _ _).mapError _
  · rw [View.leaseState, View.lease_ofEntries]
    exact (isSpelled_leaseState.answers_parse _ _).mapError _
  · rw [View.leaseDuration, View.lease_ofEntries]
    exact (isSpelled_leaseDuration.answers_parse _ _).mapError _

end StorageReply
