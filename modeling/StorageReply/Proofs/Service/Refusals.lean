import StorageReply.Proofs.Text.LowerCase
import StorageReply.Service.Properties
import StorageReply.Xml.Encoding

/-!
# Refused documents

The reader of settings consults fields of a document one after the other; which fields these are may
depend on what an earlier one says. A document is refused at the first of them whose text is not of
its kind, and for no other reason than that or the name of its root.

* `Consulted`: a field that is consulted, and `Consulted.Offends`.
* `ServiceProperties.consulted`: the fields of a document of settings, in their order.
* `Judges`: a result is that of consulting some fields, with `Judges.bind` for one reader after
  another and `Judges.mapM` for readers of several elements.
* `ServiceProperties.refused_at_first_offender`: a document is refused at the first field that
  offends.
-/

namespace StorageReply

open Number Text Xml

/-! ## Fields -/

/-- A text is a word, in small letters or capitals of ASCII. -/
def Spells (word s : String) : Prop := s.toList.map asciiLowerChar = word.toList

instance (word s : String) : Decidable (Spells word s) := inferInstanceAs (Decidable (_ = _))

/-- What the text of a field can be. -/
inductive FieldKind
  /-- A truth value. -/
  | truth
  /-- An integer. -/
  | integer
  deriving DecidableEq, Repr

namespace FieldKind

/-- Whether a text is of a kind. A field of an integer can be empty. -/
def Accepts : FieldKind → String → Prop
  | truth, s => Spells "true" s ∨ Spells "false" s
  | integer, s => s = "" ∨ (integer? s.toList).isSome = true

instance (kind : FieldKind) (s : String) : Decidable (kind.Accepts s) := by
  cases kind <;> exact inferInstanceAs (Decidable (_ ∨ _))

/-- The fault of a text that is not of a kind. -/
def fault : FieldKind → String → String → DocumentFault
  | truth => .notBoolean
  | integer => .notInteger

end FieldKind

/-- A field that a reader consults: the name of an element, and its stripped text if there is such
an element. -/
structure Consulted where
  /-- What the text can be. -/
  kind : FieldKind
  /-- The name of the element. -/
  element : String
  /-- The stripped text, if there is one. -/
  text : Option String
  deriving DecidableEq, Repr

namespace Consulted

/-- A field has a text that is not of its kind. A missing one does not offend. -/
def Offends (f : Consulted) : Prop := ∃ s ∈ f.text, ¬f.kind.Accepts s

instance (f : Consulted) : Decidable f.Offends := inferInstanceAs (Decidable (∃ s ∈ f.text, _))

/-- The fault of a field with a text. -/
def fault (f : Consulted) (s : String) : DocumentFault := f.kind.fault f.element s

/-- A fault names the element of its field. -/
@[simp] theorem element_fault (f : Consulted) (s : String) : (f.fault s).element = f.element := by
  obtain ⟨kind, element, text⟩ := f
  cases kind <;> rfl

/-- The fault of a field, if it offends. -/
def fault? (f : Consulted) : Option DocumentFault :=
  f.text.bind fun s => if f.kind.Accepts s then none else some (f.fault s)

theorem fault?_eq_some_iff {f : Consulted} {fault : DocumentFault} :
    f.fault? = some fault ↔ ∃ s ∈ f.text, ¬f.kind.Accepts s ∧ f.fault s = fault := by
  simp [fault?, Option.bind_eq_some_iff]

theorem fault?_eq_none_iff {f : Consulted} : f.fault? = none ↔ ¬f.Offends := by
  simp [fault?, Offends, Option.bind_eq_none_iff]

/-- The fault of the first field that offends. -/
def firstFault (fields : List Consulted) : Option DocumentFault := fields.findSome? fault?

theorem firstFault_append (fields more : List Consulted) :
    firstFault (fields ++ more) = (firstFault fields).or (firstFault more) :=
  List.findSome?_append

theorem firstFault_eq_none_iff {fields : List Consulted} :
    firstFault fields = none ↔ ∀ f ∈ fields, ¬f.Offends := by
  simp only [firstFault, List.findSome?_eq_none_iff, fault?_eq_none_iff]

/-- Fields that do not offend make no difference in front of one that does. -/
theorem firstFault_of_offends {before after : List Consulted} {f : Consulted} {s : String}
    (hbefore : ∀ g ∈ before, ¬g.Offends) (htext : f.text = some s) (hs : ¬f.kind.Accepts s) :
    firstFault (before ++ f :: after) = some (f.fault s) := by
  have hfault : f.fault? = some (f.fault s) := fault?_eq_some_iff.2 ⟨s, htext, hs, rfl⟩
  rw [firstFault_append, firstFault_eq_none_iff.2 hbefore, Option.none_or, firstFault,
    List.findSome?_cons_of_isSome (by rw [hfault]; rfl), hfault]

end Consulted

/-! ## The fields of a document -/

namespace Xml.Element

/-- The truth value in a child, as a field. -/
def truthField (e : Element) (name : String) : Consulted := ⟨.truth, name, e.childText? name⟩

/-- The integer in a child, as a field. -/
def integerField (e : Element) (name : String) : Consulted := ⟨.integer, name, e.childText? name⟩

/-- Whether a child says that something is true. -/
def affirms (e : Element) (name : String) : Bool := (e.childText? name).any (Spells "true" ·)

/-- The fields that are consulted in a child, if there is one. -/
def consultedIn (e : Element) (name : String) (fields : Element → List Consulted) :
    List Consulted :=
  ((e.child? name).map fields).getD []

end Xml.Element

/-- The fields of a policy: the days only if it is enabled. -/
def RetentionPolicy.consulted (e : Element) : List Consulted :=
  e.truthField "Enabled" :: if e.affirms "Enabled" then [e.integerField "Days"] else []

/-- The fields of logging settings. -/
def LoggingProperties.consulted (e : Element) : List Consulted :=
  e.truthField "Delete" :: e.truthField "Read" :: e.truthField "Write" ::
    e.consultedIn "RetentionPolicy" RetentionPolicy.consulted

/-- The fields of metrics settings: single operations only if metrics are enabled. -/
def MetricsProperties.consulted (e : Element) : List Consulted :=
  e.truthField "Enabled" :: ((if e.affirms "Enabled" then [e.truthField "IncludeAPIs"] else []) ++
    e.consultedIn "RetentionPolicy" RetentionPolicy.consulted)

/-- The field of a rule. -/
def CorsRule.consulted (e : Element) : List Consulted := [e.integerField "MaxAgeInSeconds"]

/-- The fields of a document of settings, in the order in which they are consulted. -/
def ServiceProperties.consulted (root : Element) : List Consulted :=
  root.consultedIn "Logging" LoggingProperties.consulted ++
    (root.consultedIn "HourMetrics" MetricsProperties.consulted ++
      (root.consultedIn "MinuteMetrics" MetricsProperties.consulted ++
        root.consultedIn "Cors" fun cors =>
          (cors.childrenNamed "CorsRule").flatMap CorsRule.consulted))

/-! ## Results of consulting fields -/

/-- A result is that of consulting some fields in turn: it is a failure just when one of them
offends, and then the first one that does is at fault. -/
inductive Judges {α : Type} (fields : List Consulted) : Except Failure α → Prop
  /-- No field offends. -/
  | ok (a : α) : Consulted.firstFault fields = none → Judges fields (.ok a)
  /-- A field offends. -/
  | error (fault : DocumentFault) : Consulted.firstFault fields = some fault →
      Judges fields (.error (.document fault))

namespace Judges

open Consulted

variable {α β : Type} {fields more : List Consulted} {r : Except Failure α}

/-- Only the fault of the first field that offends matters. -/
theorem congr (h : Judges more r) (hfault : firstFault fields = firstFault more) :
    Judges fields r := by
  cases h with
  | ok a hnone => exact .ok a (hfault.trans hnone)
  | error fault hsome => exact .error fault (hfault.trans hsome)

/-- One reader after another: the fields of the second one come after those of the first. -/
theorem bind {next : α → Except Failure β} (h : Judges fields r)
    (hnext : ∀ a, r = .ok a → Judges more (next a)) : Judges (fields ++ more) (r >>= next) := by
  cases h with
  | ok a hnone => exact (hnext a rfl).congr (by rw [firstFault_append, hnone, Option.none_or])
  | error fault hsome => exact .error fault (by rw [firstFault_append, hsome, Option.some_or])

/-- The result of consulting one field with a text. -/
theorem single {f : Consulted} {s : String} (htext : f.text = some s)
    (hok : f.kind.Accepts s → ∃ a, r = .ok a)
    (herror : ¬f.kind.Accepts s → r = .error (.document (f.fault s))) : Judges [f] r := by
  by_cases hs : f.kind.Accepts s
  · obtain ⟨a, rfl⟩ := hok hs
    exact .ok a (firstFault_eq_none_iff.2 (by simp [Offends, htext, hs]))
  · rw [herror hs]
    exact .error _ (firstFault_of_offends (List.forall_mem_nil _) htext hs)

/-- One field, and then other fields. -/
theorem cons {f : Consulted} {next : α → Except Failure β} (h : Judges [f] r)
    (hnext : ∀ a, r = .ok a → Judges more (next a)) : Judges (f :: more) (r >>= next) :=
  h.bind hnext

theorem bind_pure (h : Judges fields r) (f : α → β) :
    Judges fields (r >>= fun a => pure (f a)) := by
  have hpure : ∀ a, r = .ok a → Judges [] (pure (f a) : Except Failure β) := fun a _ =>
    .ok (f a) rfl
  have hbind := h.bind hpure
  rwa [List.append_nil] at hbind

theorem map (h : Judges fields r) (f : α → β) : Judges fields (r.map f) := by
  have hmap := h.bind_pure f
  cases r <;> exact hmap

/-- Readers of several elements, one after the other. -/
theorem mapM {read : Element → Except Failure α} {consulted : Element → List Consulted}
    (h : ∀ e, Judges (consulted e) (read e)) (es : List Element) :
    Judges (es.flatMap consulted) (es.mapM read) := by
  induction es with
  | nil => exact .ok [] rfl
  | cons e es ih =>
    rw [List.flatMap_cons, List.mapM_cons]
    exact (h e).bind fun a _ => ih.bind_pure (a :: ·)

/-- The result is a failure just when some field offends. -/
theorem exists_eq_error_iff (h : Judges fields r) :
    (∃ failure, r = .error failure) ↔ ∃ f ∈ fields, f.Offends := by
  cases h with
  | ok a hnone => simpa using firstFault_eq_none_iff.1 hnone
  | error fault hfault =>
    have hsome := mt firstFault_eq_none_iff.2 (hfault ▸ Option.some_ne_none fault)
    simpa using hsome

theorem exists_fault (h : Judges fields r) {failure : Failure} (hr : r = .error failure) :
    ∃ fault, failure = .document fault := by
  cases h with
  | ok a _ => cases hr
  | error fault _ => exact ⟨fault, (Except.error.inj hr).symm⟩

/-- The failure is that of the first field that offends. -/
theorem eq_error_of_offends {before after : List Consulted} {f : Consulted} {s : String}
    (h : Judges (before ++ f :: after) r) (hbefore : ∀ g ∈ before, ¬g.Offends)
    (htext : f.text = some s) (hs : ¬f.kind.Accepts s) : r = .error (.document (f.fault s)) := by
  have hfirst : firstFault (before ++ f :: after) = some (f.fault s) :=
    firstFault_of_offends hbefore htext hs
  cases h with
  | ok a hnone => simp [hnone] at hfirst
  | error fault hfault =>
    obtain rfl := Option.some.inj (hfault.symm.trans hfirst)
    rfl

end Judges

/-! ## Readers -/

theorem lowerString_eq_iff {word s : String} (hword : word.toList.all isPlain = true) :
    lowerString s = word ↔ Spells word s := by
  rw [lowerString, ← String.toList_inj, String.toList_ofList,
    lower_eq_iff (List.all_eq_true.1 hword), Spells]

theorem spells_true_iff {s : String} : lowerString s = "true" ↔ Spells "true" s :=
  lowerString_eq_iff (by decide +kernel)

theorem spells_false_iff {s : String} : lowerString s = "false" ↔ Spells "false" s :=
  lowerString_eq_iff (by decide +kernel)

theorem judges_truthField (e : Element) (name : String) :
    Judges [e.truthField name] (e.boolOf name) := by
  rw [Element.boolOf, Element.truthField]
  cases e.childText? name with
  | none => exact .ok _ rfl
  | some s =>
    refine .single rfl ?_ fun hrefused => ?_
    · rintro (htrue | hfalse)
      · exact ⟨true, if_pos (spells_true_iff.2 htrue)⟩
      · by_cases htrue : Spells "true" s
        · exact ⟨true, if_pos (spells_true_iff.2 htrue)⟩
        · exact ⟨false, by simp [Field.bool, spells_true_iff, spells_false_iff, htrue, hfalse]⟩
    · obtain ⟨htrue, hfalse⟩ := not_or.1 hrefused
      simp only [Field.bool, spells_true_iff, spells_false_iff, if_neg htrue, if_neg hfalse]
      rfl

theorem judges_integerField (e : Element) (name : String) :
    Judges [e.integerField name] (e.integerOf name) := by
  rw [Element.integerOf, Element.integerField]
  cases e.childText? name with
  | none => exact .ok _ rfl
  | some s =>
    refine .single rfl ?_ fun hrefused => ?_
    · rintro (rfl | hread)
      · exact ⟨none, rfl⟩
      · obtain ⟨i, hi⟩ := Option.isSome_iff_exists.1 hread
        by_cases hempty : s.isEmpty
        · exact ⟨none, by simp [Field.integer, hempty]⟩
        · exact ⟨some i, by simp [Field.integer, hempty, hi]⟩
    · obtain ⟨hempty, hread⟩ := not_or.1 hrefused
      have hnone : integer? s.toList = none := by simpa using hread
      simp only [Field.integer, String.isEmpty_iff, if_neg hempty, hnone]
      rfl

/-- A child that says a truth value affirms it just when it is true. -/
theorem affirms_of_boolOf {e : Element} {name : String} {b : Bool} (h : e.boolOf name = .ok b) :
    e.affirms name = b := by
  rw [Element.boolOf] at h
  rw [Element.affirms]
  cases htext : e.childText? name with
  | none =>
    rw [htext] at h
    exact Except.ok.inj h
  | some s =>
    rw [htext] at h
    simp only [Field.bool, spells_true_iff, spells_false_iff] at h
    rw [Option.any_some]
    split at h
    · rename_i htrue
      obtain rfl := Except.ok.inj h
      simpa using htrue
    · rename_i htrue
      split at h
      · obtain rfl := Except.ok.inj h
        simpa using htrue
      · cases h

theorem RetentionPolicy.judges_ofElement (e : Element) : Judges (consulted e) (ofElement e) := by
  refine (judges_truthField e "Enabled").cons fun enabled henabled => ?_
  rw [affirms_of_boolOf henabled]
  cases enabled with
  | true => exact (judges_integerField e "Days").bind_pure _
  | false => exact .ok _ rfl

theorem RetentionPolicy.judges_ofParent (e : Element) :
    Judges (e.consultedIn "RetentionPolicy" consulted) (ofParent e) := by
  rw [Element.consultedIn, ofParent]
  cases e.child? "RetentionPolicy" with
  | none => exact .ok _ rfl
  | some child => exact judges_ofElement child

theorem LoggingProperties.judges_ofElement (e : Element) : Judges (consulted e) (ofElement e) :=
  (judges_truthField e "Delete").cons fun _ _ => (judges_truthField e "Read").cons fun _ _ =>
    (judges_truthField e "Write").cons fun _ _ => (RetentionPolicy.judges_ofParent e).bind_pure _

theorem MetricsProperties.judges_ofElement (e : Element) : Judges (consulted e) (ofElement e) := by
  refine (judges_truthField e "Enabled").cons fun enabled henabled => ?_
  rw [affirms_of_boolOf henabled]
  have hretention := fun includeApis : Option Bool =>
    (RetentionPolicy.judges_ofParent e).bind_pure (β := MetricsProperties) fun retention =>
      ⟨versionOf e, enabled, includeApis, retention⟩
  cases enabled with
  | true =>
    exact ((judges_truthField e "IncludeAPIs").map some).bind fun includeApis _ =>
      hretention includeApis
  | false => exact hretention none

theorem CorsRule.judges_ofElement (e : Element) : Judges (consulted e) (ofElement e) :=
  (judges_integerField e "MaxAgeInSeconds").bind_pure _

namespace ServiceProperties

theorem judges_partOf {α : Type} {read : Element → Except Failure α}
    {fields : Element → List Consulted} (h : ∀ e, Judges (fields e) (read e)) (root : Element)
    (name : String) : Judges (root.consultedIn name fields) (partOf root name read) := by
  rw [Element.consultedIn, partOf]
  cases root.child? name with
  | none => exact .ok _ rfl
  | some e => exact (h e).map some

/-- **A document of settings is judged by its fields**, if its root has the name that is
expected. -/
theorem judges_ofElement {root : Element} (h : root.localName = rootName) :
    Judges (consulted root) (ofElement root) := by
  have hexpect : root.expect rootName = .ok () := if_pos h
  rw [ofElement, hexpect]
  refine (judges_partOf LoggingProperties.judges_ofElement root "Logging").bind fun _ _ => ?_
  refine (judges_partOf MetricsProperties.judges_ofElement root "HourMetrics").bind fun _ _ => ?_
  refine (judges_partOf MetricsProperties.judges_ofElement root "MinuteMetrics").bind fun _ _ => ?_
  exact (judges_partOf (fun cors => .mapM CorsRule.judges_ofElement (cors.childrenNamed "CorsRule"))
    root "Cors").bind_pure _

/-- **A document of settings is refused at the first field that offends**, and in no other way. If a
document is well-formed, reading settings from it can only fail with the fault of an element. It
does just when the root has another name than is expected, or a field that is consulted offends; and
the element at fault is the root, or the first such field. -/
theorem refused_at_first_offender {source : Source} {root : Element}
    (h : source.root = .ok root) :
    (∀ failure, source.read ofElement = .error failure → ∃ fault, failure = .document fault) ∧
    ((∃ failure, source.read ofElement = .error failure) ↔
      root.localName ≠ rootName ∨ ∃ f ∈ consulted root, f.Offends) ∧
    (root.localName ≠ rootName → ∃ fault, source.read ofElement = .error (.document fault) ∧
      fault.element = root.localName) ∧
    ∀ before f after, root.localName = rootName → consulted root = before ++ f :: after →
      (∀ g ∈ before, ¬g.Offends) → ∀ s ∈ f.text, ¬f.kind.Accepts s →
      source.read ofElement = .error (.document (f.fault s)) ∧ (f.fault s).element = f.element := by
  have hread : source.read ofElement = ofElement root := by
    rw [Source.read, h]
    rfl
  rw [hread]
  by_cases hname : root.localName = rootName
  · have hjudged := judges_ofElement hname
    refine ⟨fun failure => hjudged.exists_fault, ?_, fun hother => absurd hname hother, ?_⟩
    · simpa [hname] using hjudged.exists_eq_error_iff
    · intro before f after _ hfields hbefore s htext hs
      rw [hfields] at hjudged
      exact ⟨hjudged.eq_error_of_offends hbefore htext hs, f.element_fault s⟩
  · have hroot : ofElement root = .error (.document (.unexpectedRoot rootName root.localName)) := by
      rw [ofElement, Element.expect, if_neg hname]
      rfl
    rw [hroot]
    exact ⟨fun failure hfailure => ⟨_, (Except.error.inj hfailure).symm⟩,
      ⟨fun _ => .inl hname, fun _ => ⟨_, rfl⟩⟩, fun _ => ⟨_, rfl, rfl⟩,
      fun _ _ _ h => absurd h hname⟩

/-- A document whose rule and whose metrics have unusable texts, the rule first; but the metrics are
consulted before it. -/
def blemished : String :=
  "<StorageServiceProperties><Cors><CorsRule><MaxAgeInSeconds>soon</MaxAgeInSeconds></CorsRule>"
    ++ "</Cors><HourMetrics><Enabled> True </Enabled><IncludeAPIs>maybe</IncludeAPIs></HourMetrics>"
    ++ "</StorageServiceProperties>"

theorem refused_at_first_offender_blemished :
    ∃ root, (Source.text blemished).root = .ok root ∧ root.localName = rootName ∧
      (Source.text blemished).read ofElement =
        .error (.document (.notBoolean "IncludeAPIs" "maybe")) := by
  have hok : (Source.text blemished).root.toOption.map
      (fun root => (root.localName, consulted root)) = some (rootName,
        [⟨.truth, "Enabled", some "True"⟩, ⟨.truth, "IncludeAPIs", some "maybe"⟩,
          ⟨.integer, "MaxAgeInSeconds", some "soon"⟩]) := by
    decide +kernel
  obtain ⟨root, hroot, hfields⟩ := Option.map_eq_some_iff.1 hok
  obtain ⟨hname, hconsulted⟩ := Prod.mk.inj hfields
  obtain ⟨-, -, -, hfirst⟩ := refused_at_first_offender (eq_ok_of_toOption hroot)
  obtain ⟨hrefused, -⟩ := hfirst
    [⟨.truth, "Enabled", some "True"⟩] ⟨.truth, "IncludeAPIs", some "maybe"⟩ _ hname hconsulted
    (by decide) "maybe" rfl (by decide)
  exact ⟨root, eq_ok_of_toOption hroot, hname, hrefused⟩

end ServiceProperties

end StorageReply
