import StorageReply.Proofs.Service.Texts

/-!
# Changing one field of service properties

A change to the strings in one field, with the field named. What a document keeps of the changed
settings is what it keeps of the settings, with what it keeps of the strings put in that field: a
string makes no difference outside its field.

* `TextEdit`, `TextEdit.apply`: the changes.
* `TextEdit.normalized_apply`: keeping commutes with them.
-/

namespace StorageReply

open Number Text Xml

/-- The lists of a rule. -/
inductive CorsList
  /-- The origins that may send requests. -/
  | origins
  /-- The methods that they may use. -/
  | methods
  /-- The reply headers that are shown to the origin. -/
  | exposed
  /-- The request headers that may be sent. -/
  | headers
  deriving DecidableEq, Repr

/-- A rule with one list replaced. -/
def CorsRule.setList (r : CorsRule) (items : List String) : CorsList → CorsRule
  | .origins => { r with allowedOrigins := items }
  | .methods => { r with allowedMethods := items }
  | .exposed => { r with exposedHeaders := items }
  | .headers => { r with allowedHeaders := items }

/-- A change to the strings in one field of settings. -/
inductive TextEdit
  /-- Another version of logging. -/
  | loggingVersion (s : String)
  /-- Another version of the metrics by the hour. -/
  | hourVersion (s : String)
  /-- Another version of the metrics by the minute. -/
  | minuteVersion (s : String)
  /-- Another default version, or none. -/
  | defaultVersion (s : Option String)
  /-- Another list in the rule with a number. -/
  | rule (number : Nat) (list : CorsList) (items : List String)
  deriving DecidableEq, Repr

namespace TextEdit

/-- The strings of a change. -/
def texts : TextEdit → List String
  | .loggingVersion s => [s]
  | .hourVersion s => [s]
  | .minuteVersion s => [s]
  | .defaultVersion s => s.toList
  | .rule _ _ items => items

/-- Settings with a change made; a field of a part that is absent stays absent. -/
def apply (p : ServiceProperties) : TextEdit → ServiceProperties
  | .loggingVersion s => { p with logging := p.logging.map ({ · with version := s }) }
  | .hourVersion s => { p with hourMetrics := p.hourMetrics.map ({ · with version := s }) }
  | .minuteVersion s => { p with minuteMetrics := p.minuteMetrics.map ({ · with version := s }) }
  | .defaultVersion s => { p with defaultVersion := s }
  | .rule number list items =>
    { p with cors := p.cors.map (·.modify number (·.setList items list)) }

/-- The change that a document keeps of a change. -/
def normalized : TextEdit → TextEdit
  | .loggingVersion s => .loggingVersion (stripped s)
  | .hourVersion s => .hourVersion (stripped s)
  | .minuteVersion s => .minuteVersion (stripped s)
  | .defaultVersion s => .defaultVersion (ServiceProperties.givenVersion (s.map stripped))
  | .rule number list items => .rule number list (CorsRule.normalizedList items)

theorem map_modify {α β : Type} {f : α → α} {f' : β → β} (g : α → β)
    (h : ∀ a, g (f a) = f' (g a)) (as : List α) (i : Nat) :
    (as.modify i f).map g = (as.map g).modify i f' := by
  induction as generalizing i with
  | nil => simp
  | cons a as ih =>
    cases i with
    | zero => simp [h]
    | succ i => simp [ih]

/-- **Keeping commutes with a change**: a document keeps of changed settings what it keeps of the
settings, with what it keeps of the change made in it. -/
theorem normalized_apply (edit : TextEdit) (p : ServiceProperties) :
    (edit.apply p).normalized = edit.normalized.apply p.normalized := by
  obtain ⟨logging, hour, minute, cors, version⟩ := p
  cases edit with
  | loggingVersion s => cases logging <;> rfl
  | hourVersion s => cases hour <;> rfl
  | minuteVersion s => cases minute <;> rfl
  | defaultVersion s => rfl
  | rule number list items =>
    have hset : ∀ r : CorsRule, (r.setList items list).normalized
        = r.normalized.setList (CorsRule.normalizedList items) list := by
      intro r
      cases list <;> rfl
    cases cors with
    | none => rfl
    | some rules =>
      have hrules : (rules.modify number (·.setList items list)).map CorsRule.normalized
          = (rules.map CorsRule.normalized).modify number
            (·.setList (CorsRule.normalizedList items) list) :=
        map_modify CorsRule.normalized hset rules number
      simp [apply, normalized, ServiceProperties.normalized, hrules]

/-- A change to strings keeps the integers. -/
@[simp] theorem integers_apply (edit : TextEdit) (p : ServiceProperties) :
    (edit.apply p).integers = p.integers := by
  obtain ⟨logging, hour, minute, cors, version⟩ := p
  cases edit with
  | loggingVersion s => cases logging <;> rfl
  | hourVersion s => cases hour <;> rfl
  | minuteVersion s => cases minute <;> rfl
  | defaultVersion s => rfl
  | rule number list items =>
    have hset : ∀ r : CorsRule, (r.setList items list).maxAgeInSeconds = r.maxAgeInSeconds := by
      intro r
      cases list <;> rfl
    cases cors with
    | none => rfl
    | some rules =>
      have hrules : (rules.modify number (·.setList items list)).map CorsRule.maxAgeInSeconds
          = (rules.map CorsRule.maxAgeInSeconds).modify number id :=
        map_modify CorsRule.maxAgeInSeconds hset rules number
      simp [apply, ServiceProperties.integers, hrules]

theorem mem_modify {α : Type} {f : α → α} {as : List α} {i : Nat} {b : α}
    (h : b ∈ as.modify i f) : b ∈ as ∨ ∃ a ∈ as, b = f a := by
  induction as generalizing i with
  | nil => simp at h
  | cons a as ih =>
    cases i with
    | zero =>
      rcases List.mem_cons.1 h with rfl | h
      · exact .inr ⟨a, List.mem_cons_self .., rfl⟩
      · exact .inl (List.mem_cons_of_mem _ h)
    | succ i =>
      rcases List.mem_cons.1 h with rfl | h
      · exact .inl (List.mem_cons_self ..)
      · rcases ih h with h | ⟨c, hc, rfl⟩
        · exact .inl (List.mem_cons_of_mem _ h)
        · exact .inr ⟨c, List.mem_cons_of_mem _ hc, rfl⟩

/-- The strings of changed settings are those of the change and those of the settings. -/
theorem forall_mem_texts_apply {edit : TextEdit} {p : ServiceProperties} {P : String → Prop}
    (hedit : ∀ s ∈ edit.texts, P s) (hp : ∀ s ∈ p.texts, P s) :
    ∀ s ∈ (edit.apply p).texts, P s := by
  rw [ServiceProperties.forall_mem_texts] at hp ⊢
  obtain ⟨hlogging, hhour, hminute, hcors, hversion⟩ := hp
  cases edit with
  | loggingVersion s =>
    have hs : P s := hedit s (List.mem_cons_self ..)
    refine ⟨?_, hhour, hminute, hcors, hversion⟩
    rintro _ hl
    obtain ⟨l, -, rfl⟩ := Option.map_eq_some_iff.1 hl
    exact hs
  | hourVersion s =>
    have hs : P s := hedit s (List.mem_cons_self ..)
    refine ⟨hlogging, ?_, hminute, hcors, hversion⟩
    rintro _ hm
    obtain ⟨m, -, rfl⟩ := Option.map_eq_some_iff.1 hm
    exact hs
  | minuteVersion s =>
    have hs : P s := hedit s (List.mem_cons_self ..)
    refine ⟨hlogging, hhour, ?_, hcors, hversion⟩
    rintro _ hm
    obtain ⟨m, -, rfl⟩ := Option.map_eq_some_iff.1 hm
    exact hs
  | defaultVersion s =>
    exact ⟨hlogging, hhour, hminute, hcors, fun t ht => hedit t (Option.mem_toList.2 ht)⟩
  | rule number list items =>
    refine ⟨hlogging, hhour, hminute, ?_, hversion⟩
    rintro _ hrules r hr
    obtain ⟨rules, hsome, rfl⟩ := Option.map_eq_some_iff.1 hrules
    rcases mem_modify hr with hr | ⟨r', hr', rfl⟩
    · exact hcors rules hsome r hr
    · have hr := hcors rules hsome r' hr'
      simp only [CorsRule.texts, List.forall_mem_append] at hr ⊢
      obtain ⟨⟨⟨horigins, hmethods⟩, hexposed⟩, hallowed⟩ := hr
      cases list with
      | origins => exact ⟨⟨⟨hedit, hmethods⟩, hexposed⟩, hallowed⟩
      | methods => exact ⟨⟨⟨horigins, hedit⟩, hexposed⟩, hallowed⟩
      | exposed => exact ⟨⟨⟨horigins, hmethods⟩, hedit⟩, hallowed⟩
      | headers => exact ⟨⟨⟨horigins, hmethods⟩, hexposed⟩, hedit⟩

end TextEdit

end StorageReply
