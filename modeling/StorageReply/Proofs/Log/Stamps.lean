import StorageReply.Proofs.Log.Outlets

/-!
# Stamped records

The identifier on a line may be looked up when the line is made, or before that, when a filter
stamps it on the record. Both decide alike (`requestId?_stamped_early`), so a line is the same with
and without the filter. A stamp that is not empty is frozen: what is in force no longer matters to
the record (`Frozen.requestId?_eq`), and neither the filter nor a format changes it
(`Frozen.relay`). The stamp of the filter is of that kind (`frozen_apply`), since the mark for no
identifier is not empty.
-/

namespace StorageReply

/-- A line depends on the stamp by nothing but the identifier that the record shows. -/
theorem LineFormat.line_withStamp {active active' : Option String} {r : LogRecord}
    (stamp : Option (Option String))
    (h : LogRecord.requestId? active' { r with stamp := stamp } = r.requestId? active)
    (format : LineFormat) :
    format.line active' { r with stamp := stamp } = format.line active r := by
  cases format with
  | json => simp only [line, jsonLine, jsonEntries, contextTree, LogRecord.messageCodes, h]
  | text => simp only [line, textLine, LogRecord.messageCodes, h]

namespace LogRecord

/-- A record without a stamp, after the filter. -/
theorem apply_requestId_of_none {r : LogRecord} (h : r.stamp = none) (active : Option String) :
    LogFilter.apply active r .requestId =
      { r with stamp := some (some ((given active).getD noRequestId)) } := by
  simp only [LogFilter.apply, h]

/-- A record shows its own identifier, and without one that in force, unless it is the mark for
none. -/
theorem requestId?_eq (active : Option String) (r : LogRecord) :
    r.requestId? active =
      ((given r.stamp.join).or (given active)).filter (· != noRequestId) := by
  rw [requestId?]
  congr 1
  cases hown : given r.stamp.join with
  | none => rfl
  | some id => exact given_eq_some_iff.2 ⟨rfl, (given_eq_some_iff.1 hown).2⟩

/-- The filter stamps what the record would show. -/
theorem requestId?_stamped_early (active : Option String) (r : LogRecord) :
    (LogFilter.apply active r .requestId).requestId? active = r.requestId? active := by
  cases hstamp : r.stamp with
  | some stamp => simp only [LogFilter.apply, hstamp]
  | none =>
    rw [apply_requestId_of_none hstamp, requestId?_eq, requestId?_eq, hstamp]
    simp only [Option.join_some, Option.join_none]
    cases hactive : given active with
    | none => rfl
    | some id =>
      have hid : given (some id) = some id :=
        given_eq_some_iff.2 ⟨rfl, (given_eq_some_iff.1 hactive).2⟩
      rw [Option.getD_some, hid]
      rfl

/-! ## Frozen records -/

/-- A record has a stamp that is not empty. -/
def Frozen (r : LogRecord) : Prop := ∃ id, r.stamp = some (some id) ∧ id ≠ ""

theorem frozen_apply {r : LogRecord} (h : r.stamp = none) (active : Option String) :
    (LogFilter.apply active r .requestId).Frozen := by
  rw [apply_requestId_of_none h]
  refine ⟨_, rfl, ?_⟩
  cases hactive : given active with
  | none => decide
  | some id => exact (given_eq_some_iff.1 hactive).2

variable {r : LogRecord}

/-- What is in force does not matter to a frozen record. -/
theorem Frozen.requestId?_eq (h : r.Frozen) (active active' : Option String) :
    r.requestId? active = r.requestId? active' := by
  obtain ⟨id, hstamp, hne⟩ := h
  have hgiven : given r.stamp.join = some id := given_eq_some_iff.2 ⟨by rw [hstamp]; rfl, hne⟩
  rw [requestId?, requestId?, hgiven, Option.some_or, Option.some_or]

theorem Frozen.apply_requestId (h : r.Frozen) (active : Option String) :
    LogFilter.apply active r .requestId = r := by
  obtain ⟨id, hstamp, -⟩ := h
  simp only [LogFilter.apply, hstamp]

/-- A format leaves the stamp that it found. -/
theorem Frozen.after (h : r.Frozen) (format : LineFormat) (active : Option String) :
    format.after active r = r := by
  cases format with
  | json => rfl
  | text =>
    obtain ⟨id, hstamp, hne⟩ := h
    have hshown : (r.requestId? active).getD noRequestId = id := by
      by_cases hid : id = noRequestId
      · simp [requestId?, hstamp, given, hid, noRequestId, Option.filter]
      · simp [requestId?, hstamp, given, hid, hne, Option.filter]
    rw [LineFormat.after, hshown, ← hstamp]

/-- The record after it was handed from one outlet to the next, each with its format and the
identifier in force there: each stamps the record and turns it into a line. -/
def relay (outlets : List (LineFormat × Option String)) (r : LogRecord) : LogRecord :=
  outlets.foldl (fun r (format, active) =>
    format.after active (LogFilter.apply active r .requestId)) r

theorem relay_cons (format : LineFormat) (active : Option String)
    (outlets : List (LineFormat × Option String)) (r : LogRecord) :
    r.relay ((format, active) :: outlets) =
      (format.after active (LogFilter.apply active r .requestId)).relay outlets := rfl

theorem Frozen.relay (h : r.Frozen) (outlets : List (LineFormat × Option String)) :
    r.relay outlets = r := by
  induction outlets with
  | nil => rfl
  | cons outlet outlets ih =>
    obtain ⟨format, active⟩ := outlet
    rw [relay_cons, h.apply_requestId, h.after, ih]

/-- **Stamping agrees with late look-up, and freezes the record.** A record makes the same line
after it was stamped, in either format and whatever identifier is in force, or fails alike. A record
that had no stamp makes this line from then on, whatever is in force later and however often it was
stamped and turned into lines in between. -/
theorem line_stamped :
    (∀ (format : LineFormat) (active : Option String) (r : LogRecord),
      format.line active (LogFilter.apply active r .requestId) = format.line active r) ∧
    ∀ (r : LogRecord), r.stamp = none → ∀ (format : LineFormat) (active later : Option String)
      (outlets : List (LineFormat × Option String)),
      format.line later ((LogFilter.apply active r .requestId).relay outlets) =
        format.line active r := by
  have hearly : ∀ (format : LineFormat) (active : Option String) (r : LogRecord),
      format.line active (LogFilter.apply active r .requestId) = format.line active r := by
    intro format active r
    cases hstamp : r.stamp with
    | some stamp => simp only [LogFilter.apply, hstamp]
    | none =>
      have hid := requestId?_stamped_early active r
      rw [apply_requestId_of_none hstamp] at hid ⊢
      exact LineFormat.line_withStamp _ hid format
  refine ⟨hearly, fun r hstamp format active later outlets => ?_⟩
  have hfrozen := frozen_apply hstamp active
  rw [hfrozen.relay, ← hearly format active r]
  exact LineFormat.line_withStamp (LogFilter.apply active r .requestId).stamp
    (hfrozen.requestId?_eq later active) format

/-- A record without a stamp, made while an empty identifier was in force. -/
def unstampedRecord : LogRecord where
  logger := "app"
  level := 20
  message := .text "ready"
  arguments := .positional []
  created := .whole 0
  stamp := none
  context := none
  error := none

/-- The record shows that it has no identifier, also when it passes two outlets and two other
identifiers are in force afterwards. -/
theorem line_stamped_empty :
    unstampedRecord.stamp = none ∧
      LineFormat.text.line (some "b")
          ((LogFilter.apply (some "") unstampedRecord .requestId).relay
            [(.text, some "a"), (.json, none)]) =
        LineFormat.text.line (some "") unstampedRecord ∧
      LineFormat.text.line (some "") unstampedRecord =
        .ok (CodePoint.ofText "1970-01-01 00:00:00 [INFO] app (-): ready") :=
  ⟨rfl, line_stamped.2 unstampedRecord rfl .text (some "") (some "b")
    [(.text, some "a"), (.json, none)], eq_ok_of_toOption (by decide +kernel)⟩

end LogRecord

end StorageReply
