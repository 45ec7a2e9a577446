import StorageReply.Log.Logbook
import StorageReply.Proofs.Redaction.Idempotence

/-!
# One record, many outlets

The outlets are handed the same record one after the other, each with its filters and its format,
and each one changes it. Still all with one format write the same line
(`redact_redact_and_pass`): the filters change nothing in a record that has been through them and
through a format (`applyAll_after`), and a record that a format leaves behind makes the same line
again in either format (`line_after`). So the lines can all be made of the record as it came
(`relay_eq_spread`), and a logbook after a record is the one after these lines (`deliver`).
-/

namespace StorageReply

namespace LogFilter

@[simp] theorem redactValue_redactValue (v : Value) :
    redactValue (redactValue v) = redactValue v := by
  cases v <;> simp [redactValue]

@[simp] theorem redactArguments_redactArguments (a : Arguments) :
    redactArguments (redactArguments a) = redactArguments a := by
  cases a <;> simp [redactArguments]

/-- What the filters of a handler leave of a record: a stamp, if it had none, and no credentials. -/
theorem applyAll_standard (active : Option String) (r : LogRecord) :
    applyAll active standard r =
      { r with
        stamp := some (r.stamp.getD (some ((LogRecord.given active).getD noRequestId)))
        message := redactValue r.message
        arguments := redactArguments r.arguments } := by
  cases hs : r.stamp <;> simp [applyAll, standard, apply, hs]

/-- The filters change nothing in a record that has been through them, whatever stamp it got
afterwards. -/
theorem applyAll_stamped (active : Option String) (r : LogRecord) (stamp : Option String) :
    applyAll active standard { applyAll active standard r with stamp := some stamp } =
      { applyAll active standard r with stamp := some stamp } := by
  simp [applyAll_standard]

end LogFilter

namespace LogRecord

theorem given_eq_some_iff {id : Option String} {s : String} :
    given id = some s ↔ id = some s ∧ s ≠ "" := by
  simp [given, Option.filter_eq_some_iff]

/-- An identifier that a record shows is neither empty nor the mark for none. -/
theorem requestId?_eq_some {active : Option String} {r : LogRecord} {id : String}
    (h : r.requestId? active = some id) : id ≠ "" ∧ id ≠ noRequestId := by
  obtain ⟨hgiven, hne⟩ := Option.filter_eq_some_iff.1 h
  exact ⟨(given_eq_some_iff.1 hgiven).2, by simpa using hne⟩

/-- A record whose stamp is what it shows shows the same again. -/
theorem requestId?_stamped (active : Option String) (r : LogRecord) :
    requestId? active { r with stamp := some (some ((r.requestId? active).getD noRequestId)) } =
      r.requestId? active := by
  cases h : r.requestId? active with
  | none => simp [requestId?, given, noRequestId, Option.filter]
  | some id =>
    obtain ⟨hempty, hnone⟩ := requestId?_eq_some h
    simp [requestId?, given, Option.filter, hempty, hnone]

end LogRecord

namespace LineFormat

/-- A record that a format leaves behind makes the same line again, in either format. -/
theorem line_after (format before : LineFormat) (active : Option String) (r : LogRecord) :
    format.line active (before.after active r) = format.line active r := by
  cases before with
  | json => rfl
  | text =>
    cases format with
    | json =>
      simp only [line, jsonLine, jsonEntries, contextTree, after, LogRecord.requestId?_stamped,
        LogRecord.messageCodes]
    | text =>
      simp only [line, textLine, after, LogRecord.requestId?_stamped, LogRecord.messageCodes]

/-- The filters change nothing in a record that has been through them and through a format. -/
theorem applyAll_after (format : LineFormat) (active : Option String) (r : LogRecord) :
    LogFilter.applyAll active LogFilter.standard
        (format.after active (LogFilter.applyAll active LogFilter.standard r)) =
      format.after active (LogFilter.applyAll active LogFilter.standard r) := by
  cases format with
  | json =>
    have hstamp : ∃ stamp, (LogFilter.applyAll active LogFilter.standard r).stamp = some stamp := by
      rw [LogFilter.applyAll_standard]
      exact ⟨_, rfl⟩
    obtain ⟨stamp, hstamp⟩ := hstamp
    have h := LogFilter.applyAll_stamped active r stamp
    rwa [← hstamp] at h
  | text => exact LogFilter.applyAll_stamped active r _

end LineFormat

namespace Logbook

/-- An outlet makes the same line of the record that another one has left behind. -/
theorem pass_pass (active : Option String) (format before : LineFormat) (r : LogRecord) :
    (pass active format (pass active before r).1).2 = (pass active format r).2 := by
  simp only [pass, LineFormat.write]
  rw [LineFormat.applyAll_after, LineFormat.line_after]

/-- The outlets and the logbook after each outlet got the line of its format. -/
def spread (lines : LineFormat → Except Failure (List CodePoint)) :
    List Outlet → Logbook → List Outlet × Logbook
  | [], b => ([], b)
  | outlet :: rest, b =>
    let (outlet, b) := b.hand (lines outlet.format) outlet
    let (rest, b) := spread lines rest b
    (outlet :: rest, b)

/-- The logbook after each of its outlets got the line of its format, if there is one. -/
def deliver (b : Logbook) (lines : LineFormat → Except Failure (List CodePoint)) : Logbook :=
  { (spread lines b.outlets b).2 with outlets := (spread lines b.outlets b).1 }

@[simp] theorem active_print (b : Logbook) (line : List CodePoint) :
    (b.print line).active = b.active := by
  rw [print]
  split <;> rfl

@[simp] theorem active_emit (b : Logbook) (line : List CodePoint) (outlet : Outlet) :
    (b.emit line outlet).2.active = b.active := by
  cases outlet with
  | console format => exact active_print b line
  | file format log => rfl

@[simp] theorem active_hand (b : Logbook) (line : Except Failure (List CodePoint))
    (outlet : Outlet) : (b.hand line outlet).2.active = b.active := by
  cases line with
  | ok line => exact active_emit ..
  | error failure => rfl

/-- **A record on its way gives every outlet the line that it makes of the record as it came.** -/
theorem relay_eq_spread (r : LogRecord) (outlets : List Outlet) (b : Logbook) :
    relay r outlets b = spread (fun format => (pass b.active format r).2) outlets b := by
  -- the record on its way makes the same lines as the one that came
  suffices h : ∀ r', (∀ format, (pass b.active format r').2 = (pass b.active format r).2) →
      relay r' outlets b = spread (fun format => (pass b.active format r).2) outlets b from
    h r fun _ => rfl
  generalize hlines : (fun format => (pass b.active format r).2) = lines
  intro r' hr
  have hr' : ∀ format, (pass b.active format r').2 = lines format := by
    rw [← hlines]
    exact hr
  clear hr hlines
  induction outlets generalizing b r' with
  | nil => rfl
  | cons outlet rest ih =>
    have hrest := ih (b.hand (lines outlet.format) outlet).2 (pass b.active outlet.format r').1
      fun format => by rw [active_hand, pass_pass, hr' format]
    simp only [relay, spread, hr' outlet.format]
    rw [hrest]

/-- A record gives every outlet the line that it makes of it, unless it is below the level of
debugging. -/
theorem write_eq_deliver (b : Logbook) (r : LogRecord) : b.write r =
    if r.level < 10 then b else b.deliver fun format => (pass b.active format r).2 := by
  rw [write, relay_eq_spread]
  rfl

/-- **Redaction is idempotent, and so all outlets write the same line.** What an outlet makes of the
record that another one has left behind is the line that it would have made of the record as it
came, or the same failure. So outlets with one format, as the console and the log file have, all
write one line of a record, or none does. -/
theorem redact_redact_and_pass :
    (∀ s, Redaction.redact (Redaction.redact s) = Redaction.redact s) ∧
      (∀ active format before r,
        (pass active format (pass active before r).1).2 = (pass active format r).2) ∧
      ∀ (b : Logbook) (r : LogRecord), b.write r =
        if r.level < 10 then b else b.deliver fun format => (pass b.active format r).2 :=
  ⟨Redaction.redact_redact, pass_pass, write_eq_deliver⟩

end Logbook

end StorageReply
