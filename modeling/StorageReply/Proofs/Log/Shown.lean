import StorageReply.Proofs.Log.Calls

/-!
# The identifier on a line

A line shows the identifier in force when its record was made, unless that is empty or the mark for
none: then it shows that there is none (`shownId`, `Shows`). The filters stamp the record, and the
formats look at the stamp and at what is in force; whatever way they take, the line comes out the
same (`shows_of_pass`).

* `log_eq`: a message leaves no lines, or gives the outlets lines that show the identifier in force.
* `Emits`: a logbook comes from another by such lines alone, on the console and in the log files.
* `Speaks`: the lines on the console are such lines. Setups do not more than that, for they also
  change where lines go (`respects_setup`).
-/

namespace StorageReply

/-- The identifier that a line shows for one in force: an empty one, and the mark for none, show as
none. -/
def shownId (id : Option String) : Option String := id.filter fun s => s != "" && s != noRequestId

/-- A line of a logger, written at a time, shows a request identifier or that there is none: as an
entry of its object, or in parentheses after the logger. -/
inductive Shows (clock : Stamp) (logger : String) (id : Option String) (line : List CodePoint) :
    Prop
  /-- The object has the identifier as an entry, and has no such entry without one. -/
  | json (time : Moment) (level : Int) (message : List CodePoint) (more : Json.Entries) :
    clock.moment = .ok time →
    (∀ entry ∈ more, entry.1 ≠ CodePoint.ofText "client_request_id") →
    line = CodePoint.ofText (Json.write (.map
      ([LineFormat.entryText "timestamp" time.text, LineFormat.entryText "level" (levelName level),
        LineFormat.entryText "module" logger, LineFormat.entry "message" (.text message)]
        ++ (id.map (LineFormat.entryText "client_request_id")).toList ++ more))) →
    Shows clock logger id line
  /-- The sentence has the identifier or a hyphen. -/
  | text (time : String) (level : Int) (message : List CodePoint) :
    clock.clockText = .ok time →
    line = CodePoint.ofText
      (time ++ " [" ++ levelName level ++ "] " ++ logger ++ " (" ++ id.getD "-" ++ "): ")
        ++ message → Shows clock logger id line

namespace LogRecord

/-- A record without a stamp shows the identifier in force after it has been through the filters. -/
theorem requestId?_applyAll {r : LogRecord} (h : r.stamp = none) (active : Option String) :
    (LogFilter.applyAll active LogFilter.standard r).requestId? active = shownId active := by
  rw [LogFilter.applyAll_standard]
  cases active with
  | none => simp [requestId?, shownId, h, given, noRequestId, Option.filter]
  | some id =>
    by_cases hid : id = ""
    · simp [requestId?, shownId, h, given, noRequestId, Option.filter, hid]
    · simp [requestId?, shownId, h, given, Option.filter, hid]

end LogRecord

namespace LineFormat

theorem name_of_mem_entryOf {name : String} {t : Option Json.Tree}
    {entry : List CodePoint × Json.Tree} (h : entry ∈ entryOf name t) :
    entry.1 = CodePoint.ofText name := by
  cases t with
  | none => cases h
  | some t => exact congrArg Prod.fst (List.mem_singleton.1 h)

theorem entryOf_text (name : String) (id : Option String) :
    entryOf name (id.map fun id => .text (CodePoint.ofText id)) =
      (id.map (entryText name)).toList := by
  cases id <;> rfl

theorem shows_of_jsonLine {active : Option String} {r : LogRecord} {line : String}
    (h : jsonLine active r = .ok line) :
    Shows r.created r.logger (r.requestId? active) (CodePoint.ofText line) := by
  simp only [jsonLine, bind_eq_ok_iff] at h
  obtain ⟨time, htime, message, -, context, -, h⟩ := h
  obtain rfl := Except.ok.inj h
  refine .json time r.level message
    (entryOf "exception" (r.error.map fun e => .text (CodePoint.ofText e.line)) ++
      entryOf "context" context) htime ?_ ?_
  · intro entry hentry
    rcases List.mem_append.1 hentry with hentry | hentry <;>
    · rw [name_of_mem_entryOf hentry]
      decide
  · rw [jsonEntries, entryOf_text]
    simp only [List.append_assoc]

theorem shows_of_textLine {active : Option String} {r : LogRecord} {line : List CodePoint}
    (h : textLine active r = .ok line) (herror : r.error = none) :
    Shows r.created r.logger (r.requestId? active) line := by
  simp only [textLine, bind_eq_ok_iff, herror] at h
  obtain ⟨message, -, time, htime, h⟩ := h
  exact .text time r.level message htime (Except.ok.inj h).symm

end LineFormat

namespace Logbook

/-- **A record without a stamp makes a line that shows the identifier in force.** -/
theorem shows_of_pass {active : Option String} {format : LineFormat} {r : LogRecord}
    {line : List CodePoint} (hstamp : r.stamp = none) (herror : r.error = none)
    (h : (pass active format r).2 = .ok line) : Shows r.created r.logger (shownId active) line := by
  have hid := LogRecord.requestId?_applyAll hstamp active
  rw [pass, LineFormat.write] at h
  rw [LogFilter.applyAll_standard] at h hid
  rw [← hid]
  cases format with
  | json =>
    obtain ⟨text, htext, rfl⟩ := map_eq_ok_iff.1 h
    exact LineFormat.shows_of_jsonLine htext
  | text => exact LineFormat.shows_of_textLine h herror

/-! ## Messages -/

/-- What the formats make of a message. -/
abbrev Lines := LineFormat → Except Failure (List CodePoint)

/-- Whether a message of a logger at a time shows an identifier, in whatever format. -/
def Tells (clock : Stamp) (logger : String) (id : Option String) (lines : Lines) : Prop :=
  ∀ format line, lines format = .ok line → Shows clock logger id line

variable {b c d : Logbook} {logger : String} {id : Option String} {lines : Lines}
  {messages more : List Lines}

/-- **A message asks its logger and leaves no other trace**, or gives the outlets lines that show
the identifier in force. -/
theorem log_eq (b : Logbook) (name : String) (level : Int) (message : Value) (arguments : Arguments)
    (context : Option Fields) :
    b.log name level message arguments context = b.ask name level ∨
      ∃ lines, Tells b.clock (Levels.recordName name) (shownId b.active) lines ∧
        b.log name level message arguments context = (b.ask name level).deliver lines := by
  have hcall := b.logCall_eq ⟨name, level, message, arguments, context⟩
  split at hcall
  · exact .inr ⟨_, fun format line hline => shows_of_pass rfl rfl hline, hcall⟩
  · exact .inl hcall

/-- A logbook comes from another by messages of a logger that show an identifier, one after the
other, and in no other way but that loggers were asked for. -/
structure Emits (logger : String) (id : Option String) (b c : Logbook) (messages : List Lines) :
    Prop where
  /-- The outlets got the messages. -/
  book_eq : { c with levels := b.levels } = messages.foldl deliver b
  /-- No levels were given. -/
  levels_eq : c.levels = { b.levels with tree := c.levels.tree, verdicts := c.levels.verdicts }
  /-- The messages show the identifier. -/
  tells : ∀ lines ∈ messages, Tells b.clock logger id lines

theorem bound_foldl_deliver (b : Logbook) (messages : List Lines) :
    (messages.foldl deliver b).bound = b.bound := by
  induction messages generalizing b with
  | nil => rfl
  | cons lines messages ih => rw [List.foldl_cons, ih, bound_deliver]

theorem clock_foldl_deliver (b : Logbook) (messages : List Lines) :
    (messages.foldl deliver b).clock = b.clock := by
  induction messages generalizing b with
  | nil => rfl
  | cons lines messages ih => rw [List.foldl_cons, ih, clock_deliver]

/-- The lines of some messages on the console. -/
def printedLines (consoles : List LineFormat) (messages : List Lines) : List String :=
  messages.flatMap fun lines => consoles.filterMap (printed? lines)

theorem console_foldl_deliver (b : Logbook) (messages : List Lines) :
    (messages.foldl deliver b).console =
      b.console ++ linesText (printedLines b.consoles messages) := by
  induction messages generalizing b with
  | nil => simp [printedLines]
  | cons lines messages ih =>
    rw [List.foldl_cons, ih, console_deliver, consoles_deliver, printedLines, printedLines,
      List.flatMap_cons, linesText_append, String.append_assoc]

/-- Messages that show an identifier put lines on the console that show it. -/
theorem shows_of_mem_printedLines {clock : Stamp} {consoles : List LineFormat}
    (h : ∀ lines ∈ messages, Tells clock logger id lines) :
    ∀ line ∈ printedLines consoles messages, Shows clock logger id (CodePoint.ofText line) := by
  intro line hline
  obtain ⟨lines, hlines, hline⟩ := List.mem_flatMap.1 hline
  obtain ⟨format, -, hprinted⟩ := List.mem_filterMap.1 hline
  exact h lines hlines format _ (printed?_eq_some_iff.1 hprinted)

theorem foldl_deliver_with (b : Logbook) (levels : Levels) (bound : List (Option String))
    (messages : List Lines) :
    messages.foldl deliver { b with levels := levels, bound := bound } =
      { messages.foldl deliver b with levels := levels, bound := bound } := by
  induction messages generalizing b with
  | nil => rfl
  | cons lines messages ih => rw [List.foldl_cons, List.foldl_cons, deliver_with, ih]

theorem levels_ask (b : Logbook) (name : String) (level : Int) :
    (b.levels.ask name level) = { b.levels with
      tree := (b.levels.ask name level).tree
      verdicts := (b.levels.ask name level).verdicts } := by
  rw [Levels.ask]
  split <;> rfl

theorem emits_nil (b : Logbook) : Emits logger id b b [] := ⟨rfl, rfl, by simp⟩

theorem emits_fetch (b : Logbook) (name : String) : Emits logger id b (b.fetch name) [] :=
  ⟨rfl, rfl, by simp⟩

/-- A message asks its logger, and gives the outlets lines that show the identifier in force. -/
theorem exists_emits_log (b : Logbook) (name : String) (level : Int) (message : Value)
    (arguments : Arguments) (context : Option Fields) :
    ∃ messages, Emits (Levels.recordName name) (shownId b.active) b
      (b.log name level message arguments context) messages := by
  rcases b.log_eq name level message arguments context with hlog | ⟨lines, htells, hlog⟩
  · rw [hlog]
    exact ⟨[], rfl, b.levels_ask name level, by simp⟩
  · rw [hlog]
    have hasked : (b.ask name level).deliver lines =
        { b.deliver lines with levels := b.levels.ask name level, bound := b.bound } :=
      deliver_with b lines (b.levels.ask name level) b.bound
    have hback := congrArg (fun c : Logbook => { c with levels := b.levels }) hasked
    refine ⟨[lines], hback.trans (deliver_with b lines b.levels b.bound).symm, ?_,
      List.forall_mem_singleton.2 htells⟩
    rw [levels_deliver]
    exact b.levels_ask name level

theorem Emits.bound_eq (h : Emits logger id b c messages) : c.bound = b.bound :=
  (congrArg Logbook.bound h.book_eq).trans (bound_foldl_deliver b messages)

theorem Emits.clock_eq (h : Emits logger id b c messages) : c.clock = b.clock :=
  (congrArg Logbook.clock h.book_eq).trans (clock_foldl_deliver b messages)

theorem Emits.append (h : Emits logger id b c messages) (h' : Emits logger id c d more) :
    Emits logger id b d (messages ++ more) where
  book_eq := by
    have hmore := foldl_deliver_with c b.levels c.bound more
    rw [List.foldl_append, ← h.book_eq]
    refine Eq.trans ?_ hmore.symm
    rw [← h'.book_eq, ← h'.bound_eq]
  levels_eq := by
    rw [h'.levels_eq, h.levels_eq]
  tells := by
    refine List.forall_mem_append.2 ⟨h.tells, fun lines hlines => ?_⟩
    have htells := h'.tells lines hlines
    rwa [h.clock_eq] at htells

/-- Messages between an identifier that is put in force and its end are messages all the same. -/
theorem Emits.unbind {own : Option String} (h : Emits logger id (b.bind own) c messages) :
    Emits logger id b c.unbind messages where
  book_eq := by
    have hbound : c.bound.tail = b.bound := by rw [h.bound_eq, bind, List.tail_cons]
    have hfold : { c with levels := b.levels } =
        { messages.foldl deliver b with levels := b.levels, bound := own :: b.bound } :=
      h.book_eq.trans (foldl_deliver_with b b.levels (own :: b.bound) messages)
    have hback := congrArg (fun d : Logbook => { d with bound := b.bound }) hfold
    rw [Logbook.unbind, hbound]
    exact hback.trans (foldl_deliver_with b b.levels b.bound messages).symm
  levels_eq := h.levels_eq
  tells := h.tells

theorem active_eq (h : c.bound = b.bound) : c.active = b.active := by
  rw [active, active, h]

theorem Emits.active_eq (h : Emits logger id b c messages) : c.active = b.active :=
  Logbook.active_eq h.bound_eq

/-! ## Setups -/

/-- A logbook comes from another with lines of a logger on the console that show the identifier in
force, and whatever else has changed, the identifiers have not. -/
structure Speaks (logger : String) (b c : Logbook) : Prop where
  /-- The identifiers are the same. -/
  bound_eq : c.bound = b.bound
  /-- So is the time. -/
  clock_eq : c.clock = b.clock
  /-- The console has some lines more. -/
  exists_lines : ∃ lines, c.console = b.console ++ linesText lines ∧
    ∀ line ∈ lines, Shows b.clock logger (shownId b.active) (CodePoint.ofText line)

theorem speaks_of_console (hbound : c.bound = b.bound) (hclock : c.clock = b.clock)
    (hconsole : c.console = b.console) : Speaks logger b c :=
  ⟨hbound, hclock, [], by simp [hconsole], by simp⟩

instance : Std.Refl (Speaks logger) := ⟨fun _ => speaks_of_console rfl rfl rfl⟩

instance : IsTrans Logbook (Speaks logger) where
  trans b c d h h' := by
    obtain ⟨lines, hconsole, hlines⟩ := h.exists_lines
    obtain ⟨more, hconsole', hmore⟩ := h'.exists_lines
    rw [active_eq h.bound_eq, h.clock_eq] at hmore
    refine ⟨h'.bound_eq.trans h.bound_eq, h'.clock_eq.trans h.clock_eq, lines ++ more, ?_, ?_⟩
    · rw [hconsole', hconsole, linesText_append, String.append_assoc]
    · exact List.forall_mem_append.2 ⟨hlines, hmore⟩

theorem speaks_log (b : Logbook) (name : String) (level : Int) (message : Value)
    (arguments : Arguments) (context : Option Fields) :
    Speaks (Levels.recordName name) b (b.log name level message arguments context) := by
  rcases b.log_eq name level message arguments context with hlog | ⟨lines, htells, hlog⟩
  · rw [hlog]
    exact speaks_of_console rfl rfl rfl
  · rw [hlog]
    refine ⟨bound_deliver .., clock_deliver .., printedLines b.consoles [lines], ?_,
      shows_of_mem_printedLines (List.forall_mem_singleton.2 htells)⟩
    exact console_foldl_deliver (b.ask name level) [lines]

section

open Act

theorem speaks_say (b : Logbook) (text : String) :
    Speaks LoggerTree.rootName b (b.say LoggerTree.rootName 20 text) := by
  have hroot : Levels.recordName LoggerTree.rootName = LoggerTree.rootName := by decide
  have hspeaks := b.speaks_log LoggerTree.rootName 20 (.text text) (.positional []) none
  rwa [hroot] at hspeaks

/-- **A setup speaks under the identifier in force**, however far it gets. -/
theorem respects_setup (setup : LogSetup) :
    Respects (Speaks LoggerTree.rootName) (Logbook.setup setup) :=
  respects_inTurn (respects_setupSteps (fun _ _ => speaks_of_console rfl rfl rfl)
    (fun _ => speaks_of_console rfl rfl rfl) (fun _ _ _ => speaks_of_console rfl rfl rfl)
    (fun _ _ => speaks_of_console rfl rfl rfl) (fun _ _ _ => speaks_of_console rfl rfl rfl)
    speaks_say setup)

end

end Logbook

end StorageReply
