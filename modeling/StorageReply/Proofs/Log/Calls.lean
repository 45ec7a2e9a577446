import StorageReply.Proofs.Log.Ancestors
import StorageReply.Proofs.Log.Deliveries

/-!
# Calls of loggers

A call of a logger puts its record on the console as one line, or leaves no line there. It puts it
there if there is a handler for the console, the logger lets records of its level pass, the level is
not below that of debugging, and the record makes a line that can be written (`Logbook.Takes`). A
log file gets the same line, or loses it if it is full and cannot be moved aside.

* `Logbook.Makes`: a call makes a line, which may have halves of surrogate pairs.
* `Logbook.LogsOnce`: what a call prints, and what a log file receives of it.
* `Logbook.logsOnce_logCall`: so it is with handlers that are lined up and log files in their
  places.
-/

namespace StorageReply

/-- A call of a logger with a level. -/
structure LogCall where
  /-- The name of the logger. -/
  logger : String
  /-- The level. -/
  level : Int
  /-- The message. -/
  message : Value
  /-- What is filled in the message. -/
  arguments : Arguments
  /-- The context. -/
  context : Option Fields

namespace Logbook

/-- The record of a call. -/
def recordOf (b : Logbook) (call : LogCall) : LogRecord :=
  ⟨Levels.recordName call.logger, call.level, call.message, call.arguments, b.clock, none,
    call.context, none⟩

/-- The logbook after a call. -/
def logCall (b : Logbook) (call : LogCall) : Logbook :=
  b.log call.logger call.level call.message call.arguments call.context

/-- What the formats make of the record of a call. -/
def linesOf (b : Logbook) (call : LogCall) (format : LineFormat) :
    Except Failure (List CodePoint) :=
  (pass b.active format (b.recordOf call)).2

/-- Whether the record of a call is let pass and makes a line: there is a handler for the console,
the logger lets records of the level pass, the level is not below that of debugging, and the record
can be formatted. -/
structure Makes (b : Logbook) (call : LogCall) (line : List CodePoint) : Prop where
  /-- The logger lets records of the level pass. -/
  enabled : b.levels.enables call.logger call.level = true
  /-- The level is not below that of debugging. -/
  ten_le : 10 ≤ call.level
  /-- The handler for the console makes the line of the record. -/
  written : ∃ format, .console format ∈ b.handlers ∧ b.linesOf call format = .ok line

/-- Whether the record of a call is let pass and makes a line that can be written: a text. -/
def Takes (b : Logbook) (call : LogCall) (line : String) : Prop :=
  b.Makes call (CodePoint.ofText line)

variable {b : Logbook} {call : LogCall} {codes : List CodePoint} {line : String}
  {format : LineFormat}

/-- A call asks its logger, and if that lets the record pass, the outlets get lines of it. -/
theorem logCall_eq (b : Logbook) (call : LogCall) :
    b.logCall call =
      if b.levels.enables call.logger call.level = true ∧ 10 ≤ call.level then
        (b.ask call.logger call.level).deliver (b.linesOf call)
      else b.ask call.logger call.level := by
  rw [logCall, log]
  cases b.levels.enables call.logger call.level with
  | false => simp
  | true =>
    rw [if_pos rfl, write_eq_deliver]
    by_cases h : call.level < 10
    · rw [if_pos h, if_neg (by omega)]
    · rw [if_neg h, if_pos ⟨rfl, by omega⟩]
      rfl

/-- Without a handler for a file a call leaves all files as they are. -/
theorem folder_logCall_of_no_file (h : b.handlers.any Handler.isFile = false) :
    (b.logCall call).folder = b.folder := by
  rw [logCall_eq]
  split
  · exact folder_deliver_of_no_file (b := b.ask call.logger call.level) h
  · rfl

/-- A call whose record makes a line gives the lines of the record to the outlets. -/
theorem logCall_of_makes (h : b.Makes call codes) :
    b.logCall call = (b.ask call.logger call.level).deliver (b.linesOf call) := by
  rw [logCall_eq, if_pos ⟨h.enabled, h.ten_le⟩]

theorem console_mem_handlers_iff :
    .console format ∈ b.handlers ↔ format ∈ b.consoles := by
  rw [handlers, consoles, List.mem_map, List.mem_filterMap]
  refine exists_congr fun outlet => and_congr_right fun _ => ?_
  cases outlet <;> simp [Outlet.handler, Outlet.console?, LogFile.handler]

/-- With handlers that are lined up and a line of a record, there is one handler for the console,
and perhaps one for a file behind it. -/
theorem outlets_of_makes (hlined : Lineup b.handlers) (h : b.Makes call codes) :
    ∃ format, b.outlets = .console format :: b.logFile.toList.map (.file format) ∧
      b.linesOf call format = .ok codes := by
  obtain ⟨format, hformat, hline⟩ := h.written
  rcases outlets_of_lineup hlined with hnone | ⟨other, houtlets⟩
  · rw [handlers, hnone] at hformat
    cases hformat
  · refine ⟨other, houtlets, ?_⟩
    have hother : other = format := by
      rw [handlers, houtlets] at hformat
      cases b.logFile <;> simpa [Outlet.handler, LogFile.handler, eq_comm] using hformat
    rwa [hother]

/-- The formats of the lines on the console, where the outlets are lined up. -/
theorem consoles_of_outlets
    (houtlets : b.outlets = .console format :: b.logFile.toList.map (.file format)) :
    b.consoles = [format] := by
  rw [consoles, houtlets]
  cases b.logFile <;> rfl

/-- A record that makes no line leaves the console and all files as they are. -/
theorem logCall_of_not_makes (hlined : Lineup b.handlers) (h : ∀ codes, ¬b.Makes call codes) :
    (b.logCall call).console = b.console ∧ (b.logCall call).folder = b.folder := by
  rw [logCall_eq]
  split
  · rename_i henabled
    rcases outlets_of_lineup hlined with hnone | ⟨format, houtlets⟩
    · rw [deliver, show (b.ask call.logger call.level).outlets = [] from hnone]
      exact ⟨rfl, rfl⟩
    · have hconsoles := consoles_of_outlets houtlets
      cases hline : b.linesOf call format with
      | ok codes =>
        refine absurd ⟨henabled.1, henabled.2, format, ?_, hline⟩ (h codes)
        rw [console_mem_handlers_iff, hconsoles]
        exact List.mem_singleton_self format
      | error failure =>
        have hprinted : printed? (b.linesOf call) format = none := by
          rw [printed?, hline]
          rfl
        refine ⟨?_, folder_deliver_of_error (b := b.ask call.logger call.level) houtlets hline⟩
        rw [console_deliver, show (b.ask call.logger call.level).consoles = [format] from hconsoles,
          List.filterMap_cons_none hprinted]
        exact String.append_empty
  · exact ⟨rfl, rfl⟩

/-- A record that makes a line puts it on the console, if the console takes it. -/
theorem console_logCall_of_makes (hlined : Lineup b.handlers) (h : b.Makes call codes) :
    (b.logCall call).console = b.console ++ linesText (CodePoint.text? codes).toList := by
  obtain ⟨format, houtlets, hline⟩ := outlets_of_makes hlined h
  have hprinted : printed? (b.linesOf call) format = CodePoint.text? codes := by
    rw [printed?, hline]
    rfl
  rw [logCall_of_makes h, console_deliver,
    show (b.ask call.logger call.level).consoles = [format] from consoles_of_outlets houtlets,
    List.filterMap_cons, hprinted]
  cases CodePoint.text? codes <;> rfl

/-- A record that makes a line puts it in the log file, if there is one. -/
theorem folder_logCall_of_makes (hlined : Lineup b.handlers) (h : b.Makes call codes) :
    (b.logCall call).folder =
      match b.logFile with
      | some file => (file.put b.folder (codes ++ [.char '\n'])).2
      | none => b.folder := by
  obtain ⟨format, houtlets, hline⟩ := outlets_of_makes hlined h
  rw [logCall_of_makes h]
  exact folder_deliver (b := b.ask call.logger call.level) houtlets hline

/-- Whether a log file gets a text for a line of a call that leaves a folder behind: it receives the
text, unless it is full and cannot be moved aside, and then loses it. -/
def Gets (b : Logbook) (line : List CodePoint) (text : String) (folder : Folder) : Prop :=
  ∃ file, b.logFile = some file ∧
    (¬file.Loses b.folder line → file.Receives line text b.folder folder) ∧
    (file.Loses b.folder line → folder = file.opened b.folder)

/-- Whether a call of a logger that prints some text and leaves a folder behind is logged once. -/
structure LogsOnce (b : Logbook) (call : LogCall) (printed : String) (folder : Folder) : Prop where
  /-- A record that is taken is one line on the console. -/
  printed_of_takes : ∀ line, b.Takes call line → printed = line ++ "\n"
  /-- Any other is not on the console. -/
  printed_of_not_takes : (∀ line, ¬b.Takes call line) → printed = ""
  /-- With a handler for a file, the file receives the record that is taken as one line, unless it
  is full and cannot be moved aside. -/
  gets_of_takes : ∀ line, b.Takes call line → b.handlers.any Handler.isFile = true →
    b.Gets (CodePoint.ofText (line ++ "\n")) (line ++ "\n") folder
  /-- Of a line with half of a surrogate pair the file receives nothing, though it may be moved
  aside. -/
  gets_of_half : ∀ codes, b.Makes call codes → CodePoint.text? codes = none →
    b.handlers.any Handler.isFile = true → b.Gets (codes ++ [.char '\n']) "" folder
  /-- Without such a handler all files stay. -/
  folder_of_no_file : b.handlers.any Handler.isFile = false → folder = b.folder
  /-- All files stay for a record that makes no line. -/
  folder_of_not_makes : (∀ codes, ¬b.Makes call codes) → folder = b.folder

/-- What a log file gets of a line. -/
theorem gets_of_makes (hlined : Lineup b.handlers) (hconnected : b.IsConnected)
    (h : b.Makes call codes) (hfile : b.handlers.any Handler.isFile = true) :
    b.Gets (codes ++ [.char '\n']) (LogFile.taken (codes ++ [.char '\n']))
      (b.logCall call).folder := by
  rw [← isSome_logFile] at hfile
  obtain ⟨file, hsome⟩ := Option.isSome_iff_exists.1 hfile
  have hplace : file.IsConnected := by
    obtain ⟨outlet, houtlet, hlog⟩ := List.exists_of_findSome?_eq_some hsome
    cases outlet with
    | console format => cases hlog
    | file format log =>
      obtain rfl := Option.some.inj hlog
      exact hconnected format log houtlet
  rw [folder_logCall_of_makes hlined h, hsome]
  exact ⟨file, hsome, LogFile.receives_put hplace, LogFile.snd_put_of_loses hplace⟩

theorem taken_ofText (line : String) : LogFile.taken (CodePoint.ofText line) = line := by
  rw [LogFile.taken, CodePoint.text?_ofText, Option.getD_some]

theorem ofText_newline (line : String) :
    CodePoint.ofText line ++ [.char '\n'] = CodePoint.ofText (line ++ "\n") := by
  simp [CodePoint.ofText, CodePoint.ofChars]

/-- A file takes nothing of a line with half of a surrogate pair. -/
theorem taken_of_half (h : CodePoint.text? codes = none) :
    LogFile.taken (codes ++ [.char '\n']) = "" := by
  have hchars : ∀ more, CodePoint.chars? codes = none →
      CodePoint.chars? (codes ++ more) = none := by
    intro more hcodes
    clear h
    induction codes with
    | nil => cases hcodes
    | cons code codes ih =>
      cases code with
      | half k => rfl
      | char c =>
        rw [CodePoint.chars?, Option.map_eq_none_iff] at hcodes
        rw [List.cons_append, CodePoint.chars?, ih hcodes, Option.map_none]
  rw [LogFile.taken, CodePoint.text?, hchars _ (Option.map_eq_none_iff.1 h)]
  rfl

/-- **A call is logged once**, where the handlers are lined up and the log files are in their
places. -/
theorem logsOnce_logCall (hlined : Lineup b.handlers) (hconnected : b.IsConnected)
    (hconsole : b.console = "") :
    b.LogsOnce call (b.logCall call).console (b.logCall call).folder where
  printed_of_takes line h := by
    rw [console_logCall_of_makes hlined h, hconsole, CodePoint.text?_ofText]
    simp
  printed_of_not_takes h := by
    rw [← hconsole]
    by_cases hmakes : ∃ codes, b.Makes call codes
    · obtain ⟨codes, hmakes⟩ := hmakes
      have hhalf : CodePoint.text? codes = none := by
        cases htext : CodePoint.text? codes with
        | none => rfl
        | some line =>
          rw [CodePoint.text?_eq_some_iff.1 htext] at hmakes
          exact absurd hmakes (h line)
      rw [console_logCall_of_makes hlined hmakes, hhalf]
      exact String.append_empty
    · exact (logCall_of_not_makes hlined (not_exists.1 hmakes)).1
  gets_of_takes line h hfile := by
    have hgets := gets_of_makes hlined hconnected h hfile
    rwa [ofText_newline, taken_ofText] at hgets
  gets_of_half codes h hhalf hfile := by
    have hgets := gets_of_makes hlined hconnected h hfile
    rwa [taken_of_half hhalf] at hgets
  folder_of_no_file := folder_logCall_of_no_file
  folder_of_not_makes h := (logCall_of_not_makes hlined h).2

/-- Logbooks with the same outlets and files, of which a call makes the same, log it alike. -/
theorem LogsOnce.congr {c : Logbook} {printed : String} {folder : Folder}
    (h : c.LogsOnce call printed folder) (hmakes : ∀ codes, c.Makes call codes ↔ b.Makes call codes)
    (houtlets : c.outlets = b.outlets) (hfolder : c.folder = b.folder) :
    b.LogsOnce call printed folder where
  printed_of_takes line hline := h.printed_of_takes line ((hmakes _).2 hline)
  printed_of_not_takes hnone :=
    h.printed_of_not_takes fun line hline => hnone line ((hmakes _).1 hline)
  gets_of_takes line hline hfile := by
    have hgets := h.gets_of_takes line ((hmakes _).2 hline) (by rwa [handlers, houtlets])
    rwa [Gets, logFile, houtlets, hfolder] at hgets
  gets_of_half codes hcodes hhalf hfile := by
    have hgets := h.gets_of_half codes ((hmakes _).2 hcodes) hhalf (by rwa [handlers, houtlets])
    rwa [Gets, logFile, houtlets, hfolder] at hgets
  folder_of_no_file hfile :=
    (h.folder_of_no_file (by rwa [handlers, houtlets])).trans hfolder
  folder_of_not_makes hnone :=
    (h.folder_of_not_makes fun codes hcodes => hnone codes ((hmakes _).1 hcodes)).trans hfolder

/-- A logger that was asked for already, and the text on the console, make no difference to a
call. -/
theorem makes_fetch_iff {console : String} :
    ({ b with console := console }.fetch call.logger).Makes call codes ↔ b.Makes call codes := by
  have henables : (b.levels.fetch call.logger).enables call.logger call.level =
      b.levels.enables call.logger call.level := b.levels.enables_fetch ..
  refine ⟨fun h => ⟨henables ▸ h.enabled, h.ten_le, h.written⟩, fun h => ⟨?_, h.ten_le, h.written⟩⟩
  exact henables.trans h.enabled

end Logbook

end StorageReply
