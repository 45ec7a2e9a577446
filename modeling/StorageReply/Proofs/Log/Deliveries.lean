import StorageReply.Proofs.Log.Handlers

/-!
# Lines that outlets get

What is new after each outlet got the line of its format (`Logbook.deliver`). On the console are the
lines of the outlets for it, one after the other (`console_deliver`); a log file behind the outlet
for the console has taken what it takes of its line (`folder_deliver`). Levels, identifiers and the
time stay, and make no difference to where lines go.
-/

namespace StorageReply

/-- The format of the lines of an outlet for the console. -/
def Outlet.console? : Outlet → Option LineFormat
  | .console format => some format
  | .file _ _ => none

/-- The log file of an outlet. -/
def Outlet.file? : Outlet → Option LogFile
  | .console _ => none
  | .file _ log => some log

namespace Logbook

variable {b : Logbook} {lines : LineFormat → Except Failure (List CodePoint)} {format : LineFormat}
  {line : String}

/-- The formats of the lines on the console. -/
def consoles (b : Logbook) : List LineFormat := b.outlets.filterMap Outlet.console?

/-- The log file, if there is an outlet for one. -/
def logFile (b : Logbook) : Option LogFile := b.outlets.findSome? Outlet.file?

/-- The line of a format, if there is one that the console takes. -/
def printed? (lines : LineFormat → Except Failure (List CodePoint)) (format : LineFormat) :
    Option String :=
  (lines format).toOption.bind CodePoint.text?

/-- The text of some lines on the console. -/
def linesText (lines : List String) : String := String.join (lines.map (· ++ "\n"))

@[simp] theorem linesText_nil : linesText [] = "" := rfl

theorem linesText_append (lines more : List String) :
    linesText (lines ++ more) = linesText lines ++ linesText more := by
  simp [linesText, String.join_append]

@[simp] theorem linesText_singleton (line : String) : linesText [line] = line ++ "\n" := by
  simp [linesText]

theorem printed?_eq_some_iff :
    printed? lines format = some line ↔ lines format = .ok (CodePoint.ofText line) := by
  rw [printed?]
  cases lines format with
  | error failure => simp [Except.toOption]
  | ok codes => simp [Except.toOption, CodePoint.text?_eq_some_iff]

/-! ## One outlet -/

theorem console_print (b : Logbook) (codes : List CodePoint) :
    (b.print codes).console = b.console ++ linesText (CodePoint.text? codes).toList := by
  rw [print]
  split
  · rename_i text h
    simp [h, String.append_assoc]
  · rename_i h
    simp [h]

theorem folder_print (b : Logbook) (codes : List CodePoint) :
    (b.print codes).folder = b.folder := by
  rw [print]
  split <;> rfl

/-- A line changes the console and the files only. -/
theorem print_eq (b : Logbook) (codes : List CodePoint) :
    b.print codes = { b with console := (b.print codes).console } := by
  rw [print]
  split <;> rfl

theorem console_hand (b : Logbook) (outlet : Outlet) :
    (b.hand (lines outlet.format) outlet).2.console =
      b.console ++ linesText (outlet.console?.bind (printed? lines)).toList := by
  cases outlet with
  | console format =>
    rw [Outlet.format, Outlet.console?, Option.bind_some, printed?]
    cases lines format with
    | error failure => exact String.append_empty.symm
    | ok codes => exact console_print b codes
  | file format file =>
    rw [Outlet.format, Outlet.console?, Option.bind_none, Option.toList_none, linesText_nil,
      String.append_empty]
    cases lines format <;> rfl

/-- An outlet goes on with the format that it has. -/
theorem console?_hand (b : Logbook) (codes : Except Failure (List CodePoint)) (outlet : Outlet) :
    (b.hand codes outlet).1.console? = outlet.console? := by
  cases codes <;> cases outlet <;> rfl

theorem hand_eq (b : Logbook) (codes : Except Failure (List CodePoint)) (outlet : Outlet) :
    (b.hand codes outlet).2 =
      { b with
        console := (b.hand codes outlet).2.console
        folder := (b.hand codes outlet).2.folder } := by
  cases codes with
  | error failure => rfl
  | ok codes =>
    cases outlet with
    | console format =>
      have hprint := print_eq b codes
      have hfolder := folder_print b codes
      change b.print codes =
        { b with console := (b.print codes).console, folder := (b.print codes).folder }
      rw [hfolder]
      exact hprint
    | file format file => rfl

/-- Where a line goes does not depend on levels and identifiers. -/
theorem hand_with (b : Logbook) (codes : Except Failure (List CodePoint)) (outlet : Outlet)
    (levels : Levels) (outlets : List Outlet) (bound : List (Option String)) :
    { b with levels := levels, outlets := outlets, bound := bound }.hand codes outlet =
      ((b.hand codes outlet).1,
        { (b.hand codes outlet).2 with levels := levels, outlets := outlets, bound := bound }) := by
  cases codes with
  | error failure => rfl
  | ok codes =>
    cases outlet with
    | console format =>
      rw [hand, hand, emit, emit, print, print]
      split <;> rfl
    | file format file => rfl

/-! ## All outlets -/

theorem spread_eq (lines : LineFormat → Except Failure (List CodePoint)) (outlets : List Outlet)
    (b : Logbook) :
    (spread lines outlets b).2 =
      { b with
        console := (spread lines outlets b).2.console
        folder := (spread lines outlets b).2.folder } := by
  induction outlets generalizing b with
  | nil => rfl
  | cons outlet rest ih =>
    simp only [spread]
    rw [ih, hand_eq]

theorem spread_with (lines : LineFormat → Except Failure (List CodePoint)) (outlets : List Outlet)
    (b : Logbook) (levels : Levels) (others : List Outlet) (bound : List (Option String)) :
    spread lines outlets { b with levels := levels, outlets := others, bound := bound } =
      ((spread lines outlets b).1,
        { (spread lines outlets b).2 with
          levels := levels, outlets := others, bound := bound }) := by
  induction outlets generalizing b with
  | nil => rfl
  | cons outlet rest ih =>
    simp only [spread]
    rw [hand_with, ih]

theorem console_spread (lines : LineFormat → Except Failure (List CodePoint))
    (outlets : List Outlet) (b : Logbook) :
    (spread lines outlets b).2.console =
      b.console ++ linesText ((outlets.filterMap Outlet.console?).filterMap (printed? lines)) := by
  induction outlets generalizing b with
  | nil => simp [spread]
  | cons outlet rest ih =>
    have hrest : ((outlet :: rest).filterMap Outlet.console?).filterMap (printed? lines) =
        (outlet.console?.bind (printed? lines)).toList ++
          (rest.filterMap Outlet.console?).filterMap (printed? lines) := by
      rw [List.filterMap_filterMap, List.filterMap_filterMap, List.filterMap_cons]
      cases outlet.console?.bind (printed? lines) <;> rfl
    simp only [spread]
    rw [ih, console_hand, hrest, linesText_append, String.append_assoc]

theorem filterMap_console?_spread (lines : LineFormat → Except Failure (List CodePoint))
    (outlets : List Outlet) (b : Logbook) :
    (spread lines outlets b).1.filterMap Outlet.console? = outlets.filterMap Outlet.console? := by
  induction outlets generalizing b with
  | nil => rfl
  | cons outlet rest ih =>
    simp only [spread, List.filterMap_cons, console?_hand]
    rw [ih]

/-- **The lines on the console** are those of the outlets for it, as far as there are some. -/
theorem console_deliver (b : Logbook) (lines : LineFormat → Except Failure (List CodePoint)) :
    (b.deliver lines).console =
      b.console ++ linesText (b.consoles.filterMap (printed? lines)) := console_spread ..

/-- Lines leave levels, identifiers and the time as they are. -/
theorem deliver_eq (b : Logbook) (lines : LineFormat → Except Failure (List CodePoint)) :
    b.deliver lines =
      { b with
        outlets := (b.deliver lines).outlets
        folder := (b.deliver lines).folder
        console := (b.deliver lines).console } := by
  rw [deliver, spread_eq]

@[simp] theorem bound_deliver (b : Logbook)
    (lines : LineFormat → Except Failure (List CodePoint)) :
    (b.deliver lines).bound = b.bound := by rw [deliver_eq]

@[simp] theorem clock_deliver (b : Logbook)
    (lines : LineFormat → Except Failure (List CodePoint)) :
    (b.deliver lines).clock = b.clock := by rw [deliver_eq]

@[simp] theorem levels_deliver (b : Logbook)
    (lines : LineFormat → Except Failure (List CodePoint)) :
    (b.deliver lines).levels = b.levels := by rw [deliver_eq]

@[simp] theorem consoles_deliver (b : Logbook)
    (lines : LineFormat → Except Failure (List CodePoint)) :
    (b.deliver lines).consoles = b.consoles := filterMap_console?_spread ..

/-- Levels and identifiers make no difference to where lines go. -/
theorem deliver_with (b : Logbook) (lines : LineFormat → Except Failure (List CodePoint))
    (levels : Levels) (bound : List (Option String)) :
    { b with levels := levels, bound := bound }.deliver lines =
      { b.deliver lines with levels := levels, bound := bound } := by
  have hspread := spread_with lines b.outlets b levels b.outlets bound
  rw [deliver, deliver, hspread]

/-- Without a log file all files stay. -/
theorem folder_spread (lines : LineFormat → Except Failure (List CodePoint))
    {outlets : List Outlet} (h : ∀ outlet ∈ outlets, outlet.handler.isFile = false) (b : Logbook) :
    (spread lines outlets b).2.folder = b.folder := by
  induction outlets generalizing b with
  | nil => rfl
  | cons outlet rest ih =>
    obtain ⟨houtlet, hrest⟩ := List.forall_mem_cons.1 h
    simp only [spread]
    rw [ih hrest]
    cases outlet with
    | file format file => cases houtlet
    | console format =>
      rw [Outlet.format]
      cases lines format with
      | error failure => rfl
      | ok codes => exact folder_print b codes

theorem folder_deliver_of_no_file (h : b.handlers.any Handler.isFile = false) :
    (b.deliver lines).folder = b.folder := by
  refine folder_spread lines (fun outlet houtlet => ?_) b
  rw [handlers, List.any_map] at h
  exact Bool.eq_false_iff.2 (List.any_eq_false.1 h outlet houtlet)

/-! ## Handlers that are lined up -/

/-- There is a handler for a file just when there is a log file. -/
theorem isSome_logFile (b : Logbook) : b.logFile.isSome = b.handlers.any Handler.isFile := by
  rw [logFile, handlers, List.any_map]
  induction b.outlets with
  | nil => rfl
  | cons outlet rest ih =>
    rw [List.findSome?_cons, List.any_cons, ← ih]
    cases outlet <;> rfl

/-- If the handlers are lined up there are no outlets, or there is one for the console, with one for
the log file behind it. -/
theorem outlets_of_lineup (h : Lineup b.handlers) :
    b.outlets = [] ∨
      ∃ format, b.outlets = .console format :: b.logFile.toList.map (.file format) := by
  rw [logFile]
  generalize houtlets : b.outlets = outlets
  rw [handlers, houtlets] at h
  rcases outlets with - | ⟨first, - | ⟨second, - | ⟨third, rest⟩⟩⟩
  · exact .inl rfl
  · cases first with
    | console format => exact .inr ⟨format, rfl⟩
    | file format file => cases h
  · cases first with
    | file format file => cases h
    | console format =>
      cases second with
      | console format => cases h
      | file format file =>
        cases h
        exact .inr ⟨_, rfl⟩
  · have hlength := h.length_le
    simp at hlength

variable {codes : List CodePoint}

/-- With the outlets lined up a line that the console gets is put in the log file as well. -/
theorem folder_deliver
    (houtlets : b.outlets = .console format :: b.logFile.toList.map (.file format))
    (hline : lines format = .ok codes) : (b.deliver lines).folder =
      match b.logFile with
      | some file => (file.put b.folder (codes ++ [.char '\n'])).2
      | none => b.folder := by
  rw [deliver, houtlets]
  simp only [spread, Outlet.format, hline, hand]
  cases b.logFile with
  | none => exact folder_print b codes
  | some file =>
    simp only [Option.toList_some, List.map_cons, List.map_nil, spread, Outlet.format, hline, hand,
      emit_file]
    rw [emit, folder_print]

/-- Without a line for the console all files stay. -/
theorem folder_deliver_of_error {failure : Failure}
    (houtlets : b.outlets = .console format :: b.logFile.toList.map (.file format))
    (hline : lines format = .error failure) : (b.deliver lines).folder = b.folder := by
  rw [deliver, houtlets]
  simp only [spread, Outlet.format, hline, hand]
  cases b.logFile with
  | none => rfl
  | some file => simp only [Option.toList_some, List.map_cons, List.map_nil, spread, Outlet.format,
      hline, hand]

end Logbook

end StorageReply
