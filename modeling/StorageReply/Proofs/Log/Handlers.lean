import StorageReply.Log.Setup
import StorageReply.Proofs.Log.Outlets
import StorageReply.Proofs.Log.Rotations
import StorageReply.Proofs.Session.Frames

/-!
# The handlers of the root logger

The outlets are the handlers of the root logger, which are called in the order in which they were
added. Records keep them (`handlers_log`), and so does everything but a setup. A setup takes all of
them away and adds its own: one for the console, and perhaps one for a log file after it. How far it
gets depends on the first step that fails.

* `Lineup`: no handlers, one for the console, or one for the console with one for a file behind it.
* `lineup_moment`: the handlers are so after every step of a setup, if they were so before.
* `handlers_setup`: the handlers after a setup, whatever was there before.
-/

namespace StorageReply

/-- A handler of the root logger, as it was added. -/
inductive Handler
  /-- Lines go to the console. -/
  | console (format : LineFormat)
  /-- Lines go to the file at a path, with a limit and a number of backups. -/
  | file (format : LineFormat) (path : Path) (limit : Int) (backups : Option Int)
  deriving DecidableEq, Repr

/-- Whether a handler is one for a file. -/
def Handler.isFile : Handler → Bool
  | console _ => false
  | file _ _ _ _ => true

/-- The handler of a log file. -/
def LogFile.handler (file : LogFile) (format : LineFormat) : Handler :=
  .file format file.path file.limit file.backups

/-- The handler that an outlet was added as. -/
def Outlet.handler : Outlet → Handler
  | .console format => .console format
  | .file format log => log.handler format

/-- Whether an outlet is as it is when it is added: a file is the one at its path. -/
def Outlet.IsNew : Outlet → Prop
  | .console _ => True
  | .file _ log => log.handle = .attached

/-- The handlers that there can be: none, one for the console, or one for the console and then one
for a file. -/
inductive Lineup : List Handler → Prop
  /-- There are none. -/
  | none : Lineup []
  /-- There is one for the console. -/
  | console (format : LineFormat) : Lineup [.console format]
  /-- There is one for the console, and then one for a file. -/
  | file (format : LineFormat) (path : Path) (limit : Int) (backups : Option Int) :
      Lineup [.console format, .file format path limit backups]

theorem Lineup.length_le {handlers : List Handler} (h : Lineup handlers) :
    handlers.length ≤ 2 := by
  cases h <;> simp

/-! ## Acts in turn -/

namespace Act

variable {σ β : Type} {act : Act σ Unit} {acts more rest : List (Act σ Unit)} {s : σ}

theorem result_inTurn_cons :
    (inTurn (act :: rest)).result s = (act >>= fun _ => inTurn rest).result s := rfl

theorem result_inTurn_append (acts more : List (Act σ Unit)) (s : σ) :
    (inTurn (acts ++ more)).result s = (inTurn acts >>= fun _ => inTurn more).result s := by
  induction acts generalizing s with
  | nil => rfl
  | cons act acts ih =>
    rw [List.cons_append, result_inTurn_cons, result_bind, result_bind, result_inTurn_cons,
      result_bind]
    rcases act.result s with ⟨t, failure | _⟩
    · rfl
    · dsimp only
      rw [ih, result_bind]

/-- What holds before some acts, and at every moment of the later ones after the first, holds at
every moment. -/
theorem moment_cons (P : σ → Prop) (hs : P s)
    (hrest : ∀ n, P ((inTurn (rest.take n)).result (act.result s).1).1) (n : Nat) :
    P ((inTurn ((act :: rest).take n)).result s).1 := by
  cases n with
  | zero => exact hs
  | succ n =>
    have hfirst : P (act.result s).1 := hrest 0
    have hlater := hrest n
    rw [List.take_succ_cons, result_inTurn_cons, result_bind]
    rcases hact : act.result s with ⟨t, failure | _⟩
    · rwa [hact] at hfirst
    · rwa [hact] at hlater

theorem respects_inTurn {R : σ → σ → Prop} [Std.Refl R] [IsTrans σ R]
    (h : ∀ act ∈ acts, Respects R act) : Respects R (inTurn acts) := by
  induction acts with
  | nil => exact respects_pure ()
  | cons act acts ih =>
    obtain ⟨hact, hacts⟩ := List.forall_mem_cons.1 h
    exact hact.bind fun _ => ih hacts

/-- Acts that keep a view keep it at every moment. -/
theorem view_moment {view : σ → β} (h : ∀ act ∈ acts, Keeps view act) (n : Nat) (s : σ) :
    view ((inTurn (acts.take n)).result s).1 = view s := by
  have hkeeps : Respects (SameView view) (inTurn (acts.take n)) :=
    respects_inTurn fun act hact => keeps_iff_respects.1 (h act (List.mem_of_mem_take hact))
  exact hkeeps s

end Act

/-! ## Records -/

namespace LogFile

/-- A line changes nothing of a log file but what it is connected to. -/
theorem handler_put (file : LogFile) (f : Folder) (line : List CodePoint) (format : LineFormat) :
    (file.put f line).1.handler format = file.handler format := by
  have hadd : ∀ (other : LogFile) (f : Folder) (text : String),
      (other.add f text).1.handler format = other.handler format := by
    intro other f text
    rw [add]
    split <;> rfl
  rw [put]
  generalize (if file.handle = .closed then openIn f file.path else f) = opened
  split
  · rw [turn]
    cases file.turned? opened with
    | none => rfl
    | some turned => exact hadd { file with handle := .attached } _ _
  · exact hadd file _ _

end LogFile

namespace Logbook

variable {b c : Logbook}

/-- The handlers, in the order in which they are called. -/
def handlers (b : Logbook) : List Handler := b.outlets.map Outlet.handler

/-- Whether the log files are in their places: none was removed since it was opened. -/
def IsConnected (b : Logbook) : Prop :=
  ∀ format file, .file format file ∈ b.outlets → file.IsConnected

theorem emit_file (b : Logbook) (line : List CodePoint) (format : LineFormat) (file : LogFile) :
    b.emit line (.file format file) =
      (.file format (file.put b.folder (line ++ [.char '\n'])).1,
        { b with folder := (file.put b.folder (line ++ [.char '\n'])).2 }) := rfl

theorem handler_hand (b : Logbook) (line : Except Failure (List CodePoint)) (outlet : Outlet) :
    (b.hand line outlet).1.handler = outlet.handler := by
  cases line with
  | error failure => rfl
  | ok line =>
    cases outlet with
    | console format => rfl
    | file format file =>
      rw [hand, emit_file]
      exact LogFile.handler_put ..

theorem map_handler_spread (lines : LineFormat → Except Failure (List CodePoint))
    (outlets : List Outlet) (b : Logbook) :
    (spread lines outlets b).1.map Outlet.handler = outlets.map Outlet.handler := by
  induction outlets generalizing b with
  | nil => rfl
  | cons outlet rest ih =>
    simp only [spread, List.map_cons, handler_hand]
    rw [ih]

/-- Lines keep the handlers. -/
theorem handlers_deliver (b : Logbook) (lines : LineFormat → Except Failure (List CodePoint)) :
    (b.deliver lines).handlers = b.handlers := map_handler_spread ..

/-- A record keeps the handlers. -/
theorem handlers_write (b : Logbook) (r : LogRecord) : (b.write r).handlers = b.handlers := by
  rw [write_eq_deliver]
  split
  · rfl
  · exact handlers_deliver ..

theorem handlers_log (b : Logbook) (name : String) (level : Int) (message : Value)
    (arguments : Arguments) (context : Option Fields) :
    (b.log name level message arguments context).handlers = b.handlers := by
  rw [log]
  split
  · exact handlers_write ..
  · rfl

/-- Whether log files are in their places depends on the outlets alone. -/
theorem IsConnected.congr (h : b.IsConnected) (houtlets : c.outlets = b.outlets) :
    c.IsConnected := fun format file hfile => h format file (houtlets ▸ hfile)

theorem isConnected_hand {line : Except Failure (List CodePoint)} {outlet : Outlet}
    (h : ∀ format file, outlet = .file format file → file.IsConnected) (b : Logbook) :
    ∀ format file, (b.hand line outlet).1 = .file format file → file.IsConnected := by
  cases line with
  | error failure => exact h
  | ok line =>
    cases outlet with
    | console format => exact fun _ _ hfile => by cases hfile
    | file format file =>
      obtain ⟨handle, hput, hconnected⟩ :=
        LogFile.exists_fst_put (h format file rfl) b.folder (line ++ [.char '\n'])
      rw [hand, emit_file, hput]
      rintro _ _ ⟨⟩
      exact hconnected

theorem isConnected_spread {lines : LineFormat → Except Failure (List CodePoint)}
    {outlets : List Outlet} (h : ∀ format file, .file format file ∈ outlets → file.IsConnected)
    (b : Logbook) :
    ∀ format file, .file format file ∈ (spread lines outlets b).1 → file.IsConnected := by
  induction outlets generalizing b with
  | nil => exact h
  | cons outlet rest ih =>
    intro format file hfile
    rcases List.mem_cons.1 hfile with hfirst | hrest
    · exact isConnected_hand
        (fun format file hfile => h format file (hfile ▸ List.mem_cons_self ..)) b format file
        hfirst.symm
    · exact ih (fun format file hfile => h format file (List.mem_cons_of_mem _ hfile)) _ format file
        hrest

/-- A record leaves log files in their places. -/
theorem IsConnected.write (h : b.IsConnected) (r : LogRecord) : (b.write r).IsConnected := by
  rw [write_eq_deliver]
  split
  · exact h
  · exact isConnected_spread h b

theorem IsConnected.log (h : b.IsConnected) (name : String) (level : Int) (message : Value)
    (arguments : Arguments) (context : Option Fields) :
    (b.log name level message arguments context).IsConnected := by
  rw [Logbook.log]
  split
  · exact IsConnected.write (b := b.ask name level) (h.congr rfl) _
  · exact h.congr rfl

/-! ## Steps of a setup -/

open Act

section

variable {R : Logbook → Logbook → Prop} [Std.Refl R] [IsTrans Logbook R]

omit [IsTrans Logbook R] in
/-- Making a folder respects a relation that permits it. -/
theorem respects_makeFolder (hfolder : ∀ b folder, R b { b with folder := folder }) (path : Path) :
    Respects R (makeFolder path) := by
  intro b
  simp only [makeFolder, result_bind, result_of, result_get]
  cases checkNames path.dropLast with
  | error failure => exact refl_of R b
  | ok _ =>
    dsimp only
    cases b.folder.make path.dropLast with
    | error failure => exact refl_of R b
    | ok made => exact hfolder b made

/-- Opening a log file respects a relation that permits a file to be made and an outlet to be
added. -/
theorem respects_openFile (hfolder : ∀ b folder, R b { b with folder := folder })
    (hattach : ∀ b outlet, outlet.IsNew → R b (attach outlet b)) (setup : LogSetup)
    (name : String) : Respects R (openFile setup name) := by
  have hopen : ∀ limit, Respects R (do
      modify fun b => { b with folder := LogFile.openIn b.folder (Path.ofText name).straight }
      modify (attach (.file setup.lineFormat
        ⟨(Path.ofText name).straight, limit, backupsOf setup.rotationCount, .attached⟩))) :=
    fun limit => (respects_modify fun b => hfolder b _).bind fun _ =>
      respects_modify fun b => hattach b _ rfl
  exact (respects_of _).bind fun _ => (respects_of _).bind fun _ => respects_get.bind fun _ =>
    ((respects_throw _).bind fun _ => hopen _).ite (hopen _)

/-- The message about a log file respects a relation that permits messages of the root logger. -/
theorem respects_reportFile (hsay : ∀ b text, R b (b.say LoggerTree.rootName 20 text))
    (setup : LogSetup) (name : String) : Respects R (reportFile setup name) :=
  (respects_of _).bind fun _ => (respects_of _).bind fun _ => respects_modify fun b => hsay b _

/-- The steps to a log file respect a relation that permits a folder to be made, an outlet to be
added, and the message about it. -/
theorem respects_fileSteps (hfolder : ∀ b folder, R b { b with folder := folder })
    (hattach : ∀ b outlet, outlet.IsNew → R b (attach outlet b))
    (hsay : ∀ b text, R b (b.say LoggerTree.rootName 20 text)) (setup : LogSetup) :
    ∀ act ∈ fileSteps setup, Respects R act := by
  intro act hact
  rw [fileSteps] at hact
  split at hact
  · split at hact
    · cases hact
    · simp only [List.mem_cons, List.not_mem_nil, or_false] at hact
      rcases hact with rfl | rfl | rfl
      · exact respects_makeFolder hfolder _
      · exact respects_openFile hfolder hattach setup _
      · exact respects_reportFile hsay setup _
  · split at hact
    · rw [List.mem_singleton.1 hact]
      exact respects_throw _
    · cases hact

theorem respects_giveLevels (hfetch : ∀ b name, R b (b.fetch name))
    (hlevel : ∀ b name level, R b { b with levels := b.levels.give name level })
    (entries : List (Key × Value)) : Respects R (giveLevels entries) := by
  induction entries with
  | nil => exact respects_pure ()
  | cons entry rest ih =>
    obtain ⟨key, v⟩ := entry
    exact (respects_of _).bind fun name => (respects_modify fun b => hfetch b name).bind fun _ =>
      (respects_of _).bind fun level => (respects_modify fun b => hlevel b name level).bind
        fun _ => ih

/-- Giving levels respects a relation that permits a logger to be asked for and given one. -/
theorem respects_giveLevelsOf (hfetch : ∀ b name, R b (b.fetch name))
    (hlevel : ∀ b name level, R b { b with levels := b.levels.give name level }) (v : Value) :
    Respects R (giveLevelsOf v) := by
  unfold giveLevelsOf
  split
  · exact respects_giveLevels hfetch hlevel _
  · exact (respects_throw _).ite (respects_pure _)

/-- The message about a setup respects a relation that permits messages of the root logger. -/
theorem respects_report (hsay : ∀ b text, R b (b.say LoggerTree.rootName 20 text))
    (setup : LogSetup) : Respects R (report setup) :=
  (respects_of _).bind fun _ => (respects_of _).bind fun _ => respects_modify fun b => hsay b _

omit [IsTrans Logbook R] in
theorem respects_giveRoot
    (hlevel : ∀ b name level, R b { b with levels := b.levels.give name level })
    (setup : LogSetup) : Respects R (giveRoot setup) := by
  intro b
  rw [giveRoot, result_bind, result_of]
  cases levelOf setup.level with
  | error failure => exact refl_of R b
  | ok level => exact hlevel b _ level

/-- Every step of a setup respects a relation that permits what setups do. -/
theorem respects_setupSteps (hfolder : ∀ b folder, R b { b with folder := folder })
    (hclear : ∀ b : Logbook, R b b.clear)
    (hattach : ∀ b outlet, outlet.IsNew → R b (attach outlet b))
    (hfetch : ∀ b name, R b (b.fetch name))
    (hlevel : ∀ b name level, R b { b with levels := b.levels.give name level })
    (hsay : ∀ b text, R b (b.say LoggerTree.rootName 20 text)) (setup : LogSetup) :
    ∀ act ∈ setupSteps setup, Respects R act := by
  intro act hact
  simp only [setupSteps, List.mem_append, List.mem_cons, List.not_mem_nil, or_false] at hact
  rcases hact with ((rfl | rfl | rfl) | hfile) | rfl | rfl
  · exact respects_giveRoot hlevel setup
  · exact respects_modify hclear
  · exact respects_modify fun b => hattach b _ trivial
  · exact respects_fileSteps hfolder hattach hsay setup act hfile
  · exact respects_giveLevelsOf hfetch hlevel _
  · exact respects_report hsay setup

end

end Logbook

/-! ## The log file of a setup -/

namespace LogSetup

/-- The folder in which a setup opens a log file with a name: the folder of the file is made. -/
def madeFolder (name : String) (f : Folder) : Except Failure Folder := do
  Logbook.checkNames (Path.ofText name).dropLast
  f.make (Path.ofText name).dropLast

/-- The log file with a name that a setup opens in a folder: its size can be read, and no folder is
in its place. -/
def fitting? (setup : LogSetup) (name : String) (f : Folder) : Option LogFile := do
  let limit ← (sizeOf setup.rotationSize).toOption
  let path := (Path.ofText name).straight
  (Logbook.checkNames path).toOption
  if f.isFolder path then none
  else some ⟨path, limit, backupsOf setup.rotationCount, .attached⟩

/-- The log file with a name that a setup opens once the folder of the file is made, if it can
be. -/
def opening? (setup : LogSetup) (name : String) (f : Folder) : Option LogFile := do
  let made ← (madeFolder name f).toOption
  setup.fitting? name made

/-- The log file that a setup opens, if it asks for one. -/
def opened? (setup : LogSetup) (f : Folder) : Option LogFile :=
  match setup.file with
  | .text name => if name.isEmpty then none else setup.opening? name f
  | _ => none

end LogSetup

namespace Logbook

open Act

variable {b : Logbook} {setup : LogSetup} {name : String}

theorem result_makeFolder (name : String) (b : Logbook) :
    (makeFolder (Path.ofText name)).result b =
      match LogSetup.madeFolder name b.folder with
      | .ok made => ({ b with folder := made }, .ok ())
      | .error failure => (b, .error failure) := by
  simp only [makeFolder, LogSetup.madeFolder, result_bind, result_of, result_get]
  cases checkNames (Path.ofText name).dropLast with
  | error failure => rfl
  | ok _ =>
    dsimp only
    cases b.folder.make (Path.ofText name).dropLast <;> rfl

/-- A log file that can be opened becomes an outlet behind all others. -/
theorem outlets_openFile (setup : LogSetup) (name : String) (b : Logbook) :
    ((openFile setup name).result b).1.outlets =
      b.outlets ++ (setup.fitting? name b.folder).toList.map (.file setup.lineFormat) := by
  simp only [openFile, LogSetup.fitting?, result_bind, result_of, result_get]
  cases sizeOf setup.rotationSize with
  | error failure => exact (List.append_nil _).symm
  | ok limit =>
    dsimp only
    cases checkNames (Path.ofText name).straight with
    | error failure => exact (List.append_nil _).symm
    | ok _ =>
      simp only [result_ite, Except.toOption, Option.bind_eq_bind, Option.bind_some]
      split
      · exact (List.append_nil _).symm
      · rfl

/-- The steps that keep the handlers: all but the three that take them away or add one. -/
theorem keeps_handlers_giveRoot (setup : LogSetup) : Keeps handlers (giveRoot setup) :=
  keeps_iff_respects.2 (respects_giveRoot (fun _ _ _ => rfl) setup)

theorem keeps_handlers_makeFolder (path : Path) : Keeps handlers (makeFolder path) :=
  keeps_iff_respects.2 (respects_makeFolder (fun _ _ => rfl) path)

theorem keeps_handlers_reportFile (setup : LogSetup) (name : String) :
    Keeps handlers (reportFile setup name) :=
  keeps_iff_respects.2 (respects_reportFile (fun b _ => b.handlers_log ..) setup name)

/-- The steps behind those to a log file keep the handlers. -/
theorem keeps_handlers_lastSteps (setup : LogSetup) :
    ∀ act ∈ [giveLevelsOf setup.loggerLevels, report setup], Keeps handlers act :=
  List.forall_mem_cons.2
    ⟨keeps_iff_respects.2 (respects_giveLevelsOf (fun _ _ => rfl) (fun _ _ _ => rfl) _),
      List.forall_mem_singleton.2
        (keeps_iff_respects.2 (respects_report (fun b _ => b.handlers_log ..) setup))⟩

/-- The logbook with the level of the root logger and an outlet for the console alone. -/
def started (setup : LogSetup) (level : Int) (b : Logbook) : Logbook :=
  attach (.console setup.lineFormat)
    (clear { b with levels := b.levels.give LoggerTree.rootName level })

/-- A setup whose level has no name does nothing. -/
theorem result_setup_of_error {failure : Failure} (h : levelOf setup.level = .error failure) :
    (Logbook.setup setup).result b = (b, .error failure) := by
  rw [Logbook.setup, setupSteps, List.append_assoc, List.cons_append, result_inTurn_cons, giveRoot,
    h]
  rfl

/-- A setup begins with the level of the root logger and the outlet for the console. -/
theorem result_setup_of_ok {level : Int} (h : levelOf setup.level = .ok level) :
    (Logbook.setup setup).result b =
      (inTurn (fileSteps setup) >>= fun _ =>
        inTurn [giveLevelsOf setup.loggerLevels, report setup]).result (started setup level b) := by
  rw [← result_inTurn_append, Logbook.setup, setupSteps, List.append_assoc, List.cons_append,
    result_inTurn_cons, giveRoot, h]
  rfl

/-- After the steps to a log file there is a handler for the file behind all others, if the file
could be opened. -/
theorem handlers_fileSteps (setup : LogSetup) (b : Logbook) :
    ((inTurn (fileSteps setup)).result b).1.handlers =
      b.handlers ++ (setup.opened? b.folder).toList.map (·.handler setup.lineFormat) := by
  rw [fileSteps, LogSetup.opened?]
  cases hfile : setup.file with
  | text name =>
    dsimp only
    split
    · exact (List.append_nil _).symm
    · rw [result_inTurn_cons, result_bind, result_makeFolder, LogSetup.opening?]
      cases LogSetup.madeFolder name b.folder with
      | error failure => exact (List.append_nil _).symm
      | ok made =>
        have hreport : Keeps handlers (inTurn [reportFile setup name]) := fun c =>
          view_moment (List.forall_mem_singleton.2 (keeps_handlers_reportFile setup name)) 1 c
        have hopen := outlets_openFile setup name { b with folder := made }
        dsimp only
        rw [result_inTurn_cons]
        refine (Respects.after (P := fun c : Logbook => c.handlers = _)
          (fun _ c hc => (hreport c).trans hc) ?_)
        rw [handlers, hopen, List.map_append, List.map_map]
        rfl
  | _ =>
    dsimp only
    split <;> exact (List.append_nil _).symm

/-- **A setup replaces all handlers by its own**, whatever they were, unless its level has no
name. -/
theorem handlers_setup {level : Int} (h : levelOf setup.level = .ok level) (b : Logbook) :
    ((Logbook.setup setup).result b).1.handlers =
      .console setup.lineFormat ::
        (setup.opened? b.folder).toList.map (·.handler setup.lineFormat) := by
  have hlast : Keeps handlers (inTurn [giveLevelsOf setup.loggerLevels, report setup]) :=
    fun c => view_moment (keeps_handlers_lastSteps setup) 2 c
  rw [result_setup_of_ok h]
  exact Respects.after (P := fun c : Logbook => c.handlers = _)
    (fun _ c hc => (hlast c).trans hc) (handlers_fileSteps setup (started setup level b))

/-- Steps that keep the handlers keep them lined up at every moment. -/
theorem lineup_moment_of_keeps (h : Lineup b.handlers) {acts : List (Act Logbook Unit)}
    (hacts : ∀ act ∈ acts, Keeps handlers act) (n : Nat) :
    Lineup ((inTurn (acts.take n)).result b).1.handlers := by
  rwa [view_moment hacts]

/-- With one handler for the console, the steps to a log file and those behind them keep the
handlers lined up at every moment. -/
theorem lineup_moment_fileSteps (h : b.handlers = [.console setup.lineFormat]) (n : Nat) :
    Lineup ((inTurn ((fileSteps setup ++ [giveLevelsOf setup.loggerLevels, report setup]).take
      n)).result b).1.handlers := by
  have hlined : Lineup b.handlers := h ▸ .console _
  have hlast := keeps_handlers_lastSteps setup
  rw [fileSteps]
  split
  · rename_i name _
    split
    · exact lineup_moment_of_keeps hlined hlast n
    · have hmade : ((makeFolder (Path.ofText name)).result b).1.handlers =
          [.console setup.lineFormat] := (keeps_handlers_makeFolder _ b).trans h
      refine moment_cons (fun c : Logbook => Lineup c.handlers) hlined
        (moment_cons (fun c : Logbook => Lineup c.handlers) ?_ (lineup_moment_of_keeps ?_ ?_)) n
      · exact hmade ▸ .console _
      · rw [handlers, outlets_openFile, List.map_append, ← handlers, hmade]
        cases setup.fitting? name _ with
        | none => exact .console _
        | some file => exact .file ..
      · exact List.forall_mem_cons.2 ⟨keeps_handlers_reportFile setup name, hlast⟩
  · refine lineup_moment_of_keeps hlined (List.forall_mem_append.2 ⟨fun act hact => ?_, hlast⟩) n
    split at hact
    · rw [List.mem_singleton.1 hact]
      exact fun _ => rfl
    · cases hact

/-- **At every moment of a setup the handlers are lined up**, if they were before: none, one for the
console, or one for the console and then one for a file. -/
theorem lineup_moment (h : Lineup b.handlers) (setup : LogSetup) (n : Nat) :
    Lineup ((inTurn ((setupSteps setup).take n)).result b).1.handlers := by
  have hroot : Lineup ((giveRoot setup).result b).1.handlers := by
    rwa [keeps_handlers_giveRoot setup b]
  have hsteps : setupSteps setup = giveRoot setup :: modify clear ::
      modify (attach (.console setup.lineFormat)) ::
        (fileSteps setup ++ [giveLevelsOf setup.loggerLevels, report setup]) := by
    rw [setupSteps, List.append_assoc]
    rfl
  let P : Logbook → Prop := fun c => Lineup c.handlers
  have hcleared : P ((modify clear : Act Logbook Unit).result ((giveRoot setup).result b).1).1 :=
    Lineup.none
  rw [hsteps]
  exact moment_cons P h (moment_cons P hroot (moment_cons P hcleared
    fun n => lineup_moment_fileSteps rfl n)) n

/-- A setup keeps the handlers lined up. -/
theorem lineup_setup (h : Lineup b.handlers) (setup : LogSetup) :
    Lineup ((Logbook.setup setup).result b).1.handlers := by
  have hall := lineup_moment h setup (setupSteps setup).length
  rwa [List.take_length] at hall

/-- A setup leaves log files in their places. -/
theorem isConnected_setup (h : b.IsConnected) (setup : LogSetup) :
    ((Logbook.setup setup).result b).1.IsConnected := by
  have hsteps : Respects (Passes IsConnected) (Logbook.setup setup) := by
    refine respects_inTurn (respects_setupSteps (fun _ _ h => h.congr rfl) ?_ ?_
      (fun _ _ h => h.congr rfl) (fun _ _ _ h => h.congr rfl)
      (fun _ _ h => IsConnected.log h _ _ _ _ _) setup)
    · exact fun _ _ _ _ hfile => by cases hfile
    · intro c outlet hnew hc format file hfile
      rcases List.mem_append.1 hfile with hfile | hfile
      · exact hc format file hfile
      · obtain rfl := List.mem_singleton.1 hfile
        intro size hsize
        rw [show file.handle = .attached from hnew] at hsize
        cases hsize
  exact hsteps b h

end Logbook

end StorageReply
