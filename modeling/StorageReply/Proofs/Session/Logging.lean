import StorageReply.Proofs.Log.Shown
import StorageReply.Proofs.Session.Histories

/-!
# Logging of a session

However often a client sets logging up, a call of a logger is logged once (`logged_once`). Only
setups change the handlers of the root logger: they take all of them away before they add others, so
there are never two for the console or two for a file, not even between two steps of a setup. Where
a logger stands among the others, which levels count and what is remembered of them stay in step as
well (`Logbook.Tidy`).

Runs that remove a file are left aside: the handler of a log file goes on writing to the removed
one.
-/

namespace StorageReply

/-- The call of a logger that a command makes; there is none with a level that is no integer, or
with a context that has a reserved name. -/
def Command.logCall? : Command → Option LogCall
  | .log logger v message arguments =>
    v.integer?.map fun level => ⟨logger, level, message, .ofList arguments, none⟩
  | .logWithContext logger v message context =>
    if context.any fun (key, _) => Session.reservedNames.contains key then none
    else v.integer?.map fun level =>
      ⟨logger, level, message, .positional [], if context.isEmpty then none else some context⟩
  | _ => none

namespace Logbook

open Act

/-- Whether the handlers are lined up, the log files are in their places, and the levels are
sound. -/
structure Tidy (b : Logbook) : Prop where
  /-- The handlers are lined up. -/
  lineup : Lineup b.handlers
  /-- The log files are in their places. -/
  isConnected : b.IsConnected
  /-- The levels are sound. -/
  levels : b.levels.Sound

variable {b c : Logbook}

theorem Tidy.congr (h : b.Tidy) (houtlets : c.outlets = b.outlets) (hlevels : c.levels.Sound) :
    c.Tidy :=
  ⟨by rw [handlers, houtlets]; exact h.lineup, h.isConnected.congr houtlets, hlevels⟩

theorem levels_log (b : Logbook) (name : String) (level : Int) (message : Value)
    (arguments : Arguments) (context : Option Fields) :
    (b.log name level message arguments context).levels = b.levels.ask name level := by
  rcases b.log_eq name level message arguments context with hlog | ⟨lines, -, hlog⟩ <;> rw [hlog]
  · rfl
  · exact levels_deliver ..

theorem Tidy.log (h : b.Tidy) (name : String) (level : Int) (message : Value)
    (arguments : Arguments) (context : Option Fields) :
    (b.log name level message arguments context).Tidy :=
  ⟨by rw [handlers_log]; exact h.lineup, h.isConnected.log _ _ _ _ _, by
    rw [levels_log]; exact h.levels.ask name level⟩

/-- Setups keep levels sound. -/
theorem sound_setup (h : b.levels.Sound) (setup : LogSetup) :
    ((Logbook.setup setup).result b).1.levels.Sound := by
  have hsteps : Respects (Passes fun b : Logbook => b.levels.Sound) (Logbook.setup setup) := by
    refine respects_inTurn (respects_setupSteps (fun _ _ h => h) (fun _ h => h) (fun _ _ _ h => h)
      (fun b name h => h.fetch name) (fun b name level h => h.give name level) ?_ setup)
    intro b text h
    rw [say, levels_log]
    exact h.ask ..
  exact hsteps b h

theorem Tidy.setup (h : b.Tidy) (setup : LogSetup) : ((Logbook.setup setup).result b).1.Tidy :=
  ⟨lineup_setup h.lineup setup, isConnected_setup h.isConnected setup, sound_setup h.levels setup⟩

end Logbook

namespace Session

open Act

/-! ## One command -/

theorem permits_tidy : Permits (Passes fun s : Session => s.book.Tidy) where
  fetch _ name h := h.congr rfl (h.levels.fetch name)
  log _ name level message arguments context h := h.log name level message arguments context
  bind _ _ h := h.congr rfl h.levels
  unbind _ h := h.congr rfl h.levels
  writeFile _ _ _ h := h.congr rfl h.levels
  assign _ _ _ h := h

theorem tidy_load (file overrides : Value) :
    Respects (Passes fun s : Session => s.book.Tidy) (load file overrides) :=
  respects_load (fun _ _ => respects_modify fun s => permits_tidy.log s _ _ _ _ _)
    (fun _ _ h => h) (fun _ _ h => h) file overrides

theorem tidy_setup (setup : LogSetup) :
    Respects (Passes fun s : Session => s.book.Tidy) (onBook (Logbook.setup setup)) := by
  intro s h
  rw [onBook, result_on]
  exact h.setup setup

/-- Every command but the removal of a file keeps the logbook tidy. -/
theorem tidy_perform {command : Command} (hdelete : command.isDelete = false) :
    Respects (Passes fun s : Session => s.book.Tidy) (perform command) := by
  cases command with
  | load file overrides => exact (tidy_load file overrides).bind_pure _
  | reload =>
    have hreload : Respects (Passes fun s : Session => s.book.Tidy) reload := fun s =>
      tidy_load _ _ s
    exact hreload.bind_pure _
  | setup fields =>
    have hsetup : Respects (Passes fun s : Session => s.book.Tidy) (setup fields) :=
      (respects_of _).bind fun _ => tidy_setup _
    exact hsetup.bind_pure _
  | configureLogging =>
    have hlogging : Respects (Passes fun s : Session => s.book.Tidy) configureLogging :=
      respects_config.bind fun _ => tidy_setup _
    exact hlogging.bind_pure _
  | delete path => simp [Command.isDelete] at hdelete
  | _ => exact respects_perform permits_tidy rfl rfl rfl

theorem result_of_logCall? {command : Command} {call : LogCall} (h : command.logCall? = some call)
    (s : Session) :
    (perform command).result s =
      (s.withBook ((s.book.fetch call.logger).logCall call), .ok .done) := by
  cases command with
  | log logger v message arguments =>
    obtain ⟨level, hlevel, rfl⟩ := Option.map_eq_some_iff.1 h
    have hrecord : recordLevel v = .ok level := by rw [recordLevel, hlevel]
    simp only [perform, log, hrecord, result_bind, result_of]
    rfl
  | logWithContext logger v message context =>
    simp only [Command.logCall?] at h
    split at h
    · cases h
    · rename_i hcontext
      obtain ⟨level, hlevel, rfl⟩ := Option.map_eq_some_iff.1 h
      have hrecord : recordLevel v = .ok level := by rw [recordLevel, hlevel]
      simp only [perform, logWithContext, if_neg hcontext, hrecord, result_bind, result_of]
      rfl
  | _ => cases h

/-- A command that calls a logger is logged once. -/
theorem logsOnce_step {s : Session} (h : s.book.Tidy) {command : Command} {call : LogCall}
    (hcall : command.logCall? = some call) :
    s.book.LogsOnce call (s.step command).2.printed (s.step command).1.book.folder := by
  have hfetched : (s.cleared.book.fetch call.logger).Tidy :=
    h.congr rfl (h.levels.fetch call.logger)
  rw [step_eq, result_of_logCall? hcall]
  exact (Logbook.logsOnce_logCall hfetched.lineup hfetched.isConnected rfl).congr
    (fun _ => Logbook.makes_fetch_iff) rfl rfl

/-! ## Runs -/

theorem tidy_start (folder : Folder) (environment : Environment) (clock : Stamp) :
    (start folder environment clock).book.Tidy :=
  ⟨.none, fun _ _ hfile => (by cases hfile), Levels.sound_initial⟩

/-- After a run that removes no file the logbook is tidy. -/
theorem tidy_run {commands : List Command} {s : Session} (h : s.book.Tidy)
    (hdelete : ∀ command ∈ commands, command.isDelete = false) :
    (s.run commands).1.book.Tidy := by
  induction commands generalizing s with
  | nil => exact h
  | cons command rest ih =>
    obtain ⟨hcommand, hrest⟩ := List.forall_mem_cons.1 hdelete
    have hcleared : s.cleared.book.Tidy := h.congr rfl h.levels
    exact ih (tidy_perform hcommand s.cleared hcleared) hrest

/-- **Every call of a logger is logged once**, however often logging was set up before. At every
moment of a next setup, and so before and after it, there are no handlers, one for the console, or
one for the console and then one for a file. A logger lets a record pass if its level is positive
and not below the one that counts for the logger, which for a regular logger is its own, or that of
the nearest logger above it with one, or that of the root; only of a logger that is not regular
something else can be remembered. -/
theorem logged_once {folder : Folder} {environment : Environment} {clock : Stamp}
    {commands : List Command} (hdelete : ∀ command ∈ commands, command.isDelete = false) :
    (∀ setup n, Lineup ((inTurn ((Logbook.setupSteps setup).take n)).result
      ((start folder environment clock).run commands).1.book).1.handlers) ∧
    (∀ (command : Command) (call : LogCall), command.logCall? = some call →
      ((start folder environment clock).run commands).1.book.LogsOnce call
        (((start folder environment clock).run commands).1.step command).2.printed
        (((start folder environment clock).run commands).1.step command).1.book.folder) ∧
    (∀ name level,
      LoggerTree.Regular name ∨
        ((start folder environment clock).run commands).1.book.levels.verdict? name level = none →
      (((start folder environment clock).run commands).1.book.levels.enables name level = true ↔
        0 < level ∧
          ((start folder environment clock).run commands).1.book.levels.effective name ≤ level)) ∧
    ∀ name, LoggerTree.Regular name →
      ((start folder environment clock).run commands).1.book.levels.effective name =
        ((name :: LoggerTree.above name).findSome?
          ((start folder environment clock).run commands).1.book.levels.own?).getD
          ((start folder environment clock).run commands).1.book.levels.root := by
  have htidy := tidy_run (tidy_start folder environment clock) hdelete
  generalize ((start folder environment clock).run commands).1 = s at htidy
  refine ⟨fun setup => Logbook.lineup_moment htidy.lineup setup,
    fun command call => logsOnce_step htidy, fun name level hname => ?_,
    fun name hname => htidy.levels.effective_eq hname⟩
  have henables : s.book.levels.enables name level = s.book.levels.permits name level := by
    rcases hname with hname | hnone
    · exact htidy.levels.enables_eq_permits hname level
    · rw [Levels.enables, hnone, Option.getD_none]
  rw [henables, Levels.permits, Bool.and_eq_true, decide_eq_true_eq, decide_eq_true_eq]

/-- A client that sets logging up for one file and then for another, and fails to do so again. -/
def refitting : List Command :=
  [.setup [(.text "level", .text "WARNING"), (.text "log_file", .text "a.log")],
    .setup [(.text "level", .text "WARNING"), (.text "format_type", .text "text"),
      (.text "log_file", .text "b/c.log"),
      (.text "module_levels", .map [(.text "x", .text "ERROR")])],
    .setup [(.text "level", .text "LOUD"), (.text "log_file", .text "d.log")]]

/-- This client afterwards. -/
def refitted : Session := ((start .empty ⟨[]⟩ (.whole 0)).run refitting).1

/-- A call that this client can make, below a logger with a level of its own. -/
def noonCall (level : Int) : Command := .log "x.y" (.int level) (.text "at %s") [.text "noon"]

theorem logged_once_refitting :
    (∀ command ∈ refitting, command.isDelete = false) ∧
      refitted.book.handlers = [.console .text, .file .text ["b", "c.log"] 10485760 (some 5)] ∧
      LoggerTree.Regular "x.y" ∧ refitted.book.levels.effective "x.y" = 40 ∧
      (refitted.step (noonCall 40)).2.printed =
        "1970-01-01 00:00:00 [ERROR] x.y (-): at noon" ++ "\n" ∧
      (∃ file, refitted.book.logFile = some file ∧
        file.Receives (CodePoint.ofText ("1970-01-01 00:00:00 [ERROR] x.y (-): at noon" ++ "\n"))
          ("1970-01-01 00:00:00 [ERROR] x.y (-): at noon" ++ "\n")
          refitted.book.folder (refitted.step (noonCall 40)).1.book.folder) ∧
      (refitted.step (noonCall 30)).2.printed = "" ∧
      (refitted.step (noonCall 30)).1.book.folder = refitted.book.folder := by
  have hdelete : ∀ command ∈ refitting, command.isDelete = false := by decide
  have hregular : LoggerTree.Regular "x.y" := ⟨by decide, by decide⟩
  obtain ⟨-, hcalls, henables, heffective⟩ := @logged_once .empty ⟨[]⟩ (.whole 0) refitting hdelete
  rw [← refitted] at hcalls henables heffective
  have hlevel : refitted.book.levels.effective "x.y" = 40 :=
    (heffective "x.y" hregular).trans (by decide +kernel)
  have hboth : refitted.book.handlers =
      [.console .text, .file .text ["b", "c.log"] 10485760 (some 5)] := by
    decide +kernel
  have htaken : refitted.book.Takes ⟨"x.y", 40, .text "at %s", .ofList [.text "noon"], none⟩
      "1970-01-01 00:00:00 [ERROR] x.y (-): at noon" :=
    ⟨(henables "x.y" 40 (.inl hregular)).2 ⟨by decide, Int.le_of_eq hlevel⟩, by decide, .text,
      by simp [hboth], eq_ok_of_toOption (by decide +kernel)⟩
  have hnot : ∀ codes, ¬refitted.book.Makes
      ⟨"x.y", 30, .text "at %s", .ofList [.text "noon"], none⟩ codes := by
    intro codes h
    have hle := ((henables "x.y" 30 (.inl hregular)).1 h.enabled).2
    omega
  have herror := hcalls (noonCall 40) _ rfl
  have hwarning := hcalls (noonCall 30) _ rfl
  obtain ⟨file, hfile, hreceives, -⟩ := herror.gets_of_takes _ htaken (by rw [hboth]; rfl)
  have hkept : ¬file.Loses refitted.book.folder
      (CodePoint.ofText ("1970-01-01 00:00:00 [ERROR] x.y (-): at noon" ++ "\n")) := by
    rintro ⟨hfull, -⟩
    have hroom : refitted.book.logFile.all (fun file =>
        !file.isFull (file.opened refitted.book.folder)
          (CodePoint.ofText ("1970-01-01 00:00:00 [ERROR] x.y (-): at noon" ++ "\n"))) = true := by
      decide +kernel
    rw [hfile, Option.all_some, hfull] at hroom
    exact absurd hroom Bool.false_ne_true
  exact ⟨hdelete, hboth, hregular, hlevel, herror.printed_of_takes _ htaken,
    ⟨file, hfile, hreceives hkept⟩, hwarning.printed_of_not_takes fun line => hnot _,
    hwarning.folder_of_not_makes hnot⟩

/-- A client that sets logging up with a number of backups that cannot be used. -/
def misfitting : List Command :=
  [.setup [(.text "level", .text "WARNING"), (.text "format_type", .text "text"),
    (.text "log_file", .text "a.log"), (.text "rotation_size", .text "1B"),
    (.text "rotation_count", .float (.finite false 3 (-1)))]]

/-- A client that makes a logger after one that stands below it. -/
def belated : List Command :=
  [.setup [(.text "level", .text "WARNING"), (.text "format_type", .text "text"),
      (.text "module_levels", .map [(.text "a", .text "DEBUG")])],
    .log "a..b" (.int 10) (.text "noon") [], .log "a." (.int 40) (.text "one") []]

/-- A record is written to the console, and the attached file does not receive it. Another one can
be formatted, but has half of a surrogate pair and is not written. And a third one is not below the
level that counts for its logger, but the logger remembers that it kept back such a record
before. -/
theorem not_logged_once :
    (((start .empty ⟨[]⟩ (.whole 0)).run misfitting).1.book.handlers =
        [.console .text, .file .text ["a.log"] 1 none] ∧
      (((start .empty ⟨[]⟩ (.whole 0)).run misfitting).1.step
        (.log "x" (.int 30) (.text "noon") [])).2.printed =
          "1970-01-01 00:00:00 [WARNING] x (-): noon\n" ∧
      (((start .empty ⟨[]⟩ (.whole 0)).run misfitting).1.step
        (.log "x" (.int 30) (.text "noon") [])).1.book.folder.files = [(["a.log"], "")]) ∧
    (((start .empty ⟨[]⟩ (.whole 0)).run misfitting).1.book.Makes
        ⟨"x", 30, .text "%c", .ofList [.int 0xD83D], none⟩
        (CodePoint.ofText "1970-01-01 00:00:00 [WARNING] x (-): " ++ [.half 0x3D]) ∧
      (((start .empty ⟨[]⟩ (.whole 0)).run misfitting).1.step
        (.log "x" (.int 30) (.text "%c") [.int 0xD83D])).2.printed = "") ∧
    ((start .empty ⟨[]⟩ (.whole 0)).run belated).1.book.handlers = [.console .text] ∧
      ((start .empty ⟨[]⟩ (.whole 0)).run belated).1.book.levels.effective "a..b" = 10 ∧
      (((start .empty ⟨[]⟩ (.whole 0)).run belated).1.step
        (.log "a..b" (.int 10) (.text "noon") [])).2.printed = "" := by
  exact ⟨by decide +kernel, ⟨⟨by decide +kernel, by decide, .text, by decide +kernel,
    eq_ok_of_toOption (by decide +kernel)⟩, by decide +kernel⟩, by decide +kernel⟩

end Session

end StorageReply
