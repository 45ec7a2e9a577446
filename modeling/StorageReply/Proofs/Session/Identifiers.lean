import Mathlib.Data.List.Induction
import Mathlib.Data.List.Infix
import StorageReply.Proofs.Log.Shown
import StorageReply.Proofs.Session.Histories

/-!
# Identifiers in a session

A client puts identifiers in force and takes them back, and in between it reads, loads and logs. The
identifier in force is always that of the innermost `push` that is not taken back yet, and none if
all are taken back (`Innermost`). A read that brings an identifier along shows it on its own lines
and leaves the one in force as it was, whether it succeeds or fails; all other lines show the one in
force.

* `writes_perform`: what one command does to the identifiers, and which lines it writes.
* `bound_run_of_balanced`: a run in which all identifiers are taken back leaves them as they were.
* `Nested.exists_innermost`: where no more identifiers are taken back than were put in force, there
  is an innermost one, or all are taken back.
* `innermost_run`: the identifiers and the lines at every moment of a run.
-/

namespace StorageReply

open Logbook (Emits Lines Speaks Tells linesText)

/-- The identifier that the reading of a document brings along: that of the request, where the
document comes from a stream. -/
def ServiceDocument.ownId? (d : ServiceDocument) : Option String :=
  if d.streamed then d.requestId else none

namespace Command

/-- The identifier that a command brings along. -/
def ownId? : Command → Option String
  | .readStats d | .readProperties d => d.ownId?
  | _ => none

/-- The logger whose lines a command writes, if it writes any. -/
def logger? : Command → Option String
  | .load _ _ | .reload => some Session.configLogger
  | .configureLogging | .setup _ => some LoggerTree.rootName
  | .log logger _ _ _ | .logWithContext logger _ _ _ => some (Levels.recordName logger)
  | .readStats _ => some "zurestore.models.service_stats"
  | .readProperties _ => some "zurestore.models.service_properties"
  | .readContainer _ _ _ => some "zurestore.blob.container_response"
  | _ => none

/-- The identifiers after a command. -/
def boundAfter : Command → List (Option String) → List (Option String)
  | .push id, bound => id :: bound
  | .pop, bound => bound.tail
  | _, bound => bound

/-- Whether a command puts an identifier in force. -/
def isPush : Command → Bool
  | .push _ => true
  | _ => false

/-- Whether a command takes an identifier back. -/
def isPop : Command → Bool
  | .pop => true
  | _ => false

theorem boundAfter_eq {command : Command} (hpush : command.isPush = false)
    (hpop : command.isPop = false) (bound : List (Option String)) :
    command.boundAfter bound = bound := by
  cases command with
  | push id => simp [isPush] at hpush
  | pop => simp [isPop] at hpop
  | _ => rfl

/-- Whether a command changes files and the outlets by its lines alone. -/
def writesLinesOnly : Command → Bool
  | .configureLogging | .setup _ | .write _ _ | .delete _ => false
  | _ => true

end Command

namespace Session

open Act

/-! ## The lines of one command -/

/-- The lines that a command writes when it takes one logbook to another. They show the identifier
that the command brings along, or else the one in force, and the identifiers change as the command
says. -/
structure Writes (command : Command) (b c : Logbook) (lines : List String) : Prop where
  /-- The identifiers change as the command says. -/
  bound_eq : c.bound = command.boundAfter b.bound
  /-- The lines are what is new on the console. -/
  console_eq : c.console = b.console ++ linesText lines
  /-- The lines show the identifier. -/
  shows : ∀ line ∈ lines, ∃ logger, command.logger? = some logger ∧
    Shows b.clock logger (shownId (command.ownId?.or b.active)) (CodePoint.ofText line)
  /-- Messages that show the identifier are all that reaches the outlets. -/
  book_eq : command.writesLinesOnly = true → ∃ messages : List Lines,
    c = { messages.foldl Logbook.deliver b with
      levels := { b.levels with tree := c.levels.tree, verdicts := c.levels.verdicts }
      bound := command.boundAfter b.bound } ∧
    ∀ lines ∈ messages, ∃ logger, command.logger? = some logger ∧
      Tells b.clock logger (shownId (command.ownId?.or b.active)) lines

variable {command : Command} {logger : String} {b c : Logbook} {lines : List String}
  {messages : List Lines}

theorem writes_nil (hbound : c.bound = command.boundAfter b.bound)
    (hconsole : c.console = b.console)
    (hbook : command.writesLinesOnly = true →
      c = { b with
        levels := { b.levels with tree := c.levels.tree, verdicts := c.levels.verdicts }
        bound := command.boundAfter b.bound }) :
    Writes command b c [] where
  bound_eq := hbound
  console_eq := by simp [hconsole]
  shows := by simp
  book_eq h := ⟨[], hbook h, by simp⟩

theorem writes_of_emits (hlogger : command.logger? = some logger)
    (hbound : command.boundAfter b.bound = b.bound)
    (h : Emits logger (shownId (command.ownId?.or b.active)) b c messages) :
    Writes command b c (Logbook.printedLines b.consoles messages) where
  bound_eq := h.bound_eq.trans hbound.symm
  console_eq :=
    (congrArg Logbook.console h.book_eq).trans (Logbook.console_foldl_deliver b messages)
  shows line hline :=
    ⟨logger, hlogger, Logbook.shows_of_mem_printedLines h.tells line hline⟩
  book_eq _ := by
    refine ⟨messages, ?_, fun lines hlines => ⟨logger, hlogger, h.tells lines hlines⟩⟩
    rw [hbound, ← h.book_eq, ← h.bound_eq, ← h.levels_eq]

theorem exists_writes_of_speaks (hlogger : command.logger? = some logger)
    (hown : command.ownId? = none) (hbound : command.boundAfter b.bound = b.bound)
    (hlines : command.writesLinesOnly = false) (h : Speaks logger b c) :
    ∃ lines, Writes command b c lines := by
  obtain ⟨lines, hconsole, hshows⟩ := h.exists_lines
  refine ⟨lines, h.bound_eq.trans hbound.symm, hconsole, fun line hline => ⟨logger, hlogger, ?_⟩,
    fun htrue => ?_⟩
  · rw [hown, Option.none_or]
    exact hshows line hline
  · rw [hlines] at htrue
    cases htrue

/-- One client comes from another by messages of a logger that show the identifier in force. -/
def Adds (logger : String) (s t : Session) : Prop :=
  ∃ messages, Emits logger (shownId s.book.active) s.book t.book messages

instance : Std.Refl (Adds logger) := ⟨fun s => ⟨[], Logbook.emits_nil s.book⟩⟩

instance : IsTrans Session (Adds logger) where
  trans s t u := by
    rintro ⟨messages, h⟩ ⟨more, h'⟩
    rw [h.active_eq] at h'
    exact ⟨messages ++ more, h.append h'⟩

/-- A logger that is asked for writes nothing. -/
theorem adds_fetch (s : Session) (name : String) :
    Adds logger s (s.withBook (s.book.fetch name)) :=
  ⟨[], s.book.emits_fetch name⟩

theorem permitsLog_adds (logger : String) :
    PermitsLog (Adds (Levels.recordName logger)) logger :=
  fun s => s.book.exists_emits_log logger

/-- A logger other than the root writes under its own name. -/
theorem permitsLog_adds_of_eq (h : Levels.recordName logger = logger) :
    PermitsLog (Adds logger) logger := by
  have hpermits := permitsLog_adds logger
  rwa [h] at hpermits

theorem Adds.exists_writes {s t : Session} (h : Adds logger s t)
    (hlogger : command.logger? = some logger) (hown : command.ownId? = none)
    (hbound : command.boundAfter s.book.bound = s.book.bound) :
    ∃ lines, Writes command s.book t.book lines := by
  obtain ⟨messages, h⟩ := h
  refine ⟨Logbook.printedLines s.book.consoles messages, writes_of_emits hlogger hbound ?_⟩
  rwa [hown, Option.none_or]

/-- The lines of a load. -/
theorem adds_load (file overrides : Value) :
    Respects (Adds configLogger) (load file overrides) := by
  have hpermits : PermitsLog (Adds configLogger) configLogger := permitsLog_adds_of_eq (by decide)
  exact respects_load (fun _ _ => respects_modify fun s => hpermits s _ _ _ _)
    (fun s _ => refl_of (Adds _) s) (fun s _ => refl_of (Adds _) s) file overrides

/-- The lines of a read. They show the identifier that the read brings along, or else the one in
force, and the read takes its own identifier back however it ends. -/
theorem exists_emits_readDocument {α : Type} (h : PermitsLog (Adds logger) logger)
    (read : Xml.Element → Except Failure α) (logText : α → String) (d : ServiceDocument)
    (s : Session) :
    ∃ messages, Emits logger (shownId (d.ownId?.or s.book.active)) s.book
      ((readDocument logger read logText d).result s).1.book messages := by
  have hfound := respects_found h (d.source.read read) logText
  rw [readDocument, result_ite, ServiceDocument.ownId?]
  split
  · cases d.requestId with
    | none => exact hfound s
    | some id =>
      obtain ⟨messages, hemits⟩ := hfound (s.withBook (s.book.bind (some id)))
      refine ⟨messages, ?_⟩
      change Emits _ (shownId (s.book.bind (some id)).active) _ _ _ at hemits
      rw [Logbook.active_bind] at hemits
      rw [withId, result_within]
      exact hemits.unbind
  · rw [result_of]
    exact ⟨[], Logbook.emits_nil s.book⟩

theorem exists_writes_readDocument {α : Type} {d : ServiceDocument}
    (hname : Levels.recordName logger = logger) (hlogger : command.logger? = some logger)
    (hown : command.ownId? = d.ownId?) (hbound : ∀ bound, command.boundAfter bound = bound)
    (read : Xml.Element → Except Failure α) (logText : α → String) :
    Respects (fun s t : Session => ∃ lines, Writes command s.book t.book lines)
      (readDocument logger read logText d) := by
  intro s
  obtain ⟨messages, hemits⟩ :=
    exists_emits_readDocument (permitsLog_adds_of_eq hname) read logText d s
  rw [← hown] at hemits
  exact ⟨_, writes_of_emits hlogger (hbound _) hemits⟩

/-- A question writes no lines. -/
theorem exists_writes_question (h : command.isQuestion = true)
    (hbound : ∀ bound, command.boundAfter bound = bound) (s : Session) :
    ∃ lines, Writes command s.book ((perform command).result s).1.book lines := by
  have hkeeps : Respects (SameView Session.book) (perform command) := respects_question h
  have hbook : ((perform command).result s).1.book = s.book := hkeeps s
  rw [hbook]
  exact ⟨[], writes_nil (hbound _).symm rfl fun _ => by rw [hbound]⟩

theorem respects_speaks_setup (setup : LogSetup) :
    Respects (fun s t : Session => Speaks LoggerTree.rootName s.book t.book)
      (onBook (Logbook.setup setup)) := by
  intro s
  rw [onBook, result_on]
  exact Logbook.respects_setup setup s.book

theorem result_pop (s : Session) : (pop.result s).1 = s.withBook s.book.unbind := by
  obtain ⟨⟨levels, outlets, folder, console, bound, clock⟩, environment, settings, source⟩ := s
  cases bound <;> rfl

/-- **The lines of one command** and what it does to the identifiers. -/
theorem writes_perform (command : Command) (s : Session) :
    ∃ lines, Writes command s.book ((perform command).result s).1.book lines := by
  cases command with
  | load file overrides =>
    exact ((adds_load file overrides).bind_pure _ s).exists_writes rfl rfl rfl
  | reload =>
    have hreload : Respects (Adds configLogger) reload := fun s => adds_load _ _ s
    exact (hreload.bind_pure _ s).exists_writes rfl rfl rfl
  | configureLogging =>
    have hlogging : Respects (fun s t : Session => Speaks LoggerTree.rootName s.book t.book)
        configureLogging := respects_config.bind fun _ => respects_speaks_setup _
    exact exists_writes_of_speaks rfl rfl rfl rfl (hlogging.bind_pure _ s)
  | setup fields =>
    have hsetup : Respects (fun s t : Session => Speaks LoggerTree.rootName s.book t.book)
        (setup fields) := (respects_of _).bind fun _ => respects_speaks_setup _
    exact exists_writes_of_speaks rfl rfl rfl rfl (hsetup.bind_pure _ s)
  | log logger level message arguments =>
    have hlog := respects_log (fun s => adds_fetch s logger) (permitsLog_adds logger) level message
      arguments
    exact (hlog.bind_pure _ s).exists_writes rfl rfl rfl
  | logWithContext logger level message context =>
    have hlog := respects_logWithContext (fun s => adds_fetch s logger) (permitsLog_adds logger)
      level message context
    exact (hlog.bind_pure _ s).exists_writes rfl rfl rfl
  | level logger => exact ⟨[], writes_nil rfl rfl fun _ => rfl⟩
  | push id => exact ⟨[], writes_nil rfl rfl fun _ => rfl⟩
  | pop =>
    have hpop : Respects (fun s t : Session => t.book = s.book.unbind) pop := fun s => by
      rw [result_pop]
      rfl
    rw [show ((perform .pop).result s).1.book = s.book.unbind from hpop.bind_pure _ s]
    exact ⟨[], writes_nil rfl rfl fun _ => rfl⟩
  | readStats d =>
    exact (exists_writes_readDocument (by decide) rfl rfl (fun _ => rfl) _ _).bind_pure _ s
  | readProperties d =>
    exact (exists_writes_readDocument (by decide) rfl rfl (fun _ => rfl) _ _).bind_pure _ s
  | readContainer response uri name =>
    have hread := respects_readContainer (permitsLog_adds_of_eq (by decide)) response uri name
    exact (hread.bind_pure _ s).exists_writes rfl rfl rfl
  | write path text => exact ⟨[], writes_nil rfl rfl nofun⟩
  | delete path =>
    have hdelete : Respects (SameView fun s : Session => (s.book.bound, s.book.console))
        (delete path) := respects_delete (fun _ _ => rfl) path
    obtain ⟨hbound, hconsole⟩ := Prod.mk.inj (hdelete.bind_pure (fun _ => Answer.done) s)
    exact ⟨[], writes_nil hbound hconsole nofun⟩
  | setVariable name value => exact ⟨[], writes_nil rfl rfl fun _ => rfl⟩
  | _ => exact exists_writes_question rfl (fun _ => rfl) s

/-- The identifiers after one step. -/
theorem bound_step (s : Session) (command : Command) :
    (s.step command).1.book.bound = command.boundAfter s.book.bound := by
  obtain ⟨lines, hwrites⟩ := writes_perform command s.cleared
  exact hwrites.bound_eq

/-- A question for the identifier is answered with the one in force. -/
theorem answer_currentId (s : Session) :
    (s.step .currentId).2.answer = .ok (.id s.book.active) := rfl

/-! ## Nesting -/

/-- Commands that take back all identifiers that they put in force, and no others. -/
inductive Balanced : List Command → Prop
  /-- No command. -/
  | nil : Balanced []
  /-- A command that neither puts an identifier in force nor takes one back. -/
  | cons {command : Command} {rest : List Command} :
    command.isPush = false → command.isPop = false → Balanced rest → Balanced (command :: rest)
  /-- An identifier that is put in force and taken back. -/
  | nest {id : Option String} {inner rest : List Command} :
    Balanced inner → Balanced rest → Balanced (.push id :: (inner ++ .pop :: rest))

/-- The identifier of the innermost command that puts one in force and is not taken back, and none
if there is no such command. -/
inductive Innermost : List Command → Option String → Prop
  /-- All identifiers that are put in force later are taken back. -/
  | push {before after : List Command} {id : Option String} :
    Balanced after → Innermost (before ++ .push id :: after) id
  /-- All identifiers are taken back. -/
  | none {commands : List Command} : Balanced commands → Innermost commands none

/-- Commands that at no moment have taken back more identifiers than they have put in force. -/
def Nested (commands : List Command) : Prop :=
  ∀ moment, moment <+: commands → moment.countP Command.isPop ≤ moment.countP Command.isPush

instance (commands : List Command) : Decidable (Nested commands) :=
  decidable_of_iff (∀ moment ∈ commands.inits,
    moment.countP Command.isPop ≤ moment.countP Command.isPush)
    (by simp only [Nested, List.mem_inits])

variable {commands more init : List Command} {id : Option String}

theorem Balanced.append (h : Balanced commands) (hmore : Balanced more) :
    Balanced (commands ++ more) := by
  induction h with
  | nil => exact hmore
  | cons hpush hpop _ ih => exact .cons hpush hpop ih
  | @nest id inner rest hinner _ _ ih =>
    rw [List.cons_append, List.append_assoc]
    exact .nest hinner ih

theorem Balanced.countP_eq (h : Balanced commands) :
    commands.countP Command.isPop = commands.countP Command.isPush := by
  induction h with
  | nil => rfl
  | cons hpush hpop _ ih => simp [hpush, hpop, ih]
  | nest _ _ ihinner ihrest =>
    simp only [List.countP_cons, List.countP_append, ihinner, ihrest, Command.isPush,
      Command.isPop, if_pos, Bool.false_eq_true, if_false]
    omega

/-- Commands that take back what they put in force leave the innermost identifier as it is. -/
theorem Innermost.append (h : Innermost commands id) (hmore : Balanced more) :
    Innermost (commands ++ more) id := by
  cases h with
  | push hafter =>
    rw [List.append_assoc, List.cons_append]
    exact .push (hafter.append hmore)
  | none hbalanced => exact .none (hbalanced.append hmore)

theorem Nested.of_prefix (h : Nested commands) (hinit : init <+: commands) : Nested init :=
  fun moment hmoment => h moment (hmoment.trans hinit)

/-- One more command: what it takes back is the innermost identifier before it, and then the next
one further out is in its place. -/
theorem Nested.exists_innermost_concat {command : Command} (h : Nested (init ++ [command]))
    (hinit : ∀ moment, moment <+: init → ∃ id, Innermost moment id) :
    ∃ id, Innermost (init ++ [command]) id := by
  obtain ⟨id, hid⟩ := hinit init (List.prefix_refl init)
  cases hpush : command.isPush with
  | true =>
    cases command with
    | push id => exact ⟨id, .push .nil⟩
    | _ => simp [Command.isPush] at hpush
  | false =>
    cases hpop : command.isPop with
    | false => exact ⟨id, hid.append (.cons hpush hpop .nil)⟩
    | true =>
      cases command with
      | pop =>
        cases hid with
        | @push before after _ hafter =>
          -- What comes before the identifier that is taken back has one of its own in force.
          obtain ⟨outer, houter⟩ := hinit before (List.prefix_append before _)
          rw [List.append_assoc]
          exact ⟨outer, houter.append (.nest hafter .nil)⟩
        | none hbalanced =>
          -- Nothing is left to take back.
          have hcount := h _ (List.prefix_refl _)
          rw [List.countP_append, List.countP_append, hbalanced.countP_eq] at hcount
          change init.countP Command.isPush + 1 ≤ init.countP Command.isPush at hcount
          exact absurd hcount (Nat.not_succ_le_self _)
      | _ => simp [Command.isPop] at hpop

/-- **At every moment there is an innermost identifier**, or all are taken back. -/
theorem Nested.exists_innermost (h : Nested commands) {moment : List Command}
    (hmoment : moment <+: commands) : ∃ id, Innermost moment id := by
  -- All moments at once: a command that takes an identifier back leads to one long before it.
  induction commands using List.reverseRecOn generalizing moment with
  | nil =>
    rw [List.prefix_nil.1 hmoment]
    exact ⟨none, .none .nil⟩
  | append_singleton init command ih =>
    have hinit : Nested init := h.of_prefix (List.prefix_append init [command])
    rcases List.prefix_concat_iff.1 hmoment with rfl | hmoment
    · exact h.exists_innermost_concat fun moment hmoment => ih hinit hmoment
    · exact ih hinit hmoment

/-! ## Runs -/

theorem run_append (s : Session) (commands more : List Command) :
    (s.run (commands ++ more)).1 = ((s.run commands).1.run more).1 := by
  induction commands generalizing s with
  | nil => rfl
  | cons command rest ih => exact ih (s.step command).1

/-- **A run that takes back what it puts in force leaves the identifiers as they were.** -/
theorem bound_run_of_balanced (h : Balanced commands) (s : Session) :
    (s.run commands).1.book.bound = s.book.bound := by
  induction h generalizing s with
  | nil => rfl
  | cons hpush hpop _ ih => rw [run_cons, ih, bound_step, Command.boundAfter_eq hpush hpop]
  | nest _ _ ihinner ihrest =>
    rw [run_cons, run_append, run_cons, ihrest, bound_step, ihinner, bound_step]
    rfl

/-- After a run the innermost identifier is in force. -/
theorem active_run (h : Innermost commands id) {s : Session} (hs : s.book.bound = []) :
    (s.run commands).1.book.active = id := by
  cases h with
  | push hafter =>
    rw [run_append, run_cons, Logbook.active, bound_run_of_balanced hafter, bound_step]
    exact Option.join_some
  | none hbalanced =>
    rw [Logbook.active, bound_run_of_balanced hbalanced, hs]
    rfl

/-- **The innermost identifier is in force at every moment of a run**, and a question for it is
answered with it. A next command writes lines that show the identifier which it brings along, or
else the innermost one. It prints them on the console; and unless it sets logging up or touches a
file by itself, the outlets get messages of which all lines show that identifier, and it changes no
more than that and which loggers were asked for. A read or any other command that neither puts an
identifier in force nor takes one back leaves the innermost one in force, whether it succeeds or
fails. -/
theorem innermost_run {commands moment : List Command} {s : Session} (hnested : Nested commands)
    (hs : s.book.bound = []) (hmoment : moment <+: commands) :
    (∃ id, Innermost moment id) ∧
      ∀ id, Innermost moment id →
        ((s.run moment).1.step .currentId).2.answer = .ok (.id id) ∧
        ∀ command,
          (∃ lines, ((s.run moment).1.step command).2.printed = linesText lines ∧
            (∀ line ∈ lines, ∃ logger, command.logger? = some logger ∧
              Shows (s.run moment).1.book.clock logger (shownId (command.ownId?.or id))
                (CodePoint.ofText line)) ∧
            (command.writesLinesOnly = true → ∃ messages : List Lines,
              ((s.run moment).1.step command).1.book =
                { messages.foldl Logbook.deliver (s.run moment).1.cleared.book with
                  levels := { (s.run moment).1.book.levels with
                    tree := ((s.run moment).1.step command).1.book.levels.tree
                    verdicts := ((s.run moment).1.step command).1.book.levels.verdicts }
                  bound := command.boundAfter (s.run moment).1.book.bound } ∧
              ∀ message ∈ messages, ∃ logger, command.logger? = some logger ∧
                Tells (s.run moment).1.book.clock logger (shownId (command.ownId?.or id))
                  message)) ∧
          (command.isPush = false → command.isPop = false →
            (((s.run moment).1.step command).1.step .currentId).2.answer = .ok (.id id)) := by
  refine ⟨hnested.exists_innermost hmoment, fun id hid => ?_⟩
  have hactive := active_run hid hs
  generalize (s.run moment).1 = t at hactive
  refine ⟨by rw [answer_currentId, hactive], fun command => ⟨?_, fun hpush hpop => ?_⟩⟩
  · obtain ⟨lines, hwrites⟩ := writes_perform command t.cleared
    have hshows := hwrites.shows
    have hbook := hwrites.book_eq
    rw [show t.cleared.book.active = id from hactive] at hshows hbook
    exact ⟨lines, hwrites.console_eq.trans (String.empty_append ..), hshows, hbook⟩
  · have hbound : (t.step command).1.book.bound = t.book.bound := by
      rw [bound_step, Command.boundAfter_eq hpush hpop]
    rw [answer_currentId, Logbook.active_eq hbound, hactive]

/-- A client that reads a document in vain under an identifier of its own, while an empty
identifier is in force inside of another one. -/
def crossing : List Command :=
  [.setup [(.text "level", .text "DEBUG"), (.text "format_type", .text "text")],
    .push (some "outer"), .push (some ""), .readStats ⟨.text "<", true, some "own"⟩, .pop, .pop]

/-- This client before it reads. -/
def crossed : Session := ((start ⟨[], []⟩ ⟨[]⟩ (.whole 0)).run (crossing.take 3)).1

theorem innermost_run_crossing :
    Nested crossing ∧ Innermost (crossing.take 3) (some "") ∧
      (crossed.step .currentId).2.answer = .ok (.id (some "")) ∧
      (∃ failure, (crossed.step (.readStats ⟨.text "<", true, some "own"⟩)).2.answer =
        .error failure) ∧
      ((crossed.step (.readStats ⟨.text "<", true, some "own"⟩)).1.step .currentId).2.answer =
        .ok (.id (some "")) ∧
      ∃ lines, (crossed.step (.log "app" (.int 20) (.text "Hello") [])).2.printed =
          linesText lines ∧
        ∀ line ∈ lines, Shows crossed.book.clock "app" none (CodePoint.ofText line) := by
  have hnested : Nested crossing := by decide
  have hinner : Innermost (crossing.take 3) (some "") :=
    @Innermost.push (crossing.take 2) [] (some "") .nil
  obtain ⟨-, hrun⟩ := innermost_run (s := start ⟨[], []⟩ ⟨[]⟩ (.whole 0)) hnested rfl
    (List.take_prefix 3 crossing)
  obtain ⟨hid, hstep⟩ := hrun _ hinner
  obtain ⟨lines, hprinted, hshows, -⟩ := (hstep (.log "app" (.int 20) (.text "Hello") [])).1
  have hread := (hstep (.readStats ⟨.text "<", true, some "own"⟩)).2 rfl rfl
  refine ⟨hnested, hinner, hid, exists_error_of_toOption (by decide +kernel), hread, lines,
    hprinted, fun line hline => ?_⟩
  obtain ⟨logger, hlogger, hshows⟩ := hshows line hline
  cases hlogger
  exact hshows

example : (crossed.step (.log "app" (.int 20) (.text "Hello") [])).2.printed =
    "1970-01-01 00:00:00 [INFO] app (-): Hello\n" := by decide +kernel

example : (crossed.step (.readStats ⟨.text "<StorageServiceStats/>", true, some "own"⟩)).2.printed =
    "1970-01-01 00:00:00 [DEBUG] zurestore.models.service_stats (own): " ++
      "Read service stats without geo-replication section\n" := by decide +kernel

end Session

end StorageReply
