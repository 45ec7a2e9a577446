import StorageReply.Proofs.Log.GivenLevels
import StorageReply.Proofs.Session.Logging

/-!
# What remains of earlier setups

A setup gives the root logger a level and new handlers, and levels to the loggers that it names.
All other loggers keep the levels that earlier setups have given them, so what a client logs can
depend on setups before the last one. For regular loggers this is the only way in which it does:
once two clients have made the same setup, these loggers log the same if the same levels count for
them, and they do if the clients gave the same levels to the loggers that the setup does not name
(`agree_after_setup`). Where any other logger stands can depend on the order in which loggers were
asked for; such loggers log the same if besides the loggers stand in the same places.

* `Levels.Agrees`, `Levels.Twins`: levels by which regular loggers, or all, let the same records
  pass, also after calls of loggers.
* `Logbook.Alike`, `Session.outcomes_eq_of_alike`: clients that log the same.
-/

namespace StorageReply

namespace Levels

open LoggerTree

variable {levels other : Levels} {name : String}

/-! ## Levels that loggers have of their own -/

theorem own?_of_not_isRoot (h : isRoot name = false) :
    levels.own? name =
      if levels.explicit name = 0 then none else some (levels.explicit name) := by
  rw [explicit_of_not_isRoot h, own?]
  cases levels.given.lookup name with
  | none => rfl
  | some level => by_cases hlevel : level = 0 <;> simp [hlevel]

/-- Loggers that were given the same levels have the same levels of their own. -/
theorem Placed.own?_congr (h : levels.Placed) (hother : other.Placed)
    (hexplicit : ∀ name, levels.explicit name = other.explicit name) (name : String) :
    levels.own? name = other.own? name := by
  cases hroot : isRoot name with
  | true => rw [h.own?_of_isRoot hroot, hother.own?_of_isRoot hroot]
  | false => rw [own?_of_not_isRoot hroot, own?_of_not_isRoot hroot, hexplicit]

theorem root_congr (hexplicit : ∀ name, levels.explicit name = other.explicit name) :
    levels.root = other.root := by
  have hroot := hexplicit rootName
  rwa [explicit_of_isRoot isRoot_rootName, explicit_of_isRoot isRoot_rootName] at hroot

theorem exists_entry_of_lastGiven? {given : List (String × Int)} {level : Int}
    (h : lastGiven? given name = some level) : ∃ entry ∈ given, SameLogger entry.1 name := by
  obtain ⟨entry, hentry, -⟩ := Option.map_eq_some_iff.1 h
  obtain ⟨hmem, hsame⟩ := List.mem_filter.1 (List.mem_of_getLast? hentry)
  exact ⟨entry, hmem, of_decide_eq_true hsame⟩

/-! ## Levels that let the same records pass -/

/-- Whether loggers of some kind let the same records pass by levels in a relation, and these stay
in the relation after such loggers were asked for, or asked whether they let a record pass. -/
structure Steady (R : Levels → Levels → Prop) (N : String → Prop) : Prop where
  /-- The same records pass. -/
  enables_eq : ∀ {levels other name}, R levels other → N name →
    ∀ level, levels.enables name level = other.enables name level
  /-- A logger may be asked for. -/
  fetch : ∀ {levels other name}, R levels other → N name →
    R (levels.fetch name) (other.fetch name)
  /-- A logger may be asked whether it lets a record pass. -/
  ask : ∀ {levels other name}, R levels other → N name →
    ∀ level, R (levels.ask name level) (other.ask name level)

/-- The same levels count for regular loggers. -/
structure Agrees (levels other : Levels) : Prop where
  /-- Levels are sound. -/
  sound : levels.Sound
  /-- So are the others. -/
  sound_other : other.Sound
  /-- The same levels count. -/
  effective_eq : ∀ name, Regular name → levels.effective name = other.effective name

theorem steady_agrees : Steady Agrees Regular where
  enables_eq h hname level := by
    rw [h.sound.enables_eq_permits hname, h.sound_other.enables_eq_permits hname, permits, permits,
      h.effective_eq _ hname]
  fetch {levels other name} h _ := by
    refine ⟨h.sound.fetch name, h.sound_other.fetch name, fun asked hasked => ?_⟩
    rw [← h.sound.effective_congr (h.sound.fetch name).toPlaced (fun _ => rfl) rfl hasked,
      h.effective_eq asked hasked,
      h.sound_other.effective_congr (h.sound_other.fetch name).toPlaced (fun _ => rfl) rfl hasked]
  ask {levels other name} h _ level := by
    have hkept : ∀ {levels : Levels}, levels.Sound → ∀ asked, Regular asked →
        levels.effective asked = (levels.ask name level).effective asked := fun hsound _ hasked =>
      hsound.effective_congr (hsound.ask name level).toPlaced
        (fun _ => (own?_ask ..).symm) (root_ask ..).symm hasked
    refine ⟨h.sound.ask name level, h.sound_other.ask name level, fun asked hasked => ?_⟩
    rw [← hkept h.sound asked hasked, h.effective_eq asked hasked, hkept h.sound_other asked hasked]

/-- Levels are given alike to loggers that stand in the same places, and the same is remembered of
all but the root. -/
structure Twins (levels other : Levels) : Prop where
  /-- Levels are sound. -/
  sound : levels.Sound
  /-- So are the others. -/
  sound_other : other.Sound
  /-- The root has the same level. -/
  root_eq : levels.root = other.root
  /-- The others have the same levels of their own. -/
  own?_eq : ∀ name, levels.own? name = other.own? name
  /-- All loggers stand in the same places. -/
  node?_eq : ∀ name, levels.tree.node? name = other.tree.node? name
  /-- The same is remembered. -/
  verdict?_eq : ∀ name level, isRoot name = false →
    levels.verdict? name level = other.verdict? name level

theorem Twins.effective_eq (h : levels.Twins other) (name : String) :
    levels.effective name = other.effective name := by
  have hlineage : (levels.tree.fetch name).lineage name = (other.tree.fetch name).lineage name :=
    lineage_congr (node?_fetch_congr h.node?_eq name) name
  rw [effective, effective, hlineage, h.root_eq, funext h.own?_eq]

theorem Twins.permits_eq (h : levels.Twins other) (name : String) (level : Int) :
    levels.permits name level = other.permits name level := by
  rw [permits, permits, h.effective_eq]

/-- The name of the root, and the empty one, are regular. -/
theorem regular_of_isRoot (h : isRoot name = true) : Regular name := by
  rw [isRoot, Bool.or_eq_true, beq_iff_eq, String.isEmpty_iff] at h
  rcases h with rfl | rfl <;> exact ⟨by decide, by decide⟩

/-- What is remembered of other loggers than the root after one was asked whether it lets a record
pass. -/
theorem verdict?_ask {asked : String} (hasked : isRoot asked = false) (name : String)
    (level askedLevel : Int) :
    (levels.ask name level).verdict? asked askedLevel =
      if asked = name ∧ askedLevel = level then
        some ((levels.verdict? name level).getD (levels.permits name level))
      else levels.verdict? asked askedLevel := by
  have hsame : recordName asked = recordName name ↔ asked = name := by
    have hname : SameLogger name asked ↔ name = asked := sameLogger_iff_of_not_isRoot hasked
    rw [SameLogger] at hname
    rw [eq_comm, hname, eq_comm]
  rw [ask]
  cases hbefore : levels.verdict? name level with
  | some verdict =>
    dsimp only
    split
    · rename_i h
      rw [h.1, h.2]
      exact hbefore
    · rfl
  | none =>
    rw [Option.getD_none]
    simp only [verdict?, List.lookup_cons]
    by_cases h : asked = name ∧ askedLevel = level
    · rw [if_pos h, h.1, h.2, beq_self_eq_true]
    · have hne : (recordName asked, askedLevel) ≠ (recordName name, level) := by
        rw [Ne, Prod.mk.injEq, hsame]
        exact h
      rw [if_neg h, beq_eq_false_iff_ne.2 hne]

theorem steady_twins : Steady Twins fun _ => True where
  enables_eq {levels other name} h _ level := by
    cases hroot : isRoot name with
    | true =>
      have hregular := regular_of_isRoot hroot
      rw [h.sound.enables_eq_permits hregular, h.sound_other.enables_eq_permits hregular,
        h.permits_eq]
    | false => rw [enables, enables, h.verdict?_eq name level hroot, h.permits_eq]
  fetch {levels other name} h _ :=
    ⟨h.sound.fetch name, h.sound_other.fetch name, h.root_eq, h.own?_eq,
      node?_fetch_congr h.node?_eq name, h.verdict?_eq⟩
  ask {levels other name} h _ level := by
    refine ⟨h.sound.ask name level, h.sound_other.ask name level, ?_, ?_, ?_, ?_⟩
    · rw [root_ask, root_ask, h.root_eq]
    · intro asked
      rw [own?_ask, own?_ask, h.own?_eq]
    · rw [tree_ask, tree_ask]
      exact node?_fetch_congr h.node?_eq name
    · intro asked askedLevel hasked
      rw [verdict?_ask hasked, verdict?_ask hasked, h.permits_eq, h.verdict?_eq asked _ hasked]
      split
      · rename_i hsame
        rw [h.verdict?_eq name level (hsame.1 ▸ hasked)]
      · rfl

end Levels

/-! ## Clients that log the same -/

namespace Logbook

/-- Two logbooks write the same lines, as far as their levels let the same records pass: lines have
the same formats, and identifiers and time are the same. -/
structure Alike (R : Levels → Levels → Prop) (b c : Logbook) : Prop where
  /-- The levels are in a relation. -/
  levels : R b.levels c.levels
  /-- Lines on the console have the same formats. -/
  consoles_eq : b.consoles = c.consoles
  /-- The same identifiers are bound. -/
  bound_eq : b.bound = c.bound
  /-- The time is the same. -/
  clock_eq : b.clock = c.clock

variable {R : Levels → Levels → Prop} {N : String → Prop} {b c : Logbook}

theorem Alike.fetch (hR : Levels.Steady R N) (h : Alike R b c) {name : String} (hname : N name) :
    Alike R (b.fetch name) (c.fetch name) :=
  ⟨hR.fetch h.levels hname, h.consoles_eq, h.bound_eq, h.clock_eq⟩

theorem Alike.linesOf_eq (h : Alike R b c) (call : LogCall) : b.linesOf call = c.linesOf call := by
  have hactive : b.active = c.active := active_eq h.bound_eq
  have hrecord : b.recordOf call = c.recordOf call := by rw [recordOf, recordOf, h.clock_eq]
  funext format
  rw [linesOf, linesOf, hactive, hrecord]

/-- A call of a logger puts the same text on the console of both. -/
theorem Alike.logCall (hR : Levels.Steady R N) (h : Alike R b c) (hconsole : b.console = c.console)
    {call : LogCall} (hname : N call.logger) :
    Alike R (b.logCall call) (c.logCall call) ∧
      (b.logCall call).console = (c.logCall call).console := by
  have hasked : Alike R (b.ask call.logger call.level) (c.ask call.logger call.level) :=
    ⟨hR.ask h.levels hname call.level, h.consoles_eq, h.bound_eq, h.clock_eq⟩
  rw [logCall_eq, logCall_eq, hR.enables_eq h.levels hname, ← h.linesOf_eq]
  split
  · refine ⟨⟨?_, ?_, ?_, ?_⟩, ?_⟩
    · rw [levels_deliver, levels_deliver]
      exact hasked.levels
    · rw [consoles_deliver, consoles_deliver]
      exact hasked.consoles_eq
    · rw [bound_deliver, bound_deliver]
      exact hasked.bound_eq
    · rw [clock_deliver, clock_deliver]
      exact hasked.clock_eq
    · rw [console_deliver, console_deliver, hasked.consoles_eq]
      exact congrArg (· ++ _) hconsole
  · exact ⟨hasked, hconsole⟩

end Logbook

/-- The logger that a command calls, be it a call that fails. -/
def Command.callee? : Command → Option String
  | .log logger _ _ _ | .logWithContext logger _ _ _ => some logger
  | _ => none

theorem Command.callee?_of_logCall? {command : Command} {call : LogCall}
    (h : command.logCall? = some call) : command.callee? = some call.logger := by
  cases command with
  | log logger v message arguments =>
    obtain ⟨level, -, rfl⟩ := Option.map_eq_some_iff.1 h
    rfl
  | logWithContext logger v message context =>
    simp only [Command.logCall?] at h
    split at h
    · cases h
    · obtain ⟨level, -, rfl⟩ := Option.map_eq_some_iff.1 h
      rfl
  | _ => cases h

namespace Session

open Act LoggerTree

variable {R : Levels → Levels → Prop} {N : String → Prop}

/-- A call of a logger that cannot be made asks for the logger, and changes nothing else. -/
theorem result_of_logCall?_eq_none {command : Command} {logger : String}
    (h : command.callee? = some logger) (hnone : command.logCall? = none) (s : Session) :
    (perform command).result s = (s.withBook (s.book.fetch logger), .error .wrongKind) := by
  cases command with
  | log _ v message arguments =>
    obtain rfl := Option.some.inj h
    have hrecord : recordLevel v = .error .wrongKind := by
      rw [recordLevel, Option.map_eq_none_iff.1 hnone]
    simp only [perform, log, hrecord, result_bind, result_of]
    rfl
  | logWithContext _ v message context =>
    obtain rfl := Option.some.inj h
    simp only [Command.logCall?] at hnone
    split at hnone
    · rename_i hcontext
      simp only [perform, logWithContext, if_pos hcontext, result_bind, result_throw]
      rfl
    · rename_i hcontext
      have hrecord : recordLevel v = .error .wrongKind := by
        rw [recordLevel, Option.map_eq_none_iff.1 hnone]
      simp only [perform, logWithContext, if_neg hcontext, hrecord, result_bind, result_of]
      rfl
  | _ => cases h

/-- Clients that log the same have the same outcome of a call, and go on to log the same. -/
theorem step_of_alike (hR : Levels.Steady R N) {s t : Session} (h : Logbook.Alike R s.book t.book)
    {command : Command} {logger : String} (hcall : command.callee? = some logger)
    (hlogger : N logger) :
    (s.step command).2 = (t.step command).2 ∧
      Logbook.Alike R (s.step command).1.book (t.step command).1.book := by
  have hcleared : Logbook.Alike R s.cleared.book t.cleared.book :=
    ⟨h.levels, h.consoles_eq, h.bound_eq, h.clock_eq⟩
  have hfetched := hcleared.fetch hR hlogger
  rw [step_eq, step_eq]
  cases hlog : command.logCall? with
  | none =>
    rw [result_of_logCall?_eq_none hcall hlog, result_of_logCall?_eq_none hcall hlog]
    exact ⟨rfl, hfetched⟩
  | some call =>
    obtain rfl := Option.some.inj (hcall.symm.trans (Command.callee?_of_logCall? hlog))
    rw [result_of_logCall? hlog, result_of_logCall? hlog]
    obtain ⟨halike, hconsole⟩ := hfetched.logCall hR rfl hlogger
    exact ⟨congrArg (Outcome.mk _) hconsole, halike⟩

/-- **Clients that log the same** have the same outcomes of all calls of loggers. -/
theorem outcomes_eq_of_alike (hR : Levels.Steady R N) {s t : Session}
    (h : Logbook.Alike R s.book t.book) {calls : List Command}
    (hcalls : ∀ command ∈ calls, ∃ logger, command.callee? = some logger ∧ N logger) :
    (s.run calls).2 = (t.run calls).2 := by
  induction calls generalizing s t with
  | nil => rfl
  | cons command rest ih =>
    obtain ⟨⟨logger, hcall, hlogger⟩, hrest⟩ := List.forall_mem_cons.1 hcalls
    obtain ⟨houtcome, halike⟩ := step_of_alike hR h hcall hlogger
    have hlater := ih halike hrest
    exact congrArg₂ List.cons houtcome hlater

end Session

/-! ## Setups -/

namespace Logbook

open Act

variable {setup : LogSetup} {b : Logbook}

/-- Nothing is remembered of loggers other than the root. -/
def Forgets (b : Logbook) : Prop :=
  ∀ name level, LoggerTree.isRoot name = false → b.levels.verdict? name level = none

theorem forgets_give (b : Logbook) (name : String) (level : Int) :
    Forgets { b with levels := b.levels.give name level } := by
  intro asked askedLevel _
  rw [Levels.verdict?, Levels.give]
  split <;> rfl

theorem Forgets.say (h : b.Forgets) (text : String) :
    (b.say LoggerTree.rootName 20 text).Forgets := by
  intro asked askedLevel hasked
  rw [Logbook.say, levels_log, Levels.verdict?_ask hasked, if_neg, h asked askedLevel hasked]
  rintro ⟨rfl, -⟩
  rw [Levels.isRoot_rootName] at hasked
  cases hasked

/-- A setup lets loggers forget what they have let pass, from the level of the root on. -/
theorem forgets_setup {level : Int} (h : levelOf setup.level = .ok level) (b : Logbook) :
    ((Logbook.setup setup).result b).1.Forgets := by
  have hfile : Respects (Passes Forgets) (inTurn (fileSteps setup)) :=
    respects_inTurn (respects_fileSteps (fun _ _ h => h) (fun _ _ _ h => h)
      (fun _ text h => h.say text) setup)
  have hgive : Respects (Passes Forgets) (giveLevelsOf setup.loggerLevels) :=
    respects_giveLevelsOf (fun _ _ h => h) (fun b name level _ => b.forgets_give name level) _
  have hreport : Respects (Passes Forgets) (report setup) :=
    respects_report (fun _ text h => h.say text) setup
  have hlast : Respects (Passes Forgets) (inTurn [giveLevelsOf setup.loggerLevels, report setup]) :=
    respects_inTurn (List.forall_mem_cons.2 ⟨hgive, List.forall_mem_singleton.2 hreport⟩)
  rw [result_setup_of_ok h]
  exact Respects.after (fun _ => hlast) (hfile _ (b.forgets_give LoggerTree.rootName level))

/-- After a setup lines on the console have the format that it asks for. -/
theorem consoles_setup {level : Int} (h : levelOf setup.level = .ok level) (b : Logbook) :
    ((Logbook.setup setup).result b).1.consoles = [setup.lineFormat] := by
  have hhandlers := handlers_setup h b
  have hlined : Lineup ((Logbook.setup setup).result b).1.handlers := by
    rw [hhandlers]
    cases setup.opened? b.folder <;> constructor
  rcases outlets_of_lineup hlined with hnone | ⟨format, houtlets⟩
  · rw [handlers, hnone] at hhandlers
    cases hhandlers
  · rw [consoles_of_outlets houtlets]
    rw [handlers, houtlets, List.map_cons, List.cons.injEq] at hhandlers
    exact congrArg ([·]) (Handler.console.inj hhandlers.1)

end Logbook

namespace LogSetup

/-- The levels that the entries of a map ask for, that of the root logger first. -/
def askedBy (fields : Fields) : List (String × Int) :=
  match ofFields fields with
  | .ok setup => setup.asked
  | .error _ => []

theorem given_subset_asked (setup : LogSetup) (f : Folder) : setup.given f ⊆ setup.asked := by
  rw [given]
  split
  · exact List.Subset.refl _
  · exact List.take_subset _ _

/-- The root logger is given a level whenever any logger is. -/
theorem lastGiven?_asked_ne_none {setup : LogSetup} {level : Int}
    (h : levelOf setup.level = .ok level) {name : String} (hroot : LoggerTree.isRoot name = true) :
    Levels.lastGiven? setup.asked name ≠ none := by
  have hsame : Levels.SameLogger LoggerTree.rootName name :=
    (Levels.sameLogger_iff_of_isRoot hroot).2 Levels.isRoot_rootName
  rw [asked, h]
  dsimp only
  rw [Levels.lastGiven?_cons, if_pos hsame]
  cases Levels.lastGiven? setup.loggersAsked name <;> simp

/-- A setup that succeeds gives all the levels that it asks for. -/
theorem given_eq_asked {setup : LogSetup} {b : Logbook}
    (h : ((Logbook.setup setup).result b).2 = .ok ()) : setup.given b.folder = setup.asked :=
  if_pos (Logbook.answer_fileSteps_eq_ok_iff.1 (Logbook.setup_eq_ok_iff.1 h).2.1)

end LogSetup

namespace Session

open Act LoggerTree

/-- A setup as a command, on the logbook of a client. -/
theorem result_setup (fields : Fields) (s : Session) :
    (perform (.setup fields)).result s =
      match LogSetup.ofFields fields with
      | .ok setup =>
        (s.withBook ((Logbook.setup setup).result s.book).1,
          ((Logbook.setup setup).result s.book).2.map fun _ => .done)
      | .error failure => (s, .error failure) := by
  simp only [perform, setup, result_bind, result_of]
  cases LogSetup.ofFields fields with
  | error failure => rfl
  | ok setup =>
    dsimp only
    rw [onBook, result_on]
    rcases (Logbook.setup setup).result s.book with ⟨book, failure | a⟩ <;> rfl

theorem book_step_setup {fields : Fields} {setup : LogSetup}
    (h : LogSetup.ofFields fields = .ok setup) (s : Session) :
    (s.step (.setup fields)).1.book = ((Logbook.setup setup).result s.cleared.book).1 := by
  rw [step_eq, result_setup, h]
  rfl

/-- What some setups can have made of a new client: its levels are sound, no identifier is bound,
the time is the same, and of the loggers other than the root only those that they name have been
given levels. -/
structure SetUpBy (clock : Stamp) (earlier : List Fields) (b : Logbook) : Prop where
  /-- The levels are sound. -/
  sound : b.levels.Sound
  /-- No identifier is bound. -/
  bound_eq : b.bound = []
  /-- The time is the same. -/
  clock_eq : b.clock = clock
  /-- Only loggers that are named have levels. -/
  named : ∀ name, isRoot name = false → b.levels.explicit name ≠ 0 →
    ∃ fields ∈ earlier, ∃ entry ∈ LogSetup.askedBy fields, entry.1 = name

theorem SetUpBy.step {clock : Stamp} {earlier : List Fields} {s : Session}
    (h : SetUpBy clock earlier s.book) (fields : Fields) :
    SetUpBy clock (earlier ++ [fields]) (s.step (.setup fields)).1.book := by
  have hmore : ∀ name, isRoot name = false → s.book.levels.explicit name ≠ 0 →
      ∃ fields' ∈ earlier ++ [fields], ∃ entry ∈ LogSetup.askedBy fields', entry.1 = name := by
    intro name hroot hlevel
    obtain ⟨fields', hmem, hentry⟩ := h.named name hroot hlevel
    exact ⟨fields', List.mem_append_left _ hmem, hentry⟩
  cases hfields : LogSetup.ofFields fields with
  | error failure =>
    rw [step_eq, result_setup, hfields]
    exact ⟨h.sound, h.bound_eq, h.clock_eq, hmore⟩
  | ok setup =>
    rw [book_step_setup hfields]
    have hsound : s.cleared.book.levels.Sound := h.sound
    have hspeaks := Logbook.respects_setup setup s.cleared.book
    refine ⟨Logbook.sound_setup hsound setup, hspeaks.bound_eq.trans h.bound_eq,
      hspeaks.clock_eq.trans h.clock_eq, ?_⟩
    intro name hroot hlevel
    have hexplicit := Logbook.explicit_setup setup s.cleared.book name
    rw [Logbook.explicit] at hexplicit
    rw [hexplicit] at hlevel
    cases hlast : Levels.lastGiven? (setup.given s.cleared.book.folder) name with
    | none =>
      rw [hlast] at hlevel
      exact hmore name hroot hlevel
    | some level =>
      obtain ⟨entry, hentry, hsame⟩ := Levels.exists_entry_of_lastGiven? hlast
      refine ⟨fields, by simp, entry, ?_, (Levels.sameLogger_iff_of_not_isRoot hroot).1 hsame⟩
      rw [LogSetup.askedBy, hfields]
      exact setup.given_subset_asked _ hentry

/-- **After any setups**, be they successful or not, only loggers that they name have levels. -/
theorem SetUpBy.run {clock : Stamp} {before : List Fields} {s : Session}
    (h : SetUpBy clock before s.book) (earlier : List Fields) :
    SetUpBy clock (before ++ earlier) (s.run (earlier.map .setup)).1.book := by
  induction earlier generalizing s before with
  | nil => rwa [List.append_nil]
  | cons fields rest ih =>
    have hrest := ih (h.step fields)
    rw [List.append_assoc, List.singleton_append] at hrest
    exact hrest

theorem setUpBy_start (folder : Folder) (environment : Environment) (clock : Stamp) :
    SetUpBy clock [] (start folder environment clock).book :=
  ⟨Levels.sound_initial, rfl, rfl, fun _ hroot h =>
    absurd (Levels.explicit_of_not_isRoot hroot) h⟩

/-- Earlier setups have left no level to a logger that none of them names. -/
theorem SetUpBy.explicit_eq_zero {clock : Stamp} {earlier : List Fields} {b : Logbook}
    (h : SetUpBy clock earlier b) {name : String} (hroot : isRoot name = false)
    (hname : ∀ fields ∈ earlier, ∀ entry ∈ LogSetup.askedBy fields, entry.1 ≠ name) :
    b.levels.explicit name = 0 := by
  by_contra hlevel
  obtain ⟨fields, hfields, entry, hentry, heq⟩ := h.named name hroot hlevel
  exact hname fields hfields entry hentry heq

/-! ## After a setup that succeeds -/

/-- A command sets logging up just when its entries ask for a setup that succeeds. -/
theorem answer_step_setup_eq_ok_iff {fields : Fields} {s : Session} :
    (s.step (.setup fields)).2.answer = .ok .done ↔
      ∃ setup, LogSetup.ofFields fields = .ok setup ∧
        ((Logbook.setup setup).result s.cleared.book).2 = .ok () := by
  rw [step_eq, result_setup]
  cases LogSetup.ofFields fields with
  | error failure => simp
  | ok setup =>
    simp only [Except.ok.injEq, exists_eq_left']
    cases ((Logbook.setup setup).result s.cleared.book).2 <;> simp [Except.map]

section

variable {s t : Session} {fields : Fields} {setup : LogSetup}

/-- After a setup that succeeds a logger has the level that it is given, or else the one that it
had. -/
theorem explicit_step_setup (h : (s.step (.setup fields)).2.answer = .ok .done) (name : String) :
    (s.step (.setup fields)).1.book.levels.explicit name =
      (Levels.lastGiven? (LogSetup.askedBy fields) name).getD (s.book.levels.explicit name) := by
  obtain ⟨setup, hfields, hok⟩ := answer_step_setup_eq_ok_iff.1 h
  have hexplicit := Logbook.explicit_setup setup s.cleared.book name
  rw [LogSetup.given_eq_asked hok] at hexplicit
  rw [book_step_setup hfields, LogSetup.askedBy, hfields]
  exact hexplicit

theorem explicit_step_setup_congr (hsetup : (s.step (.setup fields)).2.answer = .ok .done)
    (hsetup' : (t.step (.setup fields)).2.answer = .ok .done)
    (h : ∀ name, Levels.lastGiven? (LogSetup.askedBy fields) name = none →
      s.book.levels.explicit name = t.book.levels.explicit name) (name : String) :
    (s.step (.setup fields)).1.book.levels.explicit name =
      (t.step (.setup fields)).1.book.levels.explicit name := by
  rw [explicit_step_setup hsetup, explicit_step_setup hsetup']
  cases hgiven : Levels.lastGiven? (LogSetup.askedBy fields) name with
  | none => exact h name hgiven
  | some level => rfl

/-- A setup that succeeds leaves lines in its format on the console, and nothing remembered of
loggers other than the root. -/
theorem consoles_and_forgets_step_setup (hfields : LogSetup.ofFields fields = .ok setup)
    (h : (s.step (.setup fields)).2.answer = .ok .done) :
    (s.step (.setup fields)).1.book.consoles = [setup.lineFormat] ∧
      (s.step (.setup fields)).1.book.Forgets := by
  obtain ⟨setup', hfields', hok⟩ := answer_step_setup_eq_ok_iff.1 h
  obtain rfl := Except.ok.inj (hfields.symm.trans hfields')
  obtain ⟨level, hlevel⟩ := (Logbook.setup_eq_ok_iff.1 hok).1
  rw [book_step_setup hfields]
  exact ⟨Logbook.consoles_setup hlevel _, Logbook.forgets_setup hlevel _⟩

/-- A logger that the last setup does not name has been left no level by either client, if the last
setup names every logger that an earlier one names. -/
theorem explicit_eq_of_named {clock : Stamp} {earlier earlier' : List Fields}
    (hs : SetUpBy clock earlier s.book) (ht : SetUpBy clock earlier' t.book)
    (hsetup : (s.step (.setup fields)).2.answer = .ok .done)
    (hnamed : ∀ other ∈ earlier ++ earlier', ∀ entry ∈ LogSetup.askedBy other,
      Levels.lastGiven? (LogSetup.askedBy fields) entry.1 ≠ none)
    {name : String} (hname : Levels.lastGiven? (LogSetup.askedBy fields) name = none) :
    s.book.levels.explicit name = t.book.levels.explicit name := by
  obtain ⟨setup, hfields, hok⟩ := answer_step_setup_eq_ok_iff.1 hsetup
  obtain ⟨level, hlevel⟩ := (Logbook.setup_eq_ok_iff.1 hok).1
  have hroot : isRoot name = false := by
    rw [Bool.eq_false_iff]
    intro hroot
    refine LogSetup.lastGiven?_asked_ne_none hlevel hroot ?_
    rwa [LogSetup.askedBy, hfields] at hname
  have hnever : ∀ other ∈ earlier ++ earlier', ∀ entry ∈ LogSetup.askedBy other,
      entry.1 ≠ name := fun other hother entry hentry heq =>
    hnamed other hother entry hentry (heq ▸ hname)
  obtain ⟨hbefore, hbefore'⟩ := List.forall_mem_append.1 hnever
  rw [hs.explicit_eq_zero hroot hbefore, ht.explicit_eq_zero hroot hbefore']

/-- Clients that have made the same setup log the same if their levels are in a relation under which
they do, since all else is the same. -/
theorem alike_step_setup {R : Levels → Levels → Prop} {clock : Stamp}
    {earlier earlier' : List Fields} (hs : SetUpBy clock earlier s.book)
    (ht : SetUpBy clock earlier' t.book)
    (hsetup : (s.step (.setup fields)).2.answer = .ok .done)
    (hsetup' : (t.step (.setup fields)).2.answer = .ok .done)
    (hR : R (s.step (.setup fields)).1.book.levels (t.step (.setup fields)).1.book.levels) :
    Logbook.Alike R (s.step (.setup fields)).1.book (t.step (.setup fields)).1.book := by
  obtain ⟨setup, hfields, -⟩ := answer_step_setup_eq_ok_iff.1 hsetup
  obtain ⟨hconsoles, -⟩ := consoles_and_forgets_step_setup hfields hsetup
  obtain ⟨hconsoles', -⟩ := consoles_and_forgets_step_setup hfields hsetup'
  have hsAfter := hs.step fields
  have htAfter := ht.step fields
  exact ⟨hR, hconsoles.trans hconsoles'.symm, hsAfter.bound_eq.trans htAfter.bound_eq.symm,
    hsAfter.clock_eq.trans htAfter.clock_eq.symm⟩

/-- After the same setup the levels of two clients are twins if the loggers stand in the same places
and were left the same levels. -/
theorem twins_step_setup {clock : Stamp} {earlier earlier' : List Fields}
    (hs : SetUpBy clock earlier s.book) (ht : SetUpBy clock earlier' t.book)
    (hsetup : (s.step (.setup fields)).2.answer = .ok .done)
    (hsetup' : (t.step (.setup fields)).2.answer = .ok .done)
    (hleft : ∀ name, Levels.lastGiven? (LogSetup.askedBy fields) name = none →
      s.book.levels.explicit name = t.book.levels.explicit name)
    (htree : ∀ name, (s.step (.setup fields)).1.book.levels.tree.node? name =
      (t.step (.setup fields)).1.book.levels.tree.node? name) :
    Levels.Twins (s.step (.setup fields)).1.book.levels (t.step (.setup fields)).1.book.levels := by
  obtain ⟨setup, hfields, -⟩ := answer_step_setup_eq_ok_iff.1 hsetup
  obtain ⟨-, hforgets⟩ := consoles_and_forgets_step_setup hfields hsetup
  obtain ⟨-, hforgets'⟩ := consoles_and_forgets_step_setup hfields hsetup'
  have hsound := (hs.step fields).sound
  have hsound' := (ht.step fields).sound
  have hexplicit := explicit_step_setup_congr hsetup hsetup' hleft
  exact ⟨hsound, hsound', Levels.root_congr hexplicit,
    hsound.own?_congr hsound'.toPlaced hexplicit, htree,
    fun name level hroot => (hforgets name level hroot).trans (hforgets' name level hroot).symm⟩

/-- **What remains of earlier setups.** Let two clients make any setups, successful or not, and then
the same setup, which succeeds for both.

A logger then has the level that this setup gives it, or else the one that the client's earlier
setups have left it with. These are the same for both clients if the last setup names every logger
that an earlier one names.

If the earlier setups have left the same levels to the loggers that the last one does not name, then
the same levels count for all regular loggers in both, and for all loggers if these stand in the
same places. And where the same levels count for regular loggers, both clients have the same
outcomes of all calls of them, with the same lines on the console; so it is with calls of any
loggers if these besides stand in the same places and were left the same levels. -/
theorem agree_after_setup {folder : Folder} {environment : Environment} {clock : Stamp}
    {earlier earlier' : List Fields}
    (hs : s = ((start folder environment clock).run (earlier.map .setup)).1)
    (ht : t = ((start folder environment clock).run (earlier'.map .setup)).1)
    (hsetup : (s.step (.setup fields)).2.answer = .ok .done)
    (hsetup' : (t.step (.setup fields)).2.answer = .ok .done) :
    (∀ name, (s.step (.setup fields)).1.book.levels.explicit name =
      (Levels.lastGiven? (LogSetup.askedBy fields) name).getD (s.book.levels.explicit name)) ∧
    ((∀ other ∈ earlier ++ earlier', ∀ entry ∈ LogSetup.askedBy other,
        Levels.lastGiven? (LogSetup.askedBy fields) entry.1 ≠ none) →
      ∀ name, Levels.lastGiven? (LogSetup.askedBy fields) name = none →
        s.book.levels.explicit name = t.book.levels.explicit name) ∧
    ((∀ name, Levels.lastGiven? (LogSetup.askedBy fields) name = none →
        s.book.levels.explicit name = t.book.levels.explicit name) →
      (∀ name, Regular name → (s.step (.setup fields)).1.book.levels.effective name =
        (t.step (.setup fields)).1.book.levels.effective name) ∧
      ((∀ name, (s.step (.setup fields)).1.book.levels.tree.node? name =
          (t.step (.setup fields)).1.book.levels.tree.node? name) →
        (∀ name, (s.step (.setup fields)).1.book.levels.effective name =
          (t.step (.setup fields)).1.book.levels.effective name) ∧
        ∀ calls : List Command, (∀ command ∈ calls, command.callee?.isSome = true) →
          ((s.step (.setup fields)).1.run calls).2 = ((t.step (.setup fields)).1.run calls).2)) ∧
    ((∀ name, Regular name → (s.step (.setup fields)).1.book.levels.effective name =
        (t.step (.setup fields)).1.book.levels.effective name) →
      ∀ calls : List Command,
        (∀ command ∈ calls, ∃ logger, command.callee? = some logger ∧ Regular logger) →
        ((s.step (.setup fields)).1.run calls).2 = ((t.step (.setup fields)).1.run calls).2) := by
  have hsBy : SetUpBy clock earlier s.book := by
    rw [hs]
    exact (setUpBy_start folder environment clock).run earlier
  have htBy : SetUpBy clock earlier' t.book := by
    rw [ht]
    exact (setUpBy_start folder environment clock).run earlier'
  have hsound := (hsBy.step fields).sound
  have hsound' := (htBy.step fields).sound
  refine ⟨explicit_step_setup hsetup,
    fun hnamed name hname => explicit_eq_of_named hsBy htBy hsetup hnamed hname,
    fun hleft => ⟨fun name hname => ?_, fun htree => ?_⟩, fun heffective calls hcalls => ?_⟩
  · have hexplicit := explicit_step_setup_congr hsetup hsetup' hleft
    exact hsound.effective_congr hsound'.toPlaced (hsound.own?_congr hsound'.toPlaced hexplicit)
      (Levels.root_congr hexplicit) hname
  · have htwins := twins_step_setup hsBy htBy hsetup hsetup' hleft htree
    have halike := alike_step_setup hsBy htBy hsetup hsetup' htwins
    refine ⟨htwins.effective_eq, fun calls hcalls =>
      outcomes_eq_of_alike Levels.steady_twins halike fun command hcommand => ?_⟩
    obtain ⟨logger, hlogger⟩ := Option.isSome_iff_exists.1 (hcalls command hcommand)
    exact ⟨logger, hlogger, trivial⟩
  · have hagrees : Levels.Agrees (s.step (.setup fields)).1.book.levels
        (t.step (.setup fields)).1.book.levels := ⟨hsound, hsound', heffective⟩
    exact outcomes_eq_of_alike Levels.steady_agrees
      (alike_step_setup hsBy htBy hsetup hsetup' hagrees) hcalls

end

/-- A client that gives two loggers levels of their own, and then fails to set logging up. -/
def noisy : List Fields :=
  [[(.text "level", .text "WARNING"),
      (.text "module_levels", .map [(.text "m", .text "DEBUG"), (.text "m.x", .text "NOTSET")])],
    [(.text "level", .text "LOUD")]]

/-- A setup that names both loggers. -/
def quiet : LogSetup where
  level := .text "warning"
  format := .text "text"
  loggerLevels := .map [(.text "m", .text "NOTSET"), (.text "m.x", .text "INFO")]

/-- The entries that ask for this setup. -/
def quietFields : Fields :=
  [(.text "level", quiet.level), (.text "format_type", quiet.format),
    (.text "module_levels", quiet.loggerLevels)]

/-- A client after some setups. -/
def afterSetups (earlier : List Fields) : Session :=
  ((start .empty ⟨[]⟩ (.whole 0)).run (earlier.map .setup)).1

/-- Calls that are let pass, and not, by the level of a logger above and by the one of the root. -/
def quietCalls : List Command :=
  [.log "m.x.y" (.int 20) (.text "on") [], .log "m.y" (.int 20) (.text "off") []]

theorem agree_after_setup_quiet :
    ((afterSetups noisy).step (.setup quietFields)).1.book.levels.explicit "m.x" = 20 ∧
      (∀ name, ((afterSetups noisy).step (.setup quietFields)).1.book.levels.effective name =
        ((afterSetups []).step (.setup quietFields)).1.book.levels.effective name) ∧
      (((afterSetups noisy).step (.setup quietFields)).1.run quietCalls).2 =
        (((afterSetups []).step (.setup quietFields)).1.run quietCalls).2 := by
  have hsetup : ∀ earlier,
      ((Logbook.setup quiet).result (afterSetups earlier).cleared.book).2.toOption = some () →
        ((afterSetups earlier).step (.setup quietFields)).2.answer = .ok .done := fun _ h =>
    answer_step_setup_eq_ok_iff.2 ⟨quiet, rfl, eq_ok_of_toOption h⟩
  have htree : ((afterSetups noisy).step (.setup quietFields)).1.book.levels.tree =
      ((afterSetups []).step (.setup quietFields)).1.book.levels.tree := by decide +kernel
  obtain ⟨hexplicit, hnamed, hsame, hlines⟩ := agree_after_setup (s := afterSetups noisy)
    (t := afterSetups []) rfl rfl (hsetup noisy (by decide +kernel)) (hsetup [] (by decide +kernel))
  obtain ⟨hregular, hplaced⟩ := hsame (hnamed (by decide +kernel))
  obtain ⟨heffective, -⟩ := hplaced fun name => by rw [htree]
  refine ⟨(hexplicit "m.x").trans (by decide +kernel), heffective, hlines hregular _ ?_⟩
  exact List.forall_mem_cons.2 ⟨⟨"m.x.y", rfl, by decide, by decide⟩,
    List.forall_mem_singleton.2 ⟨"m.y", rfl, by decide, by decide⟩⟩

/-- A setup at the level of warnings that gives loggers levels. -/
def levelled (levels : Fields) : Fields :=
  [(.text "level", .text "WARNING"), (.text "module_levels", .map levels)]

/-- A logger whose name has two points in a row can have another level that counts after the same
setup, though all loggers have the same levels. -/
example :
    ((afterSetups [levelled [(.text "a.", .text "NOTSET")]]).step
        (.setup (levelled [(.text "a", .text "DEBUG")]))).1.book.levels.effective "a..b" = 10 ∧
      ((afterSetups []).step
        (.setup (levelled [(.text "a", .text "DEBUG")]))).1.book.levels.effective "a..b" = 30 := by
  decide +kernel

/-- A level that an earlier setup gave, and that a later one neither gives nor takes away. -/
theorem disagree_after_setup :
    ((afterSetups (noisy.take 1)).step (.setup (levelled []))).2.answer = .ok .done ∧
      ((afterSetups []).step (.setup (levelled []))).2.answer = .ok .done ∧
      ((afterSetups (noisy.take 1)).step (.setup (levelled []))).1.book.levels.effective "m" = 10 ∧
      ((afterSetups []).step (.setup (levelled []))).1.book.levels.effective "m" = 30 ∧
      (((afterSetups (noisy.take 1)).step (.setup (levelled []))).1.step
        (.log "m" (.int 10) (.text "noon") [])).2.printed ≠ "" ∧
      (((afterSetups []).step (.setup (levelled []))).1.step
        (.log "m" (.int 10) (.text "noon") [])).2.printed = "" := by
  have hsetup : ∀ earlier,
      ((Logbook.setup { level := .text "WARNING", loggerLevels := .map [] }).result
        (afterSetups earlier).cleared.book).2.toOption = some () →
        ((afterSetups earlier).step (.setup (levelled []))).2.answer = .ok .done := fun _ h =>
    answer_step_setup_eq_ok_iff.2 ⟨_, rfl, eq_ok_of_toOption h⟩
  exact ⟨hsetup _ (by decide +kernel), hsetup _ (by decide +kernel), by decide +kernel⟩

end Session

end StorageReply
