import StorageReply.Proofs.Log.Setups
import StorageReply.Proofs.Log.Shown

/-!
# Levels that a setup gives

A setup gives a level to the root logger and then, one after the other, to the loggers that it
names. A logger has the level that it was given last, and keeps the one that it had if it is given
none (`Logbook.explicit_giveLevels`). Which levels are given depends on how far the setup gets: none
if the level of the root has no name, that of the root alone if the log file cannot be opened, and
else those of the entries before the first one that cannot be used (`LogSetup.given`,
`Logbook.explicit_setup`).

What was done before a failure stays (`Logbook.left_behind_of_setup_eq_error`).
-/

namespace StorageReply

theorem isSome_toOption_iff {ε α : Type} {x : Except ε α} :
    x.toOption.isSome = true ↔ ∃ a, x = .ok a := by
  cases x <;> simp [Except.toOption]

namespace Levels

open LoggerTree

/-! ## Levels of single loggers -/

/-- The level that was given to a logger itself; zero stands for none. -/
def explicit (levels : Levels) (name : String) : Int :=
  if isRoot name then levels.root else (levels.given.lookup name).getD 0

theorem isRoot_rootName : isRoot rootName = true := by decide

theorem explicit_of_isRoot {levels : Levels} {name : String} (h : isRoot name = true) :
    levels.explicit name = levels.root := if_pos h

theorem explicit_of_not_isRoot {levels : Levels} {name : String} (h : isRoot name = false) :
    levels.explicit name = (levels.given.lookup name).getD 0 := by
  rw [explicit, h, if_neg Bool.false_ne_true]

/-- Two names mean the same logger: the root logger has several. -/
def SameLogger (name other : String) : Prop := recordName name = recordName other

instance (name other : String) : Decidable (SameLogger name other) :=
  inferInstanceAs (Decidable (_ = _))

theorem sameLogger_iff_of_not_isRoot {name other : String} (h : isRoot other = false) :
    SameLogger name other ↔ name = other := by
  rw [SameLogger, recordName, recordName, h, if_neg Bool.false_ne_true]
  constructor
  · intro heq
    split at heq
    · rw [← heq, isRoot_rootName] at h
      cases h
    · exact heq
  · rintro rfl
    rw [h, if_neg Bool.false_ne_true]

theorem sameLogger_iff_of_isRoot {name other : String} (h : isRoot other = true) :
    SameLogger name other ↔ isRoot name = true := by
  rw [SameLogger, recordName, recordName, h, if_pos rfl]
  cases hname : isRoot name with
  | true => simp
  | false =>
    rw [if_neg Bool.false_ne_true]
    simp only [Bool.false_eq_true, iff_false]
    intro heq
    rw [heq, isRoot_rootName] at hname
    cases hname

/-- A level that is given to a logger is its level from then on; all others keep theirs. -/
theorem explicit_give (levels : Levels) (name other : String) (level : Int) :
    (levels.give name level).explicit other =
      if SameLogger name other then level else levels.explicit other := by
  cases hother : isRoot other with
  | true =>
    rw [explicit_of_isRoot hother, explicit_of_isRoot hother, give]
    simp only [sameLogger_iff_of_isRoot hother]
    split <;> rfl
  | false =>
    rw [explicit_of_not_isRoot hother, explicit_of_not_isRoot hother, give]
    simp only [sameLogger_iff_of_not_isRoot hother]
    by_cases hname : name = other
    · subst hname
      simp [hother]
    · have hne : (other == name) = false := beq_eq_false_iff_ne.2 (Ne.symm hname)
      cases isRoot name with
      | true => simp [hname]
      | false =>
        simp [hname, hne, List.lookup_cons, Environment.lookup_filter, Ne.symm hname, fetch]

/-- A logger that is asked whether it lets a record pass keeps its level, and so do all others. -/
theorem explicit_ask (levels : Levels) (name : String) (level : Int) :
    (levels.ask name level).explicit = levels.explicit := by
  rw [ask]
  split <;> rfl

/-- The level that a logger is given last, if it is given one. -/
def lastGiven? (given : List (String × Int)) (name : String) : Option Int :=
  (given.filter fun entry => SameLogger entry.1 name).getLast?.map Prod.snd

theorem lastGiven?_cons (entry : String × Int) (given : List (String × Int)) (name : String) :
    lastGiven? (entry :: given) name =
      (lastGiven? given name).or (if SameLogger entry.1 name then some entry.2 else none) := by
  rw [lastGiven?, List.filter_cons]
  split
  · rename_i hsame
    rw [List.getLast?_cons, lastGiven?, if_pos (of_decide_eq_true hsame)]
    cases (given.filter fun entry => SameLogger entry.1 name).getLast? <;> rfl
  · rename_i hsame
    rw [if_neg (by simpa using hsame), Option.or_none, lastGiven?]

end Levels

namespace LogSetup

/-! ## How far a setup gets -/

/-- The levels in the entries of a map, up to the first entry that has none for a logger. -/
def levelsIn : List (Key × Value) → List (String × Int)
  | [] => []
  | (key, v) :: rest =>
    match loggerOf key, levelOf v with
    | .ok name, .ok level => (name, level) :: levelsIn rest
    | _, _ => []

/-- The levels of single loggers that a setup asks for. -/
def loggersAsked (setup : LogSetup) : List (String × Int) :=
  match setup.loggerLevels with
  | .map entries => levelsIn entries
  | _ => []

/-- The levels that a setup asks for, that of the root logger first. -/
def asked (setup : LogSetup) : List (String × Int) :=
  match levelOf setup.level with
  | .ok level => (LoggerTree.rootName, level) :: setup.loggersAsked
  | .error _ => []

/-- Whether a setup gets past the log file: it asks for none, or it opens it and can announce it. -/
def opensFile (setup : LogSetup) (f : Folder) : Bool :=
  match setup.file with
  | .text name =>
    name.isEmpty || ((setup.opening? name f).isSome &&
      (textIn setup.rotationSize).toOption.isSome && (textIn setup.rotationCount).toOption.isSome)
  | v => !v.truthy

/-- The levels that a setup gives before it ends or fails. If it fails at the log file, only the
root logger has been given its level. -/
def given (setup : LogSetup) (f : Folder) : List (String × Int) :=
  if setup.opensFile f then setup.asked else setup.asked.take 1

end LogSetup

namespace Logbook

open Act

theorem isSome_opening?_iff {setup : LogSetup} {name : String} {f : Folder} :
    (setup.opening? name f).isSome = true ↔
      (∃ made, f.MakesWay (Path.ofText name) made ∧ made.Admits (Path.ofText name)) ∧
        ∃ bytes, sizeOf setup.rotationSize = .ok bytes := by
  have hmade : ∀ made, LogSetup.madeFolder name f = .ok made ↔
      f.MakesWay (Path.ofText name) made := by
    intro made
    rw [LogSetup.madeFolder, bind_eq_ok_iff, Folder.MakesWay]
    constructor
    · rintro ⟨_, hnames, hmake⟩
      exact ⟨hnames, hmake⟩
    · rintro ⟨hnames, hmake⟩
      exact ⟨_, hnames, hmake⟩
  simp only [← hmade, LogSetup.opening?, LogSetup.fitting?, Folder.Admits]
  cases LogSetup.madeFolder name f with
  | error failure => simp [Except.toOption]
  | ok made =>
    cases sizeOf setup.rotationSize with
    | error failure => simp [Except.toOption]
    | ok limit =>
      cases checkNames (Path.ofText name).straight with
      | error failure => simp [Except.toOption]
      | ok _ => cases hfolder : made.isFolder (Path.ofText name).straight <;>
          simp [Except.toOption, hfolder]

/-- The log file is opened, if one is asked for, where nothing is in its way. -/
theorem answer_fileSteps_eq_ok_iff {setup : LogSetup} {b : Logbook} :
    ((inTurn (fileSteps setup)).result b).2 = .ok () ↔ setup.opensFile b.folder = true := by
  rw [fileSteps, LogSetup.opensFile]
  cases setup.file with
  | text name =>
    dsimp only
    cases name.isEmpty with
    | true => simp [inTurn]
    | false =>
      rw [if_neg Bool.false_ne_true, opening_eq_ok_iff, Bool.false_or, Bool.and_eq_true,
        Bool.and_eq_true, isSome_opening?_iff, isSome_toOption_iff, isSome_toOption_iff, and_assoc,
        and_assoc]
  | _ =>
    dsimp only
    split <;> simp_all [inTurn]

/-! ## Levels after a setup -/

/-- A message gives no levels. -/
theorem explicit_log (b : Logbook) (name : String) (level : Int) (message : Value)
    (arguments : Arguments) (context : Option Fields) :
    (b.log name level message arguments context).levels.explicit = b.levels.explicit := by
  rcases b.log_eq name level message arguments context with hlog | ⟨lines, -, hlog⟩
  · rw [hlog]
    exact b.levels.explicit_ask name level
  · rw [hlog, levels_deliver]
    exact b.levels.explicit_ask name level

/-- The level that each logger was given. -/
def explicit (b : Logbook) : String → Int := b.levels.explicit

theorem keeps_explicit_fileSteps (setup : LogSetup) :
    Keeps explicit (inTurn (fileSteps setup)) :=
  keeps_iff_respects.2 (respects_inTurn (respects_fileSteps (fun _ _ => rfl) (fun _ _ _ => rfl)
    (fun b _ => b.explicit_log ..) setup))

theorem keeps_explicit_report (setup : LogSetup) : Keeps explicit (report setup) :=
  keeps_iff_respects.2 (respects_report (fun b _ => b.explicit_log ..) setup)

/-- The entries of a map give their levels up to the first one that cannot be used. -/
theorem explicit_giveLevels (entries : List (Key × Value)) (b : Logbook) (name : String) :
    ((giveLevels entries).result b).1.explicit name =
      (Levels.lastGiven? (LogSetup.levelsIn entries) name).getD (b.explicit name) := by
  induction entries generalizing b with
  | nil => rfl
  | cons entry rest ih =>
    obtain ⟨key, v⟩ := entry
    rw [giveLevels, LogSetup.levelsIn, result_bind, result_of]
    cases loggerOf key with
    | error failure => rfl
    | ok other =>
      dsimp only
      rw [result_bind, result_modify]
      dsimp only
      rw [result_bind, result_of]
      cases levelOf v with
      | error failure => rfl
      | ok level =>
        dsimp only
        rw [result_bind, result_modify, ih, Levels.lastGiven?_cons, explicit,
          Levels.explicit_give]
        cases Levels.lastGiven? (LogSetup.levelsIn rest) name with
        | some last => rfl
        | none =>
          rw [Option.getD_none, Option.none_or]
          split <;> rfl

theorem explicit_giveLevelsOf (setup : LogSetup) (b : Logbook) (name : String) :
    ((giveLevelsOf setup.loggerLevels).result b).1.explicit name =
      (Levels.lastGiven? setup.loggersAsked name).getD (b.explicit name) := by
  rw [LogSetup.loggersAsked]
  cases setup.loggerLevels with
  | map entries => exact explicit_giveLevels entries b name
  | _ =>
    rw [giveLevelsOf, result_ite]
    · split <;> rfl
    · simp

/-- **The level of each logger after a setup** is the last one that the setup gives it, or else the
one that it had. -/
theorem explicit_setup (setup : LogSetup) (b : Logbook) (name : String) :
    ((Logbook.setup setup).result b).1.explicit name =
      (Levels.lastGiven? (setup.given b.folder) name).getD (b.explicit name) := by
  rw [LogSetup.given, LogSetup.asked]
  cases hlevel : levelOf setup.level with
  | error failure =>
    rw [result_setup_of_error hlevel]
    dsimp only
    rw [List.take_nil, ite_self]
    rfl
  | ok level =>
    have hstarted : (started setup level b).explicit name =
        if Levels.SameLogger LoggerTree.rootName name then level else b.explicit name :=
      b.levels.explicit_give LoggerTree.rootName name level
    have hroot : ∀ given, (Levels.lastGiven? ((LoggerTree.rootName, level) :: given) name).getD
        (b.explicit name) =
          (Levels.lastGiven? given name).getD ((started setup level b).explicit name) := by
      intro given
      rw [Levels.lastGiven?_cons, hstarted]
      cases Levels.lastGiven? given name with
      | some last => rfl
      | none =>
        rw [Option.getD_none, Option.none_or]
        split <;> rfl
    have hfile : ((inTurn (fileSteps setup)).result (started setup level b)).2 = .ok () ↔
        setup.opensFile b.folder = true := answer_fileSteps_eq_ok_iff
    have hopened := keeps_explicit_fileSteps setup (started setup level b)
    rw [result_setup_of_ok hlevel, result_bind]
    rcases hresult : (inTurn (fileSteps setup)).result (started setup level b) with
      ⟨c, failure | _⟩ <;> rw [hresult] at hfile hopened
    · dsimp only
      rw [if_neg fun h => (by cases hfile.2 h), List.take_succ_cons, List.take_zero, hroot]
      exact congrFun hopened name
    · dsimp only
      rw [if_pos (hfile.1 rfl), hroot, ← hopened, result_inTurn_cons]
      refine Respects.after (P := fun d : Logbook => d.explicit name = _) (fun _ d hd => ?_)
        (explicit_giveLevelsOf setup c name)
      exact (congrFun (view_moment (List.forall_mem_singleton.2 (keeps_explicit_report setup)) 1 d)
        name).trans hd

/-! ## Setups that fail -/

/-- **What was done before a failure stays.** If a setup fails at the level of the root logger, then
everything is as before. If it fails later, the root logger has its level, its handlers are those of
the setup, with one for the log file only where that could be opened, and the loggers have the
levels that were given before the failure: none after a failure at the log file, and else those of
the entries before the first one that cannot be used. Every other logger has the level that it
had. -/
theorem left_behind_of_setup_eq_error {setup : LogSetup} {b : Logbook} {failure : Failure}
    (h : ((Logbook.setup setup).result b).2 = .error failure) :
    (∀ refused, levelOf setup.level = .error refused →
      refused = failure ∧ ((Logbook.setup setup).result b).1 = b) ∧
    ∀ level, levelOf setup.level = .ok level →
      ((Logbook.setup setup).result b).1.handlers = .console setup.lineFormat ::
        (setup.opened? b.folder).toList.map (·.handler setup.lineFormat) ∧
      ∀ name, ((Logbook.setup setup).result b).1.levels.explicit name =
        (Levels.lastGiven? (setup.given b.folder) name).getD (b.levels.explicit name) := by
  refine ⟨fun refused hrefused => ?_, fun level hlevel => ⟨?_, fun name => ?_⟩⟩
  · rw [result_setup_of_error hrefused] at h ⊢
    exact ⟨Except.error.inj h, rfl⟩
  · exact handlers_setup hlevel b
  · exact explicit_setup setup b name

/-- A logbook with a log file and a logger with a level of its own. -/
def furnished : Logbook where
  levels := ⟨20, [("m", 10)], [("m", .logger none)], []⟩
  outlets := [.console .json, .file .json ⟨["a.log"], 1024, some 5, .attached⟩]
  folder := ⟨[(["a.log"], "")], []⟩
  console := ""
  bound := []
  clock := .whole 0

/-- A setup whose second logger is given a level that there is not. -/
def halted : LogSetup where
  level := .text "error"
  format := .text "text"
  loggerLevels := .map [(.text "m", .text "WARNING"), (.text "x", .text "LOUD"),
    (.text "y", .text "DEBUG")]

/-- A setup whose rotation size cannot be read. -/
def unsized : LogSetup where
  level := .text "error"
  file := .text "a.log"
  rotationSize := .text "big"

theorem left_behind_of_setup_eq_error_halted :
    ((Logbook.setup halted).result furnished).1.handlers = [.console .text] ∧
      ((Logbook.setup halted).result furnished).1.levels.explicit "" = 40 ∧
      ((Logbook.setup halted).result furnished).1.levels.explicit "m" = 30 ∧
      ((Logbook.setup halted).result furnished).1.levels.explicit "y" = 0 := by
  obtain ⟨failure, hfails⟩ := exists_error_of_toOption
    (x := ((Logbook.setup halted).result furnished).2) (by decide +kernel)
  obtain ⟨-, hleft⟩ := left_behind_of_setup_eq_error hfails
  have hlevel : levelOf halted.level = .ok 40 := eq_ok_of_toOption (by decide +kernel)
  obtain ⟨hhandlers, hlevels⟩ := hleft 40 hlevel
  refine ⟨hhandlers.trans (by decide +kernel), (hlevels "").trans (by decide +kernel),
    (hlevels "m").trans (by decide +kernel), (hlevels "y").trans (by decide +kernel)⟩

/-- A setup that fails, after it has taken the log file away and changed the level of the root. -/
theorem changed_by_setup_unsized :
    ((Logbook.setup unsized).result furnished).2.toOption = none ∧
      furnished.handlers = [.console .json, .file .json ["a.log"] 1024 (some 5)] ∧
      ((Logbook.setup unsized).result furnished).1.handlers = [.console .json] ∧
      furnished.levels.explicit "" = 20 ∧
      ((Logbook.setup unsized).result furnished).1.levels.explicit "" = 40 := by
  decide +kernel

end Logbook

end StorageReply
