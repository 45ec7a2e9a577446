import StorageReply.Config.Settings
import StorageReply.Proofs.Log.Handlers

/-!
# Setups that succeed

A setup of logging ends early at a level that has no name, and at a log file that cannot be opened.
With texts for its level and format it succeeds just when neither is in the way
(`setup_eq_ok_iff`): the level of the root and those of single loggers have names
(`exists_levelOf_text_iff`, `giveLevels_eq_ok_iff`), and the log file, where one is asked for, has a
folder that can be made, a place in it, and a size that can be read (`opening_eq_ok_iff`).
-/

namespace StorageReply

open Text

/-! ## Acts that succeed -/

namespace Act

variable {σ α β : Type} {s t : σ} {a : α}

theorem result_of_eq_ok_iff {r : Except Failure α} :
    (of r).result s = (t, .ok a) ↔ r = .ok a ∧ t = s := by
  rw [result_of, Prod.mk.injEq, and_comm, eq_comm (a := s)]

theorem result_get_eq_ok_iff {u : σ} : (get : Act σ σ).result s = (t, .ok u) ↔ u = s ∧ t = s := by
  rw [result_get, Prod.mk.injEq, Except.ok.injEq, and_comm, eq_comm (a := s), eq_comm (a := s)]

theorem result_modify_eq_ok_iff {f : σ → σ} {a : Unit} :
    (modify f : Act σ Unit).result s = (t, .ok a) ↔ t = f s := by
  rw [result_modify, Prod.mk.injEq, eq_comm (a := f s)]
  exact and_iff_left rfl

theorem result_throw_eq_ok_iff {failure : Failure} :
    (throw failure : Act σ α).result s = (t, .ok a) ↔ False := by
  simp

theorem answer_modify (f : σ → σ) : ((modify f : Act σ Unit).result s).2 = .ok () := rfl

theorem answer_ite_eq_ok_iff {c : Prop} [Decidable c] {act other : Act σ α} :
    ((if c then act else other).result s).2 = .ok a ↔
      if c then (act.result s).2 = .ok a else (other.result s).2 = .ok a := by
  split <;> rfl

/-- An act after another succeeds just when both do, the second one on what the first one leaves. -/
theorem answer_bind_eq_ok_iff {act : Act σ α} {next : α → Act σ β} {b : β} :
    ((act >>= next).result s).2 = .ok b ↔
      ∃ u a, act.result s = (u, .ok a) ∧ ((next a).result u).2 = .ok b := by
  rw [result_bind]
  rcases act.result s with ⟨u, failure | a⟩
  · simp
  · constructor
    · exact fun h => ⟨u, a, rfl, h⟩
    · rintro ⟨_, _, ⟨⟩, h⟩
      exact h

end Act

open Act

/-! ## Places of log files -/

namespace Folder

/-- The folder of a log file can be made, and what all folders and files are afterwards. -/
def MakesWay (f : Folder) (path : Path) (made : Folder) : Prop :=
  Logbook.checkNames path.dropLast = .ok () ∧ f.make path.dropLast = .ok made

theorem MakesWay.eq {f made other : Folder} {path : Path} (h : f.MakesWay path made)
    (hother : f.MakesWay path other) : other = made :=
  Except.ok.inj (hother.2.symm.trans h.2)

/-- A log file can be opened at a path: a file can have its names, and no folder is there. -/
def Admits (f : Folder) (path : Path) : Prop :=
  Logbook.checkNames path.straight = .ok () ∧ f.isFolder path.straight = false

end Folder

namespace Logbook

theorem makeFolder_eq_ok_iff {path : Path} {b t : Logbook} {a : Unit} :
    (makeFolder path).result b = (t, .ok a) ↔
      ∃ made, b.folder.MakesWay path made ∧ t = { b with folder := made } := by
  simp only [makeFolder, Folder.MakesWay, result_bind, result_of, result_get]
  cases checkNames path.dropLast with
  | error failure => simp
  | ok _ =>
    dsimp only
    cases b.folder.make path.dropLast with
    | error failure => simp
    | ok made =>
      simp only [true_and, Except.ok.injEq, exists_eq_left']
      exact ⟨fun h => (congrArg Prod.fst h).symm, fun h => Prod.ext h.symm rfl⟩

theorem openFile_eq_ok_iff {setup : LogSetup} {name : String} {b : Logbook} :
    ((openFile setup name).result b).2 = .ok () ↔
      (∃ bytes, sizeOf setup.rotationSize = .ok bytes) ∧ b.folder.Admits (Path.ofText name) := by
  simp only [openFile, Folder.Admits, answer_bind_eq_ok_iff, answer_ite_eq_ok_iff, answer_modify,
    result_of_eq_ok_iff, result_get_eq_ok_iff, result_modify_eq_ok_iff, result_throw_eq_ok_iff]
  constructor
  · rintro ⟨_, bytes, ⟨hbytes, rfl⟩, _, _, ⟨hnames, rfl⟩, _, _, ⟨rfl, rfl⟩, h⟩
    split at h
    · obtain ⟨_, _, hthrown, -⟩ := h
      exact hthrown.elim
    · rename_i hplace
      exact ⟨⟨bytes, hbytes⟩, hnames, by simpa using hplace⟩
  · rintro ⟨⟨bytes, hbytes⟩, hnames, hplace⟩
    refine ⟨_, bytes, ⟨hbytes, rfl⟩, _, (), ⟨hnames, rfl⟩, _, _, ⟨rfl, rfl⟩, ?_⟩
    rw [if_neg (by simp [hplace])]
    exact ⟨_, (), rfl, trivial⟩

theorem reportFile_eq_ok_iff {setup : LogSetup} {name : String} {b : Logbook} :
    ((reportFile setup name).result b).2 = .ok () ↔
      (∃ size, textIn setup.rotationSize = .ok size) ∧
        ∃ count, textIn setup.rotationCount = .ok count := by
  simp only [reportFile, answer_bind_eq_ok_iff, answer_modify, result_of_eq_ok_iff]
  constructor
  · rintro ⟨_, size, ⟨hsize, rfl⟩, _, count, ⟨hcount, rfl⟩, -⟩
    exact ⟨⟨size, hsize⟩, count, hcount⟩
  · rintro ⟨⟨size, hsize⟩, count, hcount⟩
    exact ⟨_, size, ⟨hsize, rfl⟩, _, count, ⟨hcount, rfl⟩, trivial⟩

/-- A log file is opened just when its folder can be made, there is a place for it, its size can be
read, and what the message about it holds can be written. -/
theorem opening_eq_ok_iff {setup : LogSetup} {name : String} {b : Logbook} :
    ((inTurn [makeFolder (Path.ofText name), openFile setup name, reportFile setup name]).result
      b).2 = .ok () ↔
      (∃ made, b.folder.MakesWay (Path.ofText name) made ∧ made.Admits (Path.ofText name)) ∧
        (∃ bytes, sizeOf setup.rotationSize = .ok bytes) ∧
        (∃ size, textIn setup.rotationSize = .ok size) ∧
        ∃ count, textIn setup.rotationCount = .ok count := by
  simp only [inTurn, answer_bind_eq_ok_iff, makeFolder_eq_ok_iff]
  constructor
  · rintro ⟨_, _, ⟨made, hway, rfl⟩, _, _, hopen, _, _, hreport, -⟩
    obtain ⟨hbytes, hplace⟩ := openFile_eq_ok_iff.1 (congrArg Prod.snd hopen)
    exact ⟨⟨made, hway, hplace⟩, hbytes, reportFile_eq_ok_iff.1 (congrArg Prod.snd hreport)⟩
  · rintro ⟨⟨made, hway, hplace⟩, hbytes, hshown⟩
    exact ⟨_, (), ⟨made, hway, rfl⟩, _, (),
      Prod.ext rfl (openFile_eq_ok_iff.2 ⟨hbytes, hplace⟩), _, (),
      Prod.ext rfl (reportFile_eq_ok_iff.2 hshown), rfl⟩

/-- The steps to a log file, if one is asked for, depend on the files and folders alone. -/
theorem fileSteps_eq_ok_congr {setup : LogSetup} {b c : Logbook} (h : c.folder = b.folder) :
    ((inTurn (fileSteps setup)).result c).2 = .ok () ↔
      ((inTurn (fileSteps setup)).result b).2 = .ok () := by
  rw [fileSteps]
  split
  · split
    · exact Iff.rfl
    · rw [opening_eq_ok_iff, opening_eq_ok_iff, h]
  · split <;> exact Iff.rfl

end Logbook

/-! ## Levels -/

/-- A text is the name of a level, in any letter case. -/
def Levels.IsLevelName (s : String) : Prop := (Levels.names.lookup (upperString s)).isSome = true

instance (s : String) : Decidable (Levels.IsLevelName s) := inferInstanceAs (Decidable (_ = _))

theorem exists_levelOf_text_iff {s : String} :
    (∃ level, levelOf (.text s) = .ok level) ↔ Levels.IsLevelName s := by
  rw [levelOf, Levels.IsLevelName]
  cases Levels.names.lookup (upperString s) with
  | some level => simp
  | none =>
    dsimp only
    split
    · simp
    · split <;> simp

namespace Logbook

/-- Single loggers are given levels just when each entry has the name of a logger and a level. -/
theorem giveLevels_eq_ok_iff {entries : List (Key × Value)} {b : Logbook} :
    ((giveLevels entries).result b).2 = .ok () ↔
      ∀ entry ∈ entries,
        (∃ name, loggerOf entry.1 = .ok name) ∧ ∃ level, levelOf entry.2 = .ok level := by
  induction entries generalizing b with
  | nil => simp [giveLevels]
  | cons entry rest ih =>
    obtain ⟨key, v⟩ := entry
    rw [List.forall_mem_cons]
    simp only [giveLevels, answer_bind_eq_ok_iff, result_of_eq_ok_iff, result_modify_eq_ok_iff, ih]
    constructor
    · rintro ⟨_, name, ⟨hname, rfl⟩, _, _, rfl, _, level, ⟨hlevel, rfl⟩, _, _, rfl, hrest⟩
      exact ⟨⟨⟨name, hname⟩, level, hlevel⟩, hrest⟩
    · rintro ⟨⟨⟨name, hname⟩, level, hlevel⟩, hrest⟩
      exact ⟨_, name, ⟨hname, rfl⟩, _, (), rfl, _, level, ⟨hlevel, rfl⟩, _, (), rfl, hrest⟩

theorem giveLevelsOf_eq_ok_congr {v : Value} {b c : Logbook} :
    ((giveLevelsOf v).result c).2 = .ok () ↔ ((giveLevelsOf v).result b).2 = .ok () := by
  unfold giveLevelsOf
  split
  · rw [giveLevels_eq_ok_iff, giveLevels_eq_ok_iff]
  · simp only [answer_ite_eq_ok_iff, result_pure, result_throw]

theorem report_eq_ok_iff {setup : LogSetup} {b : Logbook} :
    ((report setup).result b).2 = .ok () ↔
      (∃ level, textIn setup.level = .ok level) ∧ ∃ format, textIn setup.format = .ok format := by
  simp only [report, answer_bind_eq_ok_iff, answer_modify, result_of_eq_ok_iff]
  constructor
  · rintro ⟨_, level, ⟨hlevel, rfl⟩, _, format, ⟨hformat, rfl⟩, -⟩
    exact ⟨⟨level, hlevel⟩, format, hformat⟩
  · rintro ⟨⟨level, hlevel⟩, format, hformat⟩
    exact ⟨_, level, ⟨hlevel, rfl⟩, _, format, ⟨hformat, rfl⟩, trivial⟩

/-! ## Setups -/

/-- A setup succeeds just when the level of the root has a name, the log file can be opened, the
levels of single loggers have names, and its level and format can be written. -/
theorem setup_eq_ok_iff {setup : LogSetup} {b : Logbook} :
    ((Logbook.setup setup).result b).2 = .ok () ↔
      (∃ level, levelOf setup.level = .ok level) ∧
        ((inTurn (fileSteps setup)).result b).2 = .ok () ∧
        ((giveLevelsOf setup.loggerLevels).result b).2 = .ok () ∧
        (∃ level, textIn setup.level = .ok level) ∧ ∃ format, textIn setup.format = .ok format := by
  cases hlevel : levelOf setup.level with
  | error failure =>
    rw [result_setup_of_error hlevel]
    simp
  | ok level =>
    have hfile : ((inTurn (fileSteps setup)).result (started setup level b)).2 = .ok () ↔
        ((inTurn (fileSteps setup)).result b).2 = .ok () := fileSteps_eq_ok_congr rfl
    rw [result_setup_of_ok hlevel, answer_bind_eq_ok_iff, ← hfile]
    simp only [inTurn, answer_bind_eq_ok_iff]
    constructor
    · rintro ⟨_, _, hopen, _, _, hgive, _, _, hreport, -⟩
      exact ⟨⟨level, rfl⟩, congrArg Prod.snd hopen,
        giveLevelsOf_eq_ok_congr.1 (congrArg Prod.snd hgive),
        report_eq_ok_iff.1 (congrArg Prod.snd hreport)⟩
    · rintro ⟨-, hopen, hgive, hshown⟩
      exact ⟨_, (), Prod.ext rfl hopen, _, (), Prod.ext rfl (giveLevelsOf_eq_ok_congr.2 hgive), _,
        (), Prod.ext rfl (report_eq_ok_iff.2 hshown), rfl⟩

end Logbook

end StorageReply
