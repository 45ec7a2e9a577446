import StorageReply.Proofs.Log.Setups
import StorageReply.Proofs.Session.Verdicts
import StorageReply.Proofs.Uri.Endpoints

/-!
# Using loaded settings

The checks of a load look at each entry by itself. Whether settings that passed them can be put to
use depends on more: the URIs of the account have to agree, and the log needs levels that have names
and, where it goes to a file, a size that can be read and a place for the file
(`configureLogging_eq_ok_iff`). Nothing else is in the way (`usable_of_load`).
-/

namespace StorageReply

open Act Number

namespace Session

/-! ## Logging -/

/-- The levels of settings are given to single loggers just when all of them have names. -/
theorem giveLevelsOf_levelsValue_eq_ok_iff {levels : Option (List (String × String))}
    {b : Logbook} :
    ((Logbook.giveLevelsOf (Settings.levelsValue levels)).result b).2 = .ok () ↔
      ∀ entry ∈ levels.getD [], Levels.IsLevelName entry.2 := by
  cases levels with
  | none => simp [Settings.levelsValue, Logbook.giveLevelsOf, Value.truthy]
  | some levels =>
    rw [Settings.levelsValue, Logbook.giveLevelsOf, Logbook.giveLevels_eq_ok_iff,
      List.forall_mem_map, Option.getD_some]
    refine forall₂_congr fun entry _ => ?_
    rw [← exists_levelOf_text_iff]
    exact and_iff_right ⟨entry.1, rfl⟩

/-- The log file of settings whose count has a numeral is opened just when there is a place for it
and its size can be read. -/
theorem fileSteps_logSetup_eq_ok_iff {log : LogSettings} {b : Logbook}
    (hcount : hasNumeral log.rotationCount = true) :
    ((Act.inTurn (Logbook.fileSteps (logSetup log))).result b).2 = .ok () ↔
      ∀ name, Settings.given log.file = some name →
        (∃ bytes, Size.parse log.rotationSize = .ok bytes) ∧
          ∃ made, b.folder.MakesWay (Path.ofText name) made ∧ made.Admits (Path.ofText name) := by
  have hshown : (∃ text, textIn (logSetup log).rotationSize = .ok text) ∧
      ∃ text, textIn (logSetup log).rotationCount = .ok text := by
    have hcountText :
        Value.display? (.int log.rotationCount) = some (numeral log.rotationCount) := by
      simp [Value.display?, Value.shown?, numeral?, hcount]
    exact ⟨⟨_, rfl⟩, _, by rw [textIn, logSetup, hcountText]⟩
  rw [Logbook.fileSteps, show (logSetup log).file = Settings.optionValue log.file from rfl]
  cases log.file with
  | none => simp [Settings.optionValue, Settings.given, Value.truthy, Act.inTurn]
  | some name =>
    change ((Act.inTurn (if name.isEmpty then [] else [Logbook.makeFolder (Path.ofText name),
      Logbook.openFile (logSetup log) name, Logbook.reportFile (logSetup log) name])).result b).2 =
        .ok () ↔ _
    rw [Settings.given, Option.filter_some]
    cases name.isEmpty with
    | true => simp [Act.inTurn]
    | false =>
      rw [if_neg Bool.false_ne_true, Logbook.opening_eq_ok_iff, and_iff_left hshown, and_comm]
      simp [sizeOf, logSetup]

/-- Logging can be set up as settings ask for, whose count has a numeral, just when the levels of
single loggers have names and the log file can be opened. -/
theorem configureLogging_eq_ok_iff {u : Session} {settings : Settings}
    (hu : u.settings = some settings)
    (hcount : hasNumeral settings.logging.rotationCount = true) :
    (configureLogging.result u).2 = .ok () ↔
      (∀ entry ∈ settings.logging.loggerLevels.getD [], Levels.IsLevelName entry.2) ∧
        ∀ name, Settings.given settings.logging.file = some name →
          (∃ bytes, Size.parse settings.logging.rotationSize = .ok bytes) ∧
            ∃ made, u.book.folder.MakesWay (Path.ofText name) made ∧
              made.Admits (Path.ofText name) := by
  have hconfig : config.result u = (u, .ok settings) := by rw [result_config, hu]
  have hlevel : ∃ level, levelOf (logSetup settings.logging).level = .ok level := by
    refine exists_levelOf_text_iff.2 ?_
    cases settings.logging.level <;> decide
  have hlevelText : ∃ text, textIn (logSetup settings.logging).level = .ok text := ⟨_, rfl⟩
  have hformatText : ∃ text, textIn (logSetup settings.logging).format = .ok text := ⟨_, rfl⟩
  have hsetup : (configureLogging.result u).2 =
      ((Logbook.setup (logSetup settings.logging)).result u.book).2 := by
    rw [configureLogging, result_bind, hconfig]
    exact congrArg Prod.snd (result_on book withBook _ u)
  rw [hsetup, Logbook.setup_eq_ok_iff, fileSteps_logSetup_eq_ok_iff hcount]
  have hgive : (logSetup settings.logging).loggerLevels =
      Settings.levelsValue settings.logging.loggerLevels := rfl
  rw [hgive, giveLevelsOf_levelsValue_eq_ok_iff]
  exact ⟨fun ⟨_, hfile, hlevels, _⟩ => ⟨hlevels, hfile⟩,
    fun ⟨hlevels, hfile⟩ => ⟨hlevel, hfile, hlevels, hlevelText, hformatText⟩⟩

/-! ## Loaded settings -/

/-- **What it takes to use loaded settings**, in any client that has them in force, as long as the
folder of the log file can be made.

The service has URIs just when those of the account agree. Two hosts that are named after the
account agree when the first of them can be read, if no character of the name ends the network
location. Logging can be set up, if every level for a single logger has a name, just when the size
of the log file can be read and there is a place for it. -/
theorem usable_of_load {s u : Session} {file overrides : Value} {settings : Settings}
    (h : ((load file overrides).result s).2 = .ok settings) (hu : u.settings = some settings)
    (hfolder : ∀ name, Settings.given settings.logging.file = some name →
      ∃ made, u.book.folder.MakesWay (Path.ofText name) made) :
    ((∃ uri, (serviceUri.result u).2 = .ok uri) ↔ settings.account.uris.Coherent) ∧
    (Settings.given settings.account.primaryEndpoint = none →
      Settings.given settings.account.secondaryEndpoint = none →
      (∀ c ∈ settings.account.name.toList, Uri.endsHost c = false) →
      (settings.account.uris.Coherent ↔
        ∃ uri, Uri.parse (Settings.hostUri settings.account settings.account.name).toList =
          .ok uri)) ∧
    ((∀ entry ∈ settings.logging.loggerLevels.getD [], Levels.IsLevelName entry.2) →
      ((configureLogging.result u).2 = .ok () ↔
        ∀ name, Settings.given settings.logging.file = some name →
          (∃ bytes, Size.parse settings.logging.rotationSize = .ok bytes) ∧
            ∀ made, u.book.folder.MakesWay (Path.ofText name) made →
              made.Admits (Path.ofText name))) := by
  have hcount := (answer_load_eq_ok_iff.1 h).2
  have huri : (serviceUri.result u).2 = settings.serviceUri := by
    rw [serviceUri, answer_bind, result_config, hu]
    exact congrArg Prod.snd (result_of settings.serviceUri u)
  refine ⟨?_, Settings.coherent_uris_iff, fun hlevels => ?_⟩
  · rw [huri]
    simp only [Settings.serviceUri_eq_ok_iff, exists_eq_left]
  · rw [configureLogging_eq_ok_iff hu hcount, and_iff_right hlevels]
    refine forall₂_congr fun name hname => and_congr_right fun _ => ?_
    obtain ⟨made, hmade⟩ := hfolder name hname
    constructor
    · rintro ⟨other, hother, hplace⟩ third hthird
      rwa [hother.eq hthird]
    · exact fun hplace => ⟨made, hmade, hplace made hmade⟩

/-- What a caller asks for: two endpoints, and a log file of a size with debug messages of one
logger. -/
def twoEndpoints (secondary size : String) : Value :=
  .map
    [(.text "account", .map
       [(.text "primary_endpoint", .text "https://a/x"),
        (.text "secondary_endpoint", .text secondary)]),
     (.text "logging", .map
       [(.text "file", .text "logs/a.log"), (.text "rotation_size", .text size),
        (.text "module_levels", .map [(.text "m", .text "debug")])])]

/-- The settings that are loaded from this. -/
def endpointSettings (secondary size : String) : Settings where
  account := { primaryEndpoint := some "https://a/x", secondaryEndpoint := some secondary }
  logging :=
    { file := some "logs/a.log", rotationSize := size, loggerLevels := some [("m", "debug")] }

/-- A client without files that has these settings in force. -/
def endpointClient : Session :=
  { start .empty ⟨[]⟩ (.whole 0) with settings := some (endpointSettings "https://b/x/" "1KB") }

theorem usable_of_load_endpoints :
    (∃ uri, (serviceUri.result endpointClient).2 = .ok uri) ∧
      (configureLogging.result endpointClient).2 = .ok () := by
  have hload : ((load .null (twoEndpoints "https://b/x/" "1KB")).result
      (start .empty ⟨[]⟩ (.whole 0))).2 = .ok (endpointSettings "https://b/x/" "1KB") :=
    eq_ok_of_toOption (by decide +kernel)
  have hpath : Path.ofText "logs/a.log" = ["logs", "a.log"] := by decide +kernel
  have hway : Folder.empty.MakesWay (Path.ofText "logs/a.log") ⟨[], [["logs"]]⟩ := by
    rw [hpath]
    exact ⟨rfl, rfl⟩
  have hname : ∀ name, Settings.given (endpointSettings "https://b/x/" "1KB").logging.file =
      some name → name = "logs/a.log" := by
    intro name h
    exact (Option.some.inj h).symm
  obtain ⟨huri, -, hlog⟩ := usable_of_load hload (u := endpointClient) rfl
    fun name h => ⟨_, hname name h ▸ hway⟩
  refine ⟨huri.2 ?_, (hlog (by decide)).2 ?_⟩
  · rintro _ _ ⟨⟩ ⟨⟩
    exact ⟨_, _, rfl, rfl, rfl⟩
  · intro name h
    obtain rfl := hname name h
    refine ⟨⟨1024, eq_ok_of_toOption (by decide +kernel)⟩, fun made hmade => ?_⟩
    rw [hway.eq hmade, hpath]
    exact ⟨rfl, rfl⟩

/-- Settings pass the checks of a load although their endpoints address different resources, or the
size of their log file cannot be read; the folder of the log file can be made. -/
theorem unusable_endpoints :
    (∃ t, (load .null (twoEndpoints "https://b/y" "1KB")).result (start .empty ⟨[]⟩ (.whole 0)) =
        (t, .ok (endpointSettings "https://b/y" "1KB")) ∧
      ∃ failure, (serviceUri.result t).2 = .error failure) ∧
    ∃ t, (load .null (twoEndpoints "https://b/x" "big")).result (start .empty ⟨[]⟩ (.whole 0)) =
        (t, .ok (endpointSettings "https://b/x" "big")) ∧
      ((Logbook.makeFolder (Path.ofText "logs/a.log")).result t.book).2 = .ok () ∧
      ∃ failure, (configureLogging.result t).2 = .error failure := by
  have hload : ((load .null (twoEndpoints "https://b/y" "1KB")).result
      (start .empty ⟨[]⟩ (.whole 0))).2 = .ok (endpointSettings "https://b/y" "1KB") :=
    eq_ok_of_toOption (by decide +kernel)
  have hsize : ((load .null (twoEndpoints "https://b/x" "big")).result
      (start .empty ⟨[]⟩ (.whole 0))).2 = .ok (endpointSettings "https://b/x" "big") :=
    eq_ok_of_toOption (by decide +kernel)
  exact ⟨⟨_, result_eq_of_answer hload, exists_error_of_toOption (by decide +kernel)⟩,
    _, result_eq_of_answer hsize, eq_ok_of_toOption (by decide +kernel),
    exists_error_of_toOption (by decide +kernel)⟩

end Session

end StorageReply
