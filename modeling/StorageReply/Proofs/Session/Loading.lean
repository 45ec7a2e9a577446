import StorageReply.Proofs.Config.Precedence
import StorageReply.Proofs.Value.Equality
import StorageReply.Session.Configuration

/-!
# Loading settings

The answer of a load, without the messages that it writes on the way (`answer_load`): the value of
the settings file, the environment laid over it, what the caller asks for laid over both, and the
checks. From it follows which source each of the loaded settings comes from (`layered_of_load`).
-/

namespace StorageReply

namespace Session

open Act

/-- The first message of a load. -/
def opening : Act Session Unit := inform "Loading zurestore configuration"

theorem result_inform (text : String) (s : Session) :
    (inform text).result s = (s.withBook (s.book.say configLogger 20 text), .ok ()) := rfl

/-- A message that its logger does not let pass is asked for, and no more. -/
theorem result_inform_of_disabled {s : Session}
    (h : s.book.levels.enables configLogger 20 = false) (text : String) :
    (inform text).result s = (s.withBook (s.book.ask configLogger 20), .ok ()) := by
  rw [result_inform, Logbook.say, Logbook.log_of_disabled h]

/-! ## The steps of a load -/

/-- Reading a settings file leaves the environment as it is. -/
theorem environment_fileValue (file : Value) (s : Session) :
    ((fileValue file).result s).1.environment = s.environment := by
  have hread : ∀ path, ((readFile path).result s).1.environment = s.environment := by
    intro path
    simp only [readFile, result_bind, result_get, result_of]
    cases s.book.folder.settings path <;> rfl
  cases file with
  | text path =>
    simp only [fileValue, result_ite]
    split
    · rfl
    · exact hread path
  | _ =>
    simp only [fileValue, result_ite]
    split <;> rfl

/-- The answer to a path is the value of the settings file. -/
theorem answer_readFile (path : String) (s : Session) :
    ((readFile path).result s).2 = s.book.folder.settings path := by
  rw [readFile, answer_bind, result_get]
  change ((of (s.book.folder.settings path) >>= _ : Act Session Value).result s).2 = _
  rw [answer_bind, result_of]
  cases s.book.folder.settings path <;> rfl

/-- The settings of the environment are laid over a value. -/
theorem answer_withEnvironment (base : Value) (s : Session) :
    ((withEnvironment base).result s).2 = base.merged (.map s.environment.fields) := by
  rw [withEnvironment, answer_bind, result_get]
  change ((of (base.merged (.map s.environment.fields)) >>= _ : Act Session Value).result s).2 = _
  rw [answer_bind, result_of]
  cases base.merged (.map s.environment.fields) with
  | error failure => rfl
  | ok v =>
    change (Act.result (ite _ _ _) s).2 = _
    rw [result_ite]
    split <;> rfl

/-- What a caller asks for, if that is anything, laid over a value. -/
def laidOver (overrides below : Value) : Except Failure Value :=
  if overrides.truthy then below.merged overrides else .ok below

theorem answer_withOverrides (overrides below : Value) (s : Session) :
    ((withOverrides overrides below).result s).2 = laidOver overrides below := by
  rw [withOverrides, laidOver, result_ite]
  split
  · rw [answer_bind, result_of]
    cases below.merged overrides <;> rfl
  · rfl

/-- The settings of a value, which must be settings that can be written down. -/
def accepted (v : Value) : Except Failure Settings := do
  let settings ← settingsOf v
  if (Json.writeIndented? settings.toValue).isSome then return settings
  else .error (.unusable .longNumeral)

theorem accepted_eq_ok_iff {v : Value} {settings : Settings} :
    accepted v = .ok settings ↔
      settingsOf v = .ok settings ∧ (Json.writeIndented? settings.toValue).isSome := by
  cases hs : settingsOf v with
  | error failure => simp [accepted, hs, bind, Except.bind]
  | ok checked =>
    simp only [accepted, hs, bind, Except.bind, Except.ok.injEq]
    split
    · rename_i hw
      constructor
      · rintro ⟨⟩
        exact ⟨rfl, hw⟩
      · rintro ⟨rfl, -⟩
        rfl
    · rename_i hw
      constructor
      · nofun
      · rintro ⟨rfl, hw'⟩
        exact absurd hw' hw

theorem answer_adopt (v : Value) (s : Session) : ((adopt v).result s).2 = accepted v := by
  rw [adopt, accepted]
  cases settingsOf v with
  | ok settings =>
    change _ = if _ then _ else _
    dsimp only
    cases Json.writeIndented? settings.toValue <;> rfl
  | error failure => cases failure <;> rfl

/-- The value that a load reads from the settings file, after its first message. -/
def fileAnswer (s : Session) (file : Value) : Except Failure Value :=
  ((fileValue file).result (opening.result s).1).2

/-- The answer of a load. Nothing of the session counts for it but the settings file and the
environment. -/
theorem answer_load (file overrides : Value) (s : Session) :
    ((load file overrides).result s).2 = (do
      let base ← s.fileAnswer file
      let below ← base.merged (.map s.environment.fields)
      let top ← laidOver overrides below
      accepted top) := by
  have henv : ((fileValue file).result (opening.result s).1).1.environment = s.environment :=
    environment_fileValue file _
  rw [load, answer_bind, result_inform]
  change ((fileValue file >>= _ : Act Session Settings).result (opening.result s).1).2 = _
  simp only [answer_bind, answer_withEnvironment, answer_withOverrides, answer_adopt, henv]
  rfl

/-! ## The sources of loaded settings -/

/-- The map that a caller asks for; null asks for nothing. -/
def askedFields : Value → Option Fields
  | .map fields => some fields
  | .null => some []
  | _ => none

theorem laidOver_map {overrides : Value} {asked : Fields} (h : askedFields overrides = some asked)
    (below : Fields) : laidOver overrides (.map below) = .ok (.map (below.merge asked)) := by
  cases overrides with
  | map fields =>
    obtain rfl := Option.some.inj h
    cases fields <;> simp [laidOver, Value.truthy]
  | null =>
    obtain rfl := Option.some.inj h
    simp [laidOver, Value.truthy]
  | _ => simp [askedFields] at h

/-- The answer of a load from maps. -/
theorem answer_load_map {s : Session} {path overrides : Value} {file asked : Fields}
    (hfile : s.fileAnswer path = .ok (.map file)) (hasked : askedFields overrides = some asked) :
    ((load path overrides).result s).2 =
      accepted (.map ((file.merge s.environment.fields).merge asked)) := by
  rw [answer_load, hfile]
  change (laidOver overrides (.map (file.merge s.environment.fields)) >>= accepted) = _
  rw [laidOver_map hasked]
  rfl

/-- **Each setting comes from the first source that has a value for it.** When a load succeeds, with
a settings file that holds a map or no file, each of the settings is what the caller asks for, else
what the environment gives, else what the file says, else the usual one. -/
theorem layered_of_load {s : Session} {path overrides : Value} {file asked : Fields}
    {settings : Settings} (hfile : s.fileAnswer path = .ok (.map file))
    (hoverrides : askedFields overrides = some asked) (hasked : asked.Distinct)
    (hparts : ∀ name ∈ ["account", "logging"],
      (file.part? name).isSome ∧ (asked.part? name).isSome)
    (h : ((load path overrides).result s).2 = .ok settings) :
    settings.Layered s.environment file asked := by
  rw [answer_load_map hfile hoverrides] at h
  obtain ⟨hfa, haa⟩ := hparts "account" (by simp)
  obtain ⟨hfl, hal⟩ := hparts "logging" (by simp)
  exact Settings.layered_of_check hasked hfa hfl haa hal
    (Settings.check_of_ofFields (accepted_eq_ok_iff.1 h).1)

/-- The answer of a path that is not empty, where the first message is not written. -/
theorem fileAnswer_text {s : Session} (h : s.book.levels.enables configLogger 20 = false)
    {path : String} (hpath : path.isEmpty = false) :
    s.fileAnswer (.text path) = s.book.folder.settings path := by
  rw [fileAnswer, opening, result_inform_of_disabled h, fileValue, hpath, result_ite,
    if_neg (by simp), answer_readFile]
  rfl

/-- A folder with a settings file. -/
def furnishedFolder : Folder where
  files := [(["s.json"], "\x7b\"account\":\x7b\"name\":\"a\",\"endpoint_suffix\":\"b\"\x7d," ++
    "\"logging\":\x7b\"module_levels\":\x7b\"m\":\"INFO\",\"n\":\"INFO\"\x7d\x7d\x7d")]
  folders := []

/-- Three environment variables, one of them empty. -/
def furnishedEnvironment : Environment :=
  ⟨[("ZURESTORE_ENDPOINT_SUFFIX", "c"), ("ZURESTORE_LOG_LEVEL", "debug"),
    ("ZURESTORE_ACCOUNT_NAME", "")]⟩

/-- A client with this folder and environment. -/
def furnished : Session := start furnishedFolder furnishedEnvironment (.whole 0)

/-- What its settings file holds. -/
def furnishedFile : Fields :=
  [(.text "account", .map [(.text "name", .text "a"), (.text "endpoint_suffix", .text "b")]),
    (.text "logging", .map [(.text "module_levels",
      .map [(.text "m", .text "INFO"), (.text "n", .text "INFO")])])]

/-- What the caller asks for. -/
def furnishedAsked : Fields :=
  [(.text "logging", .map [(.text "module_levels", .map [(.text "n", .text "DEBUG")])])]

/-- The settings that are made of all three. -/
def furnishedSettings : Settings where
  account := { name := "a", endpointSuffix := "c" }
  logging := { level := .debug, loggerLevels := some [("m", "INFO"), ("n", "DEBUG")] }

/-- The settings of one client, with all sources at work. -/
theorem layered_of_load_furnished :
    furnished.fileAnswer (.text "s.json") = .ok (.map furnishedFile) ∧ furnishedAsked.Distinct ∧
      ((load (.text "s.json") (.map furnishedAsked)).result furnished).2 = .ok furnishedSettings ∧
      furnishedSettings.Layered furnished.environment furnishedFile furnishedAsked := by
  have hquiet : furnished.book.levels.enables configLogger 20 = false := by decide +kernel
  have hfile : furnished.fileAnswer (.text "s.json") = .ok (.map furnishedFile) := by
    rw [fileAnswer_text hquiet (by decide)]
    change furnishedFolder.settings "s.json" = _
    exact eq_ok_of_toOption (by decide +kernel)
  have hdistinct : furnishedAsked.Distinct := by
    simp [furnishedAsked, Fields.Distinct, Value.Distinct, DistinctEntries, Fields.keys]
  have hload : ((load (.text "s.json") (.map furnishedAsked)).result furnished).2 =
      .ok furnishedSettings := by
    rw [answer_load_map hfile rfl, accepted_eq_ok_iff]
    change settingsOf (.map ((furnishedFile.merge furnishedEnvironment.fields).merge
      furnishedAsked)) = _ ∧ _
    exact ⟨eq_ok_of_toOption (by decide +kernel), by decide +kernel⟩
  exact ⟨hfile, hdistinct, hload, layered_of_load hfile rfl hdistinct (by decide) hload⟩

end Session

end StorageReply
