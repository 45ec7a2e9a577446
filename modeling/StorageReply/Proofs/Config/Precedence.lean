import StorageReply.Config.Settings
import StorageReply.Proofs.Config.Merge
import StorageReply.Proofs.Validation.Accepted

/-!
# Which source a setting comes from

Settings are checked after the maps of all sources were merged. Nevertheless each single setting
comes from one source: the first one that has a value for it (`layered_of_check`). The sources are
what a caller asks for, the environment, and the settings file, in this order; `Settings.Layered`
says it setting by setting.

A setting is looked up in the merged map part by part (`exists_part?_merge`). Where two sources
have a map for the same setting the merged value is none of the two, but it is a map, and every
conversion but one refuses maps (`RefusesMaps.gives_or`). The exception are the levels of single
loggers, which are merged logger by logger (`LevelsFrom`).
-/

namespace StorageReply

/-- A conversion that refuses maps is given the value of one side alone. -/
theorem RefusesMaps.gives_or {α : Type} {convert : Value → Checked α} (h : RefusesMaps convert)
    {usual x : α} {top base : Option Value} (hx : Gives convert usual (overlaid top base) x) :
    Gives convert usual (top.or base) x := by
  cases top with
  | none => exact hx
  | some v =>
    by_cases hmap : ∃ entries, v = .map entries
    · obtain ⟨entries, rfl⟩ := hmap
      obtain ⟨merged, hm⟩ := exists_over_map entries base
      rw [overlaid, hm] at hx
      exact absurd hx (h merged x)
    · rw [overlaid, over_eq_self (not_exists.1 hmap)] at hx
      exact hx

/-! ## The levels of single loggers -/

/-- The levels of single loggers by what two sources have for them. -/
structure LevelsFrom (top base : Option Value) (levels : Option (List (String × String))) :
    Prop where
  /-- Where both have a map, each level comes from the first of them that has one for the logger. -/
  merged : ∀ o b, top = some (.map o) → base = some (.map b) → ∃ entries, levels = some entries ∧
    ∀ name, Gives (fun v => (Lax.text v).map some) none
      ((Fields.named? o name).or (Fields.named? b name)) (entries.lookup name)
  /-- Otherwise all levels come from the first one that has any. -/
  first : (∀ o b, top = some (.map o) → base ≠ some (.map b)) →
    Gives (Checked.optional textMap) none (top.or base) levels

theorem checkKey_eq_ok_iff {key : Key} {name : String} :
    checkKey key = .ok name ↔ key = .text name := by
  cases key <;> simp [checkKey, Checked.under, Checked.defect]

/-- A map from texts to texts has under a name the text of the entry with this name. -/
theorem gives_lookup_of_checkTexts {fields : Fields} {entries : List (String × String)}
    (h : checkTexts fields = .ok entries) (name : String) :
    Gives (fun v => (Lax.text v).map some) none (fields.named? name) (entries.lookup name) := by
  induction fields generalizing entries with
  | nil =>
    obtain rfl : [] = entries := by simpa [checkTexts] using h
    rfl
  | cons entry rest ih =>
    obtain ⟨key, v⟩ := entry
    obtain ⟨⟨name', w⟩, entries', hpair, hrest, rfl⟩ := Checked.map2_eq_ok_iff.1 h
    obtain ⟨hkey, hv⟩ := Checked.also_eq_ok_iff.1 hpair
    obtain rfl := checkKey_eq_ok_iff.1 hkey
    have hw := Checked.under_eq_ok_iff.1 hv
    rw [Fields.named?, Fields.get?_cons, List.lookup_cons]
    by_cases hname : name' = name
    · subst hname
      simp [Gives, hw]
    · have hne : (name == name') = false := by simpa using Ne.symm hname
      rw [if_neg (by simpa using hname), hne]
      exact ih hrest

/-- Unless both sides have a map, the first side that has anything counts. -/
theorem overlaid_eq_or {top base : Option Value}
    (h : ∀ o b, top = some (.map o) → base ≠ some (.map b)) : overlaid top base = top.or base := by
  cases top with
  | none => rfl
  | some v =>
    by_cases hmap : ∃ o, v = .map o
    · obtain ⟨o, rfl⟩ := hmap
      cases base with
      | none => rw [overlaid, over_none, Option.some_or]
      | some w =>
        have hw : ∀ b, w ≠ .map b := fun b hb => h o b rfl (by rw [hb])
        cases w with
        | map b => exact absurd rfl (hw b)
        | _ => simp [overlaid, Value.over]
    · rw [overlaid, over_eq_self (not_exists.1 hmap), Option.some_or]

/-- The levels of single loggers come from both maps, logger by logger. -/
theorem levelsFrom_overlaid {top base : Option Value} {levels : Option (List (String × String))}
    (htop : ∀ o, top = some (.map o) → (Fields.keys o).Nodup)
    (h : Gives (Checked.optional textMap) none (overlaid top base) levels) :
    LevelsFrom top base levels where
  merged := by
    rintro o b rfl rfl
    rw [overlaid, over_map] at h
    obtain ⟨entries, hentries, rfl⟩ := Checked.map_eq_ok_iff.1 h
    refine ⟨entries, rfl, fun name => (refusesMaps_text.map some).gives_or ?_⟩
    have hlookup := gives_lookup_of_checkTexts hentries name
    rwa [Fields.named?, Fields.get?_merge b (htop o rfl)] at hlookup
  first hfirst := by rwa [← overlaid_eq_or hfirst]

/-! ## Accepted settings -/

/-- The settings of an accepted account are those that its map gives. -/
theorem AccountSettings.gives_of_ofFields {fields : Fields} {a : AccountSettings}
    (h : AccountSettings.ofFields fields = .ok a) :
    Gives Lax.text ({} : AccountSettings).name (fields.named? "name") a.name ∧
      Gives (fun v => (Lax.text v).andThen checkProtocol) ({} : AccountSettings).protocol
        (fields.named? "protocol") a.protocol ∧
      Gives Lax.text ({} : AccountSettings).endpointSuffix (fields.named? "endpoint_suffix")
        a.endpointSuffix ∧
      Gives (Checked.optional Lax.text) none (fields.named? "primary_endpoint") a.primaryEndpoint ∧
      Gives (Checked.optional Lax.text) none (fields.named? "secondary_endpoint")
        a.secondaryEndpoint := by
  simp only [AccountSettings.ofFields, Checked.ap_eq_ok_iff, Checked.field_eq_ok_iff] at h
  obtain ⟨_, _, ⟨_, _, ⟨_, _, ⟨_, _, ⟨_, _, hmk, hname, rfl⟩, hprotocol, rfl⟩, hsuffix, rfl⟩,
    hprimary, rfl⟩, hsecondary, rfl⟩ := h
  obtain rfl := Checked.ok.inj hmk
  exact ⟨hname, hprotocol, hsuffix, hprimary, hsecondary⟩

/-- The settings of an accepted log are those that its map gives. -/
theorem LogSettings.gives_of_ofFields {fields : Fields} {l : LogSettings}
    (h : LogSettings.ofFields fields = .ok l) :
    Gives (Lax.member (LogLevel.all.map LogLevel.word) LogLevel.ofWord?) ({} : LogSettings).level
        (fields.named? "level") l.level ∧
      Gives Lax.text ({} : LogSettings).format (fields.named? "format") l.format ∧
      Gives (Checked.optional Lax.text) none (fields.named? "file") l.file ∧
      Gives Lax.text ({} : LogSettings).rotationSize (fields.named? "rotation_size")
        l.rotationSize ∧
      Gives Lax.integer ({} : LogSettings).rotationCount (fields.named? "rotation_count")
        l.rotationCount ∧
      Gives (Checked.optional textMap) none (fields.named? "module_levels") l.loggerLevels := by
  simp only [LogSettings.ofFields, Checked.ap_eq_ok_iff, Checked.field_eq_ok_iff] at h
  obtain ⟨_, _, ⟨_, _, ⟨_, _, ⟨_, _, ⟨_, _, ⟨_, _, hmk, hlevel, rfl⟩, hformat, rfl⟩, hfile, rfl⟩,
    hsize, rfl⟩, hcount, rfl⟩, hlevels, rfl⟩ := h
  obtain rfl := Checked.ok.inj hmk
  exact ⟨hlevel, hformat, hfile, hsize, hcount, hlevels⟩

/-- A record of an accepted map is made from the part of the map that it belongs to. -/
theorem ofFields_of_gives_recordOf {α : Type} {record name : String} {usual x : α}
    {ofFields : Fields → Checked α} {fields part : Fields} (husual : ofFields [] = .ok usual)
    (hpart : fields.part? name = some part)
    (h : Gives (recordOf record ofFields) usual (fields.named? name) x) :
    ofFields part = .ok x := by
  rcases Fields.part?_eq_some_iff.1 hpart with ⟨hnone, rfl⟩ | hsome
  · rw [hnone] at h
    rwa [h]
  · rwa [hsome] at h

namespace Settings

/-- Accepted settings are those that the map and its parts give. -/
theorem gives_of_check {fields account logging : Fields} {s : Settings}
    (haccount : fields.part? "account" = some account)
    (hlogging : fields.part? "logging" = some logging) (h : check fields = .ok s) :
    Gives (fun v => (Lax.text v).andThen checkVersion) ({} : Settings).version
        (fields.named? "version") s.version ∧
      AccountSettings.ofFields account = .ok s.account ∧
      Gives (Lax.member LocationMode.words LocationMode.ofWord?) ({} : Settings).locationMode
        (fields.named? "location_mode") s.locationMode ∧
      LogSettings.ofFields logging = .ok s.logging := by
  simp only [check, Checked.ap_eq_ok_iff, Checked.field_eq_ok_iff] at h
  obtain ⟨_, _, ⟨_, _, ⟨_, _, ⟨_, _, hmk, hversion, rfl⟩, hacc, rfl⟩, hmode, rfl⟩, hlog, rfl⟩ := h
  obtain rfl := Checked.ok.inj hmk
  exact ⟨hversion, ofFields_of_gives_recordOf rfl haccount hacc, hmode,
    ofFields_of_gives_recordOf rfl hlogging hlog⟩

theorem check_of_ofFields {fields : Fields} {s : Settings} (h : ofFields fields = .ok s) :
    check fields = .ok s := by
  rw [ofFields] at h
  split at h
  · exact Checked.toExcept_eq_ok_iff.1 h
  · simp at h

end Settings

/-! ## The sources -/

/-- The value under a name in a part of a map. -/
def Fields.within? (fields : Fields) (part name : String) : Option Value :=
  (fields.part? part).bind fun entries => entries.named? name

/-- The value that an environment variable gives: none where the variable is empty or missing. -/
def Environment.value? (env : Environment) (name : String) (f : String → String) : Option Value :=
  (env.given name).map fun value => .text (f value)

namespace Environment

variable (env : Environment)

theorem named?_entry? (name key : String) (f : String → String) (key' : String) :
    (env.entry? name key f).named? key' = if key = key' then env.value? name f else none :=
  env.get?_entry? name key f key'

theorem named?_accountFields (key : String) : env.accountFields.named? key =
    (((if "name" = key then env.value? "ZURESTORE_ACCOUNT_NAME" id else none).or
      (if "endpoint_suffix" = key then env.value? "ZURESTORE_ENDPOINT_SUFFIX" id else none)).or
      (if "primary_endpoint" = key then env.value? "ZURESTORE_PRIMARY_ENDPOINT" id else none)).or
      (if "secondary_endpoint" = key then env.value? "ZURESTORE_SECONDARY_ENDPOINT" id
        else none) := by
  simp only [accountFields, Fields.named?, Fields.get?_append, ← named?_entry?]

theorem named?_loggingFields (key : String) : env.loggingFields.named? key =
    (if "level" = key then env.value? "ZURESTORE_LOG_LEVEL" Text.upperString else none).or
      (if "file" = key then env.value? "ZURESTORE_LOG_FILE" id else none) := by
  simp only [loggingFields, Fields.named?, Fields.get?_append, ← named?_entry?]

theorem named?_locationMode : env.fields.named? "location_mode" =
    env.value? "ZURESTORE_LOCATION_MODE" Text.lowerString := by
  simp [fields, Fields.named?, Fields.get?_append, get?_group, get?_entry?, value?]

theorem named?_version : env.fields.named? "version" = none := by
  simp [fields, Fields.named?, Fields.get?_append, get?_group, get?_entry?]

end Environment

/-- The value of the source that counts: what the caller asks for, else what the environment gives,
else what the settings file says. -/
def chosen (asked given file : Option Value) : Option Value := asked.or (given.or file)

/-- Each setting is what the first source that has a value for it gives, or the usual one. -/
structure Settings.Layered (env : Environment) (file asked : Fields) (s : Settings) : Prop where
  /-- The version of the settings. -/
  version : Gives (fun v => (Lax.text v).andThen checkVersion) "0.1.0"
    (chosen (asked.named? "version") none (file.named? "version")) s.version
  /-- The name of the account. -/
  name : Gives Lax.text "devstoreaccount1"
    (chosen (asked.within? "account" "name") (env.value? "ZURESTORE_ACCOUNT_NAME" id)
      (file.within? "account" "name")) s.account.name
  /-- The protocol. -/
  protocol : Gives (fun v => (Lax.text v).andThen checkProtocol) .https
    (chosen (asked.within? "account" "protocol") none (file.within? "account" "protocol"))
    s.account.protocol
  /-- The end of the host names. -/
  endpointSuffix : Gives Lax.text "core.windows.net"
    (chosen (asked.within? "account" "endpoint_suffix") (env.value? "ZURESTORE_ENDPOINT_SUFFIX" id)
      (file.within? "account" "endpoint_suffix")) s.account.endpointSuffix
  /-- The endpoint of the primary location. -/
  primaryEndpoint : Gives (Checked.optional Lax.text) none
    (chosen (asked.within? "account" "primary_endpoint")
      (env.value? "ZURESTORE_PRIMARY_ENDPOINT" id)
      (file.within? "account" "primary_endpoint")) s.account.primaryEndpoint
  /-- The endpoint of the secondary location. -/
  secondaryEndpoint : Gives (Checked.optional Lax.text) none
    (chosen (asked.within? "account" "secondary_endpoint")
      (env.value? "ZURESTORE_SECONDARY_ENDPOINT" id)
      (file.within? "account" "secondary_endpoint")) s.account.secondaryEndpoint
  /-- The locations that are used; the variable is read in lower case. -/
  locationMode : Gives (Lax.member LocationMode.words LocationMode.ofWord?) .primaryOnly
    (chosen (asked.named? "location_mode") (env.value? "ZURESTORE_LOCATION_MODE" Text.lowerString)
      (file.named? "location_mode")) s.locationMode
  /-- The level of the log; the variable is read in upper case. -/
  level : Gives (Lax.member (LogLevel.all.map LogLevel.word) LogLevel.ofWord?) .info
    (chosen (asked.within? "logging" "level") (env.value? "ZURESTORE_LOG_LEVEL" Text.upperString)
      (file.within? "logging" "level")) s.logging.level
  /-- The format of lines. -/
  format : Gives Lax.text "json"
    (chosen (asked.within? "logging" "format") none (file.within? "logging" "format"))
    s.logging.format
  /-- The path of the log file. -/
  logFile : Gives (Checked.optional Lax.text) none
    (chosen (asked.within? "logging" "file") (env.value? "ZURESTORE_LOG_FILE" id)
      (file.within? "logging" "file")) s.logging.file
  /-- The size that the log file stays below. -/
  rotationSize : Gives Lax.text "10MB"
    (chosen (asked.within? "logging" "rotation_size") none (file.within? "logging" "rotation_size"))
    s.logging.rotationSize
  /-- How many backups are kept. -/
  rotationCount : Gives Lax.integer 5
    (chosen (asked.within? "logging" "rotation_count") none
      (file.within? "logging" "rotation_count")) s.logging.rotationCount
  /-- The levels of single loggers. -/
  loggerLevels : LevelsFrom (asked.within? "logging" "module_levels")
    (file.within? "logging" "module_levels") s.logging.loggerLevels

/-- A setting that a conversion without maps accepts in the merged map comes from one source. -/
theorem RefusesMaps.gives_chosen {α : Type} {convert : Value → Checked α} (h : RefusesMaps convert)
    {usual x : α} {asked given file : Option Value}
    (hx : Gives convert usual (overlaid asked (overlaid given file)) x) :
    Gives convert usual (chosen asked given file) x := by
  have houter := h.gives_or hx
  cases asked with
  | none =>
    have hinner : Gives convert usual (given.or file) x := h.gives_or houter
    exact hinner
  | some v => exact houter

namespace Fields

theorem within?_eq {fields part : Fields} {place : String} (h : fields.part? place = some part)
    (name : String) : fields.within? place name = part.named? name := by
  rw [within?, h, Option.bind_some]

theorem Distinct.within {fields : Fields} (h : fields.Distinct) {place name : String} {v : Value}
    (hv : fields.within? place name = some v) : v.Distinct := by
  obtain ⟨part, hpart, hname⟩ := Option.bind_eq_some_iff.1 hv
  exact (h.part hpart).of_get? hname

/-- A part of the map that is merged from all three sources. -/
theorem exists_part?_layers {file given asked part : Fields} {name : String}
    (hgiven : given.keys.Nodup) (hpart : given.part? name = some part) (hkeys : part.keys.Nodup)
    (hasked : asked.Distinct) (hfile : (file.part? name).isSome)
    (hasked' : (asked.part? name).isSome) :
    ∃ merged, ((file.merge given).merge asked).part? name = some merged ∧
      ∀ key, merged.named? key =
        overlaid (asked.within? name key) (overlaid (part.named? key) (file.within? name key)) := by
  obtain ⟨f, hf⟩ := Option.isSome_iff_exists.1 hfile
  obtain ⟨a, ha⟩ := Option.isSome_iff_exists.1 hasked'
  obtain ⟨below, hbelow, hget⟩ := exists_part?_merge hgiven hkeys hf hpart
  obtain ⟨merged, hmerged, hget'⟩ :=
    exists_part?_merge hasked.nodup (hasked.part ha).nodup hbelow ha
  refine ⟨merged, hmerged, fun key => ?_⟩
  rw [within?_eq ha, within?_eq hf, named?, hget', hget]
  rfl

end Fields

namespace Settings

variable {env : Environment} {file asked : Fields} {s : Settings}

/-- Settings that are accepted of the map that is merged from all sources are those of the first
source that has a value for them. -/
theorem layered_of_check (hasked : asked.Distinct) (hfa : (file.part? "account").isSome)
    (hfl : (file.part? "logging").isSome) (haa : (asked.part? "account").isSome)
    (hal : (asked.part? "logging").isSome)
    (h : check ((file.merge env.fields).merge asked) = .ok s) : s.Layered env file asked := by
  obtain ⟨account, haccount, hacc⟩ := Fields.exists_part?_layers env.nodup_keys_fields
    env.part?_account env.nodup_keys_accountFields hasked hfa haa
  obtain ⟨logging, hlogging, hlog⟩ := Fields.exists_part?_layers env.nodup_keys_fields
    env.part?_logging env.nodup_keys_loggingFields hasked hfl hal
  obtain ⟨hversion, hsaccount, hmode, hslogging⟩ := gives_of_check haccount hlogging h
  obtain ⟨hname, hprotocol, hsuffix, hprimary, hsecondary⟩ :=
    AccountSettings.gives_of_ofFields hsaccount
  obtain ⟨hlevel, hformat, hlogFile, hsize, hcount, hlevels⟩ :=
    LogSettings.gives_of_ofFields hslogging
  have htop : ∀ name, ((file.merge env.fields).merge asked).named? name =
      overlaid (asked.named? name) (overlaid (env.fields.named? name) (file.named? name)) := by
    intro name
    rw [Fields.named?, Fields.get?_merge _ hasked.nodup, Fields.get?_merge _ env.nodup_keys_fields]
    rfl
  rw [htop, env.named?_version] at hversion
  rw [htop, env.named?_locationMode] at hmode
  rw [hacc, env.named?_accountFields] at hname hprotocol hsuffix hprimary hsecondary
  rw [hlog, env.named?_loggingFields] at hlevel hformat hlogFile hsize hcount hlevels
  refine
    { version := (refusesMaps_text.andThen _).gives_chosen hversion
      name := refusesMaps_text.gives_chosen (by simpa using hname)
      protocol := (refusesMaps_text.andThen _).gives_chosen (by simpa using hprotocol)
      endpointSuffix := refusesMaps_text.gives_chosen (by simpa using hsuffix)
      primaryEndpoint := refusesMaps_text.optional.gives_chosen (by simpa using hprimary)
      secondaryEndpoint := refusesMaps_text.optional.gives_chosen (by simpa using hsecondary)
      locationMode := (refusesMaps_member _ _).gives_chosen hmode
      level := (refusesMaps_member _ _).gives_chosen (by simpa using hlevel)
      format := refusesMaps_text.gives_chosen (by simpa using hformat)
      logFile := refusesMaps_text.optional.gives_chosen (by simpa using hlogFile)
      rotationSize := refusesMaps_text.gives_chosen (by simpa using hsize)
      rotationCount := refusesMaps_integer.gives_chosen (by simpa using hcount)
      loggerLevels := levelsFrom_overlaid (fun o ho => ?_) (by simpa using hlevels) }
  exact Fields.Distinct.nodup (hasked.within ho)

end Settings

end StorageReply
