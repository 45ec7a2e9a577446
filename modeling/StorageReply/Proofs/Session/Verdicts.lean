import StorageReply.Proofs.Session.Frames

/-!
# What a load leaves behind

A load checks the value that it has put together of its sources; the settings of that value, or the
failure on the way to them, are its verdict (`verdict`). The verdict decides which settings are in
force afterwards: settings that passed the checks take the place of those before, and any failure
leaves these as they are. The file is kept in mind as soon as it was read, whatever the verdict
(`loaded_load` says both).

The verdict is also the answer, unless the accepted settings hold an integer that is too long to be
written into the message about them (`answer_load_eq_ok_iff`).
-/

namespace StorageReply

open Number

/-! ## Settings that can be written down -/

theorem isSome_spelled?_levels (levels : List (String × String)) :
    (Json.spelled?
      (levels.map fun (name, level) => (Key.text name, Value.text level))).isSome = true := by
  induction levels with
  | nil => rfl
  | cons entry rest ih =>
    obtain ⟨entries, hrest⟩ := Option.isSome_iff_exists.1 ih
    simp [Json.spelled?, Json.tree?, hrest]

theorem isSome_tree?_levelsValue (levels : Option (List (String × String))) :
    (Json.tree? (Settings.levelsValue levels)).isSome = true := by
  cases levels with
  | none => rfl
  | some levels =>
    simp only [Settings.levelsValue, Json.tree?, Option.isSome_map]
    exact isSome_spelled?_levels levels

theorem exists_tree?_optionValue (s : Option String) :
    ∃ t, Json.tree? (Settings.optionValue s) = some t := by
  cases s <;> simp [Settings.optionValue, Json.tree?]

/-- Settings can be written down just when their only integer has a numeral. -/
theorem Settings.isSome_writeIndented? (s : Settings) :
    (Json.writeIndented? s.toValue).isSome = hasNumeral s.logging.rotationCount := by
  obtain ⟨primary, hprimary⟩ := exists_tree?_optionValue s.account.primaryEndpoint
  obtain ⟨secondary, hsecondary⟩ := exists_tree?_optionValue s.account.secondaryEndpoint
  obtain ⟨file, hfile⟩ := exists_tree?_optionValue s.logging.file
  obtain ⟨levels, hlevels⟩ :=
    Option.isSome_iff_exists.1 (isSome_tree?_levelsValue s.logging.loggerLevels)
  cases hcount : hasNumeral s.logging.rotationCount <;>
    simp [Json.writeIndented?, Settings.toValue, Json.tree?, Json.spelled?, hprimary,
      hsecondary, hfile, hlevels, hcount]

namespace Session

open Act

/-! ## Verdicts -/

/-- The value that a load puts together of its sources. -/
def gathered (s : Session) (file overrides : Value) : Except Failure Value := do
  let base ← s.fileAnswer file
  let below ← base.merged (.map s.environment.fields)
  laidOver overrides below

/-- The settings that a load accepts, or why it accepts none. -/
def verdict (s : Session) (file overrides : Value) : Except Failure Settings := do
  settingsOf (← s.gathered file overrides)

theorem answer_load_eq_gathered (file overrides : Value) (s : Session) :
    ((load file overrides).result s).2 = s.gathered file overrides >>= accepted := by
  rw [answer_load, gathered]
  simp only [bind_assoc]

/-- A load succeeds just when its verdict does, on settings that can be written down. -/
theorem answer_load_eq_ok_iff {file overrides : Value} {s : Session} {settings : Settings} :
    ((load file overrides).result s).2 = .ok settings ↔
      s.verdict file overrides = .ok settings ∧
        hasNumeral settings.logging.rotationCount = true := by
  rw [answer_load_eq_gathered, verdict]
  cases s.gathered file overrides with
  | error failure => simp [bind, Except.bind]
  | ok v =>
    change accepted v = .ok settings ↔ settingsOf v = .ok settings ∧ _
    rw [accepted_eq_ok_iff, Settings.isSome_writeIndented?]

/-! ## The state after a load -/

section Relations

variable {R : Session → Session → Prop} [Std.Refl R] [IsTrans Session R]

/-- A relation that messages respect is respected where the environment is laid over a value. -/
theorem respects_withEnvironment (h : ∀ text, Respects R (inform text)) (base : Value) :
    Respects R (withEnvironment base) := by
  refine respects_get.bind fun s => (respects_of _).bind fun v => ?_
  exact (respects_pure _).ite ((h _).bind fun _ => respects_pure _)

theorem respects_withOverrides (h : ∀ text, Respects R (inform text)) (overrides base : Value) :
    Respects R (withOverrides overrides base) := by
  have hlaid : Respects R (Act.of (base.merged overrides) >>= fun v => do
      inform ("Applied " ++ numeral (entryCount overrides) ++ " explicit overrides")
      return v) :=
    (respects_of _).bind fun _ => (h _).bind fun _ => respects_pure _
  exact hlaid.ite (respects_pure _)

/-- A load makes no changes but messages and what is loaded. -/
theorem respects_load (hsay : ∀ level text, Respects R (say configLogger level text))
    (hsettings : ∀ s settings, R s { s with settings := settings })
    (hsource : ∀ s source, R s { s with source := source }) (file overrides : Value) :
    Respects R (load file overrides) := by
  have hinform : ∀ text, Respects R (inform text) := hsay 20
  have hread : ∀ path, Respects R (readFile path) := fun path =>
    respects_get.bind fun s => (respects_of _).bind fun v =>
      (respects_modify fun s => hsource s _).bind fun _ => (hinform _).bind fun _ => respects_pure _
  have hfile : Respects R (fileValue file) := by
    cases file with
    | text path =>
      rw [fileValue]
      exact (respects_pure _).ite (hread path)
    | _ =>
      rw [fileValue]
      · exact (respects_throw _).ite (respects_pure _)
      · simp
  have hadopt : ∀ v, Respects R (adopt v) := by
    intro v
    rw [adopt]
    cases settingsOf v with
    | ok settings =>
      refine (respects_modify fun s => hsettings s _).bind fun _ => (hinform _).bind fun _ => ?_
      dsimp only
      cases Json.writeIndented? settings.toValue with
      | some text => exact (hinform _).bind fun _ => respects_pure _
      | none => exact (respects_throw _).bind fun _ => respects_pure _
    | error failure =>
      cases failure with
      | validation issues => exact (hsay _ _).bind fun _ => respects_throw _
      | _ => exact respects_throw _
  exact (hinform _).bind fun _ => hfile.bind fun v =>
    (respects_withEnvironment hinform v).bind fun v =>
      (respects_withOverrides hinform overrides v).bind hadopt

end Relations

/-- A load keeps a view that shows neither what messages change nor what is loaded. -/
theorem keeps_load {β : Type} {view : Session → β}
    (hsay : ∀ level text, Keeps view (say configLogger level text))
    (hsettings : ∀ s settings, view { s with settings := settings } = view s)
    (hsource : ∀ s source, view { s with source := source } = view s) (file overrides : Value) :
    Keeps view (load file overrides) :=
  keeps_iff_respects.2 (respects_load (fun level text => keeps_iff_respects.1 (hsay level text))
    hsettings hsource file overrides)

theorem keeps_loaded_inform (text : String) : Keeps loaded (inform text) := fun _ => rfl

theorem keeps_loaded_withEnvironment (base : Value) : Keeps loaded (withEnvironment base) :=
  keeps_iff_respects.2
    (respects_withEnvironment (fun text => keeps_iff_respects.1 (keeps_loaded_inform text)) base)

theorem keeps_loaded_withOverrides (overrides base : Value) :
    Keeps loaded (withOverrides overrides base) :=
  keeps_iff_respects.2 (respects_withOverrides
    (fun text => keeps_iff_respects.1 (keeps_loaded_inform text)) overrides base)

/-- The settings that pass their checks are in force, even if they cannot be written down. -/
theorem loaded_adopt (v : Value) (s : Session) :
    ((adopt v).result s).1.loaded =
      match settingsOf v with
      | .ok settings => (some settings, s.source)
      | .error _ => s.loaded := by
  rw [adopt]
  cases settingsOf v with
  | ok settings =>
    dsimp only
    cases Json.writeIndented? settings.toValue <;> rfl
  | error failure => cases failure <;> rfl

/-- The file that is in mind once a file was read: the one that was read, if a path was given. -/
def remembered (s : Session) : Value → Option String
  | .text path => if path.isEmpty then s.source else some (Path.text (Path.ofText path))
  | _ => s.source

theorem loaded_fileValue (file : Value) (s : Session) :
    ((fileValue file).result s).1.loaded =
      match ((fileValue file).result s).2 with
      | .ok _ => (s.settings, s.remembered file)
      | .error _ => s.loaded := by
  have hread : ∀ path, ((readFile path).result s).1.loaded =
      match ((readFile path).result s).2 with
      | .ok _ => (s.settings, some (Path.text (Path.ofText path)))
      | .error _ => s.loaded := by
    intro path
    simp only [readFile, result_bind, result_get, result_of]
    cases s.book.folder.settings path <;> rfl
  cases file with
  | text path =>
    rw [fileValue, remembered]
    split
    · rfl
    · exact hread path
  | _ =>
    simp only [fileValue, result_ite, remembered]
    split <;> rfl

/-- What is loaded when the value of the settings file is at hand. -/
theorem loaded_withSources (base overrides : Value) (s : Session) :
    ((withEnvironment base >>= fun v => withOverrides overrides v >>= adopt).result s).1.loaded =
      match base.merged (.map s.environment.fields) >>= laidOver overrides >>= settingsOf with
      | .ok settings => (some settings, s.source)
      | .error _ => s.loaded := by
  have hbelow : ((withEnvironment base).result s).1.loaded = s.loaded :=
    keeps_loaded_withEnvironment base s
  rw [view_bind (keeps_loaded_withEnvironment base), answer_withEnvironment]
  cases base.merged (.map s.environment.fields) with
  | error failure => rfl
  | ok below =>
    generalize ((withEnvironment base).result s).1 = t at hbelow
    have htop : ((withOverrides overrides below).result t).1.loaded = t.loaded :=
      keeps_loaded_withOverrides overrides below t
    change ((withOverrides overrides below >>= adopt).result t).1.loaded =
      match laidOver overrides below >>= settingsOf with
      | .ok settings => (some settings, s.source)
      | .error _ => s.loaded
    rw [view_bind (keeps_loaded_withOverrides overrides below), answer_withOverrides]
    cases laidOver overrides below with
    | error failure => exact hbelow
    | ok top =>
      have hu := htop.trans hbelow
      generalize ((withOverrides overrides below).result t).1 = u at hu
      have hsource : u.source = s.source := congrArg Prod.snd hu
      change ((adopt top).result u).1.loaded = match settingsOf top with
        | .ok settings => (some settings, s.source)
        | .error _ => s.loaded
      rw [loaded_adopt, hsource, hu]

/-- **What a load leaves behind.** Settings that pass the checks are in force afterwards; and the
file that was read is in mind, whether they pass or not. -/
theorem loaded_load (file overrides : Value) (s : Session) :
    ((load file overrides).result s).1.loaded =
      (match s.verdict file overrides with
        | .ok settings => some settings
        | .error _ => s.settings,
       match s.fileAnswer file with
        | .ok _ => s.remembered file
        | .error _ => s.source) := by
  have hstart : (opening.result s).1.remembered file = s.remembered file := by
    cases file <;> rfl
  have hfile := loaded_fileValue file (opening.result s).1
  have henv : ((fileValue file).result (opening.result s).1).1.environment = s.environment :=
    environment_fileValue file _
  rw [hstart] at hfile
  rw [load, view_bind (keeps_loaded_inform _)]
  change ((fileValue file >>= fun v => withEnvironment v >>= fun v =>
    withOverrides overrides v >>= adopt).result (opening.result s).1).1.loaded = _
  simp only [verdict, gathered, fileAnswer] at hfile ⊢
  rw [result_bind]
  rcases hr : (fileValue file).result (opening.result s).1 with ⟨t, failure | base⟩ <;>
    rw [hr] at hfile henv
  · exact hfile
  · change ((withEnvironment base >>= _ : Act Session Settings).result t).1.loaded = _
    have hsource : t.source = s.remembered file := congrArg Prod.snd hfile
    rw [loaded_withSources, henv, hsource, hfile]
    change _ = (match base.merged (.map s.environment.fields) >>= laidOver overrides >>= settingsOf
      with | .ok settings => some settings | .error _ => s.settings, s.remembered file)
    cases base.merged (.map s.environment.fields) >>= laidOver overrides >>= settingsOf <;> rfl

end Session

end StorageReply
