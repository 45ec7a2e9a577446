import StorageReply.Proofs.Session.Verdicts

/-!
# Settings in force

After any run of commands the settings in force are those that the last successful load answered
with (`answer_config_run`). One command changes them only if it is a load and its settings pass the
checks (`settings_perform`); the run follows by induction (`settings_run`).

A load whose settings pass the checks, but cannot be written into the message about them, fails with
these settings in force. Statements about answers therefore ask that the settings which loads accept
on the way have numerals (`Recordable`).
-/

namespace StorageReply

open Number

/-- The settings that a load answers with. -/
def Command.loaded? (command : Command) (answer : Except Failure Answer) : Option Settings :=
  match answer with
  | .ok (.settings settings) => if command.isLoad then some settings else none
  | _ => none

theorem Command.loaded?_of_not_isLoad {command : Command} (h : command.isLoad = false)
    (answer : Except Failure Answer) : command.loaded? answer = none := by
  unfold loaded?
  split
  · rw [h, if_neg (by simp)]
  · rfl

theorem Command.loaded?_map {command : Command} (h : command.isLoad = true)
    (answer : Except Failure Settings) :
    command.loaded? (answer.map Answer.settings) = answer.toOption := by
  cases answer with
  | error failure => rfl
  | ok settings => exact if_pos h

namespace Session

open Act

/-! ## Histories -/

/-- The settings that the last successful load of a history answers with. -/
def lastLoaded (history : List (Command × Outcome)) : Option Settings :=
  (history.filterMap fun (command, outcome) => command.loaded? outcome.answer).getLast?

theorem lastLoaded_cons (command : Command) (outcome : Outcome)
    (history : List (Command × Outcome)) :
    lastLoaded ((command, outcome) :: history) =
      (lastLoaded history).or (command.loaded? outcome.answer) := by
  rw [lastLoaded, List.filterMap_cons]
  dsimp only
  cases command.loaded? outcome.answer with
  | none => rw [Option.or_none, lastLoaded]
  | some settings => rw [List.getLast?_cons, Option.or_some, lastLoaded]

/-- The commands of a run with their outcomes. -/
def history (s : Session) (commands : List Command) : List (Command × Outcome) :=
  commands.zip (s.run commands).2

theorem history_cons (s : Session) (command : Command) (rest : List Command) :
    s.history (command :: rest) =
      (command, (s.step command).2) :: (s.step command).1.history rest := rfl

theorem run_cons (s : Session) (command : Command) (rest : List Command) :
    (s.run (command :: rest)).1 = ((s.step command).1.run rest).1 := rfl

/-! ## One command -/

/-- The session with an empty console, as a command finds it. -/
def cleared (s : Session) : Session := s.withBook { s.book with console := "" }

theorem step_eq (s : Session) (command : Command) :
    s.step command = (((perform command).result s.cleared).1,
      ⟨((perform command).result s.cleared).2,
        ((perform command).result s.cleared).1.book.console⟩) := rfl

/-- The verdict of a command on the settings that it loads; there is none unless it is a load. -/
def verdict? (s : Session) : Command → Option (Except Failure Settings)
  | .load file overrides => some (s.verdict file overrides)
  | .reload => some (s.verdict (Settings.optionValue s.source) .null)
  | _ => none

theorem verdict?_eq_none {command : Command} (h : command.isLoad = false) (s : Session) :
    s.verdict? command = none := by
  cases command with
  | load file overrides => simp [Command.isLoad] at h
  | reload => simp [Command.isLoad] at h
  | _ => rfl

theorem result_reload (s : Session) :
    reload.result s = (load (Settings.optionValue s.source) .null).result s := rfl

/-- A load as a command, whether from given sources or from the same file again. -/
theorem exists_load {command : Command} (h : command.isLoad = true) (s : Session) :
    ∃ file overrides, s.verdict? command = some (s.verdict file overrides) ∧
      (perform command).result s =
        (((load file overrides).result s).1,
          ((load file overrides).result s).2.map Answer.settings) := by
  have hload : ∀ act : Act Session Settings,
      (do return Answer.settings (← act) : Act Session Answer).result s =
        ((act.result s).1, (act.result s).2.map Answer.settings) := by
    intro act
    rw [result_bind]
    rcases act.result s with ⟨t, failure | settings⟩ <;> rfl
  cases command with
  | load file overrides => exact ⟨file, overrides, rfl, hload _⟩
  | reload => exact ⟨Settings.optionValue s.source, .null, rfl, hload _⟩
  | _ => simp [Command.isLoad] at h

/-- A command changes the settings in force only if it is a load whose settings pass the checks. -/
theorem settings_perform (command : Command) (s : Session) :
    ((perform command).result s).1.settings =
      match s.verdict? command with
      | some (.ok settings) => some settings
      | _ => s.settings := by
  cases h : command.isLoad with
  | false =>
    rw [verdict?_eq_none h]
    exact congrArg Prod.fst (keeps_loaded_perform h s)
  | true =>
    obtain ⟨file, overrides, hverdict, hresult⟩ := exists_load h s
    rw [hverdict, hresult]
    have hloaded := congrArg Prod.fst (loaded_load file overrides s)
    cases hv : s.verdict file overrides <;> rw [hv] at hloaded <;> exact hloaded

/-- The settings that a command would bring in force have numerals. -/
def Recordable (s : Session) (command : Command) : Prop :=
  ∀ settings, s.verdict? command = some (.ok settings) →
    hasNumeral settings.logging.rotationCount = true

instance (s : Session) (command : Command) : Decidable (s.Recordable command) :=
  match h : s.verdict? command with
  | some (.ok settings) =>
    decidable_of_iff (hasNumeral settings.logging.rotationCount = true)
      ⟨fun hn _ h' => by simp_all, fun hn => hn settings h⟩
  | some (.error failure) => isTrue fun _ h' => by simp_all
  | none => isTrue fun _ h' => by simp_all

/-- Whether a load answers with settings that have numerals, is decided by its verdict. -/
theorem loaded?_perform {command : Command} {s : Session} (h : s.Recordable command) :
    command.loaded? ((perform command).result s).2 =
      match s.verdict? command with
      | some (.ok settings) => some settings
      | _ => none := by
  cases hl : command.isLoad with
  | false => rw [verdict?_eq_none hl, Command.loaded?_of_not_isLoad hl]
  | true =>
    obtain ⟨file, overrides, hverdict, hresult⟩ := exists_load hl s
    rw [hverdict, hresult, Command.loaded?_map hl]
    cases hv : s.verdict file overrides with
    | ok settings =>
      have hok : ((load file overrides).result s).2 = .ok settings :=
        answer_load_eq_ok_iff.2 ⟨hv, h settings (by rw [hverdict, hv])⟩
      rw [hok]
      rfl
    | error failure =>
      cases ha : ((load file overrides).result s).2 with
      | error failure => rfl
      | ok settings =>
        have hok := (answer_load_eq_ok_iff.1 ha).1
        rw [hv] at hok
        exact absurd hok (by simp)

/-- After a command the settings in force are those that it has loaded, or those before. -/
theorem settings_step {command : Command} {s : Session} (h : s.cleared.Recordable command) :
    (s.step command).1.settings = (command.loaded? (s.step command).2.answer).or s.settings := by
  rw [step_eq]
  dsimp only
  rw [loaded?_perform h, settings_perform]
  split <;> rfl

/-! ## Runs -/

/-- The settings that loads bring in force in a run have numerals. -/
def AllRecordable : Session → List Command → Prop
  | _, [] => True
  | s, command :: rest => s.cleared.Recordable command ∧ (s.step command).1.AllRecordable rest

instance decidableAllRecordable : (s : Session) → (commands : List Command) →
    Decidable (s.AllRecordable commands)
  | _, [] => isTrue trivial
  | s, command :: rest =>
    have := decidableAllRecordable (s.step command).1 rest
    inferInstanceAs (Decidable (_ ∧ _))

theorem AllRecordable.of_append {s : Session} {commands more : List Command}
    (h : s.AllRecordable (commands ++ more)) :
    s.AllRecordable commands ∧ (s.run commands).1.AllRecordable more := by
  induction commands generalizing s with
  | nil => exact ⟨trivial, h⟩
  | cons command rest ih =>
    obtain ⟨hcommand, hrest⟩ := h
    exact ⟨⟨hcommand, (ih hrest).1⟩, (ih hrest).2⟩

/-- After a run the settings in force are those that were loaded last, or those before the run. -/
theorem settings_run {commands : List Command} {s : Session} (h : s.AllRecordable commands) :
    (s.run commands).1.settings = (lastLoaded (s.history commands)).or s.settings := by
  induction commands generalizing s with
  | nil => rfl
  | cons command rest ih =>
    obtain ⟨hcommand, hrest⟩ := h
    rw [run_cons, ih hrest, settings_step hcommand, history_cons, lastLoaded_cons,
      Option.or_assoc]

/-- What a client answers when it is asked for the settings in force. -/
def settingsAnswer : Option Settings → Except Failure Answer
  | some settings => .ok (.settings settings)
  | none => .error .notLoaded

theorem answer_config (s : Session) : (s.step .config).2.answer = settingsAnswer s.settings := by
  rw [step_eq]
  change ((config >>= fun settings => pure (Answer.settings settings)).result s.cleared).2 = _
  rw [answer_bind, result_config]
  change _ = settingsAnswer s.cleared.settings
  cases s.cleared.settings <;> rfl

/-- **The settings in force are those of the last successful load.** After any run of a new client
the question for the settings is answered with what the last successful load answered with, and
fails if there was none. A command that fails, a load among others, does not change the answer. -/
theorem answer_config_run {folder : Folder} {environment : Environment} {clock : Stamp}
    {commands : List Command} (h : (start folder environment clock).AllRecordable commands) :
    (((start folder environment clock).run commands).1.step .config).2.answer =
        settingsAnswer (lastLoaded ((start folder environment clock).history commands)) ∧
      ∀ before command after failure, commands = before ++ command :: after →
        (((start folder environment clock).run before).1.step command).2.answer = .error failure →
        ((((start folder environment clock).run before).1.step command).1.step .config).2.answer =
          (((start folder environment clock).run before).1.step .config).2.answer := by
  constructor
  · rw [answer_config, settings_run h]
    exact congrArg settingsAnswer (Option.or_none ..)
  · rintro before command after failure rfl hfails
    obtain ⟨hcommand, -⟩ := h.of_append.2
    rw [answer_config, answer_config, settings_step hcommand, hfails]
    rfl

/-- A client that loads settings from a file, spoils the file, and fails to load others: from the
same file, from what it asks for, and from a file that is not there. -/
def spoiling : List Command :=
  [.load (.text "s.json") (.map [(.text "version", .text "1.2.3")]), .write "s.json" "\x7b",
    .reload, .load .null (.map [(.text "version", .text "1")]), .load (.text "t.json") .null]

/-- The files of this client. -/
def unspoiled : Folder := ⟨[(["s.json"], "\x7b\x7d")], []⟩

theorem answer_config_run_spoiling :
    (start unspoiled ⟨[]⟩ (.whole 0)).AllRecordable spoiling ∧
      (((start unspoiled ⟨[]⟩ (.whole 0)).run spoiling).1.step .config).2.answer =
        .ok (.settings { version := "1.2.3" }) ∧
      ∃ failure,
        (((start unspoiled ⟨[]⟩ (.whole 0)).run (spoiling.take 2)).1.step .reload).2.answer =
          .error failure ∧
        ((((start unspoiled ⟨[]⟩ (.whole 0)).run (spoiling.take 2)).1.step .reload).1.step
            .config).2.answer =
          (((start unspoiled ⟨[]⟩ (.whole 0)).run (spoiling.take 2)).1.step .config).2.answer := by
  have hall : (start unspoiled ⟨[]⟩ (.whole 0)).AllRecordable spoiling := by decide +kernel
  have hlast : lastLoaded ((start unspoiled ⟨[]⟩ (.whole 0)).history spoiling) =
      some { version := "1.2.3" } := by decide +kernel
  obtain ⟨hanswer, hkept⟩ := answer_config_run hall
  rw [hlast] at hanswer
  obtain ⟨failure, hfails⟩ := exists_error_of_toOption
    (x := (((start unspoiled ⟨[]⟩ (.whole 0)).run (spoiling.take 2)).1.step .reload).2.answer)
    (by decide +kernel)
  exact ⟨hall, hanswer, failure, hfails, hkept _ .reload _ failure rfl hfails⟩

end Session

end StorageReply
