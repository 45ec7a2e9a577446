import StorageReply.Proofs.Folder.Paths
import StorageReply.Proofs.Log.Calls
import StorageReply.Proofs.Session.Histories

/-!
# Loading again

What a reload answers depends on the file in mind, the settings files and the environment
(`answer_load_of_sameSources`); what was asked for at the load before does not count. So a reload
gives back what a load has given just when the file alone would have given it (`reload_eq_ok_iff`),
and a load that failed does not matter to later ones just when it has not brought another file to
mind (`reload_after_failure_iff`).

That the file in mind makes a difference at all is seen in a folder without files, where a reload
reports the file that it misses (`answer_reload_bare`).
-/

namespace StorageReply

open Act

namespace Session

/-! ## What a load finds -/

/-- Two clients for which the sources of settings are the same: every settings file reads the same,
and so does the environment. -/
structure SameSources (s u : Session) : Prop where
  /-- A load reads the same value from each file. -/
  files : ∀ file, u.fileAnswer file = s.fileAnswer file
  /-- The environment is the same. -/
  environment : u.environment = s.environment

theorem answer_load_of_sameSources {s u : Session} (h : SameSources s u) (file overrides : Value) :
    ((load file overrides).result u).2 = ((load file overrides).result s).2 := by
  rw [answer_load, answer_load, h.files, h.environment]

/-- A load reads a path in the folder as the first message leaves it. -/
theorem fileAnswer_path (s : Session) {path : String} (h : path.isEmpty = false) :
    s.fileAnswer (.text path) = (opening.result s).1.book.folder.settings path := by
  rw [fileAnswer, fileValue, h, result_ite, if_neg (by simp), answer_readFile]

theorem fileAnswer_of_notPath (s : Session) {file : Value} (h : ∀ path, file ≠ .text path) :
    s.fileAnswer file = if file.truthy then .error .wrongKind else .ok (.map []) := by
  cases file with
  | text path => exact absurd rfl (h path)
  | _ =>
    simp only [fileAnswer, fileValue, result_ite]
    split <;> rfl

/-- What a load reads depends on the files alone, as its first message leaves them. -/
theorem fileAnswer_congr {s u : Session}
    (h : (opening.result u).1.book.folder = (opening.result s).1.book.folder) (file : Value) :
    u.fileAnswer file = s.fileAnswer file := by
  by_cases hpath : ∃ path, file = .text path
  · obtain ⟨path, rfl⟩ := hpath
    cases hempty : path.isEmpty with
    | true => simp [fileAnswer, fileValue, hempty]
    | false => rw [fileAnswer_path u hempty, fileAnswer_path s hempty, h]
  · rw [fileAnswer_of_notPath u (not_exists.1 hpath), fileAnswer_of_notPath s (not_exists.1 hpath)]

end Session

namespace Logbook

/-- The files of a logbook whose lines go to no file. -/
def unloggedFolder (b : Logbook) : Option Folder :=
  if b.handlers.any Handler.isFile then none else some b.folder

/-- Without a log file a message leaves the files as they are, and there is none afterwards. -/
theorem unloggedFolder_say (b : Logbook) (name : String) (level : Int) (text : String) :
    (b.say name level text).unloggedFolder = b.unloggedFolder := by
  rw [unloggedFolder, unloggedFolder, say, handlers_log]
  split
  · rfl
  · rename_i h
    have hfolder : (b.logCall ⟨name, level, .text text, .positional [], none⟩).folder = b.folder :=
      folder_logCall_of_no_file (Bool.eq_false_iff.2 h)
    exact congrArg some hfolder

end Logbook

namespace Session

/-- Clients that log to no file find the same if they have the same files and the same
environment. -/
theorem sameSources_of_folder {s u : Session} {folder : Folder}
    (hs : s.book.unloggedFolder = some folder) (hu : u.book.unloggedFolder = some folder)
    (henv : u.environment = s.environment) : SameSources s u := by
  have hopening : ∀ x : Session, x.book.unloggedFolder = some folder →
      (opening.result x).1.book.folder = folder := by
    intro x hx
    have hkept := hx ▸ Logbook.unloggedFolder_say x.book configLogger 20
      "Loading zurestore configuration"
    rw [Logbook.unloggedFolder] at hkept
    split at hkept
    · cases hkept
    · exact Option.some.inj hkept
  exact ⟨fileAnswer_congr ((hopening u hu).trans (hopening s hs).symm), henv⟩

/-- A load leaves the files as they are, unless the client logs to a file, and the environment. -/
theorem keeps_unlogged_load (file overrides : Value) :
    Keeps (fun s : Session => (s.book.unloggedFolder, s.environment)) (load file overrides) :=
  keeps_load
    (fun level text s => congrArg (·, s.environment)
      (Logbook.unloggedFolder_say s.book configLogger level text))
    (fun _ _ => rfl) (fun _ _ => rfl) file overrides

/-- Whatever a client loads that logs to no file: it finds the same afterwards. -/
theorem sameSources_load {s : Session} {folder : Folder}
    (hs : s.book.unloggedFolder = some folder) (file overrides : Value) :
    SameSources s ((load file overrides).result s).1 := by
  have hkept := keeps_unlogged_load file overrides s
  exact sameSources_of_folder hs ((congrArg Prod.fst hkept).trans hs) (congrArg Prod.snd hkept)

/-! ## The file in mind -/

theorem source_load (file overrides : Value) (s : Session) :
    ((load file overrides).result s).1.source =
      match s.fileAnswer file with
      | .ok _ => s.remembered file
      | .error _ => s.source := congrArg Prod.snd (loaded_load file overrides s)

/-- Where no file is given a load reads an empty map. -/
theorem fileAnswer_of_not_truthy (s : Session) {file : Value} (h : file.truthy = false) :
    s.fileAnswer file = .ok (.map []) := by
  cases file with
  | text path =>
    have hempty : path.isEmpty = true := by simpa [Value.truthy] using h
    simp [fileAnswer, fileValue, hempty]
  | _ =>
    rw [fileAnswer_of_notPath s (by simp), h]
    rfl

/-- What is given as a file and can be read is a path. -/
theorem exists_path_of_fileAnswer {s : Session} {file v : Value} (h : s.fileAnswer file = .ok v)
    (hfile : file.truthy = true) : ∃ path, file = .text path ∧ path.isEmpty = false := by
  cases file with
  | text path => exact ⟨path, rfl, by simpa [Value.truthy] using hfile⟩
  | _ =>
    rw [fileAnswer_of_notPath s (by simp), hfile] at h
    simp at h

theorem remembered_path (s : Session) {path : String} (h : path.isEmpty = false) :
    s.remembered (.text path) = some (Path.text (Path.ofText path)) := by
  rw [remembered, h, if_neg (by simp)]

theorem remembered_of_not_truthy (s : Session) {file : Value} (h : file.truthy = false) :
    s.remembered file = s.source := by
  cases file with
  | text path =>
    have hempty : path.isEmpty = true := by simpa [Value.truthy] using h
    rw [remembered, if_pos hempty]
  | _ => rfl

/-- Nothing but a path with one of the known endings is ever in mind. -/
def Sourced (s : Session) : Prop :=
  ∀ path, s.source = some path →
    (FileFormat.ofEnding? (Path.ending (Path.ofText path))).isSome = true

theorem isEmpty_of_ofEnding? {path : String}
    (h : (FileFormat.ofEnding? (Path.ending (Path.ofText path))).isSome = true) :
    path.isEmpty = false := by
  by_contra hempty
  have hnone : path = "" := by simpa using hempty
  rw [hnone] at h
  exact absurd h (by decide +kernel)

/-- What was read from a file is read again from the file in mind; without any, nothing is. -/
theorem fileAnswer_remembered {s : Session} {file v : Value} (h : s.fileAnswer file = .ok v)
    (hfile : file.truthy = true ∨ s.source = none) :
    s.fileAnswer (Settings.optionValue (s.remembered file)) = .ok v := by
  cases ht : file.truthy with
  | true =>
    obtain ⟨path, rfl, hpath⟩ := exists_path_of_fileAnswer h ht
    rw [fileAnswer_path s hpath] at h
    have htext := Folder.settings_text h
    have hnonempty := isEmpty_of_ofEnding? (Folder.ofEnding?_of_settings htext)
    rw [remembered_path s hpath]
    exact (fileAnswer_path s hnonempty).trans htext
  | false =>
    have hsource : s.source = none := by simpa [ht] using hfile
    rw [fileAnswer_of_not_truthy s ht] at h
    rw [remembered_of_not_truthy s ht, hsource, ← h]
    exact fileAnswer_of_not_truthy s rfl

theorem laidOver_of_not_truthy {overrides : Value} (h : overrides.truthy = false) (below : Value) :
    laidOver overrides below = .ok below := by
  rw [laidOver, if_neg (by simp [h])]

/-! ## Reloads after a successful load -/

/-- **A reload gives back what the load gave** just when the file in mind and the environment alone
would have given it at the time: the file that the load was given, or without one the file that an
earlier load has left in mind. So it does where nothing more was asked for, and where a file was
given or none was in mind. -/
theorem reload_eq_ok_iff {s t u : Session} {file overrides : Value} {settings : Settings}
    (h : (load file overrides).result s = (t, .ok settings)) (hsame : SameSources s u)
    (hsource : u.source = t.source) :
    ((reload.result u).2 = .ok settings ↔
      ((load (Settings.optionValue (s.remembered file)) .null).result s).2 = .ok settings) ∧
    (overrides.truthy = false → file.truthy = true ∨ s.source = none →
      (reload.result u).2 = .ok settings) := by
  have hanswer : ((load file overrides).result s).2 = .ok settings := congrArg Prod.snd h
  rw [answer_load] at hanswer
  obtain ⟨base, hbase, hrest⟩ := bind_eq_ok_iff.1 hanswer
  have hmind : u.source = s.remembered file := by
    have hload := source_load file overrides s
    rw [h, hbase] at hload
    exact hsource.trans hload
  have hreload : (reload.result u).2 =
      ((load (Settings.optionValue (s.remembered file)) .null).result s).2 := by
    rw [result_reload, hmind, answer_load_of_sameSources hsame]
  refine ⟨by rw [hreload], fun hoverrides hfile => ?_⟩
  rw [hreload, answer_load, fileAnswer_remembered hbase hfile]
  simp only [laidOver_of_not_truthy hoverrides] at hrest
  exact hrest

/-- Two settings files. -/
def changingFiles : Folder :=
  ⟨[(["old.json"], "\x7b\"version\":\"1.0.0\"\x7d"),
    (["new.json"], "\x7b\"version\":\"2.0.0\"\x7d")], []⟩

/-- A client that has loaded one of two settings files. -/
def changing : Session :=
  ((load (.text "old.json") .null).result (start changingFiles ⟨[]⟩ (.whole 0))).1

theorem reload_eq_ok_iff_changing :
    ∃ t, (load (.text "new.json") .null).result changing = (t, .ok { version := "2.0.0" }) ∧
      SameSources changing t ∧ (reload.result t).2 = .ok { version := "2.0.0" } := by
  have hanswer : ((load (.text "new.json") .null).result changing).2 =
      .ok { version := "2.0.0" } := eq_ok_of_toOption (by decide +kernel)
  have hunlogged := congrArg Prod.fst (keeps_unlogged_load (.text "old.json") .null
    (start changingFiles ⟨[]⟩ (.whole 0)))
  have hsame : SameSources changing ((load (.text "new.json") .null).result changing).1 :=
    sameSources_load hunlogged _ _
  exact ⟨_, result_eq_of_answer hanswer, hsame,
    (reload_eq_ok_iff (result_eq_of_answer hanswer) hsame rfl).2 rfl (.inl rfl)⟩

/-- A new client without files. -/
def blank : Session := start .empty ⟨[]⟩ (.whole 0)

/-- Where more was asked for than the file says, or the file in mind is not the one that the load
was given, a reload does not give back what the load gave. -/
theorem reload_ne_load :
    (∃ t, (load .null (.map [(.text "version", .text "3.0.0")])).result blank =
        (t, .ok { version := "3.0.0" }) ∧
      SameSources blank t ∧ (reload.result t).2 = .ok {}) ∧
    ∃ t, (load .null .null).result changing = (t, .ok {}) ∧
      SameSources changing t ∧ (reload.result t).2 = .ok { version := "1.0.0" } := by
  have hasked : ((load .null (.map [(.text "version", .text "3.0.0")])).result blank).2 =
      .ok { version := "3.0.0" } := eq_ok_of_toOption (by decide +kernel)
  have hforgets : (reload.result ((load .null (.map [(.text "version", .text "3.0.0")])).result
      blank).1).2 = .ok {} := eq_ok_of_toOption (by decide +kernel)
  have hempty : ((load .null .null).result changing).2 = .ok {} :=
    eq_ok_of_toOption (by decide +kernel)
  have hstale : (reload.result ((load .null .null).result changing).1).2 =
      .ok { version := "1.0.0" } := eq_ok_of_toOption (by decide +kernel)
  have hunlogged := congrArg Prod.fst (keeps_unlogged_load (.text "old.json") .null
    (start changingFiles ⟨[]⟩ (.whole 0)))
  have hblank : blank.book.unloggedFolder = some .empty := rfl
  exact ⟨⟨_, result_eq_of_answer hasked, sameSources_load hblank _ _, hforgets⟩,
    _, result_eq_of_answer hempty, sameSources_load hunlogged _ _, hstale⟩

/-! ## Reloads after a load that failed -/

theorem Sourced.load {s : Session} (h : s.Sourced) (file overrides : Value) :
    ((load file overrides).result s).1.Sourced := by
  intro path hpath
  rw [source_load] at hpath
  cases hanswer : s.fileAnswer file with
  | error failure => exact h path (by simpa [hanswer] using hpath)
  | ok v =>
    simp only [hanswer] at hpath
    cases ht : file.truthy with
    | false =>
      rw [remembered_of_not_truthy s ht] at hpath
      exact h path hpath
    | true =>
      obtain ⟨given, rfl, hgiven⟩ := exists_path_of_fileAnswer hanswer ht
      rw [fileAnswer_path s hgiven] at hanswer
      rw [remembered_path s hgiven] at hpath
      obtain rfl := Option.some.inj hpath
      rw [Path.ofText_text_ofText]
      exact Folder.ofEnding?_of_settings hanswer

theorem Sourced.step {s : Session} (h : s.Sourced) (command : Command) :
    (s.step command).1.Sourced := by
  rw [step_eq]
  change ((perform command).result s.cleared).1.Sourced
  cases hl : command.isLoad with
  | false =>
    have hkept : ((perform command).result s.cleared).1.source = s.source :=
      congrArg Prod.snd (keeps_loaded_perform hl s.cleared)
    intro path hpath
    exact h path (hkept ▸ hpath)
  | true =>
    obtain ⟨file, overrides, -, hresult⟩ := exists_load hl s.cleared
    rw [hresult]
    exact Sourced.load (s := s.cleared) h file overrides

/-- After any run of a new client the file in mind has one of the known endings. -/
theorem Sourced.run {s : Session} (h : s.Sourced) (commands : List Command) :
    (s.run commands).1.Sourced := by
  induction commands generalizing s with
  | nil => exact h
  | cons command rest ih => exact ih (h.step command)

theorem sourced_start (folder : Folder) (environment : Environment) (clock : Stamp) :
    (start folder environment clock).Sourced := by
  nofun

/-- A client with a file in mind and no files. -/
def bare (source : Option String) : Session :=
  { blank with source := source }

/-- Without files a reload tells which file is in mind. -/
theorem answer_reload_bare {source : Option String} (h : (bare source).Sourced) :
    (reload.result (bare source)).2 =
      match source with
      | none => .ok {}
      | some path => .error (.fileMissing path) := by
  cases source with
  | none => exact eq_ok_of_toOption (by decide +kernel)
  | some path =>
    have hending := h path rfl
    have hopening : (opening.result (bare (some path))).1.book.folder = .empty := by
      rw [opening, result_inform_of_disabled rfl]
      rfl
    have hanswer : (bare (some path)).fileAnswer (.text path) = .error (.fileMissing path) := by
      rw [fileAnswer_path _ (isEmpty_of_ofEnding? hending), hopening,
        Folder.settings_empty hending]
    rw [result_reload, answer_load]
    change (bare (some path)).fileAnswer (.text path) >>= _ = _
    rw [hanswer]
    rfl

theorem sameSources_bare (source other : Option String) :
    SameSources (bare source) (bare other) :=
  ⟨fileAnswer_congr rfl, rfl⟩

theorem bare_injective {source other : Option String} (h : (bare source).Sourced)
    (hother : (bare other).Sourced)
    (heq : (reload.result (bare other)).2 = (reload.result (bare source)).2) :
    other = source := by
  rw [answer_reload_bare h, answer_reload_bare hother] at heq
  cases source <;> cases other <;> simp_all

/-- **A load that fails does not matter to later reloads** just when it has not brought another file
to mind: it has failed before its file was read, no file was given, or the file that it has read was
in mind before. Then a reload answers the same as without this load, whatever the files and the
environment are by then; otherwise there are files where it does not. -/
theorem reload_after_failure_iff {folder : Folder} {environment : Environment} {clock : Stamp}
    {commands : List Command} {s t : Session} {file overrides : Value} {failure : Failure}
    (hs : ((start folder environment clock).run commands).1 = s)
    (h : (load file overrides).result s = (t, .error failure)) :
    (∀ u v, SameSources u v → u.source = s.source → v.source = t.source →
      (reload.result v).2 = (reload.result u).2) ↔
    ∀ value, s.fileAnswer file = .ok value → s.remembered file = s.source := by
  have hsourced : s.Sourced := hs ▸ (sourced_start folder environment clock).run commands
  have ht : t.source = ((load file overrides).result s).1.source := by rw [h]
  constructor
  · intro hsame value hvalue
    have hmind : t.source = s.remembered file := by rw [ht, source_load, hvalue]
    rw [← hmind]
    have hsourced' : t.Sourced := by
      have hload := hsourced.load file overrides
      rwa [h] at hload
    exact bare_injective hsourced hsourced'
      (hsame (bare s.source) (bare t.source) (sameSources_bare _ _) rfl rfl)
  · intro hremembered u v hsame hu hv
    have hkept : t.source = s.source := by
      rw [ht, source_load]
      cases hanswer : s.fileAnswer file with
      | error failure => rfl
      | ok value => exact hremembered value hanswer
    rw [result_reload, result_reload, answer_load_of_sameSources hsame, hv, hu, hkept]

/-- A client after a run in which it has loaded a settings file. -/
def settled : Session :=
  ((start changingFiles ⟨[]⟩ (.whole 0)).run [.load (.text "old.json") .null]).1

/-- It loads the same file, and asks for a version on top that no version can be. -/
theorem reload_after_failure_iff_settled :
    ∃ t failure, (load (.text "old.json") (.map [(.text "version", .text "1")])).result settled =
        (t, .error failure) ∧
      ∀ u v, SameSources u v → u.source = settled.source → v.source = t.source →
        (reload.result v).2 = (reload.result u).2 := by
  obtain ⟨failure, hfails⟩ := exists_error_of_toOption
    (x := ((load (.text "old.json") (.map [(.text "version", .text "1")])).result settled).2)
    (by decide +kernel)
  refine ⟨_, failure, result_eq_of_answer hfails, ?_⟩
  exact (reload_after_failure_iff rfl (result_eq_of_answer hfails)).2
    fun _ _ => by decide +kernel

/-- Two settings files; the settings of the second one do not pass the checks. -/
def misledFiles : Folder :=
  ⟨[(["good.json"], "\x7b\"version\":\"1.0.0\"\x7d"),
    (["bad.json"], "\x7b\"version\":\"1\"\x7d")], []⟩

/-- A client that has loaded the first of these files. -/
def misled : Session :=
  ((load (.text "good.json") .null).result (start misledFiles ⟨[]⟩ (.whole 0))).1

/-- A file whose settings do not pass the checks takes the place of the one in mind. -/
theorem reload_misled :
    (reload.result misled).2 = .ok { version := "1.0.0" } ∧
      ∃ t failure, (load (.text "bad.json") .null).result misled = (t, .error failure) ∧
        SameSources misled t ∧ ∃ failure, (reload.result t).2 = .error failure := by
  have hbefore : (reload.result misled).2 = .ok { version := "1.0.0" } :=
    eq_ok_of_toOption (by decide +kernel)
  obtain ⟨failure, hfails⟩ := exists_error_of_toOption
    (x := ((load (.text "bad.json") .null).result misled).2) (by decide +kernel)
  have hunlogged := congrArg Prod.fst (keeps_unlogged_load (.text "good.json") .null
    (start misledFiles ⟨[]⟩ (.whole 0)))
  exact ⟨hbefore, _, failure, result_eq_of_answer hfails, sameSources_load hunlogged _ _,
    exists_error_of_toOption (by decide +kernel)⟩

end Session

end StorageReply
