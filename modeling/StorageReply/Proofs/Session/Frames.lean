import Mathlib.Order.Defs.Unbundled
import StorageReply.Proofs.Session.Loading
import StorageReply.Session.Command

/-!
# What commands keep

An act respects a relation between states if it leads to related states, whether it succeeds or
fails (`Act.Respects`). Most commands make small changes only, such as messages; they respect every
relation that permits these (`respects_perform`).

An act keeps a view of the state if the view is the same afterwards (`Act.Keeps`). Of what a client
has loaded, which are the settings in force and the file that they came from, every command but a
load keeps both (`keeps_loaded_perform`). Within a load most acts keep them too; `view_bind` goes
through the acts of a sequence up to the one that changes them.
-/

namespace StorageReply

namespace Act

variable {σ τ α β γ : Type}

/-- An act leads from every state to a related one, whether it succeeds or fails. -/
def Respects (R : σ → σ → Prop) (act : Act σ α) : Prop := ∀ s, R s (act.result s).1

section Relations

variable {R : σ → σ → Prop}

theorem respects_modify {f : σ → σ} (h : ∀ s, R s (f s)) : Respects R (modify f : Act σ Unit) := h

theorem Respects.ite {c : Prop} [Decidable c] {act other : Act σ α} (h : Respects R act)
    (h' : Respects R other) : Respects R (if c then act else other) := by
  split
  · exact h
  · exact h'

/-- An act after another leads on from where that one leads to, or stays there if that one fails. -/
theorem Respects.bind [IsTrans σ R] {act : Act σ α} {next : α → Act σ γ} (h : Respects R act)
    (hnext : ∀ a, Respects R (next a)) : Respects R (act >>= next) := by
  intro s
  have hs := h s
  rw [result_bind]
  rcases hr : act.result s with ⟨t, failure | a⟩
  · rwa [hr] at hs
  · rw [hr] at hs
    exact trans_of R hs (hnext a t)

/-- An answer made of what an act returns changes no more than the act does. -/
theorem Respects.bind_pure {act : Act σ α} (h : Respects R act) (f : α → γ) :
    Respects R (act >>= fun a => pure (f a)) := by
  intro s
  have hs := h s
  rw [result_bind]
  rcases hr : act.result s with ⟨t, failure | a⟩ <;> rwa [hr] at hs

/-- An act on a part of the state respects a relation that does not look at this part. -/
theorem respects_on {part : σ → τ} {replace : σ → τ → σ} (h : ∀ s t, R s (replace s t))
    (act : Act τ α) : Respects R (on part replace act) := by
  intro s
  rw [result_on]
  exact h s _

theorem Respects.within [IsTrans σ R] {enter leave : σ → σ} {act : Act σ α}
    (henter : ∀ s, R s (enter s)) (hleave : ∀ s, R s (leave s)) (h : Respects R act) :
    Respects R (within enter leave act) := by
  intro s
  rw [result_within]
  exact trans_of R (trans_of R (henter s) (h _)) (hleave _)

variable [Std.Refl R]

theorem respects_pure (a : α) : Respects R (pure a : Act σ α) := fun s => refl_of R s

theorem respects_throw (failure : Failure) : Respects R (throw failure : Act σ α) := fun s =>
  refl_of R s

theorem respects_get : Respects R (get : Act σ σ) := fun s => refl_of R s

theorem respects_of (r : Except Failure α) : Respects R (of r : Act σ α) := by
  intro s
  rw [result_of]
  exact refl_of R s

end Relations

/-- Two states have the same view. -/
def SameView (view : σ → β) (s t : σ) : Prop := view t = view s

instance {view : σ → β} : Std.Refl (SameView view) := ⟨fun _ => rfl⟩

instance {view : σ → β} : IsTrans σ (SameView view) := ⟨fun _ _ _ h h' => h'.trans h⟩

/-- One state has a property if the other has it. -/
def Passes (P : σ → Prop) (s t : σ) : Prop := P s → P t

instance {P : σ → Prop} : Std.Refl (Passes P) := ⟨fun _ h => h⟩

instance {P : σ → Prop} : IsTrans σ (Passes P) := ⟨fun _ _ _ h h' hs => h' (h hs)⟩

/-- After an act that leaves a state with a property, others that pass it on can follow. -/
theorem Respects.after {P : σ → Prop} {next : α → Act σ γ}
    (hnext : ∀ a, Respects (Passes P) (next a)) {act : Act σ α} {s : σ} (h : P (act.result s).1) :
    P ((act >>= next).result s).1 := by
  rw [result_bind]
  rcases hr : act.result s with ⟨t, failure | a⟩
  · rwa [hr] at h
  · rw [hr] at h
    exact hnext a t h

/-- An act leaves a view of the state as it is. -/
def Keeps (view : σ → β) (act : Act σ α) : Prop := ∀ s, view (act.result s).1 = view s

variable {view : σ → β}

/-- To keep a view is to lead to states with the same view. -/
theorem keeps_iff_respects {act : Act σ α} : Keeps view act ↔ Respects (SameView view) act :=
  Iff.rfl

/-- An act after one that keeps a view: the view changes only in the second act, and not at all if
the first one fails. -/
theorem view_bind {act : Act σ α} (h : Keeps view act) (next : α → Act σ γ) (s : σ) :
    view ((act >>= next).result s).1 =
      match (act.result s).2 with
      | .ok a => view ((next a).result (act.result s).1).1
      | .error _ => view s := by
  rw [result_bind]
  rcases hr : act.result s with ⟨t, failure | a⟩
  · have ht := h s
    rwa [hr] at ht
  · rfl

end Act

namespace Command

/-- Whether a command loads settings. -/
def isLoad : Command → Bool
  | .load _ _ | .reload => true
  | _ => false

/-- Whether a command sets logging up. -/
def isSetup : Command → Bool
  | .configureLogging | .setup _ => true
  | _ => false

/-- Whether a command removes a file. -/
def isDelete : Command → Bool
  | .delete _ => true
  | _ => false

/-- Whether a command only asks about the state of the client, and changes nothing of it. -/
def isQuestion : Command → Bool
  | .config | .serviceUri | .containerUri _ | .canServe | .currentId | .files => true
  | _ => false

end Command

namespace Session

open Act

/-! ## Small changes -/

/-- Whether a relation permits the small changes of a session: loggers that are asked for, messages,
identifiers, files that are written, and variables. -/
structure Permits (R : Session → Session → Prop) : Prop where
  /-- A logger that is asked for. -/
  fetch : ∀ s name, R s (s.withBook (s.book.fetch name))
  /-- A message. -/
  log : ∀ s name level message arguments context,
    R s (s.withBook (s.book.log name level message arguments context))
  /-- An identifier that is put in force. -/
  bind : ∀ s id, R s (s.withBook (s.book.bind id))
  /-- An identifier that is taken back. -/
  unbind : ∀ s, R s (s.withBook s.book.unbind)
  /-- A file that is written. -/
  writeFile : ∀ s path text, R s (s.withBook (s.book.writeFile path text))
  /-- A variable. -/
  assign : ∀ s name value, R s { s with environment := s.environment.assign name value }

/-- Whether a relation permits the messages of a logger. -/
def PermitsLog (R : Session → Session → Prop) (logger : String) : Prop :=
  ∀ s level message arguments context,
    R s (s.withBook (s.book.log logger level message arguments context))

theorem Permits.permitsLog {R : Session → Session → Prop} (hR : Permits R) (logger : String) :
    PermitsLog R logger := fun s => hR.log s logger

section Relations

variable {R : Session → Session → Prop} [Std.Refl R] [IsTrans Session R] {logger : String}

omit [IsTrans Session R] in
theorem respects_config : Respects R config := by
  intro s
  rw [result_config]
  cases s.settings <;> exact refl_of R s

/-- A question leaves the state as it is. -/
theorem respects_question {command : Command} (h : command.isQuestion = true) :
    Respects R (perform command) := by
  cases command with
  | config => exact respects_config.bind_pure _
  | serviceUri => exact (respects_config.bind fun _ => respects_of _).bind_pure _
  | containerUri name => exact (respects_config.bind fun _ => respects_of _).bind_pure _
  | canServe =>
    have hserve : Respects R canServe :=
      respects_config.bind fun _ => (respects_of _).bind_pure _
    exact hserve.bind_pure _
  | currentId => exact respects_get.bind_pure _
  | files => exact respects_get.bind_pure _
  | _ => simp [Command.isQuestion] at h

/-- What is found in a document is announced in a message. -/
theorem respects_found (hlog : PermitsLog R logger) {α : Type} (found : Except Failure α)
    (logText : α → String) :
    Respects R (do
      let found ← Act.of found
      say logger 10 (logText found)
      return found) :=
  (respects_of _).bind fun _ => (respects_modify fun s => hlog s _ _ _ _).bind_pure _

theorem respects_readDocument (hR : Permits R) {α : Type} (logger : String)
    (read : Xml.Element → Except Failure α) (logText : α → String) (d : ServiceDocument) :
    Respects R (readDocument logger read logText d) := by
  have hread := respects_found (hR.permitsLog logger) (d.source.read read) logText
  refine Respects.ite ?_ (respects_of _)
  cases d.requestId with
  | none => exact hread
  | some id => exact hread.within (fun s => hR.bind s _) hR.unbind

theorem respects_readContainer (hlog : PermitsLog R "zurestore.blob.container_response")
    (response : Response) (uri : StorageUri) (name : Value) :
    Respects R (readContainer response uri name) :=
  (respects_of _).bind fun _ => (respects_of _).bind fun _ =>
    (respects_modify fun s => hlog s _ _ _ _).bind_pure _

omit [Std.Refl R] [IsTrans Session R] in
theorem respects_fetchLogger (hfetch : ∀ s, R s (s.withBook (s.book.fetch logger))) :
    Respects R (fetchLogger logger) := respects_modify hfetch

theorem respects_log (hfetch : ∀ s, R s (s.withBook (s.book.fetch logger)))
    (hlog : PermitsLog R logger) (level message : Value) (arguments : List Value) :
    Respects R (log logger level message arguments) :=
  (respects_fetchLogger hfetch).bind fun _ => (respects_of _).bind fun _ =>
    respects_modify fun s => hlog s _ _ _ _

theorem respects_logWithContext (hfetch : ∀ s, R s (s.withBook (s.book.fetch logger)))
    (hlog : PermitsLog R logger) (level message : Value) (context : Fields) :
    Respects R (logWithContext logger level message context) := by
  have hcall : Respects R (Act.of (recordLevel level) >>= fun level => change fun book =>
      book.log logger level message (.positional [])
        (if context.isEmpty then none else some context)) :=
    (respects_of _).bind fun _ => respects_modify fun s => hlog s _ _ _ _
  exact (respects_fetchLogger hfetch).bind fun _ =>
    ((respects_throw _).bind fun _ => hcall).ite hcall

theorem respects_effectiveLevel (hfetch : ∀ s, R s (s.withBook (s.book.fetch logger))) :
    Respects R (effectiveLevel logger) :=
  (respects_fetchLogger hfetch).bind fun _ => respects_get.bind_pure _

theorem respects_pop (hR : Permits R) : Respects R pop := by
  refine respects_get.bind fun s => ?_
  have hunbind : Respects R (change Logbook.unbind) := respects_modify hR.unbind
  exact ((respects_throw _).bind fun _ => hunbind).ite hunbind

theorem respects_delete (hremove : ∀ s place, R s (s.withBook (s.book.remove place)))
    (path : String) : Respects R (delete path) := by
  refine respects_get.bind fun s => ?_
  dsimp only
  cases s.book.folder.find (Path.ofText path) with
  | none => exact respects_throw _
  | some place => exact (respects_modify fun s => hremove s place).ite (respects_throw _)

/-- A command that does not load settings, set logging up or remove a file makes small changes
only. -/
theorem respects_perform (hR : Permits R) {command : Command} (hload : command.isLoad = false)
    (hsetup : command.isSetup = false) (hdelete : command.isDelete = false) :
    Respects R (perform command) := by
  cases command with
  | load file overrides => simp [Command.isLoad] at hload
  | reload => simp [Command.isLoad] at hload
  | configureLogging => simp [Command.isSetup] at hsetup
  | setup fields => simp [Command.isSetup] at hsetup
  | delete path => simp [Command.isDelete] at hdelete
  | log logger level message arguments =>
    exact (respects_log (fun s => hR.fetch s logger) (hR.permitsLog logger) level message
      arguments).bind_pure _
  | logWithContext logger level message context =>
    exact (respects_logWithContext (fun s => hR.fetch s logger) (hR.permitsLog logger) level message
      context).bind_pure _
  | level logger => exact (respects_effectiveLevel fun s => hR.fetch s logger).bind_pure _
  | push id => exact (respects_modify fun s => hR.bind s id).bind_pure _
  | pop => exact (respects_pop hR).bind_pure _
  | readStats document => exact (respects_readDocument hR _ _ _ _).bind_pure _
  | readProperties document => exact (respects_readDocument hR _ _ _ _).bind_pure _
  | readContainer response uri name =>
    exact (respects_readContainer (hR.permitsLog _) response uri name).bind_pure _
  | write path text => exact (respects_modify fun s => hR.writeFile s _ _).bind_pure _
  | setVariable name value =>
    have hset : Respects R (modify fun s : Session =>
        { s with environment := s.environment.assign name value }) :=
      respects_modify fun s => hR.assign s name value
    exact hset.bind_pure _
  | _ => exact respects_question rfl

end Relations

/-! ## What is loaded -/

/-- What a client has loaded: the settings in force, and the file that settings were last read
from. -/
def loaded (s : Session) : Option Settings × Option String := (s.settings, s.source)

@[simp] theorem loaded_withBook (s : Session) (book : Logbook) :
    (s.withBook book).loaded = s.loaded := rfl

theorem permits_loaded : Permits (SameView loaded) where
  fetch _ _ := rfl
  log _ _ _ _ _ _ := rfl
  bind _ _ := rfl
  unbind _ := rfl
  writeFile _ _ _ := rfl
  assign _ _ _ := rfl

theorem keeps_loaded_delete (path : String) : Keeps loaded (delete path) :=
  keeps_iff_respects.2 (respects_delete (fun _ _ => rfl) path)

theorem keeps_loaded_onBook (act : Act Logbook Unit) : Keeps loaded (onBook act) :=
  keeps_iff_respects.2 (respects_on loaded_withBook act)

/-- Every command but a load keeps what was loaded. -/
theorem keeps_loaded_perform {command : Command} (h : command.isLoad = false) :
    Keeps loaded (perform command) := by
  rw [keeps_iff_respects]
  cases command with
  | configureLogging =>
    have hlogging : Respects (SameView loaded) configureLogging :=
      respects_config.bind fun _ => keeps_iff_respects.1 (keeps_loaded_onBook _)
    exact hlogging.bind_pure _
  | setup fields =>
    have hsetup : Respects (SameView loaded) (setup fields) :=
      (respects_of _).bind fun _ => keeps_iff_respects.1 (keeps_loaded_onBook _)
    exact hsetup.bind_pure _
  | delete path => exact (keeps_iff_respects.1 (keeps_loaded_delete path)).bind_pure _
  | _ => exact respects_perform permits_loaded h rfl rfl

end Session

end StorageReply
