import StorageReply.Proofs.Json.RoundTrip
import StorageReply.Proofs.Log.Shown

/-!
# Lines that are decoded

A JSON line is one line of printable characters, and reading it gives an object that tells of the
record exactly what the record holds (`LineFormat.tells_of_line`): each text of the record stands
under its own name, whatever characters are in it, and no other name is there. So no text of a
record can break its line in two, and none can add to another or change it. Only a message can have
halves of surrogate pairs, which JSON cannot tell from the character that two of them make
(`LineFormat.message_of_line_halves`).
-/

namespace StorageReply

open Json (IsPrintable)

namespace LogRecord

/-- Whether an identifier is the one in effect for a record: its own stamp, or the one in force if
the stamp is missing or empty. An empty identifier and the mark for none are in effect nowhere. -/
def IsEffective (active : Option String) (r : LogRecord) (id : String) : Prop :=
  (r.stamp.join = some id ∨ (∀ own ∈ r.stamp.join, own = "") ∧ active = some id) ∧
    id ≠ "" ∧ id ≠ noRequestId

theorem requestId?_eq_some_iff {active : Option String} {r : LogRecord} {id : String} :
    r.requestId? active = some id ↔ r.IsEffective active id := by
  rw [requestId?, Option.filter_eq_some_iff, given_eq_some_iff, IsEffective, and_assoc,
    bne_iff_ne]
  refine and_congr_left fun hid => ?_
  cases hown : given r.stamp.join with
  | some own =>
    obtain ⟨hstamp, hne⟩ := given_eq_some_iff.1 hown
    simp [hstamp, hne]
  | none =>
    cases hstamp : r.stamp.join with
    | none => simp
    | some own =>
      have hempty : own = "" := by
        by_contra hne
        exact absurd (given_eq_some_iff.2 ⟨hstamp, hne⟩) (by simp [hown])
      simp [hempty, Ne.symm hid.1]

end LogRecord

namespace LineFormat

/-- The entry of an object under a name. -/
def named? (entries : Json.Entries) (name : String) : Option Json.Tree :=
  entries.lookup (CodePoint.ofText name)

theorem named?_append (entries more : Json.Entries) (name : String) :
    named? (entries ++ more) name = (named? entries name).or (named? more name) :=
  List.lookup_append

theorem named?_entryOf (name : String) (t : Option Json.Tree) (other : String) :
    named? (entryOf name t) other = if name = other then t else none := by
  have hnames : (CodePoint.ofText other == CodePoint.ofText name) = decide (name = other) := by
    rw [beq_eq_decide]
    exact decide_eq_decide.2 (CodePoint.ofText_inj.trans eq_comm)
  cases t with
  | none => rw [ite_self]; rfl
  | some t =>
    rw [named?, entryOf, Option.map_some, Option.toList_some, entry, List.lookup_cons, hnames]
    by_cases h : name = other <;> simp [h]

theorem names_entryOf (name : String) (t : Option Json.Tree) :
    ((entryOf name t).map Prod.fst).Sublist [CodePoint.ofText name] := by
  cases t with
  | none => exact List.nil_sublist _
  | some t => exact List.Sublist.refl _

/-- The names that a line can have, in their order. -/
def names : List String :=
  ["timestamp", "level", "module", "message", "client_request_id", "exception", "context"]

variable {active : Option String} {r : LogRecord} {time : String} {message : List CodePoint}
  {context : Option Json.Tree}

theorem names_jsonEntries :
    ((jsonEntries time message context active r).map Prod.fst).Sublist
      (names.map CodePoint.ofText) := by
  simp only [jsonEntries, List.map_append]
  exact (((List.Sublist.refl _).append (names_entryOf _ _)).append (names_entryOf _ _)).append
    (names_entryOf _ _)

/-! ## What is read from a line -/

theorem joinedEntries_append (entries more : Json.Entries) :
    Json.Tree.joinedEntries (entries ++ more) =
      Json.Tree.joinedEntries entries ++ Json.Tree.joinedEntries more := by
  induction entries with
  | nil => rfl
  | cons entry entries ih =>
    obtain ⟨name, t⟩ := entry
    rw [List.cons_append, Json.Tree.joinedEntries, ih, Json.Tree.joinedEntries, List.cons_append]

theorem joinedEntries_entryOf (name : String) {t : Option Json.Tree} (h : ∀ u ∈ t, u.joined = u) :
    Json.Tree.joinedEntries (entryOf name t) = entryOf name t := by
  cases t with
  | none => rfl
  | some t =>
    rw [entryOf, Option.map_some, Option.toList_some, entry, Json.Tree.joinedEntries,
      CodePoint.joined_ofText, h t rfl]
    rfl

theorem joined_text (text : String) :
    (Json.Tree.text (CodePoint.ofText text)).joined = .text (CodePoint.ofText text) := by
  rw [Json.Tree.joined, CodePoint.joined_ofText]

/-- Of the object of a record only the message can be read in another way than it stands. -/
theorem joined_jsonEntries (h : ∀ t ∈ context, t.joined = t) :
    Json.Tree.joinedEntries (jsonEntries time message context active r) =
      jsonEntries time (CodePoint.joined message) context active r := by
  have htext : ∀ (id : Option String), ∀ t ∈ id.map fun id => Json.Tree.text (CodePoint.ofText id),
      t.joined = t := by
    intro id t ht
    obtain ⟨text, -, rfl⟩ := Option.map_eq_some_iff.1 ht
    exact joined_text text
  have herror : ∀ t ∈ r.error.map fun e => Json.Tree.text (CodePoint.ofText e.line),
      t.joined = t := by
    intro t ht
    obtain ⟨e, -, rfl⟩ := Option.map_eq_some_iff.1 ht
    exact joined_text e.line
  rw [jsonEntries, joinedEntries_append, joinedEntries_append, joinedEntries_append,
    joinedEntries_entryOf _ (htext _), joinedEntries_entryOf _ herror, joinedEntries_entryOf _ h,
    jsonEntries]
  simp only [entryText, entry, Json.Tree.joinedEntries, CodePoint.joined_ofText, joined_text,
    Json.Tree.joined]

theorem sound_jsonEntries (time : String) (message : List CodePoint) (active : Option String)
    (r : LogRecord) (h : ∀ t ∈ context, t.Sound) :
    (Json.Tree.map (jsonEntries time message context active r)).Sound := by
  refine .map fun entry hentry => ?_
  simp only [jsonEntries, entryOf, List.mem_append, List.mem_cons, List.not_mem_nil, or_false,
    Option.mem_toList, Option.map_eq_some_iff] at hentry
  rcases hentry with ((((rfl | rfl | rfl | rfl) | ⟨_, ⟨id, -, rfl⟩, rfl⟩) |
    ⟨_, ⟨e, -, rfl⟩, rfl⟩) | ⟨t, hcontext, rfl⟩)
  -- all but the context are texts
  iterate 6 exact .text _
  exact h t hcontext

/-- What an object tells of a record while `active` is the identifier in force. -/
structure Tells (active : Option String) (r : LogRecord) (entries : Json.Entries) : Prop where
  /-- The time is when the record was made. -/
  timestamp : ∃ time, r.created.moment = .ok time ∧
    named? entries "timestamp" = some (.text (CodePoint.ofText time.text))
  /-- The level is the name of the level of the record. -/
  level : named? entries "level" = some (.text (CodePoint.ofText (levelName r.level)))
  /-- The module is the name of the logger. -/
  module : named? entries "module" = some (.text (CodePoint.ofText r.logger))
  /-- The message is the formatted message, with two halves that make a pair as one character. -/
  message : ∃ message, r.messageCodes = .ok message ∧
    named? entries "message" = some (.text (CodePoint.joined message))
  /-- The identifier is the one in effect, and it is missing if there is none. -/
  requestId : ∀ t, named? entries "client_request_id" = some t ↔
    ∃ id, r.IsEffective active id ∧ t = .text (CodePoint.ofText id)
  /-- The failure is the one of the record, and it is missing if there is none. -/
  exception : named? entries "exception" = r.error.map fun e => .text (CodePoint.ofText e.line)
  /-- The context is spelled as the one of the record, and it is missing if there is none. -/
  context : named? entries "context" = r.context.bind fun context => Json.tree? (.map context)
  /-- The context has the value of the one of the record. -/
  contextValue : (named? entries "context").map Json.Tree.value = r.context.map .map
  /-- There is no other name, and none is there twice. -/
  names : (entries.map Prod.fst).Sublist (names.map CodePoint.ofText)

theorem contextTree_eq_ok_iff {t : Option Json.Tree} :
    contextTree r = .ok t ↔ (∀ context ∈ r.context, (Json.tree? (.map context)).isSome = true) ∧
      t = r.context.bind fun context => Json.tree? (.map context) := by
  rw [contextTree]
  split
  · rename_i hnone
    simp only [hnone, Option.bind_none]
    exact ⟨fun h => ⟨fun _ hmem => (by cases hmem), (Except.ok.inj h).symm⟩,
      fun h => congrArg Except.ok h.2.symm⟩
  · rename_i context hsome
    simp only [hsome, Option.bind_some, Option.mem_some_iff, forall_eq']
    cases htree : Json.tree? (.map context) with
    | none => exact ⟨fun h => (by cases h), fun h => (by cases h.1)⟩
    | some u => exact ⟨fun h => ⟨rfl, (Except.ok.inj h).symm⟩, fun h => congrArg Except.ok h.2.symm⟩

/-- The tree of the context of a record that makes a line. -/
theorem spells_context (hcontext : ∀ context ∈ r.context, (Value.map context).IsJson)
    (hsome : ∀ context ∈ r.context, (Json.tree? (.map context)).isSome = true) :
    (∀ t ∈ r.context.bind fun context => Json.tree? (.map context), t.Sound ∧ t.joined = t) ∧
      (r.context.bind fun context => Json.tree? (.map context)).map Json.Tree.value =
        r.context.map .map := by
  cases hr : r.context with
  | none => exact ⟨fun _ ht => (by cases ht), rfl⟩
  | some context =>
    obtain ⟨t, ht⟩ := Option.isSome_iff_exists.1 (hsome context hr)
    have hspells := Json.spells_of_tree? (hcontext context hr) ht
    rw [Option.bind_some, ht, Option.map_some, Option.map_some, hspells.value]
    refine ⟨?_, rfl⟩
    rintro _ ⟨⟩
    exact ⟨hspells.sound, hspells.joined⟩

theorem tells_jsonEntries {time : Moment} (htime : r.created.moment = .ok time)
    (hmessage : r.messageCodes = .ok message)
    (hvalue : (r.context.bind fun context => Json.tree? (.map context)).map Json.Tree.value =
      r.context.map .map) :
    Tells active r (jsonEntries time.text (CodePoint.joined message)
      (r.context.bind fun context => Json.tree? (.map context)) active r) := by
  generalize hcontext : (r.context.bind fun context => Json.tree? (.map context)) = context
  rw [hcontext] at hvalue
  generalize hentries : jsonEntries time.text (CodePoint.joined message) context active r = entries
  have hid : named? entries "client_request_id" =
      (r.requestId? active).map fun id => .text (CodePoint.ofText id) := by
    rw [← hentries, jsonEntries, named?_append, named?_append, named?_append, named?_entryOf,
      named?_entryOf, named?_entryOf, if_pos rfl, if_neg (by decide), if_neg (by decide),
      Option.or_none, Option.or_none]
    rfl
  have herror : named? entries "exception" =
      r.error.map fun e => .text (CodePoint.ofText e.line) := by
    rw [← hentries, jsonEntries, named?_append, named?_append, named?_append, named?_entryOf,
      named?_entryOf, named?_entryOf, if_neg (by decide), if_pos rfl, if_neg (by decide),
      Option.or_none, Option.or_none]
    rfl
  have htree : named? entries "context" = context := by
    rw [← hentries, jsonEntries, named?_append, named?_append, named?_append, named?_entryOf,
      named?_entryOf, named?_entryOf, if_neg (by decide), if_neg (by decide), if_pos rfl,
      Option.or_none, Option.or_none]
    rfl
  refine ⟨⟨time, htime, hentries ▸ rfl⟩, hentries ▸ rfl, hentries ▸ rfl,
    ⟨message, hmessage, hentries ▸ rfl⟩, fun t => ?_, herror, htree.trans hcontext.symm,
    htree.symm ▸ hvalue, hentries ▸ names_jsonEntries⟩
  rw [hid, Option.map_eq_some_iff]
  exact exists_congr fun id => and_congr LogRecord.requestId?_eq_some_iff eq_comm

/-- When a record is turned into a line, and into which. -/
theorem json_line_eq_ok_iff {line : List CodePoint} :
    LineFormat.json.line active r = .ok line ↔
      ∃ time message, r.created.moment = .ok time ∧ r.messageCodes = .ok message ∧
        (∀ context ∈ r.context, (Json.tree? (.map context)).isSome = true) ∧
        line = CodePoint.ofText (Json.write (.map (jsonEntries time.text message
          (r.context.bind fun context => Json.tree? (.map context)) active r))) := by
  simp only [LineFormat.line, map_eq_ok_iff, jsonLine, bind_eq_ok_iff, contextTree_eq_ok_iff]
  constructor
  · rintro ⟨text, ⟨time, htime, message, hmessage, context, ⟨hsome, hcontext⟩, htext⟩, hline⟩
    refine ⟨time, message, htime, hmessage, hsome, ?_⟩
    rw [← hline, ← Except.ok.inj htext, hcontext]
  · rintro ⟨time, message, htime, hmessage, hsome, hline⟩
    exact ⟨_, ⟨time, htime, message, hmessage, _, ⟨hsome, rfl⟩, rfl⟩, hline.symm⟩

/-- A context of values that JSON can hold can be spelled unless an integer in it is too long. -/
theorem isSome_context_iff (hcontext : ∀ context ∈ r.context, (Value.map context).IsJson) :
    (∀ context ∈ r.context, (Json.tree? (.map context)).isSome = true) ↔
      ∀ context ∈ r.context, ∀ i ∈ (Value.map context).integers, Number.hasNumeral i = true :=
  forall_congr' fun context => forall_congr' fun h =>
    Json.isSome_tree?_iff (hcontext context h)

/-- **A JSON line tells of the record what it holds, and nothing else.** A record makes a line
unless its time is out of range, its message cannot be formatted, or an integer in its context is
too long. Then the line consists of printable characters, and what it says is what the record
holds; only two halves of a surrogate pair in the message are read as the character that they
make. -/
theorem tells_of_line {active : Option String} {r : LogRecord}
    (hcontext : ∀ context ∈ r.context, (Value.map context).IsJson) :
    ((∃ line, LineFormat.json.line active r = .ok line) ↔
      (∃ time, r.created.moment = .ok time) ∧ (∃ message, r.messageCodes = .ok message) ∧
        ∀ context ∈ r.context, ∀ i ∈ (Value.map context).integers, Number.hasNumeral i = true) ∧
    ∀ line, LineFormat.json.line active r = .ok line →
      ∃ text, line = CodePoint.ofText text ∧ (∀ c ∈ text.toList, IsPrintable c) ∧
        ∃ entries, Json.read text = .ok (.map entries) ∧ Tells active r entries := by
  simp only [json_line_eq_ok_iff]
  refine ⟨⟨?_, ?_⟩, ?_⟩
  · rintro ⟨line, time, message, htime, hmessage, hsome, -⟩
    exact ⟨⟨time, htime⟩, ⟨message, hmessage⟩, (isSome_context_iff hcontext).1 hsome⟩
  · rintro ⟨⟨time, htime⟩, ⟨message, hmessage⟩, hintegers⟩
    exact ⟨_, time, message, htime, hmessage, (isSome_context_iff hcontext).2 hintegers, rfl⟩
  · rintro line ⟨time, message, htime, hmessage, hsome, hline⟩
    obtain ⟨htrees, hvalue⟩ := spells_context hcontext hsome
    have hread := Json.read_write_tree (sound_jsonEntries time.text message active r fun t ht =>
      (htrees t ht).1)
    rw [Json.Tree.joined, joined_jsonEntries fun t ht => (htrees t ht).2] at hread
    exact ⟨_, hline, Json.isPrintable_writeAt 0 _, _, hread,
      tells_jsonEntries htime hmessage hvalue⟩

/-- A record whose texts try to end their quotes, their line and their object. -/
def forgingRecord : LogRecord where
  logger := "app\", \"level\": \"INFO"
  level := 40
  message := .text "%s\x7d\n\x7b\"client_request_id\": \"b\"\x7d"
  arguments := .positional [.text "\u2028😀\\"]
  created := .whole 0
  stamp := some (some "")
  context := some [(.text "module", .list [.float (.finite true 7205759403792794 (-56)), .null]),
    (.text "é", .map [(.text "", .int (-5))])]
  error := some ⟨"ValueError", "\r\x7f"⟩

/-- The line of the record. -/
def forgingLine : String :=
  "\x7b\"timestamp\": \"1970-01-01T00:00:00+00:00\", \"level\": \"ERROR\", " ++
  "\"module\": \"app\\\", \\\"level\\\": \\\"INFO\", " ++
  "\"message\": \"\\u2028\\ud83d\\ude00\\\\\x7d\\n" ++
  "\x7b\\\"client_request_id\\\": \\\"b\\\"\x7d\", " ++
  "\"client_request_id\": \"a\", \"exception\": \"ValueError: \\r\\u007f\", " ++
  "\"context\": \x7b\"module\": [-0.1, null], \"\\u00e9\": \x7b\"\": -5\x7d\x7d\x7d"

theorem isJson_forgingContext :
    ∀ context ∈ forgingRecord.context, (Value.map context).IsJson := by
  have hnumber : Number.Binary64.IsNumber 7205759403792794 (-56) :=
    ⟨by decide, by decide, by decide, .inr (by decide)⟩
  have hlist : (Value.list [.float (.finite true 7205759403792794 (-56)), .null]).IsJson :=
    .list (List.forall_mem_cons.2 ⟨.float hnumber, List.forall_mem_singleton.2 .null⟩)
  have hmap : (Value.map [(.text "", .int (-5))]).IsJson :=
    .map (List.forall_mem_singleton.2 ⟨"", rfl⟩) (by decide) (List.forall_mem_singleton.2 (.int _))
  rintro context ⟨⟩
  exact .map (List.forall_mem_cons.2 ⟨⟨"module", rfl⟩, List.forall_mem_singleton.2 ⟨"é", rfl⟩⟩)
    (by decide) (List.forall_mem_cons.2 ⟨hlist, List.forall_mem_singleton.2 hmap⟩)

/-- The texts stay in their places, although the record tries to forge. -/
theorem tells_of_line_forging :
    (∀ context ∈ forgingRecord.context, (Value.map context).IsJson) ∧
      LineFormat.json.line (some "a") forgingRecord = .ok (CodePoint.ofText forgingLine) ∧
      (∀ c ∈ forgingLine.toList, IsPrintable c) ∧
      ∃ entries, Json.read forgingLine = .ok (.map entries) ∧
        Tells (some "a") forgingRecord entries := by
  have hjson : jsonLine (some "a") forgingRecord = .ok forgingLine :=
    eq_ok_of_toOption (by decide +kernel)
  have hline : LineFormat.json.line (some "a") forgingRecord =
      .ok (CodePoint.ofText forgingLine) := by
    rw [LineFormat.line, hjson, Except.map]
  obtain ⟨text, htext, htells⟩ := (tells_of_line isJson_forgingContext).2 _ hline
  obtain rfl := CodePoint.ofText_inj.1 htext
  exact ⟨isJson_forgingContext, hline, htells⟩

/-- A record whose arguments name the two halves of a surrogate pair. -/
def halvesRecord : LogRecord where
  logger := "app"
  level := 20
  message := .text "%c%c"
  arguments := .positional [.int 0xD83D, .int 0xDE00]
  created := .whole 0
  stamp := none
  context := none
  error := none

/-- The line of the record. -/
def halvesLine : String :=
  "\x7b\"timestamp\": \"1970-01-01T00:00:00+00:00\", \"level\": \"INFO\", " ++
  "\"module\": \"app\", \"message\": \"\\ud83d\\ude00\"\x7d"

/-- The message of the record is two halves, and what is read from its line is one character. -/
theorem message_of_line_halves :
    halvesRecord.messageCodes = .ok [.half 0x3D, .half 0x600] ∧
      LineFormat.json.line none halvesRecord = .ok (CodePoint.ofText halvesLine) ∧
      ∃ entries, Json.read halvesLine = .ok (.map entries) ∧
        named? entries "message" = some (.text [.char '😀']) := by
  have hmessage : halvesRecord.messageCodes = .ok [.half 0x3D, .half 0x600] :=
    eq_ok_of_toOption (by decide +kernel)
  have hjson : jsonLine none halvesRecord = .ok halvesLine :=
    eq_ok_of_toOption (by decide +kernel)
  have hline : LineFormat.json.line none halvesRecord = .ok (CodePoint.ofText halvesLine) := by
    rw [LineFormat.line, hjson, Except.map]
  obtain ⟨time, message, -, hcodes, -, hwritten⟩ := json_line_eq_ok_iff.1 hline
  rw [hmessage] at hcodes
  obtain rfl := Except.ok.inj hcodes
  have hsound : (Json.Tree.map (jsonEntries time.text [.half 0x3D, .half 0x600] none none
      halvesRecord)).Sound := sound_jsonEntries _ _ _ _ fun _ h => (by cases h)
  have hread := Json.read_write_tree hsound
  rw [Json.Tree.joined, joined_jsonEntries fun _ h => (by cases h)] at hread
  have htext : halvesLine = Json.write (.map (jsonEntries time.text [.half 0x3D, .half 0x600] none
    none halvesRecord)) := CodePoint.ofText_inj.1 hwritten
  rw [← htext] at hread
  exact ⟨hmessage, hline, _, hread, rfl⟩

end LineFormat

end StorageReply
