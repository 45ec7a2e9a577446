import StorageReply.Proofs.Config.Merge
import StorageReply.Proofs.Json.Numbers
import StorageReply.Proofs.Json.Strings
import StorageReply.Proofs.Value.Numerals

/-!
# Trees that are read back

A tree that is written on one line is read back with the same entries in the same order, and with
each two halves that make a pair as one character (`read_write_tree`), if the tree is sound
(`Tree.Sound`): no integer in it is too long for a numeral, and its floating-point numbers are of
the format. What is written are printable characters of ASCII (`isPrintable_writeAt`). A value that
JSON can hold (`Value.IsJson`) has such a tree unless an integer in it is too long
(`isSome_tree?_iff`), and the tree has the value again (`spells_of_tree?`).

The reading goes by the parts of the text. A text stands for a tree (`Stands`) if the tree is read
from it wherever a list or a map goes on after it, with the length of the text for fuel: this much
is enough, since each level of a tree takes two characters at least.
-/

namespace StorageReply

/-- The values that JSON can hold. -/
inductive Value.IsJson : Value → Prop
  /-- The absent value. -/
  | null : IsJson .null
  /-- A truth value. -/
  | bool (b : Bool) : IsJson (.bool b)
  /-- An integer of any size. -/
  | int (i : Int) : IsJson (.int i)
  /-- A floating-point number of the format. -/
  | float {x : Number.Binary64} (h : x.Representable) : IsJson (.float x)
  /-- A text. -/
  | text (s : String) : IsJson (.text s)
  /-- A list of such values. -/
  | list {items : List Value} (h : ∀ v ∈ items, IsJson v) : IsJson (.list items)
  /-- A map from different texts to such values. -/
  | map {entries : List (Key × Value)} (hkeys : ∀ entry ∈ entries, ∃ name, entry.1 = .text name)
      (hnodup : (Fields.keys entries).Nodup) (h : ∀ entry ∈ entries, IsJson entry.2) :
      IsJson (.map entries)

namespace Fields

theorem put_of_notMem {m : Fields} {k : Key} (h : k ∉ m.keys) (v : Value) :
    put m k v = m ++ [(k, v)] := by
  induction m with
  | nil => rfl
  | cons entry m ih =>
    obtain ⟨hne, hrest⟩ := not_or.1 (mt List.mem_cons.2 h)
    rw [put, if_neg (Ne.symm hne), ih hrest, List.cons_append]

theorem foldl_put {before pairs : Fields} (h : (keys (before ++ pairs)).Nodup) :
    pairs.foldl (fun fields entry => put fields entry.1 entry.2) before = before ++ pairs := by
  induction pairs generalizing before with
  | nil => exact (List.append_nil before).symm
  | cons entry pairs ih =>
    have hfresh : entry.1 ∉ before.keys := by
      rw [keys, List.map_append, List.map_cons] at h
      exact fun hmem => (List.nodup_append.1 h).2.2 _ hmem _ (List.mem_cons_self ..) rfl
    have hassoc : before ++ [entry] ++ pairs = before ++ entry :: pairs := by simp
    rw [List.foldl_cons, put_of_notMem hfresh, ih (hassoc ▸ h), hassoc]

/-- Pairs with different keys are a map as they stand. -/
theorem ofPairs_of_nodup {pairs : Fields} (h : (keys pairs).Nodup) : ofPairs pairs = pairs :=
  foldl_put (List.nil_append pairs ▸ h)

end Fields

namespace Json

open Number Text

namespace Tree

/-- The trees that are written so that they can be read: an integer has a numeral, and a
floating-point number is one of the format. -/
inductive Sound : Tree → Prop
  /-- The absent value. -/
  | null : Sound .null
  /-- A truth value. -/
  | bool (b : Bool) : Sound (.bool b)
  /-- An integer with a numeral. -/
  | int {i : Int} (h : hasNumeral i = true) : Sound (.int i)
  /-- A floating-point number of the format. -/
  | float {x : Binary64} (h : x.Representable) : Sound (.float x)
  /-- A text. -/
  | text (codes : List CodePoint) : Sound (.text codes)
  /-- A list of such trees. -/
  | list {items : List Tree} (h : ∀ t ∈ items, Sound t) : Sound (.list items)
  /-- A map to such trees. -/
  | map {entries : Entries} (h : ∀ entry ∈ entries, Sound entry.2) : Sound (.map entries)

mutual

/-- The tree with two halves that make a pair as one character, in all its texts. -/
def joined : Tree → Tree
  | .null => .null
  | .bool b => .bool b
  | .int i => .int i
  | .float x => .float x
  | .text codes => .text (CodePoint.joined codes)
  | .list items => .list (joinedItems items)
  | .map entries => .map (joinedEntries entries)

/-- The members of a list with joined texts. -/
def joinedItems : List Tree → List Tree
  | [] => []
  | t :: rest => t.joined :: joinedItems rest

/-- The entries of a map with joined names and texts. -/
def joinedEntries : List (List CodePoint × Tree) → List (List CodePoint × Tree)
  | [] => []
  | (name, t) :: rest => (CodePoint.joined name, t.joined) :: joinedEntries rest

end

end Tree

/-! ## Texts that stand for trees -/

/-- Whether a text stands for a tree, whatever follows a member of a list or a map. -/
structure Stands (t : Tree) (text : List Char) : Prop where
  /-- The text begins with no blank, and ends no list and no map. -/
  begins : ∃ c ∈ text.head?, isSpace c = false ∧ c ≠ ']' ∧ c ≠ '\x7d'
  /-- The tree is read from the text, which has the fuel for it. -/
  read : ∀ (fuel : Nat) (rest : List Char), text.length ≤ fuel → Closed rest →
    value? digitLimit fuel (text ++ rest) = .ok (t, rest)

theorem closed_comma (s : List Char) : Closed (',' :: s) := by
  rintro c ⟨⟩
  exact .inl rfl

theorem closed_bracket (s : List Char) : Closed (']' :: s) := by
  rintro c ⟨⟩
  exact .inr (.inl rfl)

theorem closed_brace (s : List Char) : Closed ('\x7d' :: s) := by
  rintro c ⟨⟩
  exact .inr (.inr rfl)

theorem skipSpace_of_head {s : List Char} (h : ∃ c ∈ s.head?, isSpace c = false) :
    skipSpace s = s := by
  obtain ⟨c, hc, hspace⟩ := h
  cases s with
  | nil => cases hc
  | cons d s =>
    obtain rfl : d = c := Option.some.inj hc
    rw [skipSpace, List.dropWhile_cons_of_neg (by simp [hspace])]

/-- A text that is no string, no list and no map is read as a scalar. -/
theorem Stands.of_scalar {t : Tree} {text : List Char}
    (hhead : ∃ c ∈ text.head?, c.isAlphanum = true ∨ c = '-')
    (h : ∀ rest, Closed rest → scalar? digitLimit (text ++ rest) = .ok (t, rest)) :
    Stands t text := by
  obtain ⟨c, hc, hmark⟩ := hhead
  have hne : ∀ d : Char, d.isAlphanum = false → d ≠ '-' → c ≠ d := by
    rintro d hd hdash rfl
    rcases hmark with hmark | hmark
    · exact absurd hmark (by simp [hd])
    · exact hdash hmark
  cases text with
  | nil => cases hc
  | cons d text =>
    obtain rfl : d = c := Option.some.inj hc
    refine ⟨⟨d, rfl, ?_, hne ']' (by decide) (by decide), hne '\x7d' (by decide) (by decide)⟩, ?_⟩
    · simp [isSpace, hne ' ' (by decide) (by decide), hne '\t' (by decide) (by decide),
        hne '\n' (by decide) (by decide), hne '\r' (by decide) (by decide)]
    · intro fuel rest hfuel hrest
      obtain ⟨fuel, rfl⟩ := Nat.exists_eq_succ_of_ne_zero (Nat.ne_zero_of_lt hfuel)
      have hread := h rest hrest
      rw [List.cons_append] at hread ⊢
      rw [value?, hread]
      · exact fun heq => by cases heq
      all_goals
        intro tail heq
        exact hne _ (by decide) (by decide) (List.cons.inj heq).1

theorem Stands.exists_head {t : Tree} {text : List Char} (h : Stands t text) :
    ∃ c ∈ text.head?, isSpace c = false :=
  let ⟨c, hc, hspace, _⟩ := h.begins
  ⟨c, hc, hspace⟩

theorem Stands.length_pos {t : Tree} {text : List Char} (h : Stands t text) : 0 < text.length := by
  obtain ⟨c, hc, -⟩ := h.begins
  cases text with
  | nil => cases hc
  | cons d text => exact Nat.succ_pos _

theorem stands_text (codes : List CodePoint) :
    Stands (.text (CodePoint.joined codes)) (quoteText codes).toList := by
  rw [toList_quoteText]
  refine ⟨⟨'"', rfl, by decide⟩, fun fuel rest hfuel _ => ?_⟩
  obtain ⟨fuel, rfl⟩ := Nat.exists_eq_succ_of_ne_zero (Nat.ne_zero_of_lt hfuel)
  rw [List.cons_append, List.append_assoc, List.singleton_append, value?, stringBody?_quoted]

/-! ## Lists -/

theorem joined_cons_cons (between text next : List Char) (texts : List (List Char)) :
    joined between (text :: next :: texts) = text ++ (between ++ joined between (next :: texts)) :=
  List.append_assoc ..

/-- The text of a list or a map with its brackets, which stand alone without members. -/
theorem toList_enclosed (depth : Nat) (left right : String) (parts : List String) :
    (enclosed oneLine depth left right parts).toList =
      left.toList ++ (joined [',', ' '] (parts.map String.toList) ++ right.toList) := by
  cases parts with
  | nil => simp [enclosed, joined]
  | cons part parts => simp [enclosed, oneLine, joinedStrings]

theorem mem_head?_joined {between text : List Char} {c : Char} (h : c ∈ text.head?)
    (texts : List (List Char)) (s : List Char) :
    c ∈ (joined between (text :: texts) ++ s).head? := by
  cases text with
  | nil => cases h
  | cons d text =>
    cases texts with
    | nil => exact h
    | cons next texts => exact h

/-- Only the blank between two members is skipped. -/
theorem skipSpace_blank_joined {text : List Char} (h : ∃ c ∈ text.head?, isSpace c = false)
    (texts : List (List Char)) (s : List Char) :
    skipSpace (' ' :: (joined [',', ' '] (text :: texts) ++ s)) =
      joined [',', ' '] (text :: texts) ++ s := by
  obtain ⟨c, hc, hspace⟩ := h
  exact skipSpace_of_head ⟨c, mem_head?_joined hc texts s, hspace⟩

theorem items?_last {limit fuel : Nat} {s rest : List Char} {t : Tree}
    (h : value? limit fuel s = .ok (t, ']' :: rest)) :
    items? limit (fuel + 1) s = .ok ([t], rest) := by
  rw [items?, h]
  rfl

theorem items?_next {limit fuel : Nat} {s tail : List Char} {t : Tree}
    (h : value? limit fuel s = .ok (t, ',' :: tail)) :
    items? limit (fuel + 1) s =
      (items? limit fuel (skipSpace tail)).map fun (ts, rest) => (t :: ts, rest) := by
  rw [items?, h]
  rfl

/-- **The members of a list** are read up to its bracket. -/
theorem items?_joined {items : List Tree} {texts : List (List Char)}
    (h : List.Forall₂ Stands items texts) (hne : items ≠ []) {fuel : Nat}
    (hfuel : (joined [',', ' '] texts).length < fuel) (rest : List Char) :
    items? digitLimit fuel (joined [',', ' '] texts ++ ']' :: rest) = .ok (items, rest) := by
  induction h generalizing fuel with
  | nil => exact absurd rfl hne
  | @cons t text ts texts ht hts ih =>
    obtain ⟨fuel, rfl⟩ := Nat.exists_eq_succ_of_ne_zero (Nat.ne_zero_of_lt hfuel)
    cases hts with
    | nil => exact items?_last (ht.read fuel _ (Nat.le_of_lt_succ hfuel) (closed_bracket rest))
    | @cons u next ts texts hu hts =>
      -- the first member has a character at least, which pays for the step
      have hpos := ht.length_pos
      rw [joined_cons_cons, List.length_append, List.length_append] at hfuel
      have hlength : (joined [',', ' '] (next :: texts)).length < fuel := by omega
      have hfirst := ht.read fuel _ (by omega)
        (closed_comma (' ' :: (joined [',', ' '] (next :: texts) ++ ']' :: rest)))
      have hrest := ih (List.cons_ne_nil _ _) hlength
      rw [joined_cons_cons, List.append_assoc]
      refine (items?_next hfirst).trans ?_
      rw [skipSpace_blank_joined hu.exists_head, hrest]
      rfl

theorem value?_list {limit fuel : Nat} {s rest : List Char} {items : List Tree}
    (hhead : ∃ c ∈ s.head?, isSpace c = false ∧ c ≠ ']')
    (h : items? limit fuel s = .ok (items, rest)) :
    value? limit (fuel + 1) ('[' :: s) = .ok (.list items, rest) := by
  obtain ⟨c, hc, hspace, hne⟩ := hhead
  rw [value?, skipSpace_of_head ⟨c, hc, hspace⟩]
  split
  · exact absurd (Option.some.inj hc) (Ne.symm hne)
  · rw [h]
    rfl

/-- The text of a list stands for it. -/
theorem stands_list {items : List Tree} {texts : List (List Char)}
    (h : List.Forall₂ Stands items texts) :
    Stands (.list items) ('[' :: (joined [',', ' '] texts ++ [']'])) := by
  refine ⟨⟨'[', rfl, by decide⟩, fun fuel rest hfuel _ => ?_⟩
  obtain ⟨fuel, rfl⟩ := Nat.exists_eq_succ_of_ne_zero (Nat.ne_zero_of_lt hfuel)
  rw [List.cons_append, List.append_assoc, List.singleton_append]
  cases h with
  | nil => rfl
  | @cons t text ts texts ht hts =>
    obtain ⟨c, hc, hspace, hne, -⟩ := ht.begins
    rw [List.length_cons, List.length_append, List.length_singleton] at hfuel
    exact value?_list ⟨c, mem_head?_joined hc texts _, hspace, hne⟩
      (items?_joined (.cons ht hts) (List.cons_ne_nil _ _) (by omega) rest)

/-! ## Maps -/

/-- Whether a text stands for an entry of a map. -/
def StandsEntry (entry : List CodePoint × Tree) (text : List Char) : Prop :=
  ∃ name valueText, entry.1 = CodePoint.joined name ∧ Stands entry.2 valueText ∧
    text = (quoteText name).toList ++ (':' :: ' ' :: valueText)

theorem StandsEntry.mem_head? {entry : List CodePoint × Tree} {text : List Char}
    (h : StandsEntry entry text) : '"' ∈ text.head? := by
  obtain ⟨name, valueText, -, -, rfl⟩ := h
  rw [toList_quoteText]
  rfl

theorem entries?_last {limit fuel : Nat} {name : List CodePoint} {s rest : List Char} {t : Tree}
    (h : value? limit fuel (skipSpace s) = .ok (t, '\x7d' :: rest)) :
    entries? limit (fuel + 1) ((quoteText name).toList ++ (':' :: s)) =
      .ok ([(CodePoint.joined name, t)], rest) := by
  have hcolon : skipSpace (':' :: s) = ':' :: s := rfl
  rw [toList_quoteText, List.cons_append, List.append_assoc, List.singleton_append, entries?,
    stringBody?_quoted]
  simp only [hcolon, h]
  rfl

theorem entries?_next {limit fuel : Nat} {name : List CodePoint} {s tail : List Char} {t : Tree}
    (h : value? limit fuel (skipSpace s) = .ok (t, ',' :: tail)) :
    entries? limit (fuel + 1) ((quoteText name).toList ++ (':' :: s)) =
      (entries? limit fuel (skipSpace tail)).map fun (entries, rest) =>
        ((CodePoint.joined name, t) :: entries, rest) := by
  have hcolon : skipSpace (':' :: s) = ':' :: s := rfl
  rw [toList_quoteText, List.cons_append, List.append_assoc, List.singleton_append, entries?,
    stringBody?_quoted]
  simp only [hcolon, h]
  rfl

/-- **The entries of a map** are read up to its brace. -/
theorem entries?_joined {entries : Entries} {texts : List (List Char)}
    (h : List.Forall₂ StandsEntry entries texts) (hne : entries ≠ []) {fuel : Nat}
    (hfuel : (joined [',', ' '] texts).length < fuel) (rest : List Char) :
    entries? digitLimit fuel (joined [',', ' '] texts ++ '\x7d' :: rest) = .ok (entries, rest) := by
  induction h generalizing fuel with
  | nil => exact absurd rfl hne
  | @cons entry text entries texts hentry hentries ih =>
    obtain ⟨fuel, rfl⟩ := Nat.exists_eq_succ_of_ne_zero (Nat.ne_zero_of_lt hfuel)
    obtain ⟨name, t⟩ := entry
    obtain ⟨name, valueText, rfl, ht, rfl⟩ := hentry
    have hvalue : ∀ s, skipSpace (' ' :: (valueText ++ s)) = valueText ++ s := by
      intro s
      simpa [joined] using skipSpace_blank_joined ht.exists_head [] s
    cases hentries with
    | nil =>
      simp only [joined, List.length_append, List.length_cons] at hfuel ⊢
      rw [List.append_assoc, List.cons_append, List.cons_append]
      refine entries?_last ?_
      rw [hvalue]
      exact ht.read fuel _ (by omega) (closed_brace rest)
    | @cons other next entries texts hother hentries =>
      rw [joined_cons_cons, List.length_append, List.length_append, List.length_append,
        List.length_cons, List.length_cons] at hfuel
      have hlength : (joined [',', ' '] (next :: texts)).length < fuel := by omega
      have hrest := ih (List.cons_ne_nil _ _) hlength
      have hfirst := ht.read fuel _ (by omega)
        (closed_comma (' ' :: (joined [',', ' '] (next :: texts) ++ '\x7d' :: rest)))
      rw [← hvalue] at hfirst
      rw [joined_cons_cons, List.append_assoc, List.append_assoc]
      refine (entries?_next hfirst).trans ?_
      rw [skipSpace_blank_joined ⟨'"', hother.mem_head?, rfl⟩, hrest]
      rfl

theorem value?_map {limit fuel : Nat} {s rest : List Char} {entries : Entries}
    (hhead : '"' ∈ s.head?) (h : entries? limit fuel s = .ok (entries, rest)) :
    value? limit (fuel + 1) ('\x7b' :: s) = .ok (.map entries, rest) := by
  rw [value?, skipSpace_of_head ⟨'"', hhead, rfl⟩]
  split
  · cases hhead
  · rw [h]
    rfl

/-- The text of a map stands for it. -/
theorem stands_map {entries : Entries} {texts : List (List Char)}
    (h : List.Forall₂ StandsEntry entries texts) :
    Stands (.map entries) ('\x7b' :: (joined [',', ' '] texts ++ ['\x7d'])) := by
  refine ⟨⟨'\x7b', rfl, by decide⟩, fun fuel rest hfuel _ => ?_⟩
  obtain ⟨fuel, rfl⟩ := Nat.exists_eq_succ_of_ne_zero (Nat.ne_zero_of_lt hfuel)
  rw [List.cons_append, List.append_assoc, List.singleton_append]
  cases h with
  | nil => rfl
  | @cons entry text entries texts hentry hentries =>
    rw [List.length_cons, List.length_append, List.length_singleton] at hfuel
    have hlength : (joined [',', ' '] (text :: texts)).length < fuel := by omega
    have hread := entries?_joined (.cons hentry hentries) (List.cons_ne_nil _ _) hlength rest
    exact value?_map (mem_head?_joined hentry.mem_head? texts _) hread

/-! ## Trees -/

theorem forall₂_writeItems {depth : Nat} {items : List Tree}
    (h : ∀ t ∈ items, ∀ depth, Stands t.joined (writeAt oneLine depth t).toList) :
    List.Forall₂ Stands (Tree.joinedItems items)
      ((writeItems oneLine depth items).map String.toList) := by
  induction items with
  | nil => exact .nil
  | cons t items ih =>
    obtain ⟨ht, hitems⟩ := List.forall_mem_cons.1 h
    exact .cons (ht depth) (ih hitems)

theorem forall₂_writeEntries {depth : Nat} {entries : Entries}
    (h : ∀ entry ∈ entries, ∀ depth,
      Stands entry.2.joined (writeAt oneLine depth entry.2).toList) :
    List.Forall₂ StandsEntry (Tree.joinedEntries entries)
      ((writeEntries oneLine depth entries).map String.toList) := by
  induction entries with
  | nil => exact .nil
  | cons entry entries ih =>
    obtain ⟨hentry, hentries⟩ := List.forall_mem_cons.1 h
    refine .cons ⟨entry.1, (writeAt oneLine depth entry.2).toList, rfl, hentry depth, ?_⟩
      (ih hentries)
    simp [String.toList_append]

/-- **The text that is written for a tree** stands for it, with joined texts. -/
theorem stands_writeAt {t : Tree} (h : t.Sound) (depth : Nat) :
    Stands t.joined (writeAt oneLine depth t).toList := by
  induction h generalizing depth with
  | null =>
    rw [writeAt]
    exact .of_scalar ⟨'n', rfl, .inl rfl⟩ fun _ _ => rfl
  | bool b =>
    rw [writeAt]
    cases b with
    | true => exact .of_scalar ⟨'t', rfl, .inl rfl⟩ fun _ _ => rfl
    | false => exact .of_scalar ⟨'f', rfl, .inl rfl⟩ fun _ _ => rfl
  | int h => exact .of_scalar (exists_head_numeral _) fun _ hrest => scalar?_numeral hrest h
  | float h =>
    exact .of_scalar (exists_head_floatText h) fun _ hrest => scalar?_floatText hrest h digitLimit
  | text codes => exact stands_text codes
  | list _ ih =>
    rw [writeAt, toList_enclosed]
    exact stands_list (forall₂_writeItems ih)
  | map _ ih =>
    rw [writeAt, toList_enclosed]
    exact stands_map (forall₂_writeEntries ih)

/-- **A tree that is written on one line is read back**, with joined texts. -/
theorem read_write_tree {t : Tree} (h : t.Sound) : read (write t) = .ok t.joined := by
  have hstands := stands_writeAt h 0
  have hread := hstands.read (2 * (write t).toList.length + 2) []
    (Nat.le_trans (Nat.le_mul_of_pos_left _ (by decide)) (Nat.le_add_right ..)) fun _ hc => by
      cases hc
  rw [List.append_nil] at hread
  rw [read, readWithin, write, skipSpace_of_head hstands.exists_head]
  rw [write] at hread
  rw [hread]
  rfl

/-! ## The trees of values -/

/-- Whether a tree is read back as it stands and has a value. -/
structure Tree.Spells (t : Tree) (v : Value) : Prop where
  /-- The tree is written so that it can be read. -/
  sound : t.Sound
  /-- No text in it has two halves that make a pair. -/
  joined : t.joined = t
  /-- The tree has the value. -/
  value : t.value = v

theorem spells_of_trees? {items : List Value} {trees : List Tree}
    (htrees : trees? items = some trees)
    (h : ∀ v ∈ items, ∀ {t}, tree? v = some t → t.Spells v) :
    (∀ t ∈ trees, t.Sound) ∧ Tree.joinedItems trees = trees ∧ Tree.values trees = items := by
  induction items generalizing trees with
  | nil =>
    obtain rfl := Option.some.inj htrees
    exact ⟨List.forall_mem_nil _, rfl, rfl⟩
  | cons v items ih =>
    simp only [trees?, Option.bind_eq_bind, Option.bind_eq_some_iff, Option.pure_def,
      Option.some.injEq] at htrees
    obtain ⟨t, ht, trees, hitems, rfl⟩ := htrees
    have hfirst := h v (List.mem_cons_self ..) ht
    obtain ⟨hsound, hjoined, hvalues⟩ := ih hitems fun w hw => h w (List.mem_cons_of_mem _ hw)
    refine ⟨List.forall_mem_cons.2 ⟨hfirst.sound, hsound⟩, ?_, ?_⟩
    · rw [Tree.joinedItems, hfirst.joined, hjoined]
    · rw [Tree.values, hfirst.value, hvalues]

theorem spells_of_spelled? {fields : List (Key × Value)} {entries : Entries}
    (hentries : spelled? fields = some entries)
    (hkeys : ∀ field ∈ fields, ∃ name, field.1 = .text name)
    (h : ∀ field ∈ fields, ∀ {t}, tree? field.2 = some t → t.Spells field.2) :
    (∀ entry ∈ entries, entry.2.Sound) ∧ Tree.joinedEntries entries = entries ∧
      Tree.pairs entries = fields := by
  induction fields generalizing entries with
  | nil =>
    obtain rfl := Option.some.inj hentries
    exact ⟨List.forall_mem_nil _, rfl, rfl⟩
  | cons field fields ih =>
    obtain ⟨k, v⟩ := field
    obtain ⟨name, rfl⟩ := hkeys (k, v) (List.mem_cons_self ..)
    simp only [spelled?, Option.bind_eq_bind, Option.bind_eq_some_iff, Option.pure_def,
      Option.some.injEq] at hentries
    obtain ⟨t, ht, entries, hfields, rfl⟩ := hentries
    have hfirst := h _ (List.mem_cons_self ..) ht
    obtain ⟨hsound, hjoined, hpairs⟩ := ih hfields
      (fun other hmem => hkeys other (List.mem_cons_of_mem _ hmem))
      fun other hmem => h other (List.mem_cons_of_mem _ hmem)
    refine ⟨List.forall_mem_cons.2 ⟨hfirst.sound, hsound⟩, ?_, ?_⟩
    · rw [Tree.joinedEntries, hfirst.joined, hjoined, CodePoint.joined_ofText]
    · rw [Tree.pairs, hfirst.value, hpairs, plainText_ofText, keyName]

/-- **The tree of a value** that JSON can hold is read back as it stands, and has the value. -/
theorem spells_of_tree? {v : Value} (h : v.IsJson) {t : Tree} (ht : tree? v = some t) :
    t.Spells v := by
  induction h generalizing t with
  | null =>
    obtain rfl := Option.some.inj ht
    exact ⟨.null, rfl, rfl⟩
  | bool b =>
    obtain rfl := Option.some.inj ht
    exact ⟨.bool b, rfl, rfl⟩
  | int i =>
    rw [tree?] at ht
    split at ht
    · rename_i hnumeral
      obtain rfl := Option.some.inj ht
      exact ⟨.int hnumeral, rfl, rfl⟩
    · cases ht
  | float hx =>
    obtain rfl := Option.some.inj ht
    exact ⟨.float hx, rfl, rfl⟩
  | text s =>
    obtain rfl := Option.some.inj ht
    exact ⟨.text _, by rw [Tree.joined, CodePoint.joined_ofText],
      by rw [Tree.value, plainText_ofText]⟩
  | list _ ih =>
    obtain ⟨trees, htrees, rfl⟩ := Option.map_eq_some_iff.1 ht
    obtain ⟨hsound, hjoined, hvalues⟩ := spells_of_trees? htrees ih
    exact ⟨.list hsound, by rw [Tree.joined, hjoined], by rw [Tree.value, hvalues]⟩
  | map hkeys hnodup _ ih =>
    obtain ⟨entries, hentries, rfl⟩ := Option.map_eq_some_iff.1 ht
    obtain ⟨hsound, hjoined, hpairs⟩ := spells_of_spelled? hentries hkeys ih
    exact ⟨.map hsound, by rw [Tree.joined, hjoined],
      by rw [Tree.value, hpairs, Fields.ofPairs_of_nodup hnodup]⟩

theorem isSome_trees?_iff {items : List Value}
    (h : ∀ v ∈ items, (tree? v).isSome ↔ ∀ i ∈ v.integers, hasNumeral i = true) :
    (trees? items).isSome ↔ ∀ i ∈ Value.integersOfItems items, hasNumeral i = true := by
  induction items with
  | nil => simp [trees?, Value.integersOfItems]
  | cons v items ih =>
    obtain ⟨hv, hitems⟩ := List.forall_mem_cons.1 h
    rw [Value.integersOfItems, List.forall_mem_append, ← hv, ← ih hitems, trees?]
    cases tree? v <;> cases trees? items <;> simp

theorem isSome_spelled?_iff {fields : List (Key × Value)}
    (h : ∀ field ∈ fields, (tree? field.2).isSome ↔ ∀ i ∈ field.2.integers, hasNumeral i = true) :
    (spelled? fields).isSome ↔ ∀ i ∈ Value.integersOfEntries fields, hasNumeral i = true := by
  induction fields with
  | nil => simp [spelled?, Value.integersOfEntries]
  | cons field fields ih =>
    obtain ⟨k, v⟩ := field
    obtain ⟨hv, hfields⟩ := List.forall_mem_cons.1 h
    rw [Value.integersOfEntries, List.forall_mem_append, ← hv, ← ih hfields, spelled?]
    cases tree? v <;> cases spelled? fields <;> simp

/-- A value that JSON can hold has a tree unless an integer in it has too many digits. -/
theorem isSome_tree?_iff {v : Value} (h : v.IsJson) :
    (tree? v).isSome ↔ ∀ i ∈ v.integers, hasNumeral i = true := by
  induction h with
  | int i => by_cases h : hasNumeral i = true <;> simp [tree?, Value.integers, h]
  | list _ ih => simpa [tree?, Value.integers] using isSome_trees?_iff ih
  | map _ _ _ ih => simpa [tree?, Value.integers] using isSome_spelled?_iff ih
  | _ => simp [tree?, Value.integers]

/-! ## The characters of a text -/

theorem isPrintable_of_mem_joined {texts : List (List Char)}
    (h : ∀ text ∈ texts, ∀ c ∈ text, IsPrintable c) :
    ∀ c ∈ joined [',', ' '] texts, IsPrintable c := by
  induction texts with
  | nil => exact fun _ hc => by cases hc
  | cons text texts ih =>
    obtain ⟨htext, hrest⟩ := List.forall_mem_cons.1 h
    cases texts with
    | nil => exact htext
    | cons next texts =>
      rw [joined_cons_cons, List.forall_mem_append, List.forall_mem_append]
      exact ⟨htext, isPrintable_of_all rfl, ih hrest⟩

theorem isPrintable_of_mem_enclosed {depth : Nat} {left right : String} {parts : List String}
    (hleft : ∀ c ∈ left.toList, IsPrintable c) (hright : ∀ c ∈ right.toList, IsPrintable c)
    (h : ∀ part ∈ parts, ∀ c ∈ part.toList, IsPrintable c) :
    ∀ c ∈ (enclosed oneLine depth left right parts).toList, IsPrintable c := by
  rw [toList_enclosed, List.forall_mem_append, List.forall_mem_append]
  exact ⟨hleft, isPrintable_of_mem_joined (List.forall_mem_map.2 h), hright⟩

mutual

/-- **What is written on one line** are printable characters. -/
theorem isPrintable_writeAt (depth : Nat) (t : Tree) :
    ∀ c ∈ (writeAt oneLine depth t).toList, IsPrintable c := by
  cases t with
  | null =>
    rw [writeAt]
    exact isPrintable_of_all rfl
  | bool b =>
    rw [writeAt]
    cases b <;> exact isPrintable_of_all rfl
  | int i => exact fun _ => isPrintable_of_mem_numeral
  | float x => exact fun _ => isPrintable_of_mem_floatText
  | text codes => exact fun _ => isPrintable_of_mem_quoteText
  | list items =>
    exact isPrintable_of_mem_enclosed (isPrintable_of_all rfl) (isPrintable_of_all rfl)
      (isPrintable_writeItems (depth + 1) items)
  | map entries =>
    exact isPrintable_of_mem_enclosed (isPrintable_of_all rfl) (isPrintable_of_all rfl)
      (isPrintable_writeEntries (depth + 1) entries)

theorem isPrintable_writeItems (depth : Nat) (items : List Tree) :
    ∀ part ∈ writeItems oneLine depth items, ∀ c ∈ part.toList, IsPrintable c := by
  cases items with
  | nil => exact List.forall_mem_nil _
  | cons t items =>
    exact List.forall_mem_cons.2
      ⟨isPrintable_writeAt depth t, isPrintable_writeItems depth items⟩

theorem isPrintable_writeEntries (depth : Nat) (entries : List (List CodePoint × Tree)) :
    ∀ part ∈ writeEntries oneLine depth entries, ∀ c ∈ part.toList, IsPrintable c := by
  cases entries with
  | nil => exact List.forall_mem_nil _
  | cons entry entries =>
    obtain ⟨name, t⟩ := entry
    refine List.forall_mem_cons.2 ⟨fun c hc => ?_, isPrintable_writeEntries depth entries⟩
    simp only [String.toList_append, List.mem_append] at hc
    rcases hc with (hc | hc) | hc
    · exact isPrintable_of_mem_quoteText hc
    · exact isPrintable_of_all (s := ": ".toList) rfl c hc
    · exact isPrintable_writeAt depth t c hc

end

end Json

end StorageReply
