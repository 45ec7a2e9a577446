import Mathlib.Data.List.Infix
import Mathlib.Data.List.TakeWhile
import StorageReply.Config.Environment
import StorageReply.Log.Levels

/-!
# Loggers above a logger

Where a logger stands in the tree depends on what was asked for before it, and on names. For a
regular name it depends on the loggers there are and on nothing else: the logger stands below the
nearest name above its own that is a logger, in whatever order they came
(`LoggerTree.Sound.fetch`). So the level that counts for it can be read off the names alone
(`Levels.Placed.effective_eq`), and what is remembered of it is never out of date
(`Levels.Sound.enables_eq_permits`).

* `LoggerTree.Regular`: names without two points in a row that are not below `r`, `ro` or `roo`.
* `LoggerTree.Sound`: all regular loggers stand in their places, and wait where they have to.
* `Levels.Sound`: the same of the levels, with what is remembered.
-/

namespace StorageReply

namespace LoggerTree

/-! ## Names -/

/-- Whether a logger with a name has its place in the tree by the names of the others: there are no
two points in a row in it, and it does not stand below a name that the one of the root begins
with. -/
structure Regular (name : String) : Prop where
  /-- There are no two points in a row. -/
  not_doubled : ¬['.', '.'] <:+: name.toList
  /-- It is not below `r`, `ro` or `roo`. -/
  not_below : ∀ beginning ∈ ["r.", "ro.", "roo."], ¬beginning.toList <+: name.toList

theorem beginnings_cons {c : Char} (h : c ≠ '.') (rest : List Char) :
    beginnings (c :: rest) = beginnings rest := by
  rw [beginnings]
  · exact fun hc _ => h hc
  · exact fun _ _ hc _ => h hc

theorem beginnings_append {last : List Char} (h : '.' ∉ last) (rest : List Char) :
    beginnings (last ++ rest) = beginnings rest := by
  induction last with
  | nil => rfl
  | cons c last ih =>
    obtain ⟨hc, hlast⟩ := List.ne_and_not_mem_of_not_mem_cons h
    rw [List.cons_append, beginnings_cons hc.symm, ih hlast]

theorem eq_append_of_mem_beginnings {letters beginning : List Char}
    (h : beginning ∈ beginnings letters) :
    beginning ≠ [] ∧ ∃ last, letters = last ++ '.' :: beginning.reverse := by
  induction letters using beginnings.induct with
  | case1 => simp [beginnings] at h
  | case2 => simp [beginnings] at h
  | case3 c rest ih =>
    rw [beginnings, List.mem_cons] at h
    rcases h with rfl | h
    · exact ⟨by simp, [], by simp⟩
    · obtain ⟨hne, last, rfl⟩ := ih h
      exact ⟨hne, '.' :: c :: last, rfl⟩
  | case4 c rest hend hpoint ih =>
    rw [beginnings.eq_4 _ _ hend hpoint] at h
    obtain ⟨hne, last, rfl⟩ := ih h
    exact ⟨hne, c :: last, rfl⟩

/-- Without two points in a row, what a name stands below are its beginnings up to one of its
points, and what that stands below. -/
theorem beginnings_eq_append {letters beginning : List Char} (hdoubled : ¬['.', '.'] <:+: letters)
    (h : beginning ∈ beginnings letters) :
    ∃ nearer, beginnings letters = nearer ++ beginning :: beginnings beginning.reverse ∧
      ∀ other ∈ nearer, beginning <+: other ∧ beginning ≠ other := by
  induction letters using beginnings.induct with
  | case1 => simp [beginnings] at h
  | case2 => simp [beginnings] at h
  | case3 c rest ih =>
    have hc : c ≠ '.' := by
      rintro rfl
      exact hdoubled ⟨[], rest, rfl⟩
    rw [beginnings, List.mem_cons] at h
    rcases h with rfl | h
    · exact ⟨[], by rw [List.reverse_reverse, beginnings, beginnings_cons hc]; rfl, by simp⟩
    · have hrest : ¬['.', '.'] <:+: rest := fun hrest =>
        hdoubled (hrest.trans ((List.suffix_append ['.', c] rest).isInfix))
      obtain ⟨nearer, hnearer, hprefix⟩ := ih hrest h
      obtain ⟨-, last, hlast⟩ := eq_append_of_mem_beginnings h
      refine ⟨(c :: rest).reverse :: nearer, by rw [beginnings, hnearer]; rfl, ?_⟩
      rintro other (- | ⟨-, hother⟩)
      · rw [hlast]
        refine ⟨⟨'.' :: (last.reverse ++ [c]), by simp⟩, fun heq => ?_⟩
        simp at heq
      · exact hprefix other hother
  | case4 c rest hend hpoint ih =>
    have hrest : ¬['.', '.'] <:+: rest := fun hrest =>
      hdoubled (hrest.trans ((List.suffix_cons c rest).isInfix))
    rw [beginnings.eq_4 _ _ hend hpoint] at h ⊢
    exact ih hrest h

/-- A name without points has only the root above it. -/
theorem above_top {name : String} (h : '.' ∉ name.toList) : above name = [] := by
  have hnone := beginnings_append (List.mem_reverse.not.2 h) []
  rw [List.append_nil] at hnone
  rw [above, hnone]
  rfl

theorem above_of_isRoot {name : String} (h : isRoot name = true) : above name = [] := by
  rw [isRoot, Bool.or_eq_true, String.isEmpty_iff, beq_iff_eq] at h
  obtain rfl | rfl := h <;> exact above_top (by decide)

/-- Above a name are the one without its last word, and the names above that. -/
theorem above_below {parent last : String} {c : Char} (hend : parent.toList.getLast? = some c)
    (hc : c ≠ '.') (hlast : '.' ∉ last.toList) :
    above (parent ++ "." ++ last) = parent :: above parent := by
  obtain ⟨init, hparent⟩ := List.getLast?_eq_some_iff.1 hend
  have hreverse : parent.toList.reverse = c :: init.reverse := by simp [hparent]
  have hname : (parent ++ "." ++ last).toList.reverse =
      last.toList.reverse ++ '.' :: c :: init.reverse := by
    simp [hreverse]
  rw [above, above, hname, hreverse, beginnings_append (List.mem_reverse.not.2 hlast), beginnings,
    beginnings_cons hc, List.map_cons, ← hreverse, List.reverse_reverse, String.ofList_toList]

variable {name ancestor : String}

theorem mem_above_iff : ancestor ∈ above name ↔
    ancestor.toList ∈ beginnings name.toList.reverse := by
  rw [above, List.mem_map]
  constructor
  · rintro ⟨letters, h, rfl⟩
    rwa [String.toList_ofList]
  · exact fun h => ⟨_, h, String.ofList_toList⟩

/-- A name above another one is a beginning of it up to a point. -/
theorem toList_eq_of_mem_above (h : ancestor ∈ above name) :
    ancestor ≠ "" ∧ ∃ rest, name.toList = ancestor.toList ++ '.' :: rest := by
  obtain ⟨hne, last, hlast⟩ := eq_append_of_mem_beginnings (mem_above_iff.1 h)
  refine ⟨fun h => hne (h ▸ rfl), last.reverse, ?_⟩
  rw [← List.reverse_reverse name.toList, hlast]
  simp

theorem length_lt_of_mem_above (h : ancestor ∈ above name) :
    ancestor.toList.length < name.toList.length := by
  obtain ⟨-, rest, hrest⟩ := toList_eq_of_mem_above h
  rw [hrest, List.length_append, List.length_cons]
  omega

theorem not_mem_above (name : String) : name ∉ above name :=
  fun h => Nat.lt_irrefl _ (length_lt_of_mem_above h)

namespace Regular

theorem of_mem_above (hname : Regular name) (h : ancestor ∈ above name) : Regular ancestor := by
  obtain ⟨-, rest, hrest⟩ := toList_eq_of_mem_above h
  have hprefix : ancestor.toList <+: name.toList := ⟨_, hrest.symm⟩
  exact ⟨fun hdoubled => hname.not_doubled (hdoubled.trans hprefix.isInfix),
    fun beginning hmem hbelow => hname.not_below beginning hmem (hbelow.trans hprefix)⟩

/-- The name of the root does not begin with one above a regular name. -/
theorem not_prefix_rootName (hname : Regular name) (h : ancestor ∈ above name)
    (hroot : ancestor ≠ rootName) : ¬ancestor.toList <+: rootName.toList := by
  obtain ⟨hne, rest, hrest⟩ := toList_eq_of_mem_above h
  intro hprefix
  have hbelow : ∀ beginning ∈ ["r.", "ro.", "roo."], beginning.toList ≠ ancestor.toList ++ ['.'] :=
    fun beginning hmem heq => hname.not_below beginning hmem ⟨rest, by rw [heq, hrest]; simp⟩
  have hmem : ancestor.toList ∈ ["", "r", "ro", "roo", rootName].map String.toList :=
    (List.mem_inits _ _).2 hprefix
  obtain ⟨beginning, hbeginning, heq⟩ := List.mem_map.1 hmem
  obtain rfl := String.toList_inj.1 heq
  simp only [List.mem_cons, List.not_mem_nil, or_false] at hbeginning
  rcases hbeginning with rfl | rfl | rfl | rfl | rfl
  · exact hne rfl
  · exact hbelow "r." (by simp) rfl
  · exact hbelow "ro." (by simp) rfl
  · exact hbelow "roo." (by simp) rfl
  · exact hroot rfl

/-- Above a regular name are nearer names that begin with one above it, that one, and what is above
that. -/
theorem above_eq_append (hname : Regular name) (h : ancestor ∈ above name) :
    ∃ nearer, above name = nearer ++ ancestor :: above ancestor ∧
      ∀ other ∈ nearer, ancestor.toList <+: other.toList ∧ ancestor ≠ other := by
  have hdoubled : ¬['.', '.'] <:+: name.toList.reverse := fun hdoubled =>
    hname.not_doubled (by simpa using hdoubled.reverse)
  obtain ⟨nearer, hnearer, hprefix⟩ := beginnings_eq_append hdoubled (mem_above_iff.1 h)
  refine ⟨nearer.map String.ofList, ?_, ?_⟩
  · rw [above, hnearer, above]
    simp
  · intro other hother
    obtain ⟨letters, hletters, rfl⟩ := List.mem_map.1 hother
    obtain ⟨hstart, hne⟩ := hprefix letters hletters
    rw [String.toList_ofList]
    exact ⟨hstart, fun heq => hne (by rw [heq, String.toList_ofList])⟩

end Regular

/-! ## Trees -/

variable {tree : LoggerTree} {child : String} {node : LoggerNode} {parent : Option String}

@[simp] theorem node?_insert (tree : LoggerTree) (name : String) (node : LoggerNode)
    (other : String) :
    (tree.insert name node).node? other = if other = name then some node else tree.node? other := by
  rw [node?, insert, List.lookup_cons, Environment.lookup_filter]
  by_cases h : other = name
  · rw [h, beq_self_eq_true, if_pos rfl, if_pos rfl]
  · rw [beq_eq_false_iff_ne.2 h, if_neg h, if_neg h, node?]

theorem isLogger_iff :
    tree.isLogger name = true ↔ ∃ parent, tree.node? name = some (.logger parent) := by
  rw [isLogger]
  split
  · rename_i parent h
    simp [h]
  · rename_i h
    simpa using h

/-- A name is a logger or not by what it means. -/
theorem isLogger_congr {other : LoggerTree} (h : tree.node? name = other.node? name) :
    tree.isLogger name = other.isLogger name := by
  rw [isLogger, isLogger, h]

theorem waiting_congr {other : LoggerTree} (h : tree.node? name = other.node? name) :
    tree.waiting name = other.waiting name := by
  rw [waiting, waiting, h]

theorem isLogger_insert_logger (tree : LoggerTree) (name : String) (parent : Option String)
    (other : String) : (tree.insert name (.logger parent)).isLogger other =
      (other == name || tree.isLogger other) := by
  rw [isLogger, node?_insert]
  by_cases h : other = name
  · simp [h]
  · simp [h, isLogger]

/-! ## Loggers that move -/

/-- What a logger is after it has moved under a new one, if it has to. -/
def moved (name : String) : LoggerNode → LoggerNode
  | .logger parent =>
    if name.toList.isPrefixOf (parent.getD rootName).toList then .logger parent
    else .logger (some name)
  | .reserved below => .reserved below

theorem moved_moved (name : String) (node : LoggerNode) :
    moved name (moved name node) = moved name node := by
  cases node with
  | reserved below => rfl
  | logger parent =>
    rw [moved]
    split
    · rename_i h
      rw [moved, if_pos h]
    · simp [moved]

theorem node?_relink (name : String) (tree : LoggerTree) (child other : String) :
    (relink name tree child).node? other =
      if other = child then (tree.node? other).map (moved name) else tree.node? other := by
  rw [relink]
  split
  · rename_i parent h
    split
    · rename_i hprefix
      split
      · rename_i heq
        rw [heq, h, Option.map_some, moved, if_pos hprefix]
      · rfl
    · rename_i hprefix
      rw [node?_insert]
      split
      · rename_i heq
        rw [heq, h, Option.map_some, moved, if_neg hprefix]
      · rfl
  · rename_i h
    split
    · rename_i heq
      rw [heq]
      rcases hnode : tree.node? child with - | ⟨parent | below⟩
      · rfl
      · exact absurd hnode (h parent)
      · rfl
    · rfl

/-- Those that wait below a new logger move under it if they have to, and nothing else does. -/
theorem node?_foldl_relink (name : String) (children : List String) (tree : LoggerTree)
    (other : String) :
    (children.foldl (relink name) tree).node? other =
      if other ∈ children then (tree.node? other).map (moved name) else tree.node? other := by
  induction children generalizing tree with
  | nil => rfl
  | cons child children ih =>
    rw [List.foldl_cons, ih, node?_relink]
    by_cases hchild : other = child
    · rw [if_pos hchild, if_pos (List.mem_cons.2 (.inl hchild)), Option.map_map]
      have hmoved : moved name ∘ moved name = moved name := funext (moved_moved name)
      rw [hmoved, ite_self]
    · rw [if_neg hchild]
      simp [hchild]

/-- A name means the same when others have moved, but for the logger that a logger stands below. -/
theorem node?_foldl_relink_eq_or (name : String) (children : List String) (tree : LoggerTree)
    (other : String) :
    (children.foldl (relink name) tree).node? other = tree.node? other ∨
      ∃ before after, tree.node? other = some (.logger before) ∧
        (children.foldl (relink name) tree).node? other = some (.logger after) := by
  rw [node?_foldl_relink]
  split
  · rcases tree.node? other with - | ⟨parent | below⟩
    · exact .inl rfl
    · refine .inr ⟨parent, ?_⟩
      rw [Option.map_some, moved]
      split
      · exact ⟨parent, rfl, rfl⟩
      · exact ⟨some name, rfl, rfl⟩
    · exact .inl rfl
  · exact .inl rfl

theorem isLogger_foldl_relink (name : String) (children : List String) (tree : LoggerTree)
    (other : String) :
    (children.foldl (relink name) tree).isLogger other = tree.isLogger other := by
  rcases node?_foldl_relink_eq_or name children tree other with h | ⟨before, after, h, h'⟩
  · exact isLogger_congr h
  · rw [isLogger, isLogger, h, h']

theorem waiting_foldl_relink (name : String) (children : List String) (tree : LoggerTree)
    (other : String) :
    (children.foldl (relink name) tree).waiting other = tree.waiting other := by
  rcases node?_foldl_relink_eq_or name children tree other with h | ⟨before, after, h, h'⟩
  · exact waiting_congr h
  · rw [waiting, waiting, h, h']

/-! ## A new logger -/

variable {names : List String}

/-- The names that are no loggers up to the first that is one. -/
def untilLogger (tree : LoggerTree) (names : List String) : List String :=
  names.takeWhile fun name => !tree.isLogger name

theorem isLogger_reserve (tree : LoggerTree) (h : tree.isLogger ancestor = false)
    (below : List String) (other : String) :
    (tree.insert ancestor (.reserved below)).isLogger other = tree.isLogger other := by
  rw [isLogger, node?_insert]
  split_ifs with heq
  · rw [heq, h]
  · rfl

theorem place_of_isLogger (h : tree.isLogger ancestor = true) (rest : List String) :
    place name (ancestor :: rest) tree = tree.insert name (.logger (some ancestor)) := by
  rw [place, if_pos h]

theorem place_of_not_isLogger (h : tree.isLogger ancestor = false) (rest : List String) :
    place name (ancestor :: rest) tree =
      place name rest (tree.insert ancestor (.reserved (tree.waiting ancestor ++ [name]))) := by
  rw [place, h, if_neg Bool.false_ne_true]

/-- A new logger stands below the first of the names that is a logger. -/
theorem node?_place (name : String) (names : List String) (tree : LoggerTree) :
    (place name names tree).node? name = some (.logger (names.find? tree.isLogger)) := by
  induction names generalizing tree with
  | nil => rw [place, node?_insert, if_pos rfl, List.find?_nil]
  | cons ancestor rest ih =>
    cases h : tree.isLogger ancestor with
    | true => rw [place_of_isLogger h, node?_insert, if_pos rfl, List.find?_cons_of_pos h]
    | false =>
      rw [place_of_not_isLogger h, ih, List.find?_cons_of_neg (by simp [h])]
      simp only [funext (isLogger_reserve tree h _)]

/-- Other loggers stay where they are. -/
theorem node?_place_of_isLogger {other : String} (hne : other ≠ name)
    (h : tree.isLogger other = true) :
    (place name names tree).node? other = tree.node? other := by
  induction names generalizing tree with
  | nil => rw [place, node?_insert, if_neg hne]
  | cons ancestor rest ih =>
    cases hancestor : tree.isLogger ancestor with
    | true => rw [place_of_isLogger hancestor, node?_insert, if_neg hne]
    | false =>
      have hother : other ≠ ancestor := by
        rintro rfl
        simp [h] at hancestor
      rw [place_of_not_isLogger hancestor, ih (by rwa [isLogger_reserve tree hancestor]),
        node?_insert, if_neg hother]

/-- The new name becomes a logger, and no other. -/
theorem isLogger_place (name : String) (names : List String) (tree : LoggerTree) (other : String) :
    (place name names tree).isLogger other = (other == name || tree.isLogger other) := by
  induction names generalizing tree with
  | nil => exact isLogger_insert_logger ..
  | cons ancestor rest ih =>
    cases h : tree.isLogger ancestor with
    | true => rw [place_of_isLogger h, isLogger_insert_logger]
    | false => rw [place_of_not_isLogger h, ih, isLogger_reserve tree h]

/-- A new logger waits below the names before the first that is a logger, and nothing else
changes. -/
theorem mem_waiting_place_iff {other : String} (hne : other ≠ name) :
    child ∈ (place name names tree).waiting other ↔
      child ∈ tree.waiting other ∨ child = name ∧ other ∈ tree.untilLogger names := by
  induction names generalizing tree with
  | nil =>
    have hnode : (place name [] tree).node? other = tree.node? other := by
      rw [place, node?_insert, if_neg hne]
    simp [waiting_congr hnode, untilLogger]
  | cons ancestor rest ih =>
    cases h : tree.isLogger ancestor with
    | true =>
      have hnode : (place name (ancestor :: rest) tree).node? other = tree.node? other := by
        rw [place_of_isLogger h, node?_insert, if_neg hne]
      simp [waiting_congr hnode, untilLogger, h]
    | false =>
      have huntil : tree.untilLogger (ancestor :: rest) = ancestor :: tree.untilLogger rest := by
        simp [untilLogger, h]
      rw [place_of_not_isLogger h, ih, huntil, untilLogger, untilLogger]
      simp only [funext (isLogger_reserve tree h _), List.mem_cons]
      by_cases hother : other = ancestor
      · rw [waiting, node?_insert, if_pos hother, hother]
        simp
        tauto
      · have hnode : (tree.insert ancestor (.reserved (tree.waiting ancestor ++ [name]))).node?
            other = tree.node? other := by
          rw [node?_insert, if_neg hother]
        rw [waiting_congr hnode]
        simp [hother]

theorem waiting_place_self (name : String) (names : List String) (tree : LoggerTree) :
    (place name names tree).waiting name = [] := by
  rw [waiting, node?_place]

/-- Asking for a name that is no logger yet. -/
theorem fetch_of_new (hroot : isRoot name = false) (hnew : tree.isLogger name = false) :
    tree.fetch name = place name (above name) ((tree.waiting name).foldl (relink name) tree) := by
  rw [fetch, hroot, hnew, Bool.or_self, if_neg Bool.false_ne_true]

theorem fetch_of_not_new (h : ¬(isRoot name = false ∧ tree.isLogger name = false)) :
    tree.fetch name = tree := by
  rw [fetch, if_pos]
  cases hroot : isRoot name <;> simp_all

theorem untilLogger_foldl_relink (name : String) (children : List String) (tree : LoggerTree)
    (names : List String) :
    (children.foldl (relink name) tree).untilLogger names = tree.untilLogger names := by
  rw [untilLogger, untilLogger, funext (isLogger_foldl_relink name children tree)]

/-- A name that is asked for is a logger from then on. -/
theorem isLogger_fetch (hroot : isRoot name = false) (other : String) :
    (tree.fetch name).isLogger other = (other == name || tree.isLogger other) := by
  cases hnew : tree.isLogger name with
  | true =>
    rw [fetch_of_not_new (by simp [hnew])]
    by_cases h : other = name
    · rw [h, hnew, Bool.or_true]
    · rw [beq_eq_false_iff_ne.2 h, Bool.false_or]
  | false => rw [fetch_of_new hroot hnew, isLogger_place, isLogger_foldl_relink]

/-- A new logger stands below the first logger above it. -/
theorem node?_fetch_self (hroot : isRoot name = false) (hnew : tree.isLogger name = false) :
    (tree.fetch name).node? name = some (.logger ((above name).find? tree.isLogger)) := by
  rw [fetch_of_new hroot hnew, node?_place, funext (isLogger_foldl_relink name _ tree)]

/-- Of the other loggers those that wait below a new one may move. -/
theorem node?_fetch_of_ne {other : String} (hroot : isRoot name = false)
    (hnew : tree.isLogger name = false) (hne : other ≠ name) (h : tree.isLogger other = true) :
    (tree.fetch name).node? other =
      if other ∈ tree.waiting name then (tree.node? other).map (moved name)
      else tree.node? other := by
  rw [fetch_of_new hroot hnew, node?_place_of_isLogger hne (by rwa [isLogger_foldl_relink]),
    node?_foldl_relink]

/-- A new logger waits below all names up to the first logger above it. -/
theorem mem_waiting_fetch_iff {other : String} (hroot : isRoot name = false)
    (hnew : tree.isLogger name = false) : child ∈ (tree.fetch name).waiting other ↔
      other ≠ name ∧
        (child ∈ tree.waiting other ∨ child = name ∧ other ∈ tree.untilLogger (above name)) := by
  rw [fetch_of_new hroot hnew]
  by_cases hne : other = name
  · rw [hne, waiting_place_self]
    simp
  · rw [mem_waiting_place_iff hne, waiting_foldl_relink, untilLogger_foldl_relink]
    simp [hne]

/-! ## Trees that mean the same -/

section

variable {other : LoggerTree}

theorem node?_place_congr (h : ∀ name, tree.node? name = other.node? name) (name : String)
    (names : List String) (x : String) :
    (place name names tree).node? x = (place name names other).node? x := by
  have hinsert : ∀ {tree other : LoggerTree}, (∀ name, tree.node? name = other.node? name) →
      ∀ name node x, (tree.insert name node).node? x = (other.insert name node).node? x := by
    intro tree other h name node x
    rw [node?_insert, node?_insert, h]
  induction names generalizing tree other with
  | nil => exact hinsert h ..
  | cons ancestor rest ih =>
    rw [place, place, isLogger_congr (h ancestor), waiting_congr (h ancestor)]
    split
    · exact hinsert h ..
    · exact ih (hinsert h _ _)

/-- Trees that mean the same do so after a logger was asked for. -/
theorem node?_fetch_congr (h : ∀ name, tree.node? name = other.node? name) (name x : String) :
    (tree.fetch name).node? x = (other.fetch name).node? x := by
  rw [fetch, fetch, isLogger_congr (h name), waiting_congr (h name)]
  split
  · exact h x
  · refine node?_place_congr (fun y => ?_) ..
    rw [node?_foldl_relink, node?_foldl_relink, h]

theorem lineage_congr (h : ∀ name, tree.node? name = other.node? name) (name : String) :
    tree.lineage name = other.lineage name := by
  have hfrom : ∀ fuel name, tree.lineageFrom fuel name = other.lineageFrom fuel name := by
    intro fuel
    induction fuel with
    | zero => exact fun _ => rfl
    | succ fuel ih =>
      intro name
      rw [lineageFrom, lineageFrom, h]
      split
      · rw [ih]
      · rfl
  exact hfrom ..

end

/-! ## Places of regular loggers -/

/-- Whether the regular loggers stand in their places. -/
structure Sound (tree : LoggerTree) : Prop where
  /-- A regular logger stands below the nearest name above it that is a logger. -/
  parent_eq : ∀ name parent, Regular name → tree.node? name = some (.logger parent) →
    parent = (above name).find? tree.isLogger
  /-- It waits below all nearer names. -/
  waits : ∀ name parent, Regular name → tree.node? name = some (.logger parent) →
    ∀ nearer ∈ tree.untilLogger (above name), name ∈ tree.waiting nearer
  /-- Loggers wait below names above their own only. -/
  mem_above : ∀ name, ∀ child ∈ tree.waiting name, name ∈ above child

theorem sound_nil : Sound [] where
  parent_eq _ _ _ h := by simp [node?] at h
  waits _ _ _ h := by simp [node?] at h
  mem_above _ _ h := by simp [waiting, node?] at h

/-- The first of some names that is a logger stays the first if a later one becomes one. -/
theorem find?_new {isLogger : String → Bool}
    (h : name ∉ names.takeWhile fun other => !isLogger other) :
    names.find? (fun other => other == name || isLogger other) = names.find? isLogger := by
  induction names with
  | nil => rfl
  | cons other rest ih =>
    cases hother : isLogger other with
    | true => rw [List.find?_cons_of_pos hother, List.find?_cons_of_pos (by simp [hother])]
    | false =>
      rw [List.takeWhile_cons_of_pos (by simp [hother]), List.mem_cons, not_or] at h
      rw [List.find?_cons_of_neg (by simp [hother, Ne.symm h.1]),
        List.find?_cons_of_neg (by simp [hother]), ih h.2]

/-- With more loggers there are fewer names before the first. -/
theorem mem_untilLogger_of_imp {other : LoggerTree} {nearer : String}
    (himp : ∀ name, tree.isLogger name = true → other.isLogger name = true)
    (h : nearer ∈ other.untilLogger names) : nearer ∈ tree.untilLogger names := by
  have htwice : other.untilLogger names = other.untilLogger (tree.untilLogger names) := by
    rw [untilLogger, untilLogger, untilLogger, List.takeWhile_takeWhile]
    congr 1
    funext name
    have := himp name
    cases htree : tree.isLogger name <;> simp_all
  rw [htwice] at h
  exact (List.takeWhile_prefix _).subset h

theorem isLogger_of_mem_untilLogger (h : ancestor ∈ tree.untilLogger names) :
    tree.isLogger ancestor = false := by
  simpa using List.mem_takeWhile_imp h

/-- A name above a regular one that comes before the first logger has no logger before it. -/
theorem exists_nearer (hname : Regular name) (h : ancestor ∈ tree.untilLogger (above name)) :
    ∃ nearer, above name = nearer ++ ancestor :: above ancestor ∧
      ∀ other ∈ nearer, tree.isLogger other = false ∧ ancestor ≠ other := by
  obtain ⟨nearer, happend, hnearer⟩ := hname.above_eq_append ((List.takeWhile_prefix _).subset h)
  rw [untilLogger, happend, List.takeWhile_append] at h
  split at h
  · rename_i hall
    have hself := List.takeWhile_eq_self_iff.1 ((List.takeWhile_prefix _).eq_of_length hall)
    exact ⟨nearer, happend, fun other hother => ⟨by simpa using hself other hother,
      (hnearer other hother).2⟩⟩
  · have hmem := (List.takeWhile_prefix _).subset h
    exact absurd rfl (hnearer ancestor hmem).2

/-- If a name above a regular one is no logger, but not before the first logger either, then the
name of the first logger begins with it. -/
theorem exists_find?_eq_some (hname : Regular name) (h : ancestor ∈ above name)
    (hlogger : tree.isLogger ancestor = false) (hafter : ancestor ∉ tree.untilLogger (above name)) :
    ∃ first, (above name).find? tree.isLogger = some first ∧
      ancestor.toList <+: first.toList := by
  obtain ⟨nearer, happend, hnearer⟩ := hname.above_eq_append h
  rw [happend, List.find?_append]
  cases hfirst : nearer.find? tree.isLogger with
  | some first => exact ⟨first, rfl, (hnearer first (List.mem_of_find?_eq_some hfirst)).1⟩
  | none =>
    have hall : ∀ other ∈ nearer, (!tree.isLogger other) = true := by
      simpa using List.find?_eq_none.1 hfirst
    refine absurd ?_ hafter
    rw [untilLogger, happend, List.takeWhile_append_of_pos hall,
      List.takeWhile_cons_of_pos (by simp [hlogger])]
    simp

/-- A logger that waits below a new one moves under it, if it is its nearest one. -/
theorem moved_of_mem_untilLogger (hname : Regular name) (hroot : ancestor ≠ rootName)
    (hbefore : ancestor ∈ tree.untilLogger (above name)) :
    moved ancestor (.logger ((above name).find? tree.isLogger)) = .logger (some ancestor) := by
  obtain ⟨nearer, happend, hnearer⟩ := exists_nearer hname hbefore
  have hfind : (above name).find? tree.isLogger = (above ancestor).find? tree.isLogger := by
    rw [happend, List.find?_append,
      List.find?_eq_none.2 fun other hother => by simp [(hnearer other hother).1],
      Option.none_or, List.find?_cons_of_neg (by simp [isLogger_of_mem_untilLogger hbefore])]
  rw [hfind, moved, if_neg]
  rw [List.isPrefixOf_iff_prefix]
  cases hfirst : (above ancestor).find? tree.isLogger with
  | none => exact hname.not_prefix_rootName ((List.takeWhile_prefix _).subset hbefore) hroot
  | some first =>
    intro hprefix
    have hlt := length_lt_of_mem_above (List.mem_of_find?_eq_some hfirst)
    exact absurd hprefix.length_le (Nat.not_le.2 hlt)

/-- A logger that waits below a new one stays where it is, if it has a nearer one. -/
theorem moved_of_not_mem_untilLogger (hname : Regular name) (h : ancestor ∈ above name)
    (hlogger : tree.isLogger ancestor = false) (hafter : ancestor ∉ tree.untilLogger (above name)) :
    moved ancestor (.logger ((above name).find? tree.isLogger)) =
      .logger ((above name).find? tree.isLogger) := by
  obtain ⟨first, hfirst, hprefix⟩ := exists_find?_eq_some hname h hlogger hafter
  rw [hfirst, moved, Option.getD_some, if_pos (List.isPrefixOf_iff_prefix.2 hprefix)]

/-- Among the names above a regular one, a new one that comes before the first logger is the first
logger from then on. -/
theorem find?_new_of_mem_untilLogger (hname : Regular name)
    (hbefore : ancestor ∈ tree.untilLogger (above name)) :
    (above name).find? (fun other => other == ancestor || tree.isLogger other) =
      some ancestor := by
  obtain ⟨nearer, happend, hnearer⟩ := exists_nearer hname hbefore
  have hnone : nearer.find? (fun other => other == ancestor || tree.isLogger other) = none := by
    refine List.find?_eq_none.2 fun other hother => ?_
    obtain ⟨hlogger, hne⟩ := hnearer other hother
    simp [hlogger, Ne.symm hne]
  rw [happend, List.find?_append, hnone, Option.none_or, List.find?_cons_of_pos (by simp)]

namespace Sound

/-- The logger above a regular one is the first logger above it in name, also after a new one has
come. -/
theorem parent_eq_fetch (h : tree.Sound) (hroot : isRoot ancestor = false)
    (hnew : tree.isLogger ancestor = false) (hname : Regular name)
    (hnode : (tree.fetch ancestor).node? name = some (.logger parent)) :
    parent = (above name).find? (tree.fetch ancestor).isLogger := by
  rw [funext (isLogger_fetch hroot)]
  by_cases hne : name = ancestor
  · subst hne
    rw [node?_fetch_self hroot hnew, Option.some_inj, LoggerNode.logger.injEq] at hnode
    rw [← hnode, find?_new fun hmem => not_mem_above name ((List.takeWhile_prefix _).subset hmem)]
  · have hlogger : tree.isLogger name = true := by
      have hafter := isLogger_iff.2 ⟨parent, hnode⟩
      rwa [isLogger_fetch hroot, beq_eq_false_iff_ne.2 hne, Bool.false_or] at hafter
    obtain ⟨old, hold⟩ := isLogger_iff.1 hlogger
    obtain rfl := h.parent_eq name old hname hold
    rw [node?_fetch_of_ne hroot hnew hne hlogger, hold] at hnode
    by_cases hbefore : ancestor ∈ tree.untilLogger (above name)
    · have hancestor : ancestor ≠ rootName := by
        rintro rfl
        simp [isRoot] at hroot
      rw [if_pos (h.waits name _ hname hold ancestor hbefore), Option.map_some,
        moved_of_mem_untilLogger hname hancestor hbefore, Option.some_inj,
        LoggerNode.logger.injEq] at hnode
      rw [← hnode, find?_new_of_mem_untilLogger hname hbefore]
    · rw [find?_new hbefore]
      split at hnode
      · rename_i hwaits
        rw [Option.map_some, moved_of_not_mem_untilLogger hname (h.mem_above ancestor name hwaits)
          hnew hbefore, Option.some_inj, LoggerNode.logger.injEq] at hnode
        exact hnode.symm
      · rw [Option.some_inj, LoggerNode.logger.injEq] at hnode
        exact hnode.symm

/-- **A new logger leaves all regular loggers in their places.** -/
theorem fetch (h : tree.Sound) (ancestor : String) : (tree.fetch ancestor).Sound := by
  by_cases hcases : isRoot ancestor = false ∧ tree.isLogger ancestor = false
  · obtain ⟨hroot, hnew⟩ := hcases
    refine ⟨fun name parent hname hnode => h.parent_eq_fetch hroot hnew hname hnode, ?_, ?_⟩
    · intro name parent hname hnode nearer hnearer
      have hold : nearer ∈ tree.untilLogger (above name) :=
        mem_untilLogger_of_imp (fun other hother => by simp [isLogger_fetch hroot, hother]) hnearer
      have hne : nearer ≠ ancestor := by
        rintro rfl
        simpa [isLogger_fetch hroot] using isLogger_of_mem_untilLogger hnearer
      rw [mem_waiting_fetch_iff hroot hnew]
      refine ⟨hne, ?_⟩
      by_cases hself : name = ancestor
      · exact .inr ⟨hself, hself ▸ hold⟩
      · have hlogger : tree.isLogger name = true := by
          have hafter := isLogger_iff.2 ⟨parent, hnode⟩
          rwa [isLogger_fetch hroot, beq_eq_false_iff_ne.2 hself, Bool.false_or] at hafter
        obtain ⟨before, hbefore⟩ := isLogger_iff.1 hlogger
        exact .inl (h.waits name before hname hbefore nearer hold)
    · intro other child hchild
      rw [mem_waiting_fetch_iff hroot hnew] at hchild
      obtain ⟨-, hchild | ⟨rfl, hmem⟩⟩ := hchild
      · exact h.mem_above other child hchild
      · exact (List.takeWhile_prefix _).subset hmem
  · rwa [fetch_of_not_new hcases]

end Sound

/-- A logger that was asked for already does not change the tree. -/
theorem fetch_fetch (tree : LoggerTree) (name : String) :
    (tree.fetch name).fetch name = tree.fetch name := by
  refine fetch_of_not_new fun h => ?_
  have hlogger := h.2
  rw [isLogger_fetch h.1, beq_self_eq_true, Bool.true_or] at hlogger
  cases hlogger

/-- A name that is a logger stays one. -/
theorem isLogger_fetch_of_isLogger {other : String} (h : tree.isLogger other = true)
    (name : String) : (tree.fetch name).isLogger other = true := by
  cases hroot : isRoot name with
  | true => rwa [fetch_of_not_new (by simp [hroot])]
  | false => rw [isLogger_fetch hroot, h, Bool.or_true]

theorem sound_initial : initial.Sound := by
  rw [initial, List.foldl_cons, List.foldl_cons, List.foldl_cons, List.foldl_cons, List.foldl_nil]
  exact (((sound_nil.fetch _).fetch _).fetch _).fetch _

/-- **The loggers above a regular one** are the loggers among the names above its own. -/
theorem lineage_of_regular (h : tree.Sound) (hname : Regular name)
    (hlogger : tree.isLogger name = true) :
    tree.lineage name = (above name).filter tree.isLogger := by
  rw [lineage, ← String.length_toList]
  generalize hfuel : name.toList.length = fuel
  have hle : name.toList.length ≤ fuel := hfuel.le
  clear hfuel
  induction fuel generalizing name with
  | zero =>
    have hnil : above name = [] := List.eq_nil_iff_forall_not_mem.2 fun ancestor hmem =>
      absurd (length_lt_of_mem_above hmem) (by omega)
    rw [lineageFrom, hnil, List.filter_nil]
  | succ fuel ih =>
    obtain ⟨parent, hnode⟩ := isLogger_iff.1 hlogger
    have hparent := h.parent_eq name parent hname hnode
    cases parent with
    | none =>
      rw [lineageFrom, hnode, List.filter_eq_nil_iff.2 (List.find?_eq_none.1 hparent.symm)]
    | some first =>
      have hmem := List.mem_of_find?_eq_some hparent.symm
      have hfirst : tree.isLogger first = true := List.find?_some hparent.symm
      have hlt := length_lt_of_mem_above hmem
      obtain ⟨nearer, happend, hnearer⟩ := hname.above_eq_append hmem
      have hnone : nearer.find? tree.isLogger = none := by
        rw [happend, List.find?_append] at hparent
        cases hfound : nearer.find? tree.isLogger with
        | none => rfl
        | some other =>
          rw [hfound, Option.some_or, Option.some_inj] at hparent
          exact absurd hparent (hnearer other (List.mem_of_find?_eq_some hfound)).2
      rw [lineageFrom, hnode, happend, List.filter_append,
        List.filter_eq_nil_iff.2 (List.find?_eq_none.1 hnone), List.nil_append,
        List.filter_cons_of_pos hfirst]
      exact congrArg (first :: ·) (ih (hname.of_mem_above hmem) hfirst (by omega))

end LoggerTree

/-! ## Levels -/

namespace Levels

open LoggerTree

variable {levels : Levels} {name : String} {level : Int}

/-- Whether the regular loggers stand in their places, and only loggers have levels. -/
structure Placed (levels : Levels) : Prop where
  /-- The regular loggers stand in their places. -/
  tree : levels.tree.Sound
  /-- Only a logger other than the root has a level of its own. -/
  own : ∀ name level, levels.own? name = some level →
    isRoot name = false ∧ levels.tree.isLogger name = true

/-- The root logger has no level of its own beside the one of the root. -/
theorem Placed.own?_of_isRoot (h : levels.Placed) (hroot : isRoot name = true) :
    levels.own? name = none := by
  by_contra hown
  obtain ⟨level, hlevel⟩ := Option.ne_none_iff_exists'.1 hown
  rw [(h.own name level hlevel).1] at hroot
  cases hroot

/-- The first value of some names is that of the first of those that can have one. -/
theorem findSome?_filter {α : Type} {f : String → Option α} {p : String → Bool}
    (h : ∀ name, (f name).isSome = true → p name = true) (names : List String) :
    (names.filter p).findSome? f = names.findSome? f := by
  induction names with
  | nil => rfl
  | cons name rest ih =>
    cases hp : p name with
    | true => rw [List.filter_cons_of_pos hp, List.findSome?_cons, List.findSome?_cons, ih]
    | false =>
      have hnone : f name = none := by
        by_contra hne
        simp [h name (Option.isSome_iff_ne_none.2 hne)] at hp
      rw [List.filter_cons_of_neg (by simp [hp]), List.findSome?_cons, hnone, ih]

/-- **The level that counts for a regular logger** is its own, or that of the nearest name above it
that has one, or that of the root. -/
theorem Placed.effective_eq (h : levels.Placed) (hname : Regular name) :
    levels.effective name =
      ((name :: above name).findSome? levels.own?).getD levels.root := by
  cases hroot : isRoot name with
  | true =>
    rw [effective, if_pos hroot, above_of_isRoot hroot, List.findSome?_singleton,
      h.own?_of_isRoot hroot, Option.getD_none]
  | false =>
    have hlogger : (levels.tree.fetch name).isLogger name = true := by
      rw [isLogger_fetch hroot, beq_self_eq_true, Bool.true_or]
    have hown : ∀ other, (levels.own? other).isSome = true →
        (levels.tree.fetch name).isLogger other = true := by
      intro other hother
      obtain ⟨level, hlevel⟩ := Option.isSome_iff_exists.1 hother
      exact isLogger_fetch_of_isLogger (h.own other level hlevel).2 name
    rw [effective, hroot, if_neg Bool.false_ne_true,
      lineage_of_regular (h.tree.fetch name) hname hlogger, List.findSome?_cons,
      List.findSome?_cons, findSome?_filter hown]

/-- For a logger without points in its name its own level counts, or that of the root. -/
theorem Placed.effective_top (h : levels.Placed) (hname : Regular name)
    (hpoint : '.' ∉ name.toList) :
    levels.effective name = (levels.own? name).getD levels.root := by
  rw [h.effective_eq hname, above_top hpoint, List.findSome?_singleton]

/-- For a logger below another its own level counts, or the one that counts for the other. -/
theorem Placed.effective_below {parent last : String} {c : Char} (h : levels.Placed)
    (hname : Regular (parent ++ "." ++ last)) (hend : parent.toList.getLast? = some c)
    (hc : c ≠ '.') (hlast : '.' ∉ last.toList) :
    levels.effective (parent ++ "." ++ last) =
      (levels.own? (parent ++ "." ++ last)).getD (levels.effective parent) := by
  have habove := above_below hend hc hlast
  have hparent : Regular parent := hname.of_mem_above (habove ▸ List.mem_cons_self)
  rw [h.effective_eq hname, h.effective_eq hparent, habove, List.findSome?_cons]
  cases levels.own? (parent ++ "." ++ last) <;> rfl

/-- The level that counts for a regular logger depends on the levels that loggers have of their
own. -/
theorem Placed.effective_congr {other : Levels} (h : levels.Placed) (hother : other.Placed)
    (hown : ∀ name, levels.own? name = other.own? name) (hroot : levels.root = other.root)
    (hname : Regular name) : levels.effective name = other.effective name := by
  rw [h.effective_eq hname, hother.effective_eq hname, funext hown, hroot]

theorem Placed.permits_congr {other : Levels} (h : levels.Placed) (hother : other.Placed)
    (hown : ∀ name, levels.own? name = other.own? name) (hroot : levels.root = other.root)
    (hname : Regular name) (level : Int) :
    levels.permits name level = other.permits name level := by
  rw [permits, permits, h.effective_congr hother hown hroot hname]

/-- A level that is given to a logger other than the root changes no other logger. -/
theorem own?_give_of_ne (levels : Levels) {name other : String} (level : Int)
    (h : ¬(isRoot name = false ∧ name = other)) :
    (levels.give name level).own? other = levels.own? other := by
  rw [give]
  split
  · rfl
  · rename_i hroot
    have hname : other ≠ name := fun heq => h ⟨Bool.eq_false_iff.2 hroot, heq.symm⟩
    have hne : (other == name) = false := beq_eq_false_iff_ne.2 hname
    simp [own?, List.lookup_cons, hne, Environment.lookup_filter, hname]

theorem tree_give (levels : Levels) (name : String) (level : Int) :
    (levels.give name level).tree = levels.tree.fetch name := by
  rw [give]
  split
  · rename_i hroot
    exact (fetch_of_not_new (by simp [hroot])).symm
  · rfl

@[simp] theorem tree_ask (levels : Levels) (name : String) (level : Int) :
    (levels.ask name level).tree = levels.tree.fetch name := by
  rw [ask]
  split <;> rfl

theorem own?_ask (levels : Levels) (name : String) (level : Int) (other : String) :
    (levels.ask name level).own? other = levels.own? other := by
  rw [ask]
  split <;> rfl

@[simp] theorem root_ask (levels : Levels) (name : String) (level : Int) :
    (levels.ask name level).root = levels.root := by
  rw [ask]
  split <;> rfl

/-- A logger that was asked for already lets the same records pass. -/
theorem enables_fetch (levels : Levels) (name : String) (level : Int) :
    (levels.fetch name).enables name level = levels.enables name level := by
  have heffective : (levels.fetch name).effective name = levels.effective name := by
    rw [effective, effective, fetch, fetch_fetch]
    rfl
  rw [enables, enables, permits, permits, heffective]
  rfl

namespace Placed

theorem initial : Levels.initial.Placed :=
  ⟨sound_initial, fun name level h => by simp [own?, Levels.initial] at h⟩

theorem fetch (h : levels.Placed) (name : String) : (levels.fetch name).Placed :=
  ⟨h.tree.fetch name, fun other level hlevel =>
    (h.own other level hlevel).imp_right fun hlogger => isLogger_fetch_of_isLogger hlogger name⟩

theorem ask (h : levels.Placed) (name : String) (level : Int) : (levels.ask name level).Placed :=
  ⟨tree_ask levels name level ▸ h.tree.fetch name, fun other own hown => by
    rw [own?_ask] at hown
    rw [tree_ask]
    exact (h.own other own hown).imp_right fun hlogger => isLogger_fetch_of_isLogger hlogger name⟩

theorem give (h : levels.Placed) (name : String) (level : Int) :
    (levels.give name level).Placed := by
  refine ⟨tree_give levels name level ▸ h.tree.fetch name, fun other own hown => ?_⟩
  rw [tree_give]
  by_cases hself : isRoot name = false ∧ name = other
  · obtain ⟨hroot, rfl⟩ := hself
    exact ⟨hroot, by rw [isLogger_fetch hroot, beq_self_eq_true, Bool.true_or]⟩
  · rw [own?_give_of_ne levels level hself] at hown
    exact (h.own other own hown).imp_right fun hlogger => isLogger_fetch_of_isLogger hlogger name

end Placed

/-! ## What is remembered -/

/-- Whether what is remembered of regular loggers is still so. -/
structure Sound (levels : Levels) : Prop extends levels.Placed where
  /-- A record that is remembered to pass is not below the level that counts, and one that is
  remembered not to pass is. -/
  verdict_eq : ∀ name level verdict, Regular name → levels.verdict? name level = some verdict →
    verdict = levels.permits name level

theorem isRoot_recordName (name : String) : isRoot (recordName name) = isRoot name := by
  rw [recordName]
  split
  · rename_i hroot
    rw [hroot]
    rfl
  · rfl

/-- Names that records carry alike have the same level that counts. -/
theorem effective_recordName (levels : Levels) (name : String) :
    levels.effective (recordName name) = levels.effective name := by
  cases hroot : isRoot name with
  | true => rw [effective, effective, isRoot_recordName, hroot, if_pos rfl, if_pos rfl]
  | false => rw [recordName, hroot, if_neg Bool.false_ne_true]

theorem sound_initial : Levels.initial.Sound :=
  ⟨Placed.initial, fun _ _ _ _ h => by simp [verdict?, Levels.initial] at h⟩

namespace Sound

theorem fetch (h : levels.Sound) (name : String) : (levels.fetch name).Sound :=
  ⟨h.toPlaced.fetch name, fun other level verdict hother hverdict =>
    (h.verdict_eq other level verdict hother hverdict).trans
      (h.permits_congr (h.toPlaced.fetch name) (fun _ => rfl) rfl hother level)⟩

theorem ask (h : levels.Sound) (name : String) (level : Int) : (levels.ask name level).Sound := by
  refine ⟨h.toPlaced.ask name level, fun other asked verdict hother hverdict => ?_⟩
  rw [← h.permits_congr (h.toPlaced.ask name level)
    (fun name => (own?_ask levels _ level name).symm) (root_ask levels name level).symm hother]
  cases hbefore : levels.verdict? name level with
  | some before =>
    rw [Levels.ask, hbefore] at hverdict
    exact h.verdict_eq other asked verdict hother hverdict
  | none =>
    rw [Levels.ask, hbefore, verdict?, List.lookup_cons] at hverdict
    split at hverdict
    · rename_i hsame
      obtain ⟨hname, rfl⟩ := Prod.mk.injEq .. ▸ eq_of_beq hsame
      rw [Option.some_inj] at hverdict
      rw [← hverdict, permits, permits, ← effective_recordName levels name, ← hname,
        effective_recordName]
    · exact h.verdict_eq other asked verdict hother hverdict

theorem give (h : levels.Sound) (name : String) (level : Int) : (levels.give name level).Sound := by
  refine ⟨h.toPlaced.give name level, fun other asked verdict _ hverdict => ?_⟩
  have hforgotten : (levels.give name level).verdicts = [] := by
    rw [Levels.give]
    split <;> rfl
  simp [verdict?, hforgotten] at hverdict

end Sound

/-- **A regular logger lets a record pass** if the level of the record is positive and not below the
one that counts for the logger, whatever is remembered. -/
theorem Sound.enables_eq_permits (h : levels.Sound) (hname : Regular name) (level : Int) :
    levels.enables name level = levels.permits name level := by
  rw [enables]
  cases hverdict : levels.verdict? name level with
  | none => rfl
  | some verdict => exact h.verdict_eq name level verdict hname hverdict

end Levels

end StorageReply
