import StorageReply.Log.LoggerTree

/-!
# Levels of loggers

A logger without a level of its own takes the level of the nearest logger above it that has one.
Whether a logger lets records of a level pass is remembered until a level is given to any logger;
what is remembered counts even if the logger has meanwhile moved in the tree.

Main definitions:

* `Levels`: the tree of loggers with their levels, and what is remembered;
* `Levels.effective`: the level that counts for a logger;
* `Levels.permits`: whether a record is not below the level that counts for a logger;
* `Levels.enables`: whether a logger lets a record pass.

`effective_of_given` says that a level of its own counts before any other.
-/

namespace StorageReply

open LoggerTree

/-- The levels of loggers. -/
structure Levels where
  /-- The level of the root logger. -/
  root : Int
  /-- The levels that were given to other loggers; zero stands for no level. -/
  given : List (String × Int)
  /-- The other loggers. -/
  tree : LoggerTree
  /-- Whether a logger, by the name that its records carry, has let records of a level pass since a
  level was given last. -/
  verdicts : List ((String × Int) × Bool)
  deriving Repr

namespace Levels

/-- The levels before any setup: the root lets warnings pass. -/
def initial : Levels := ⟨30, [], .initial, []⟩

/-- The name that a record of a logger carries. -/
def recordName (name : String) : String := if isRoot name then rootName else name

/-- The levels after a logger was asked for. -/
def fetch (levels : Levels) (name : String) : Levels :=
  { levels with tree := levels.tree.fetch name }

/-- The level that was given to a logger other than the root, if any. -/
def own? (levels : Levels) (name : String) : Option Int :=
  (levels.given.lookup name).filter (· != 0)

/-- The level that counts for a logger, which is made if it is not there. -/
def effective (levels : Levels) (name : String) : Int :=
  if isRoot name then levels.root
  else ((name :: (levels.tree.fetch name).lineage name).findSome? levels.own?).getD levels.root

/-- Whether a record of a level is not below the level that counts for its logger. A level that is
not positive never counts as enough. -/
def permits (levels : Levels) (name : String) (level : Int) : Bool :=
  0 < level && levels.effective name ≤ level

/-- What is remembered of a logger and a level. -/
def verdict? (levels : Levels) (name : String) (level : Int) : Option Bool :=
  levels.verdicts.lookup (recordName name, level)

/-- Whether a logger lets a record of a level pass. -/
def enables (levels : Levels) (name : String) (level : Int) : Bool :=
  (levels.verdict? name level).getD (levels.permits name level)

/-- The levels after a logger was asked whether it lets a record of a level pass. -/
def ask (levels : Levels) (name : String) (level : Int) : Levels :=
  match levels.verdict? name level with
  | some _ => levels.fetch name
  | none =>
    { levels.fetch name with
      verdicts := ((recordName name, level), levels.permits name level) :: levels.verdicts }

/-- The levels after one was given to a logger. -/
def give (levels : Levels) (name : String) (level : Int) : Levels :=
  if isRoot name then { levels with root := level, verdicts := [] }
  else
    { levels.fetch name with
      given := (name, level) :: levels.given.filter (·.1 != name)
      verdicts := [] }

/-- The levels by name. -/
def names : List (String × Int) :=
  [("CRITICAL", 50), ("FATAL", 50), ("ERROR", 40), ("WARNING", 30), ("WARN", 30), ("INFO", 20),
   ("DEBUG", 10), ("NOTSET", 0)]

@[simp] theorem effective_root (levels : Levels) : levels.effective rootName = levels.root := by
  simp [effective, isRoot, rootName]

/-- A level of its own counts for a logger. -/
theorem effective_of_given {levels : Levels} {name : String} {level : Int}
    (h : isRoot name = false) (own : levels.own? name = some level) :
    levels.effective name = level := by
  simp [effective, h, own]

/-- A level that was given is the logger's own. -/
theorem own?_give {levels : Levels} {name : String} {level : Int} (h : isRoot name = false)
    (positive : level ≠ 0) : (levels.give name level).own? name = some level := by
  simp [give, h, own?, positive]

end Levels

end StorageReply
