import StorageReply.Text.Case

/-!
# The tree of loggers

Loggers have dotted names and stand below the root logger. A logger is made when it is asked for
first: it stands below the nearest logger whose name is its own up to one of its points. Names
between them that are no loggers yet are reserved, and when one becomes a logger, those that wait
below it move under it.

What moves is told by names: a logger that waits moves unless the name of the logger above it begins
with the new name. Since the name of the root is a word as well, the loggers `r`, `ro` and `roo`
never take over what stands below the root; and a name with two points in a row stands below
another one or not as the names were asked for.

Main definitions:

* `LoggerTree`: the loggers and reserved names, in the order in which they came;
* `LoggerTree.above`: the names that a logger may stand below;
* `LoggerTree.fetch`: the tree after a logger was asked for;
* `LoggerTree.lineage`: the loggers above one.
-/

namespace StorageReply

/-- What a name means in the tree of loggers. -/
inductive LoggerNode
  /-- A logger, by the name of the logger above it; without one it stands below the root. -/
  | logger (parent : Option String)
  /-- A name that is no logger yet, with the names of the loggers that wait below it. -/
  | reserved (below : List String)
  deriving DecidableEq, Repr

/-- The loggers other than the root, and the reserved names. -/
abbrev LoggerTree := List (String × LoggerNode)

namespace LoggerTree

/-- The name of the root logger. -/
def rootName : String := "root"

/-- Whether a name means the root logger. -/
def isRoot (name : String) : Bool := name.isEmpty || name == rootName

/-- The beginnings of a name that end before a point, longest first, for the letters of the name in
reverse order. A point that follows another one directly, or stands at the start, counts for
nothing. -/
def beginnings : List Char → List (List Char)
  | [] => []
  | ['.'] => []
  | '.' :: c :: rest => (c :: rest).reverse :: beginnings rest
  | _ :: rest => beginnings rest

/-- The names that a logger may stand below, nearest first, without the root. -/
def above (name : String) : List String := (beginnings name.toList.reverse).map String.ofList

/-- What a name means. -/
def node? (tree : LoggerTree) (name : String) : Option LoggerNode := tree.lookup name

/-- The tree with a name that means something else. -/
def insert (tree : LoggerTree) (name : String) (node : LoggerNode) : LoggerTree :=
  (name, node) :: tree.filter (·.1 != name)

/-- Whether a name is a logger. -/
def isLogger (tree : LoggerTree) (name : String) : Bool :=
  match tree.node? name with
  | some (.logger _) => true
  | _ => false

/-- The names that wait below a reserved name. -/
def waiting (tree : LoggerTree) (name : String) : List String :=
  match tree.node? name with
  | some (.reserved below) => below
  | _ => []

/-- The tree after a new logger was placed below the first logger of some names; the names before it
are reserved. -/
def place (name : String) : List String → LoggerTree → LoggerTree
  | [], tree => tree.insert name (.logger none)
  | ancestor :: rest, tree =>
    if tree.isLogger ancestor then tree.insert name (.logger (some ancestor))
    else place name rest (tree.insert ancestor (.reserved (tree.waiting ancestor ++ [name])))

/-- The tree after a logger has moved under a new one, unless the logger above it has a name that
begins with the new name. -/
def relink (name : String) (tree : LoggerTree) (child : String) : LoggerTree :=
  match tree.node? child with
  | some (.logger parent) =>
    if name.toList.isPrefixOf (parent.getD rootName).toList then tree
    else tree.insert child (.logger (some name))
  | _ => tree

/-- The tree after a logger was asked for. -/
def fetch (tree : LoggerTree) (name : String) : LoggerTree :=
  if isRoot name || tree.isLogger name then tree
  else place name (above name) ((tree.waiting name).foldl (relink name) tree)

/-- The names of the loggers above one, nearest first and without the root, as far as `fuel`
goes. -/
def lineageFrom (tree : LoggerTree) : Nat → String → List String
  | 0, _ => []
  | fuel + 1, name =>
    match tree.node? name with
    | some (.logger (some parent)) => parent :: lineageFrom tree fuel parent
    | _ => []

/-- The names of the loggers above one, nearest first and without the root. A name is longer than
those above it. -/
def lineage (tree : LoggerTree) (name : String) : List String :=
  tree.lineageFrom name.length name

/-- The loggers of the package itself, which are there from the start. -/
def initial : LoggerTree :=
  ["zurestore.core.config_manager", "zurestore.models.service_properties",
   "zurestore.models.service_stats", "zurestore.blob.container_response"].foldl fetch []

end LoggerTree

end StorageReply
