import StorageReply.Failure
import StorageReply.Text.Pieces

/-!
# Folders

The files that a client reads its settings from and writes its log to, as a tree of folders with
texts in it.

Main definitions:

* `Path`: the way to a file, as names;
* `Folder`: the files and folders, with `Folder.read?`, `Folder.write` and `Folder.remove`;
* `Folder.find`: the place that a path leads to;
* `Folder.listing`: all files in order.

`read?_write` says what writing a file does to every look-up.
-/

namespace StorageReply

open Text

/-- The way to a file or folder: the names of the folders on the way and its own name. -/
abbrev Path := List String

namespace Path

/-- The mark at the start of a path from the root of all folders. -/
def rootMark : String := "/"

/-- The names in the text of a path; empty names and single points do not count. -/
def names (s : String) : List String :=
  ((pieces '/' s.toList).map String.ofList).filter fun name => name != "" && name != "."

/-- The path that a text denotes. -/
def ofText (s : String) : Path := if s.startsWith "/" then rootMark :: names s else names s

/-- The text of a path. -/
def text : Path → String
  | [] => "."
  | name :: rest =>
    if name == rootMark then rootMark ++ joinedStrings "/" rest
    else joinedStrings "/" (name :: rest)

/-- The path without steps back to the folder above. -/
def straight (p : Path) : Path :=
  (p.foldl (fun done name =>
    match name, done with
    | "..", last :: rest => if last == ".." then name :: done else rest
    | _, _ => name :: done) []).reverse

/-- The ending of a file's name: its last point and what follows, unless the point is the first or
the last character. -/
def ending (p : Path) : String :=
  match cutLast? '.' (p.getLastD "").toList with
  | some (before, after) =>
    if before.isEmpty || after.isEmpty then "" else String.ofList ('.' :: after)
  | none => ""

end Path

/-- Files and folders. -/
structure Folder where
  /-- The files with their texts. -/
  files : List (Path × String)
  /-- The folders. -/
  folders : List Path
  deriving Repr

namespace Folder

/-- The folder without files. -/
def empty : Folder := ⟨[], []⟩

/-- The text of a file. -/
def read? (f : Folder) (p : Path) : Option String := f.files.lookup p

/-- Whether there is a file at a path. -/
def isFile (f : Folder) (p : Path) : Bool := (f.read? p).isSome

/-- Whether there is a folder at a path; the folders around this one are there. -/
def isFolder (f : Folder) (p : Path) : Bool :=
  p.all (· == "..") || p == [Path.rootMark] || f.folders.contains p

/-- Whether there is a file or a folder at a path. -/
def isTaken (f : Folder) (p : Path) : Bool := f.isFile p || f.isFolder p

/-- The folders on the way to a path. -/
def parents (p : Path) : List Path := (List.range p.length).map p.take

/-- The folder with one more folder in it. -/
def addFolder (f : Folder) (p : Path) : Folder :=
  if f.isFolder p then f else { f with folders := f.folders ++ [p] }

/-- The folder with the given one and all on the way to it. -/
def withFolder (f : Folder) (p : Path) : Folder := (parents p ++ [p]).foldl addFolder f

/-- The files after one was written. -/
def writeFile (files : List (Path × String)) (p : Path) (text : String) : List (Path × String) :=
  match files with
  | [] => [(p, text)]
  | (q, old) :: rest => if q = p then (p, text) :: rest else (q, old) :: writeFile rest p text

/-- The folder after a file was written; folders on the way are made. -/
def write (f : Folder) (p : Path) (text : String) : Folder :=
  { f.withFolder p.dropLast with files := writeFile f.files p text }

/-- The folder after a text was added at the end of a file. -/
def append (f : Folder) (p : Path) (text : String) : Folder :=
  f.write p ((f.read? p).getD "" ++ text)

/-- The folder after a file was removed. -/
def remove (f : Folder) (p : Path) : Folder := { f with files := f.files.filter (·.1 != p) }

/-- The place that a path leads to from a folder, step by step; every name but the last must be that
of a folder. -/
def findFrom (f : Folder) (here : Path) : List String → Option Path
  | [] => some here
  | name :: rest =>
    if name == ".." then
      if here.isEmpty then none else findFrom f here.dropLast rest
    else if rest.isEmpty then some (here ++ [name])
    else if f.isFolder (here ++ [name]) then findFrom f (here ++ [name]) rest
    else none

/-- The file or folder that a path leads to, if there is one. -/
def find (f : Folder) (p : Path) : Option Path :=
  (f.findFrom [] p).filter fun q => f.isFile q || f.isFolder q

/-- The folder after all folders on a path were made, unless a file is in the way. -/
def makeFrom (f : Folder) (here : Path) : List String → Except Failure Folder
  | [] => .ok f
  | name :: rest =>
    if name == ".." then makeFrom f here.dropLast rest
    else
      let next := here ++ [name]
      if f.isFile next then .error (if rest.isEmpty then .fileInTheWay else .notFolder)
      else makeFrom (f.withFolder next) next rest

/-- The folder after the folders on a path were made. -/
def make (f : Folder) (p : Path) : Except Failure Folder := f.makeFrom [] p

/-- Whether a file lies in this folder, and not in one that is reached from the root or from above.
-/
def isInside (p : Path) : Bool := !(p.head? == some Path.rootMark || p.head? == some "..")

/-- All files with the texts of their paths, in the order of those. -/
def listing (f : Folder) : List (String × String) :=
  let inside := f.files.filter fun file => isInside file.1
  (inside.map fun file => (Path.text file.1, file.2)).mergeSort fun a b => decide (a.1 ≤ b.1)

theorem lookup_writeFile (files : List (Path × String)) (p : Path) (text : String) (q : Path) :
    (writeFile files p text).lookup q = if q = p then some text else files.lookup q := by
  induction files with
  | nil =>
    by_cases h : q = p
    · simp [writeFile, h]
    · have differ : (q == p) = false := by simp [h]
      simp [writeFile, List.lookup_cons, h, differ]
  | cons file rest ih =>
    obtain ⟨r, old⟩ := file
    by_cases hr : r = p
    · subst hr
      by_cases h : q = r
      · simp [writeFile, h]
      · have differ : (q == r) = false := by simp [h]
        simp [writeFile, List.lookup_cons, h, differ]
    · by_cases h : q = r
      · subst h
        simp [writeFile, hr]
      · have differ : (q == r) = false := by simp [h]
        simp [writeFile, List.lookup_cons, hr, differ, ih]

/-- A written file has its text, and no other file changes. -/
theorem read?_write (f : Folder) (p : Path) (text : String) (q : Path) :
    (f.write p text).read? q = if q = p then some text else f.read? q :=
  lookup_writeFile f.files p text q

end Folder

end StorageReply
