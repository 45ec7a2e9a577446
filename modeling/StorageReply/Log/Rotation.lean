import StorageReply.Folder
import StorageReply.Text.CodePoint
import StorageReply.Text.Digit

/-!
# Rotated log files

A log file that is moved aside before it grows too large. The file moves to a first backup, a first
backup to a second one and so on; the last backup gives way, unless it is a folder. Without backups
the file grows on.

A log file stays open while lines are written to it. When it is removed meanwhile, lines go to the
removed file, until the next rotation opens a new one.

Main definitions:

* `LogFile`: an open log file;
* `LogFile.isFull`: whether a line calls for a rotation first;
* `Folder.rotate`: the files after a rotation;
* `LogFile.put`: the log file and the folder after a line.
-/

namespace StorageReply

open Number Text

/-- What an open log file is connected to. -/
inductive Handle
  /-- The file at its path. -/
  | attached
  /-- A file of some bytes that was removed. -/
  | detached (size : Nat)
  /-- Nothing, after a rotation that failed. -/
  | closed
  deriving DecidableEq, Repr

/-- An open log file. -/
structure LogFile where
  /-- Where it is. -/
  path : Path
  /-- The bytes that it should stay below; zero stands for no limit. -/
  limit : Int
  /-- How many backups are kept, unless the number cannot be used. -/
  backups : Option Int
  /-- What it is connected to. -/
  handle : Handle
  deriving Repr

/-- The path with an addition to the name of the file. -/
def Path.extended (p : Path) (addition : String) : Path :=
  match p.getLast? with
  | some name => p.dropLast ++ [name ++ addition]
  | none => p

/-- The path of a backup. -/
def Path.backup (p : Path) (i : Nat) : Path := p.extended ("." ++ numeral i)

/-- The number of a backup from the digits after the point; digits do not begin with a zero. -/
def backupNumber? (digits : List Char) : Option Nat :=
  if digits.isEmpty || digits.head? == some '0' || !digits.all isAsciiDigit then none
  else some (ofDigits (digits.map asciiDigitValue))

/-- Which backup of a file a path is. -/
def Path.backupOf? (p q : Path) : Option Nat :=
  match p.getLast?, q.getLast? with
  | some name, some other =>
    if p.dropLast == q.dropLast then
      (after? other.toList (name.toList ++ ['.'])).bind backupNumber?
    else none
  | _, _ => none

/-- Whether the last backup has to go in a rotation that keeps `count` backups: another one takes
its place. -/
def Folder.replacesLast (f : Folder) (p : Path) (count : Nat) : Bool :=
  count = 1 || f.isTaken (p.backup (count - 1))

/-- Whether a rotation cannot be carried out: a folder is in the place of the last backup, and does
not go. -/
def Folder.blocksRotation (f : Folder) (p : Path) (count : Nat) : Bool :=
  f.isFolder (p.backup count) && f.replacesLast p count

/-- Where a file or folder goes in a rotation that keeps `count` backups of the file at `p`. What is
in a folder goes with it. -/
def Folder.rotated (f : Folder) (p : Path) (count : Nat) (q : Path) : Option Path :=
  if q = p then some (p.backup 1)
  else match p.backupOf? (q.take p.length) with
    | none => some q
    | some i =>
      if i < count then some (p.backup (i + 1) ++ q.drop p.length)
      else if i = count && f.replacesLast p count then none
      else some q

/-- The folder after a rotation that keeps some backups. -/
def Folder.rotate (f : Folder) (p : Path) (count : Nat) : Folder where
  files := f.files.filterMap fun (q, text) => (f.rotated p count q).map (·, text)
  folders := f.folders.filterMap (f.rotated p count)

namespace LogFile

/-- The folder with a file at a path, which is empty if it was not there. -/
def openIn (f : Folder) (p : Path) : Folder := if f.isFile p then f else f.write p ""

/-- The bytes in the open file. -/
def size (file : LogFile) (f : Folder) : Nat :=
  match file.handle with
  | .attached | .closed => ((f.read? file.path).getD "").utf8ByteSize
  | .detached size => size

/-- Whether a rotation comes before a line: the bytes of the file and the code points of the line
together reach the limit. -/
def isFull (file : LogFile) (f : Folder) (line : List CodePoint) : Bool :=
  0 < file.limit && file.limit ≤ file.size f + line.length

/-- The folder after the old lines were moved aside, if there are backups. It fails when the number
of backups cannot be used, and when a folder is in the way. -/
def turned? (file : LogFile) (f : Folder) : Option Folder :=
  file.backups.bind fun count =>
    if count ≤ 0 then some f
    else if f.blocksRotation file.path count.toNat then none
    else some (f.rotate file.path count.toNat)

/-- The log file and the folder after a rotation, unless it fails. -/
def turn (file : LogFile) (f : Folder) : Option (LogFile × Folder) :=
  (file.turned? f).map fun turned => ({ file with handle := .attached }, openIn turned file.path)

/-- The log file and the folder after a text was added. -/
def add (file : LogFile) (f : Folder) (text : String) : LogFile × Folder :=
  match file.handle with
  | .detached size => ({ file with handle := .detached (size + text.utf8ByteSize) }, f)
  | .attached | .closed => ({ file with handle := .attached }, f.append file.path text)

/-- What a file takes of a line: all of it, or nothing if it has half of a surrogate pair. -/
def taken (line : List CodePoint) : String := (CodePoint.text? line).getD ""

/-- The log file and the folder after a line, with a rotation first where the file is full. A line
whose rotation fails is lost. -/
def put (file : LogFile) (f : Folder) (line : List CodePoint) : LogFile × Folder :=
  let f := if file.handle = .closed then openIn f file.path else f
  if file.isFull f line then
    match file.turn f with
    | some (file, f) => file.add f (taken line)
    | none => ({ file with handle := .closed }, f)
  else file.add f (taken line)

/-- The log file after the file at a path was removed from a folder. -/
def afterRemoval (file : LogFile) (f : Folder) (p : Path) : LogFile :=
  if file.path = p && file.handle = .attached then { file with handle := .detached (file.size f) }
  else file

/-- Without a limit a line is added at the end of the file. -/
theorem put_of_no_limit {file : LogFile} {f : Folder} {line : List CodePoint} (h : file.limit = 0)
    (attached : file.handle = .attached) :
    file.put f line = (file, f.append file.path (taken line)) := by
  obtain ⟨path, limit, backups, handle⟩ := file
  simp only at h attached
  subst h attached
  simp [put, isFull, add]

end LogFile

end StorageReply
