import StorageReply.Log.Logbook

/-!
# A line in a log file

What becomes of a line that is put in a log file whose place was not taken away: what the file takes
of it is added once at its end, and the file is moved aside first if it is full (`LogFile.put_eq`).
A line without halves of surrogate pairs is taken as a whole. It is lost in one case only: the file
is full, and cannot be moved aside, since the number of backups cannot be used or a folder is where
the last backup would have to give way (`LogFile.Loses`, `LogFile.ready?_eq_none_iff`).
-/

namespace StorageReply.LogFile

/-- Whether the file is the one at its path, or is closed. -/
def IsConnected (file : LogFile) : Prop := ∀ size, file.handle ≠ .detached size

/-- The folder once the file is open again after a rotation that failed. -/
def opened (file : LogFile) (f : Folder) : Folder :=
  if file.handle = .closed then openIn f file.path else f

/-- The folder in which a line is added to the file: as it is, or after the file was moved aside and
a new one opened. There is none if that is called for and fails. -/
def ready? (file : LogFile) (f : Folder) (line : List CodePoint) : Option Folder :=
  if file.isFull (file.opened f) line then
    (file.turned? (file.opened f)).map fun turned => openIn turned file.path
  else some (file.opened f)

theorem add_of_isConnected {file : LogFile} (h : file.IsConnected) (f : Folder) (text : String) :
    file.add f text = ({ file with handle := .attached }, f.append file.path text) := by
  obtain ⟨path, limit, backups, handle⟩ := file
  cases handle with
  | attached => rfl
  | detached size => exact absurd rfl (h size)
  | closed => rfl

/-- **A line is added once, or is lost.** -/
theorem put_eq {file : LogFile} (h : file.IsConnected) (f : Folder) (line : List CodePoint) :
    file.put f line =
      match file.ready? f line with
      | some ready => ({ file with handle := .attached }, ready.append file.path (taken line))
      | none => ({ file with handle := .closed }, file.opened f) := by
  have hput : file.put f line =
      if file.isFull (file.opened f) line then
        (file.turn (file.opened f)).elim ({ file with handle := .closed }, file.opened f)
          fun turned => turned.1.add turned.2 (taken line)
      else file.add (file.opened f) (taken line) := by
    simp only [put, opened]
    split <;> cases file.turn _ <;> rfl
  rw [hput, ready?, turn]
  split
  · cases file.turned? (file.opened f) <;> rfl
  · exact add_of_isConnected h _ _

/-- The file stays in its place, or is closed. -/
theorem exists_fst_put {file : LogFile} (h : file.IsConnected) (f : Folder)
    (line : List CodePoint) :
    ∃ handle, (file.put f line).1 = { file with handle := handle } ∧
      ∀ size, handle ≠ .detached size := by
  rw [put_eq h]
  cases file.ready? f line with
  | some ready => exact ⟨.attached, rfl, by simp⟩
  | none => exact ⟨.closed, rfl, by simp⟩

/-- Whether the file cannot be moved aside in a folder: the number of backups cannot be used, or a
folder is where the last one would have to give way. -/
def IsStuck (file : LogFile) (f : Folder) : Prop :=
  file.backups = none ∨
    ∃ count, file.backups = some count ∧ 0 < count ∧ f.blocksRotation file.path count.toNat = true

theorem turned?_eq_none_iff {file : LogFile} {f : Folder} :
    file.turned? f = none ↔ file.IsStuck f := by
  rw [turned?, IsStuck]
  cases file.backups with
  | none => simp
  | some count =>
    simp only [Option.bind_some, reduceCtorEq, Option.some.injEq, false_or, exists_eq_left']
    by_cases hcount : count ≤ 0
    · simp [hcount, Int.not_lt.2 hcount]
    · cases hblocked : f.blocksRotation file.path count.toNat <;>
        simp [hcount, Int.lt_of_not_ge hcount]

/-- Whether a line is lost: the file is full and cannot be moved aside. -/
def Loses (file : LogFile) (f : Folder) (line : List CodePoint) : Prop :=
  file.isFull (file.opened f) line = true ∧ file.IsStuck (file.opened f)

theorem ready?_eq_none_iff {file : LogFile} {f : Folder} {line : List CodePoint} :
    file.ready? f line = none ↔ file.Loses f line := by
  rw [ready?, Loses]
  split
  · rename_i hfull
    rw [Option.map_eq_none_iff, turned?_eq_none_iff]
    simp [hfull]
  · rename_i hfull
    simp [hfull]

/-- Whether a log file receives a text for a line on the way from a folder to another: once, at the
end of the file, which was moved aside before if it was full. -/
def Receives (file : LogFile) (line : List CodePoint) (text : String) (f g : Folder) : Prop :=
  ∃ ready, file.ready? f line = some ready ∧ g = ready.append file.path text

/-- **A log file receives what it takes of a line**, unless it loses the line. -/
theorem receives_put {file : LogFile} (hconnected : file.IsConnected) {f : Folder}
    {line : List CodePoint} (h : ¬file.Loses f line) :
    file.Receives line (taken line) f (file.put f line).2 := by
  obtain ⟨ready, hready⟩ := Option.ne_none_iff_exists'.1 (mt ready?_eq_none_iff.1 h)
  refine ⟨ready, hready, ?_⟩
  rw [put_eq hconnected, hready]

/-- A line that is lost changes nothing, but that the file is opened. -/
theorem snd_put_of_loses {file : LogFile} (hconnected : file.IsConnected) {f : Folder}
    {line : List CodePoint} (h : file.Loses f line) : (file.put f line).2 = file.opened f := by
  rw [put_eq hconnected, ready?_eq_none_iff.2 h]

end StorageReply.LogFile
