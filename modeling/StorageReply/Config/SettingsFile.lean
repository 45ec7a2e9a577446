import StorageReply.Folder
import StorageReply.Json.Reader
import StorageReply.Yaml.Reader

/-!
# Settings files

Files that settings are read from. The ending of the file's name tells the format: `.yaml`, `.yml`
or `.json`.

Main definitions:

* `FileFormat`, `FileFormat.ofEnding?`: the formats;
* `FileFormat.read`: the value of a text in a format;
* `Folder.settings`: the value of the file at a path.
-/

namespace StorageReply

/-- A format of settings files. -/
inductive FileFormat
  /-- YAML. -/
  | yaml
  /-- JSON. -/
  | json
  deriving DecidableEq, Repr

namespace FileFormat

/-- The format of a file's ending. -/
def ofEnding? (ending : String) : Option FileFormat :=
  if ending = ".yaml" || ending = ".yml" then some .yaml
  else if ending = ".json" then some .json
  else none

/-- The value of a text in JSON. -/
def readJson (text : String) : Except Failure Value :=
  match Json.parse text with
  | .ok v => .ok v
  | .error .malformed => .error .malformedJson
  | .error (.longNumeral digits) => .error (.unusable (.longDigits digits))

/-- The value of a text in YAML. A value that does not count as given is read as an empty map. -/
def readYaml (text : String) : Except Failure Value :=
  (Yaml.parse text).map fun v => if v.truthy then v else .map []

/-- The value of a text in a format. -/
def read : FileFormat → String → Except Failure Value
  | .yaml, text => readYaml text
  | .json, text => readJson text

end FileFormat

/-- The value of the settings file at a path. The file must exist before its ending matters. -/
def Folder.settings (f : Folder) (path : String) : Except Failure Value :=
  match f.find (Path.ofText path) with
  | none => .error (.fileMissing path)
  | some place =>
    match f.read? place with
    | none => .error .isFolder
    | some text =>
      let ending := Path.ending (Path.ofText path)
      match FileFormat.ofEnding? ending with
      | some format => format.read text
      | none => .error (.unusable (.fileFormat ending))

end StorageReply
