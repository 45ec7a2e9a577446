import StorageReply.Text.Case
import StorageReply.Value.Basic

/-!
# Settings from the environment

Seven environment variables that stand for settings. A variable that is empty stands for nothing.

Main definitions:

* `Environment`: the variables that are set, with `Environment.get?` and `Environment.assign`;
* `Environment.fields`: the map of settings that the variables stand for.

`get?_assign` says what setting a variable does to every look-up.
-/

namespace StorageReply

open Text

/-- The environment variables that are set. -/
structure Environment where
  /-- The names and values. -/
  entries : List (String × String)
  deriving Repr

namespace Environment

/-- The value of a variable. -/
def get? (env : Environment) (name : String) : Option String :=
  env.entries.lookup name

/-- The environment after a variable was set, or unset. -/
def assign (env : Environment) (name : String) (value : Option String) : Environment :=
  ⟨(value.map (name, ·)).toList ++ env.entries.filter (·.1 != name)⟩

/-- The value of a variable that is not empty. -/
def given (env : Environment) (name : String) : Option String :=
  (env.get? name).filter (!·.isEmpty)

/-- An entry for a variable, where it is given. -/
def entry? (env : Environment) (name : String) (key : String) (f : String → String) : Fields :=
  ((env.given name).map fun value => (Key.text key, Value.text (f value))).toList

/-- A map under a key, unless it is empty. -/
def group (key : String) (fields : Fields) : Fields :=
  if fields.isEmpty then [] else [(.text key, .map fields)]

/-- The settings of the account. -/
def accountFields (env : Environment) : Fields :=
  env.entry? "ZURESTORE_ACCOUNT_NAME" "name" id
    ++ env.entry? "ZURESTORE_ENDPOINT_SUFFIX" "endpoint_suffix" id
    ++ env.entry? "ZURESTORE_PRIMARY_ENDPOINT" "primary_endpoint" id
    ++ env.entry? "ZURESTORE_SECONDARY_ENDPOINT" "secondary_endpoint" id

/-- The settings of the log. -/
def loggingFields (env : Environment) : Fields :=
  env.entry? "ZURESTORE_LOG_LEVEL" "level" upperString
    ++ env.entry? "ZURESTORE_LOG_FILE" "file" id

/-- The map of settings that the variables stand for. Modes are written in lower case and levels in
upper case. -/
def fields (env : Environment) : Fields :=
  group "account" env.accountFields
    ++ env.entry? "ZURESTORE_LOCATION_MODE" "location_mode" lowerString
    ++ group "logging" env.loggingFields

@[simp] theorem fields_nil : fields ⟨[]⟩ = [] := rfl

/-- Without the entries of a name all other look-ups stay. -/
theorem lookup_filter {α : Type} (entries : List (String × α)) (name other : String) :
    (entries.filter (·.1 != name)).lookup other =
      if other = name then none else entries.lookup other := by
  induction entries with
  | nil => simp
  | cons entry rest ih =>
    obtain ⟨key, v⟩ := entry
    by_cases hk : key = name
    · subst hk
      by_cases ho : other = key
      · simpa [ho] using ih
      · have differ : (other == key) = false := by simp [ho]
        simpa [List.lookup_cons, ho, differ] using ih
    · by_cases hq : other = key
      · subst hq
        simp [hk]
      · have differ : (other == key) = false := by simp [hq]
        simpa [List.filter_cons, List.lookup_cons, hk, differ] using ih

/-- A variable that was set has its value, and no other variable changes. -/
theorem get?_assign (env : Environment) (name : String) (value : Option String) (other : String) :
    (env.assign name value).get? other = if other = name then value else env.get? other := by
  cases value with
  | none => simpa [get?, assign] using lookup_filter env.entries name other
  | some v =>
    by_cases ho : other = name
    · simp [get?, assign, ho]
    · have differ : (other == name) = false := by simp [ho]
      simpa [get?, assign, List.lookup_cons, differ, ho] using lookup_filter env.entries name other

end Environment

end StorageReply
