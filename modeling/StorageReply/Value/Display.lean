import StorageReply.Number.Decimal
import StorageReply.Text.Pieces
import StorageReply.Text.Quoted
import StorageReply.Value.Basic

/-!
# Display of values

The text of a dynamic value in messages, header values and log lines. A text stands for itself at
the top and is quoted inside a list or map, and a date is written in numbers there; the constants
are spelled `None`, `True` and `False`. An
integer whose numeral is too long has no display.

Main definitions:

* `Value.shown?`: the text of a value as a member of another;
* `Value.display?`: the text of a value by itself.
-/

namespace StorageReply.Value

open Number Text

/-- The spelling of a truth value. -/
def boolText (b : Bool) : String := if b then "True" else "False"

/-- The text of a key inside a map. -/
def keyText : Key → String
  | .text s => quotedString s
  | .number i => numeral i
  | .other shown => shown

/-- Numbers with commas between them. -/
def listed (numbers : List Nat) : String :=
  joinedStrings ", " (numbers.map fun (n : Nat) => numeral n)

/-- A span of time, as whole days and the seconds after them. -/
def spanText (seconds : Int) : String :=
  let days := seconds / 86400
  let rest := seconds % 86400
  let parts := (if days = 0 then [] else ["days=" ++ numeral days])
    ++ (if rest = 0 then [] else ["seconds=" ++ numeral rest])
  "datetime.timedelta(" ++ (if parts.isEmpty then "0" else joinedStrings ", " parts) ++ ")"

/-- An offset from universal time. -/
def offsetShown (seconds : Int) : String :=
  if seconds = 0 then "datetime.timezone.utc" else "datetime.timezone(" ++ spanText seconds ++ ")"

/-- The year, month and day of a date. -/
def dateNumbers (d : Calendar.Date) : List Nat := [d.year.toNat, d.month, d.day]

/-- The hour, minute, second and microsecond of a time; zeros at the end are left out after the
minute. -/
def clockNumbers (m : Moment) : List Nat :=
  let second := m.secondOfDay
  [second / 3600, second / 60 % 60]
    ++ (if m.micro = 0 then (if second % 60 = 0 then [] else [second % 60])
      else [second % 60, m.micro])

/-- A date as a member of another value. -/
def dateShown (d : Calendar.Date) : String := "datetime.date(" ++ listed (dateNumbers d) ++ ")"

/-- A date with a time as a member of another value. -/
def momentShown (m : Moment) : String :=
  "datetime.datetime(" ++ listed (dateNumbers m.date ++ clockNumbers m)
    ++ (m.offset.map fun offset => ", tzinfo=" ++ offsetShown offset).getD "" ++ ")"

mutual

/-- The text of a value as a member of another, where texts are quoted. -/
def shown? : Value → Option String
  | .null => some "None"
  | .bool b => some (boolText b)
  | .int i => numeral? i
  | .float x => some x.text
  | .text s => some (quotedString s)
  | .list items => (shownItems? items).map fun parts => "[" ++ joinedStrings ", " parts ++ "]"
  | .map entries =>
    (shownEntries? entries).map fun parts => "\x7b" ++ joinedStrings ", " parts ++ "\x7d"
  | .extra (.bytes data) => some (quotedBytes data)
  | .extra (.date d) => some (dateShown d)
  | .extra (.dateTime m) => some (momentShown m)
  | .extra (.set _) => some "set"
  | .extra .cycle => some "..."

/-- The texts of the members of a list. -/
def shownItems? : List Value → Option (List String)
  | [] => some []
  | v :: rest => do return (← v.shown?) :: (← shownItems? rest)

/-- The texts of the entries of a map. -/
def shownEntries? : List (Key × Value) → Option (List String)
  | [] => some []
  | (k, v) :: rest => do
    let text ← v.shown?
    return (keyText k ++ ": " ++ text) :: (← shownEntries? rest)

end

/-- The text of a value by itself. -/
def display? : Value → Option String
  | .text s => some s
  | .extra (.date d) => some (Moment.dateText d)
  | .extra (.dateTime m) => some (m.textWith " ")
  | v => v.shown?

@[simp] theorem display?_text (s : String) : display? (.text s) = some s := rfl

@[simp] theorem display?_null : display? .null = some "None" := by
  simp [display?, shown?]

end StorageReply.Value
