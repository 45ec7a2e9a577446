import StorageReply.Text.Digit
import StorageReply.Text.Pieces

/-!
# Kinds of nodes

What kind of value a node stands for: its tag says so, or for a plain scalar its spelling. Version
1.1 of the format has many spellings: `yes` is a truth value, `010` and `1:30` are integers, and
`2022-01-19` is a date.

Main definitions:

* `Kind`, `Kind.ofTag`: the kinds, and the kind of a tag;
* `Kind.ofPlain`: the kind of a plain scalar;
* `dateParts?`: the digits of a date.
-/

namespace StorageReply.Yaml

open Text

/-- What a node stands for. -/
inductive Kind
  /-- The absent value. -/
  | null
  /-- A truth value. -/
  | bool
  /-- An integer. -/
  | int
  /-- A floating-point number. -/
  | float
  /-- Bytes. -/
  | binary
  /-- A date or a date with a time. -/
  | timestamp
  /-- A list of entries in order. -/
  | orderedMap
  /-- A list of entries that may repeat. -/
  | pairs
  /-- A set. -/
  | set
  /-- A text. -/
  | text
  /-- A list. -/
  | list
  /-- A map. -/
  | map
  /-- The key under which other maps are merged into a map. -/
  | merge
  /-- The key of the value that a map stands for as a scalar. -/
  | standard
  /-- Anything else, which cannot be read. -/
  | unknown
  deriving DecidableEq, Repr

/-- The beginning of the tags of known kinds. -/
def knownStart : String := "tag:yaml.org,2002:"

/-- The kinds by the ends of their tags. -/
def Kind.names : List (String × Kind) :=
  [("null", .null), ("bool", .bool), ("int", .int), ("float", .float), ("binary", .binary),
   ("timestamp", .timestamp), ("omap", .orderedMap), ("pairs", .pairs), ("set", .set),
   ("str", .text), ("seq", .list), ("map", .map), ("merge", .merge), ("value", .standard)]

/-- The kind of a complete tag. -/
def Kind.ofTag (tag : String) : Kind :=
  match after? tag.toList knownStart.toList with
  | some name => (Kind.names.lookup (String.ofList name)).getD .unknown
  | none => .unknown

/-! ## Spellings -/

/-- A text without one of the signs at its start. -/
def unsigned : List Char → List Char
  | '-' :: rest => rest
  | '+' :: rest => rest
  | s => s

/-- Whether a text is not empty and has only characters of a kind. -/
def isRun (p : Char → Bool) (s : List Char) : Bool := !s.isEmpty && s.all p

/-- Whether a character is an ASCII digit or an underscore. -/
def isSpacedDigit (c : Char) : Bool := isAsciiDigit c || c == '_'

/-- Whether a text is digits and underscores that begin with a digit. -/
def isSpacedNumber (s : List Char) : Bool := beginsDigit s && s.all isSpacedDigit
where
  /-- Whether a text begins with a digit. -/
  beginsDigit : List Char → Bool
    | [] => false
    | c :: _ => isAsciiDigit c

/-- Whether a text is a count of minutes or seconds: one digit, or two of which the first is at most
five. -/
def isSixtieth : List Char → Bool
  | [a] => isAsciiDigit a
  | [a, b] => '0' ≤ a && a ≤ '5' && isAsciiDigit b
  | _ => false

/-- Whether a text is a number in base sixty: parts between colons. -/
def isSexagesimal (leading : List Char → Bool) (s : List Char) : Bool :=
  match pieces ':' s with
  | first :: second :: more => leading first && (second :: more).all isSixtieth
  | _ => false

/-- Whether a text is a number that does not begin with a zero, with underscores. -/
def isPositiveNumber (s : List Char) : Bool :=
  match s with
  | c :: rest => '1' ≤ c && c ≤ '9' && rest.all isSpacedDigit
  | [] => false

/-- Whether a text spells an integer: binary, octal, decimal, hexadecimal or in base sixty. -/
def isInt (s : List Char) : Bool :=
  match unsigned s with
  | '0' :: 'b' :: rest => isRun (fun c => c == '0' || c == '1' || c == '_') rest
  | '0' :: 'x' :: rest => isRun (fun c => (hexValue? c).isSome || c == '_') rest
  | ['0'] => true
  | '0' :: rest => rest.all fun c => ('0' ≤ c && c ≤ '7') || c == '_'
  | body => isPositiveNumber body || isSexagesimal isPositiveNumber body

/-- Whether a text is nothing or an exponent with a sign. -/
def isExponent : List Char → Bool
  | [] => true
  | e :: sign :: digits =>
    (e == 'e' || e == 'E') && (sign == '+' || sign == '-') && isRun isAsciiDigit digits
  | _ => false

/-- Whether a text is a fraction after its point, perhaps with an exponent. -/
def isFraction (s : List Char) : Bool := isExponent (s.dropWhile isSpacedDigit)

/-- Whether a text is a number with a point, perhaps with an exponent. -/
def isPointed (s : List Char) : Bool :=
  match cut? (· == '.') s with
  | some (whole, _, rest) => isSpacedNumber whole && isFraction rest
  | none => false

/-- Whether a text is a number in base sixty with a point. -/
def isSexagesimalFraction (s : List Char) : Bool :=
  match cut? (· == '.') s with
  | some (whole, _, rest) => isSexagesimal isSpacedNumber whole && rest.all isSpacedDigit
  | none => false

/-- Whether a text spells a floating-point number. -/
def isFloat (s : List Char) : Bool :=
  let body := unsigned s
  isPointed body || isSexagesimalFraction body
    || [".inf".toList, ".Inf".toList, ".INF".toList].contains body
    || [".nan".toList, ".NaN".toList, ".NAN".toList].contains s
    || (match s with
        | '.' :: c :: rest => isAsciiDigit c && isFraction rest
        | _ => false)

/-- The spellings of truth values. -/
def boolWords : List (String × Bool) :=
  [("yes", true), ("Yes", true), ("YES", true), ("no", false), ("No", false), ("NO", false),
   ("true", true), ("True", true), ("TRUE", true), ("false", false), ("False", false),
   ("FALSE", false), ("on", true), ("On", true), ("ON", true), ("off", false), ("Off", false),
   ("OFF", false)]

/-- The spellings of the absent value. -/
def nullWords : List String := ["", "~", "null", "Null", "NULL"]

/-! ## Dates -/

/-- How far a time is from universal time, as digits. -/
inductive Zone
  /-- Universal time. -/
  | universal
  /-- A sign, hours, and perhaps minutes. -/
  | offset (negative : Bool) (hours minutes : List Char)
  deriving Repr

/-- A time of day as digits. -/
structure TimeParts where
  /-- The digits of the hour. -/
  hour : List Char
  /-- The digits of the minute. -/
  minute : List Char
  /-- The digits of the second. -/
  second : List Char
  /-- The digits after the point. -/
  fraction : List Char
  /-- The zone, if there is one. -/
  zone : Option Zone
  deriving Repr

/-- A date, perhaps with a time, as digits. -/
structure DateParts where
  /-- The digits of the year. -/
  year : List Char
  /-- The digits of the month. -/
  month : List Char
  /-- The digits of the day. -/
  day : List Char
  /-- The time of day, if there is one. -/
  time : Option TimeParts
  deriving Repr

/-- A number of digits at the start of a text, at least `least` and at most `most`, and the rest. -/
def takeDigits? (least most : Nat) (s : List Char) : Option (List Char × List Char) :=
  let digits := (s.take most).takeWhile isAsciiDigit
  if digits.length < least then none else some (digits, s.drop digits.length)

/-- The text after a character. -/
def expect? (c : Char) : List Char → Option (List Char)
  | a :: rest => if a = c then some rest else none
  | [] => none

/-- Whether a character is a space or a tab. -/
def isInlineBlank (c : Char) : Bool := c == ' ' || c == '\t'

/-- The zone at the end of a date, which may be missing. -/
def zone? (s : List Char) : Option (Option Zone) :=
  match s.dropWhile isInlineBlank with
  | [] => if s.isEmpty then some none else none
  | ['Z'] => some (some .universal)
  | sign :: rest => do
    guard (sign == '+' || sign == '-')
    let (hours, rest) ← takeDigits? 1 2 rest
    match rest with
    | [] => return some (.offset (sign == '-') hours [])
    | _ =>
      let (minutes, rest) ← takeDigits? 2 2 (← expect? ':' rest)
      guard rest.isEmpty
      return some (.offset (sign == '-') hours minutes)

/-- The text after the mark between a date and its time. -/
def dateGap? (s : List Char) : Option (List Char) :=
  match s with
  | c :: rest =>
    if c == 'T' || c == 't' then some rest
    else if isInlineBlank c then some (rest.dropWhile isInlineBlank)
    else none
  | [] => none

/-- The digits after a point, and the rest. -/
def timeFraction : List Char → List Char × List Char
  | '.' :: rest => (rest.takeWhile isAsciiDigit, rest.dropWhile isAsciiDigit)
  | rest => ([], rest)

/-- The parts of a time of day. -/
def timeParts? (s : List Char) : Option TimeParts := do
  let (hour, s) ← takeDigits? 1 2 s
  let (minute, s) ← takeDigits? 2 2 (← expect? ':' s)
  let (second, s) ← takeDigits? 2 2 (← expect? ':' s)
  let (fraction, s) := timeFraction s
  return ⟨hour, minute, second, fraction, ← zone? s⟩

/-- The parts of a date, perhaps with a time. -/
def dateParts? (s : List Char) : Option DateParts := do
  let (year, s) ← takeDigits? 4 4 s
  let (month, s) ← takeDigits? 1 2 (← expect? '-' s)
  let (day, s) ← takeDigits? 1 2 (← expect? '-' s)
  if s.isEmpty then return ⟨year, month, day, none⟩
  else return ⟨year, month, day, some (← timeParts? (← dateGap? s))⟩

/-- Whether a text spells a date. Without a time, month and day have two digits. -/
def isTimestamp (s : List Char) : Bool :=
  match dateParts? s with
  | some parts => parts.time.isSome || (parts.month.length == 2 && parts.day.length == 2)
  | none => false

/-- The kind of a plain scalar. -/
def Kind.ofPlain (text : String) : Kind :=
  let s := text.toList
  if (boolWords.lookup text).isSome then .bool
  else if isFloat s then .float
  else if isInt s then .int
  else if text = "<<" then .merge
  else if nullWords.contains text then .null
  else if isTimestamp s then .timestamp
  else if text = "=" then .standard
  else .text

end StorageReply.Yaml
