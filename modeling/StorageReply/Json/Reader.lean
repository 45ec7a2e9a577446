import StorageReply.Json.Tree

/-!
# Reading JSON

JSON texts as trees. Integers have any size up to the limit of numerals; a number with a point or an
exponent is a floating-point number; the names `NaN` and `Infinity` are numbers too. An escape may
spell half of a surrogate pair, and two halves that make a pair spell one character.

Main definitions:

* `Json.value?`: what the start of a text says, with the rest;
* `Json.read`: what a whole text says;
* `Json.parse`: the dynamic value that a whole text denotes, in which no half is left.

The reader works on characters. Every step of it takes at least one character or ends, and the fuel
of `value?` is the length of the text.
-/

namespace StorageReply.Json

open Number Text

/-- What a text lacks to be JSON. -/
inductive Fault
  /-- The text breaks the grammar. -/
  | malformed
  /-- An integer has more digits than the limit allows. -/
  | longNumeral (digits : Nat)
  deriving DecidableEq, Repr

/-- The four blanks of JSON. -/
def isSpace (c : Char) : Bool := c == ' ' || c == '\t' || c == '\n' || c == '\r'

/-- The text without its leading blanks. -/
def skipSpace (s : List Char) : List Char := s.dropWhile isSpace

/-- The leading ASCII digits of a text, and the rest. -/
def spanDigits (s : List Char) : List Char × List Char :=
  (s.takeWhile isAsciiDigit, s.dropWhile isAsciiDigit)

/-- The number that ASCII digits denote. -/
def digitsValue (s : List Char) : Nat := ofDigits (s.map asciiDigitValue)

/-- Four hexadecimal digits at the start of a text. -/
def hexUnit? : List Char → Option (Nat × List Char)
  | a :: b :: c :: d :: rest => do
    let w ← hexValue? a
    let x ← hexValue? b
    let y ← hexValue? c
    let z ← hexValue? d
    return (((w * 16 + x) * 16 + y) * 16 + z, rest)
  | _ => none

/-- The character of a short escape. -/
def shortEscape? : Char → Option Char
  | '"' => some '"'
  | '\\' => some '\\'
  | '/' => some '/'
  | 'b' => some '\x08'
  | 'f' => some '\x0c'
  | 'n' => some '\n'
  | 'r' => some '\r'
  | 't' => some '\t'
  | _ => none

/-- The code points of a string up to its closing quote, each unit for itself, and the rest. -/
def units? : Nat → List Char → Option (List CodePoint × List Char)
  | 0, _ => none
  | _, [] => none
  | _ + 1, '"' :: rest => some ([], rest)
  | fuel + 1, '\\' :: 'u' :: rest => do
    let (unit, rest) ← hexUnit? rest
    let (codes, rest) ← units? fuel rest
    return (.ofNat unit :: codes, rest)
  | fuel + 1, '\\' :: e :: rest => do
    let c ← shortEscape? e
    let (codes, rest) ← units? fuel rest
    return (.char c :: codes, rest)
  | fuel + 1, c :: rest => do
    guard (0x20 ≤ c.toNat && c ≠ '\\')
    let (codes, rest) ← units? fuel rest
    return (.char c :: codes, rest)

/-- The code points of a string up to its closing quote, and the rest. -/
def stringBody? (s : List Char) : Option (List CodePoint × List Char) :=
  (units? (s.length + 1) s).map fun (codes, rest) => (CodePoint.joined codes, rest)

/-- The fraction of a number: its digits, and the rest of the text. -/
def fraction (s : List Char) : List Char × List Char :=
  match s with
  | '.' :: rest =>
    let (digits, tail) := spanDigits rest
    if digits.isEmpty then ([], s) else (digits, tail)
  | _ => ([], s)

/-- The exponent of a number, if the text goes on with one, and the rest. -/
def exponent (s : List Char) : Option Int × List Char :=
  match s with
  | e :: rest =>
    if e == 'e' || e == 'E' then
      let (negative, tail) := splitSign rest
      let (digits, tail) := spanDigits tail
      if digits.isEmpty then (none, s)
      else (some (if negative then -(digitsValue digits : Int) else digitsValue digits), tail)
    else (none, s)
  | [] => (none, s)

/-- A number without its sign at the start of a text. -/
def unsigned? (limit : Nat) (negative : Bool) (s : List Char) : Except Fault (Tree × List Char) :=
  let (whole, rest) := match s with
    | '0' :: tail => (['0'], tail)
    | _ => spanDigits s
  if whole.isEmpty then .error .malformed
  else
    let (part, rest') := fraction rest
    let (power, rest'') := exponent rest'
    if part.isEmpty && power.isNone then
      if whole.length ≤ limit then
        let n : Int := digitsValue whole
        .ok (.int (if negative then -n else n), rest)
      else .error (.longNumeral whole.length)
    else
      let scale : Int := power.getD 0 - part.length
      .ok (.float (Binary64.ofDecimal negative (digitsValue (whole ++ part)) scale), rest'')

/-- The words that are values. -/
def constants : List (List Char × Tree) :=
  [("null".toList, .null), ("true".toList, .bool true), ("false".toList, .bool false),
   ("NaN".toList, .float .nan), ("Infinity".toList, .float (.infinite false)),
   ("-Infinity".toList, .float (.infinite true))]

/-- The first of the given words that a text begins with. -/
def constant? (s : List Char) : List (List Char × Tree) → Option (Tree × List Char)
  | [] => none
  | (word, t) :: others =>
    if word.isPrefixOf s then some (t, s.drop word.length) else constant? s others

/-- A value that is no list, map or string, at the start of a text. -/
def scalar? (limit : Nat) (s : List Char) : Except Fault (Tree × List Char) :=
  match constant? s constants with
  | some found => .ok found
  | none =>
    match s with
    | '-' :: rest => unsigned? limit true rest
    | _ => unsigned? limit false s

mutual

/-- A value at the start of a text without leading blanks, and the rest. -/
def value? (limit : Nat) : Nat → List Char → Except Fault (Tree × List Char)
  | 0, _ => .error .malformed
  | _, [] => .error .malformed
  | _ + 1, '"' :: rest =>
    match stringBody? rest with
    | some (codes, rest) => .ok (.text codes, rest)
    | none => .error .malformed
  | fuel + 1, '[' :: rest =>
    match skipSpace rest with
    | ']' :: rest => .ok (.list [], rest)
    | rest => do
      let (items, rest) ← items? limit fuel rest
      return (.list items, rest)
  | fuel + 1, '\x7b' :: rest =>
    match skipSpace rest with
    | '\x7d' :: rest => .ok (.map [], rest)
    | rest => do
      let (entries, rest) ← entries? limit fuel rest
      return (.map entries, rest)
  | _ + 1, s => scalar? limit s

/-- The members of a list up to its closing bracket, and the rest. -/
def items? (limit : Nat) : Nat → List Char → Except Fault (List Tree × List Char)
  | 0, _ => .error .malformed
  | fuel + 1, s => do
    let (t, rest) ← value? limit fuel s
    match skipSpace rest with
    | ']' :: rest => return ([t], rest)
    | ',' :: rest =>
      let (ts, rest) ← items? limit fuel (skipSpace rest)
      return (t :: ts, rest)
    | _ => .error .malformed

/-- The entries of a map up to its closing brace, and the rest. -/
def entries? (limit : Nat) : Nat → List Char → Except Fault (Entries × List Char)
  | 0, _ => .error .malformed
  | fuel + 1, '"' :: s =>
    match stringBody? s with
    | none => .error .malformed
    | some (name, rest) =>
      match skipSpace rest with
      | ':' :: rest => do
        let (t, rest) ← value? limit fuel (skipSpace rest)
        match skipSpace rest with
        | '\x7d' :: rest => return ([(name, t)], rest)
        | ',' :: rest =>
          let (others, rest) ← entries? limit fuel (skipSpace rest)
          return ((name, t) :: others, rest)
        | _ => .error .malformed
      | _ => .error .malformed
  | _ + 1, _ => .error .malformed

end

/-- What a whole text says, with integers of at most `limit` digits. -/
def readWithin (limit : Nat) (s : String) : Except Fault Tree := do
  let cs := s.toList
  let (t, rest) ← value? limit (2 * cs.length + 2) (skipSpace cs)
  if (skipSpace rest).isEmpty then return t else .error .malformed

/-- What a whole text says. -/
def read (s : String) : Except Fault Tree := readWithin digitLimit s

/-- The value that a whole text denotes, with integers of at most `limit` digits. -/
def parseWithin (limit : Nat) (s : String) : Except Fault Value :=
  (readWithin limit s).map Tree.value

/-- The value that a whole text denotes. -/
def parse (s : String) : Except Fault Value := parseWithin digitLimit s

end StorageReply.Json
