import StorageReply.Failure
import StorageReply.Number.Format
import StorageReply.Text.CodePoint

/-!
# Message templates

Message templates with directives such as `%s`, `%05d` or `%(name)-8s`, and the arguments that fill
them: values in order, or one map whose entries are called by name.

Main definitions:

* `Arguments`: the arguments of a message;
* `Directive`: a directive of a template;
* `Template.render`: the code points of a template with its arguments.

A template without arguments stands for itself. What a template is filled with is text, but for one
directive: it takes the number of any code point, half of a surrogate pair as well.
-/

namespace StorageReply

open Number Text

/-- The arguments of a message. -/
inductive Arguments
  /-- Values in order. -/
  | positional (values : List Value)
  /-- A map. -/
  | named (entries : Fields)

/-- The arguments of a list of values; a single map that is not empty gives named arguments. -/
def Arguments.ofList : List Value → Arguments
  | [.map entries] => if entries.isEmpty then .positional [.map entries] else .named entries
  | values => .positional values

namespace Template

/-- The arguments that are left while a template is filled. -/
structure Supply where
  /-- The values that have not been used. -/
  pending : List Value
  /-- The map of named arguments. -/
  entries : Option Fields

/-- All arguments, before the template is filled. -/
def Supply.ofArguments : Arguments → Supply
  | .positional values => ⟨values, none⟩
  | .named entries => ⟨[.map entries], some entries⟩

/-- The next value, and the arguments without it. -/
def Supply.next (supply : Supply) : Except Failure (Value × Supply) :=
  match supply.pending with
  | [] => .error .wrongKind
  | v :: rest => .ok (v, { supply with pending := rest })

/-- The flags of a directive. -/
structure Flags where
  /-- The text stands at the left of its field. -/
  left : Bool := false
  /-- A number always has a sign. -/
  sign : Bool := false
  /-- A number without a sign has a space instead. -/
  space : Bool := false
  /-- The alternative form is used. -/
  alternative : Bool := false
  /-- The field of a number is filled with zeros. -/
  zero : Bool := false

/-- A directive of a template, without its key. -/
structure Directive where
  /-- The flags. -/
  flags : Flags
  /-- The least width of the field. -/
  width : Option Nat
  /-- The number of digits, or the greatest number of characters. -/
  precision : Option Nat
  /-- The letter that says how the value is written. -/
  letter : Char

/-- The flag of a character. -/
def flag? (flags : Flags) : Char → Option Flags
  | '-' => some { flags with left := true }
  | '+' => some { flags with sign := true }
  | ' ' => some { flags with space := true }
  | '0' => some { flags with zero := true }
  | c => if c = Char.ofNat 35 then some { flags with alternative := true } else none

/-- The flags at the start of a text, and the rest. -/
def spanFlags (flags : Flags) : List Char → Flags × List Char
  | [] => (flags, [])
  | c :: rest =>
    match flag? flags c with
    | some flags => spanFlags flags rest
    | none => (flags, c :: rest)

/-- The key before its closing parenthesis, and the rest; `depth` more parentheses are open. -/
def spanKey? (depth : Nat) : List Char → Option (List Char × List Char)
  | [] => none
  | c :: rest =>
    if c = ')' then
      match depth with
      | 0 => some ([], rest)
      | depth + 1 => (spanKey? depth rest).map fun (key, rest) => (c :: key, rest)
    else
      (spanKey? (if c = '(' then depth + 1 else depth) rest).map fun (key, rest) => (c :: key, rest)

/-- The value of a key of the named arguments. -/
def keyed (supply : Supply) (key : List Char) : Except Failure Supply :=
  match supply.entries with
  | none => .error .wrongKind
  | some entries =>
    match entries.named? (String.ofList key) with
    | some v => .ok { supply with pending := [v] }
    | none => .error .missingKey

/-- The arguments after a key at the start of a text, and the rest. -/
def takeKey (supply : Supply) (s : List Char) : Except Failure (Supply × List Char) :=
  match s with
  | '(' :: rest =>
    if supply.entries.isNone then .error .wrongKind
    else match spanKey? 0 rest with
      | none => .error (.unusable .incompleteKey)
      | some (key, rest) => do
        let supply ← keyed supply key
        return (supply, rest)
  | _ => .ok (supply, s)

/-- The greatest width of a field. -/
def widthLimit : Nat := 9223372036854775807

/-- The greatest precision. -/
def precisionLimit : Nat := 2147483647

/-- A number at the start of a text, and the rest. -/
def spanNumber? (s : List Char) : Option (Nat × List Char) :=
  let digits := s.takeWhile isAsciiDigit
  if digits.isEmpty then none
  else some (digits.foldl (fun n c => 10 * n + asciiDigitValue c) 0, s.dropWhile isAsciiDigit)

/-- A value as an integer that a field can be measured with. -/
def measure (limit : Nat) (v : Value) : Except Failure Int :=
  match v.integer? with
  | none => .error .wrongKind
  | some i => if i.natAbs ≤ limit then .ok i else .error .outOfRange

/-- The width at the start of a text: a number, or a star for the next value; a negative value asks
for the left of the field. -/
def takeWidth (supply : Supply) (flags : Flags) (s : List Char) :
    Except Failure (Option Nat × Flags × Supply × List Char) :=
  match s with
  | '*' :: rest => do
    let (v, supply) ← supply.next
    let i ← measure widthLimit v
    return (some i.natAbs, if i < 0 then { flags with left := true } else flags, supply, rest)
  | _ =>
    match spanNumber? s with
    | some (n, rest) =>
      if widthLimit < n then .error (.unusable .wideTemplate)
      else .ok (some n, flags, supply, rest)
    | none => .ok (none, flags, supply, s)

/-- The precision at the start of a text: a point and a number, or a star for the next value; a
point alone stands for zero, and so does a negative value. -/
def takePrecision (supply : Supply) (s : List Char) :
    Except Failure (Option Nat × Supply × List Char) :=
  match s with
  | '.' :: '*' :: rest => do
    let (v, supply) ← supply.next
    let i ← measure precisionLimit v
    return (some i.toNat, supply, rest)
  | '.' :: rest =>
    match spanNumber? rest with
    | some (n, rest) =>
      if precisionLimit < n then .error (.unusable .preciseTemplate)
      else .ok (some n, supply, rest)
    | none => .ok (some 0, supply, rest)
  | _ => .ok (none, supply, s)

/-- The text without a letter for the size of a number, which does not matter. -/
def skipSize : List Char → List Char
  | c :: rest => if c = 'h' || c = 'l' || c = 'L' then rest else c :: rest
  | [] => []

/-- The directive after a percent sign, the arguments that are left, and the rest. -/
def takeDirective (supply : Supply) (s : List Char) :
    Except Failure (Directive × Supply × List Char) := do
  let (supply, s) ← takeKey supply s
  let (flags, s) := spanFlags {} s
  let (width, flags, supply, s) ← takeWidth supply flags s
  let (precision, supply, s) ← takePrecision supply s
  match skipSize s with
  | [] => .error (.unusable .incompleteTemplate)
  | letter :: rest => return (⟨flags, width, precision, letter⟩, supply, rest)

/-- The written form of a number: its sign, a mark of its base, and its digits. -/
structure Numeric where
  /-- The sign, if it has one. -/
  sign : List Char
  /-- The mark of the base. -/
  mark : List Char
  /-- The digits. -/
  digits : List Char

/-- The integer of a value that is written with a decimal directive; fractions are dropped. -/
def decimalOf : Value → Except Failure Int
  | .float .nan => .error (.unusable .undefinedNumber)
  | .float x =>
    match x.truncated? with
    | some i => .ok i
    | none => .error .outOfRange
  | v =>
    match v.integer? with
    | some i => .ok i
    | none => .error .wrongKind

/-- The integer of a value that is written in another base. -/
def wholeOf (v : Value) : Except Failure Int :=
  match v.integer? with
  | some i => .ok i
  | none => .error .wrongKind

/-- The number of a value that is written with a fraction. -/
def numberOf (v : Value) : Except Failure Binary64 :=
  match v with
  | .float x => .ok x
  | _ =>
    match v.integer? with
    | none => .error .wrongKind
    | some i => if (Binary64.ofInt i).isFinite then .ok (Binary64.ofInt i) else .error .outOfRange

/-- Digits with zeros in front up to a count. -/
def fillDigits (count : Option Nat) (digits : List Char) : List Char :=
  List.replicate (count.getD 0 - digits.length) '0' ++ digits

/-- The sign of a negative integer. -/
def signOf (i : Int) : List Char := if i < 0 then ['-'] else []

/-- An integer in the base of a directive's letter. -/
def integerForm (d : Directive) (i : Int) : Except Failure Numeric :=
  let form (base : Nat) (mark : List Char) : Numeric :=
    ⟨signOf i, if d.flags.alternative then mark else [],
      fillDigits d.precision (Nat.toDigits base i.natAbs)⟩
  match d.letter with
  | 'x' => .ok (form 16 ['0', 'x'])
  | 'X' =>
    let n := form 16 ['0', 'X']
    .ok { n with digits := n.digits.map Char.toUpper }
  | 'o' => .ok (form 8 ['0', 'o'])
  | _ =>
    if hasNumeral i then .ok ⟨signOf i, [], fillDigits d.precision (naturalNumeral i.natAbs)⟩
    else .error (.unusable .longNumeral)

/-- A floating-point number in the format of a directive's letter. -/
def floatForm (d : Directive) (x : Binary64) : Numeric :=
  let style := match d.letter.toLower with
    | 'e' => Style.scientific
    | 'f' => Style.fixed
    | _ => Style.general
  let text := x.format style (d.precision.getD 6) d.flags.alternative
  let text := if d.letter.isUpper then text.map Char.toUpper else text
  match text with
  | '-' :: digits => ⟨['-'], [], digits⟩
  | digits => ⟨[], [], digits⟩

/-- A number in its field. -/
def placeNumber (d : Directive) (n : Numeric) : List Char :=
  let sign :=
    if !n.sign.isEmpty then n.sign
    else if d.flags.sign then ['+']
    else if d.flags.space then [' ']
    else []
  let length := sign.length + n.mark.length + n.digits.length
  let gap := d.width.getD 0 - length
  if d.flags.left then sign ++ n.mark ++ n.digits ++ List.replicate gap ' '
  else if d.flags.zero then sign ++ n.mark ++ List.replicate gap '0' ++ n.digits
  else List.replicate gap ' ' ++ sign ++ n.mark ++ n.digits

/-- Code points in their field. -/
def placeText (d : Directive) (codes : List CodePoint) : List CodePoint :=
  let gap := List.replicate (d.width.getD 0 - codes.length) (.char ' ')
  if d.flags.left then codes ++ gap else gap ++ codes

/-- A character beyond ASCII as an escape. -/
def asciiChar (c : Char) : List Char :=
  if c.toNat < 0x80 then [c]
  else if c.toNat < 0x100 then '\\' :: 'x' :: hexPadded 2 c.toNat
  else if c.toNat < 0x10000 then '\\' :: 'u' :: hexPadded 4 c.toNat
  else '\\' :: 'U' :: hexPadded 8 c.toNat

/-- The text of a value that there may be none of. -/
def textOr (s : Option String) : Except Failure (List Char) :=
  match s with
  | some s => .ok s.toList
  | none => .error (.unusable .longNumeral)

/-- The code point that a value names: a text of one character, or a number. -/
def codeOf (v : Value) : Except Failure (List CodePoint) :=
  match v with
  | .text s => if s.length = 1 then .ok (CodePoint.ofText s) else .error .wrongKind
  | _ =>
    match v.integer? with
    | none => .error .wrongKind
    | some i => if 0 ≤ i && i < 0x110000 then .ok [.ofNat i.toNat] else .error .outOfRange

/-- A value in the field of a directive; `index` is the place of the directive's letter. -/
def place (d : Directive) (index : Nat) (v : Value) : Except Failure (List CodePoint) :=
  let cut := fun s : List Char =>
    match d.precision with
    | some n => s.take n
    | none => s
  match d.letter with
  | 's' => return placeText d (CodePoint.ofChars (cut (← textOr v.display?)))
  | 'r' => return placeText d (CodePoint.ofChars (cut (← textOr v.shown?)))
  | 'a' => return placeText d (CodePoint.ofChars (cut ((← textOr v.shown?).flatMap asciiChar)))
  | 'c' => return placeText d (← codeOf v)
  | 'd' | 'i' | 'u' => return CodePoint.ofChars (placeNumber d (← integerForm d (← decimalOf v)))
  | 'x' | 'X' | 'o' => return CodePoint.ofChars (placeNumber d (← integerForm d (← wholeOf v)))
  | 'e' | 'E' | 'f' | 'F' | 'g' | 'G' =>
    return CodePoint.ofChars (placeNumber d (floatForm d (← numberOf v)))
  | letter => .error (.unusable (.unknownDirective letter index))

/-- The code points of a template of at most `fuel` characters, `size` being the length of the whole
template. -/
def renderFrom (size : Nat) : Nat → Supply → List Char → Except Failure (List CodePoint)
  | _, supply, [] =>
    if supply.pending.isEmpty || supply.entries.isSome then .ok [] else .error .wrongKind
  | 0, _, _ :: _ => .error (.unusable .incompleteTemplate)
  | fuel + 1, supply, '%' :: '%' :: rest => do
    return .char '%' :: (← renderFrom size fuel supply rest)
  | fuel + 1, supply, '%' :: rest => do
    let (d, supply, rest) ← takeDirective supply rest
    let (v, supply) ← supply.next
    let text ← place d (size - rest.length - 1) v
    return text ++ (← renderFrom size fuel supply rest)
  | fuel + 1, supply, c :: rest => do return .char c :: (← renderFrom size fuel supply rest)

/-- The code points of a template with its arguments. -/
def render (template : String) (arguments : Arguments) : Except Failure (List CodePoint) :=
  match arguments with
  | .positional [] => .ok (CodePoint.ofText template)
  | _ =>
    let s := template.toList
    renderFrom s.length s.length (.ofArguments arguments) s

@[simp] theorem render_nil (template : String) :
    render template (.positional []) = .ok (CodePoint.ofText template) := rfl

end Template

end StorageReply
