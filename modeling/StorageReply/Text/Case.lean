import StorageReply.Text.CaseTable

/-!
# Letter case

The lower and the upper form of a text, over all of Unicode. One letter has a lower form of two
characters (the capital I with a dot above), and one has a lower form that depends on its place: the
capital sigma ends a word as `ς` and stands elsewhere as `σ`.

Main definitions:

* `lower`, `upper`: the two forms of a text;
* `lowerString`, `upperString`: the same on strings.

An ASCII character has a lower form of one character (`lowerChar_ascii`).
-/

namespace StorageReply.Text

/-- The lower form of an ASCII letter; every other character is kept. -/
def asciiLowerChar (c : Char) : Char :=
  if 'A' ≤ c && c ≤ 'Z' then Char.ofNat (c.toNat + 32) else c

/-- The upper form of an ASCII letter; every other character is kept. -/
def asciiUpperChar (c : Char) : Char :=
  if 'a' ≤ c && c ≤ 'z' then Char.ofNat (c.toNat - 32) else c

/-- The lower form of a character by itself. -/
def lowerChar (c : Char) : List Char :=
  if c.toNat < 128 then [asciiLowerChar c]
  else if c.toNat = 0x130 then ['i', '\u0307']
  else match CaseRun.image? c.toNat lowerRuns with
    | some n => [Char.ofNat n]
    | none => [c]

/-- The upper form of a character. -/
def upperChar (c : Char) : List Char :=
  if c.toNat < 128 then [asciiUpperChar c]
  else match upperSequences.lookup c.toNat with
    | some ns => ns.map Char.ofNat
    | none => match CaseRun.image? c.toNat upperRuns with
      | some n => [Char.ofNat n]
      | none => [c]

/-- Whether the nearest character that is not passed over is cased. -/
def meetsCased : List Char → Bool
  | [] => false
  | c :: rest =>
    if inRanges c.toNat ignorableRanges then meetsCased rest else inRanges c.toNat casedRanges

/-- The capital letter sigma. -/
def capitalSigma : Char := '\u03A3'

/-- The lower form of a text whose reversed beginning is `before`. -/
def lowerFrom (before : List Char) : List Char → List Char
  | [] => []
  | c :: rest =>
    if c = capitalSigma then
      (if meetsCased before && !meetsCased rest then '\u03C2' else '\u03C3')
        :: lowerFrom (c :: before) rest
    else lowerChar c ++ lowerFrom (c :: before) rest

/-- The lower form of a text. -/
def lower (s : List Char) : List Char := lowerFrom [] s

/-- The upper form of a text. -/
def upper (s : List Char) : List Char := s.flatMap upperChar

/-- The lower form of a string. -/
def lowerString (s : String) : String := String.ofList (lower s.toList)

/-- The upper form of a string. -/
def upperString (s : String) : String := String.ofList (upper s.toList)

theorem lowerChar_ascii {c : Char} (h : c.toNat < 128) : lowerChar c = [asciiLowerChar c] := by
  simp [lowerChar, h]

theorem lower_nil : lower [] = [] := rfl

end StorageReply.Text
