/-!
# Code points

A text is a sequence of characters. A few operations make more general sequences, of code points: a
message may name a code point that is half of a surrogate pair, and a JSON text may spell one alone.
Such a half belongs to no text, and neither a file nor the console takes it.

Main definitions:

* `CodePoint`: a character or half of a surrogate pair;
* `CodePoint.text?`: the text that code points are, if no half is among them;
* `CodePoint.shaded`: the text in which a character that means nothing stands for each half;
* `CodePoint.joined`: the code points with two halves that make a pair as one character.
-/

namespace StorageReply

/-- A code point. -/
inductive CodePoint
  /-- A character. -/
  | char (c : Char)
  /-- Half of a surrogate pair, by its distance from `0xD800`; the first `0x400` are high ones. -/
  | half (k : Fin 0x800)
  deriving DecidableEq, Repr

namespace CodePoint

/-- The code point of a number below `0x110000`. -/
def ofNat (n : Nat) : CodePoint :=
  if h : 0xD800 ≤ n ∧ n < 0xE000 then .half ⟨n - 0xD800, by omega⟩ else .char (Char.ofNat n)

/-- The number of a code point. -/
def toNat : CodePoint → Nat
  | .char c => c.toNat
  | .half k => 0xD800 + k

/-- Characters as code points. -/
def ofChars (s : List Char) : List CodePoint := s.map .char

/-- A text as code points. -/
def ofText (s : String) : List CodePoint := ofChars s.toList

/-- The characters that code points are, if no half is among them. -/
def chars? : List CodePoint → Option (List Char)
  | [] => some []
  | .char c :: rest => (chars? rest).map (c :: ·)
  | .half _ :: _ => none

/-- The text that code points are, if no half is among them. -/
def text? (codes : List CodePoint) : Option String := (chars? codes).map String.ofList

/-- The character of a code point, or `c` for a half. -/
def charOr (c : Char) : CodePoint → Char
  | .char c => c
  | .half _ => c

/-- Code points as characters, with a null character for each half. -/
def shade (codes : List CodePoint) : List Char := codes.map (charOr '\x00')

/-- Code points as a text, with a null character for each half. -/
def shaded (codes : List CodePoint) : String := String.ofList (shade codes)

/-- The character of a high and a low half. -/
def pair (high low : Fin 0x800) : Char :=
  Char.ofNat (0x10000 + high * 0x400 + (low - 0x400))

/-- The code points with a high half and the low half directly behind it as one character. -/
def joined : List CodePoint → List CodePoint
  | .half high :: .half low :: rest =>
    if high.val < 0x400 && 0x400 ≤ low.val then .char (pair high low) :: joined rest
    else .half high :: joined (.half low :: rest)
  | code :: rest => code :: joined rest
  | [] => []

@[simp] theorem chars?_ofChars (s : List Char) : chars? (ofChars s) = some s := by
  induction s with
  | nil => rfl
  | cons c s ih => simpa [ofChars, chars?] using ih

@[simp] theorem text?_ofText (s : String) : text? (ofText s) = some s := by
  simp [text?, ofText]

theorem ofText_inj {s t : String} : ofText s = ofText t ↔ s = t := by
  refine ⟨fun h => ?_, fun h => h ▸ rfl⟩
  rw [← Option.some_inj, ← text?_ofText, ← text?_ofText t, h]

@[simp] theorem shade_ofChars (s : List Char) : shade (ofChars s) = s := by
  simp [shade, ofChars, charOr, Function.comp_def]

@[simp] theorem shaded_ofText (s : String) : shaded (ofText s) = s := by
  simp [shaded, ofText]

@[simp] theorem shade_append (s t : List CodePoint) : shade (s ++ t) = shade s ++ shade t :=
  List.map_append

@[simp] theorem joined_ofChars (s : List Char) : joined (ofChars s) = ofChars s := by
  induction s with
  | nil => simp [ofChars, joined]
  | cons c s ih => simpa [ofChars, joined] using ih

@[simp] theorem joined_ofText (s : String) : joined (ofText s) = ofText s := joined_ofChars _

theorem chars?_eq_some_iff {codes : List CodePoint} {s : List Char} :
    chars? codes = some s ↔ codes = ofChars s := by
  constructor
  · intro h
    induction codes generalizing s with
    | nil =>
      obtain rfl := Option.some.inj h
      rfl
    | cons code codes ih =>
      cases code with
      | half k => cases h
      | char c =>
        obtain ⟨t, ht, rfl⟩ := Option.map_eq_some_iff.1 h
        rw [ih ht]
        rfl
  · rintro rfl
    exact chars?_ofChars s

/-- Code points are a text just when they are the code points of one. -/
theorem text?_eq_some_iff {codes : List CodePoint} {s : String} :
    text? codes = some s ↔ codes = ofText s := by
  rw [text?, Option.map_eq_some_iff]
  constructor
  · rintro ⟨cs, hcs, rfl⟩
    rw [chars?_eq_some_iff.1 hcs, ofText, String.toList_ofList]
  · rintro rfl
    exact ⟨s.toList, chars?_ofChars _, String.ofList_toList⟩

end CodePoint

end StorageReply
