/-!
# UTF-8

Texts as bytes. Reading takes the longest well-formed beginning of each sequence; a sequence that
breaks off is refused or replaced as one character.

Main definitions:

* `Utf8.next`: the first character of a list of bytes, if its sequence is complete;
* `Utf8.decode?`: the text, if all sequences are complete;
* `Utf8.decodeLossy`: the text with U+FFFD for each broken sequence;
* `Utf8.encode`: the bytes of a text.
-/

namespace StorageReply.Text.Utf8

/-- The character that a lead byte's bits and `count` continuation bytes make, and what follows. The
first continuation byte must lie between `low` and `high`, the others between `0x80` and `0xBF`. -/
def continuation : Nat → Nat → Nat → Nat → List UInt8 → Option Nat × List UInt8
  | 0, _, _, value, rest => (some value, rest)
  | _ + 1, _, _, _, [] => (none, [])
  | count + 1, low, high, value, b :: rest =>
    if low ≤ b.toNat && b.toNat ≤ high then
      continuation count 0x80 0xBF (value * 64 + b.toNat % 64) rest
    else (none, b :: rest)

/-- The code point of the sequence that begins with a byte, unless it is broken, and what follows
the sequence or its longest well-formed beginning. -/
def next (b : UInt8) (rest : List UInt8) : Option Nat × List UInt8 :=
  let n := b.toNat
  if n < 0x80 then (some n, rest)
  else if n < 0xC2 then (none, rest)
  else if n < 0xE0 then continuation 1 0x80 0xBF (n % 32) rest
  else if n < 0xF0 then
    continuation 2 (if n = 0xE0 then 0xA0 else 0x80) (if n = 0xED then 0x9F else 0xBF) (n % 16) rest
  else if n < 0xF5 then
    continuation 3 (if n = 0xF0 then 0x90 else 0x80) (if n = 0xF4 then 0x8F else 0xBF) (n % 8) rest
  else (none, rest)

/-- The text of at most `fuel` sequences. -/
def decodeFrom? : Nat → List UInt8 → Option (List Char)
  | _, [] => some []
  | 0, _ :: _ => none
  | fuel + 1, b :: rest =>
    match next b rest with
    | (some n, rest) => (decodeFrom? fuel rest).map (Char.ofNat n :: ·)
    | (none, _) => none

/-- The text, if every sequence is complete. -/
def decode? (bytes : List UInt8) : Option (List Char) := decodeFrom? bytes.length bytes

/-- The text of at most `fuel` sequences, with U+FFFD for each broken one. -/
def decodeLossyFrom : Nat → List UInt8 → List Char
  | 0, _ => []
  | _, [] => []
  | fuel + 1, b :: rest =>
    let (found, rest) := next b rest
    (found.map Char.ofNat).getD '\uFFFD' :: decodeLossyFrom fuel rest

/-- The text, with U+FFFD for each broken sequence. -/
def decodeLossy (bytes : List UInt8) : List Char := decodeLossyFrom bytes.length bytes

/-- The bytes of a text. -/
def encode (s : List Char) : List UInt8 := s.flatMap String.utf8EncodeChar

/-- A byte below `0x80` is a character by itself. -/
theorem next_ascii {b : UInt8} (h : b.toNat < 0x80) (rest : List UInt8) :
    next b rest = (some b.toNat, rest) := by
  simp [next, h]

end StorageReply.Text.Utf8
