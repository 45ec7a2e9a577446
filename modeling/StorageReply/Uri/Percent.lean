import StorageReply.Text.Digit
import StorageReply.Text.Utf8

/-!
# Percent decoding

A percent sign with two hexadecimal digits stands for a byte. The bytes of each run of ASCII
characters are read as UTF-8, with U+FFFD for what is no UTF-8; other characters stand for
themselves.

Main definition: `percentDecode`.
-/

namespace StorageReply.Uri

open Text

/-- The bytes that a run of ASCII characters stands for. -/
def percentBytes : List Char → List UInt8
  | [] => []
  | '%' :: a :: b :: rest =>
    match hexValue? a, hexValue? b with
    | some high, some low => UInt8.ofNat (high * 16 + low) :: percentBytes rest
    | _, _ => 0x25 :: percentBytes (a :: b :: rest)
  | c :: rest => UInt8.ofNat c.toNat :: percentBytes rest

/-- The text of a run of ASCII characters, given in reverse. -/
def flushRun (run : List Char) : List Char := Utf8.decodeLossy (percentBytes run.reverse)

/-- The decoded text, where `run` is the reversed run of ASCII characters before it. -/
def percentDecodeFrom (run : List Char) : List Char → List Char
  | [] => flushRun run
  | c :: rest =>
    if c.toNat < 0x80 then percentDecodeFrom (c :: run) rest
    else flushRun run ++ c :: percentDecodeFrom [] rest

/-- The text in which each percent sign with two hexadecimal digits is read as a byte. -/
def percentDecode (s : List Char) : List Char := percentDecodeFrom [] s

end StorageReply.Uri
