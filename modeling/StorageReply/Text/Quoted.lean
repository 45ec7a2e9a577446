import StorageReply.Number.Numeral
import StorageReply.Text.Printable

/-!
# Quoted text

A text between quotes, with escapes for the quote, the backslash and every character that is not
printable. Single quotes are used unless the text holds a single quote and no double quote.

Main definitions: `quoted` for texts and `quotedBytes` for bytes.
-/

namespace StorageReply.Text

/-- The quote around a text: double exactly when the text has single quotes but no double ones. -/
def quoteFor (s : List Char) : Char := if s.contains '\'' && !s.contains '"' then '"' else '\''

/-- A character inside quotes. -/
def quotedChar (quote c : Char) : List Char :=
  if c = quote || c = '\\' then ['\\', c]
  else if c = '\t' then ['\\', 't']
  else if c = '\n' then ['\\', 'n']
  else if c = '\r' then ['\\', 'r']
  else if isPrintable c then [c]
  else if c.toNat < 0x100 then '\\' :: 'x' :: Number.hexPadded 2 c.toNat
  else if c.toNat < 0x10000 then '\\' :: 'u' :: Number.hexPadded 4 c.toNat
  else '\\' :: 'U' :: Number.hexPadded 8 c.toNat

/-- The text between quotes. -/
def quoted (s : List Char) : List Char :=
  let quote := quoteFor s
  quote :: s.flatMap (quotedChar quote) ++ [quote]

/-- The string between quotes. -/
def quotedString (s : String) : String := String.ofList (quoted s.toList)

/-- A byte inside quotes; only ASCII characters stand for themselves. -/
def quotedByte (quote : Char) (b : UInt8) : List Char :=
  if b < 0x80 then quotedChar quote (Char.ofNat b.toNat)
  else '\\' :: 'x' :: Number.hexPadded 2 b.toNat

/-- Bytes between quotes, with a mark in front. -/
def quotedBytes (data : List UInt8) : String :=
  let quote := quoteFor (data.map fun b => Char.ofNat b.toNat)
  String.ofList ('b' :: quote :: data.flatMap (quotedByte quote) ++ [quote])

/-- A printable character other than the quote and the backslash stands for itself. -/
theorem quotedChar_eq_self {quote c : Char} (printable : isPrintable c = true) (hq : c ≠ quote)
    (hb : c ≠ '\\') (ht : c ≠ '\t') (hn : c ≠ '\n') (hr : c ≠ '\r') : quotedChar quote c = [c] := by
  simp [quotedChar, hq, hb, ht, hn, hr, printable]

end StorageReply.Text
