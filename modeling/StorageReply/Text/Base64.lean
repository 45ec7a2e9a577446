/-!
# Base 64

Bytes as text of 64 characters, four characters for three bytes. Reading passes over all other
characters, and ends where padding completes a group.

Main definition: `Base64.decode?`.
-/

namespace StorageReply.Text.Base64

/-- The six bits of a character. -/
def sextet? (c : Char) : Option Nat :=
  if 'A' ≤ c && c ≤ 'Z' then some (c.toNat - 65)
  else if 'a' ≤ c && c ≤ 'z' then some (c.toNat - 97 + 26)
  else if '0' ≤ c && c ≤ '9' then some (c.toNat - 48 + 52)
  else if c == '+' then some 62
  else if c == '/' then some 63
  else none

/-- The byte that six bits complete at a position of a group of four characters, after the six bits
before them. The first six bits of a group complete none. -/
def byte? (position before bits : Nat) : Option UInt8 :=
  match position with
  | 0 => none
  | 1 => some (UInt8.ofNat (before * 4 + bits / 16))
  | 2 => some (UInt8.ofNat (before % 16 * 16 + bits / 4))
  | _ => some (UInt8.ofNat (before % 4 * 64 + bits))

/-- The bytes of the rest of a text, from a position in a group on, after the six bits before it and
some padding. -/
def decodeFrom (position before padding : Nat) : List Char → Option (List UInt8)
  | [] => if position = 0 then some [] else none
  | c :: rest =>
    if c = '=' then
      if position < 2 then decodeFrom position before padding rest
      else if 4 ≤ position + padding + 1 then some []
      else decodeFrom position before (padding + 1) rest
    else
      match sextet? c with
      | none => decodeFrom position before padding rest
      | some bits =>
        (decodeFrom ((position + 1) % 4) bits 0 rest).map ((byte? position before bits).toList ++ ·)

/-- The bytes of a text, unless it ends inside a group. -/
def decode? (s : List Char) : Option (List UInt8) := decodeFrom 0 0 0 s

theorem decode?_nil : decode? [] = some [] := rfl

end StorageReply.Text.Base64
