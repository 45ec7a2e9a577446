import StorageReply.Text.Blank

/-!
# Redaction

Credentials in log messages give way to a fixed text. A credential follows one of five markers: the
name of a header with a colon, or of a setting with an equals sign. Letter case in markers does not
matter, also for the few letters beyond ASCII that fold to ASCII ones.

Main definitions:

* `Redaction.Rule`: a marker and what its credential looks like;
* `Redaction.Rule.apply`: a text in which the credentials after one marker are hidden;
* `Redaction.redact`: a text in which all credentials are hidden, one rule after the other.
-/

namespace StorageReply.Redaction

open Text

/-- A letter without its case; the dotted and dotless i, the long s and the Kelvin sign count as
letters of ASCII. -/
def foldChar (c : Char) : Char :=
  if 'A' ≤ c && c ≤ 'Z' then Char.ofNat (c.toNat + 32)
  else if c = '\u0130' || c = '\u0131' then 'i'
  else if c = '\u017F' then 's'
  else if c = '\u212A' then 'k'
  else c

/-- The text after a marker at the start, and the marker as it is written there. -/
def afterMarker? : List Char → List Char → Option (List Char × List Char)
  | [], s => some ([], s)
  | _ :: _, [] => none
  | m :: marker, c :: s =>
    if foldChar c = m then (afterMarker? marker s).map fun (written, rest) => (c :: written, rest)
    else none

/-- What a credential looks like. -/
inductive Credential
  /-- A word after blanks, or two words when the first is one of the given schemes. -/
  | word (schemes : List (List Char))
  /-- All characters up to one of a class. -/
  | upTo (isEnd : Char → Bool)

/-- A marker, in small letters, and the credential that follows it. -/
structure Rule where
  /-- The marker. -/
  marker : List Char
  /-- The credential. -/
  credential : Credential

/-- The text that takes the place of a credential. -/
def mask : List Char := "***REDACTED***".toList

/-- Whether a character is not blank. -/
def isInk (c : Char) : Bool := !isBlank c

/-- The rest of a text after its first word, which may be a scheme with a word after it. -/
def afterWords (schemes : List (List Char)) (s : List Char) : List Char :=
  let first := s.takeWhile isInk
  let rest := s.dropWhile isInk
  let next := rest.dropWhile isBlank
  if schemes.contains (first.map foldChar) && !next.isEmpty then next.dropWhile isInk else rest

/-- The text that stays in front of a credential, and the text after the credential; nothing where
there is no credential. -/
def Credential.split? : Credential → List Char → Option (List Char × List Char)
  | .word schemes, s =>
    let blanks := s.takeWhile isBlank
    let value := s.dropWhile isBlank
    if blanks.isEmpty || value.isEmpty then none else some (blanks, afterWords schemes value)
  | .upTo isEnd, s =>
    if (s.takeWhile (!isEnd ·)).isEmpty then none else some ([], s.dropWhile (!isEnd ·))

/-- The marker at the start of a text with what stays in front of its credential, and the text after
the credential. -/
def Rule.match? (rule : Rule) (s : List Char) : Option (List Char × List Char) :=
  match afterMarker? rule.marker s with
  | none => none
  | some (written, rest) =>
    (rule.credential.split? rest).map fun (kept, tail) => (written ++ kept, tail)

/-- A text of at most `fuel` characters in which the credentials of a rule are hidden. -/
def Rule.applyFrom (rule : Rule) : Nat → List Char → List Char
  | 0, s => s
  | _, [] => []
  | fuel + 1, c :: rest =>
    match rule.match? (c :: rest) with
    | some (kept, tail) => kept ++ mask ++ applyFrom rule fuel tail
    | none => c :: applyFrom rule fuel rest

/-- A text in which the credentials of a rule are hidden. -/
def Rule.apply (rule : Rule) (s : List Char) : List Char := rule.applyFrom s.length s

/-- The schemes of authorization that are followed by a value of their own. -/
def schemes : List (List Char) :=
  ["sharedkey".toList, "sharedkeylite".toList, "bearer".toList]

/-- Whether a character ends a setting of a connection string. -/
def endsSetting (c : Char) : Bool := c == ';'

/-- Whether a character ends a signature inside a connection string. -/
def endsSignature (c : Char) : Bool := c == ';' || c == '&'

/-- Whether a character ends a parameter of a query. -/
def endsParameter (c : Char) : Bool := c == ';' || c == '&' || isBlank c

/-- The rule on authorization headers. -/
def authorization : Rule := ⟨"authorization:".toList, .word schemes⟩

/-- The rule on headers with an encryption key. -/
def encryptionKey : Rule := ⟨"x-ms-encryption-key:".toList, .word []⟩

/-- The rule on account keys. -/
def accountKey : Rule := ⟨"accountkey=".toList, .upTo endsSetting⟩

/-- The rule on shared access signatures. -/
def accessSignature : Rule := ⟨"sharedaccesssignature=".toList, .upTo endsSignature⟩

/-- The rule on signature parameters. -/
def signature : Rule := ⟨"sig=".toList, .upTo endsParameter⟩

/-- The rules in the order in which they are applied. -/
def rules : List Rule := [authorization, encryptionKey, accountKey, accessSignature, signature]

/-- A text in which all credentials are hidden. -/
def redactText (s : List Char) : List Char := rules.foldl (fun text rule => rule.apply text) s

/-- A string in which all credentials are hidden. -/
def redact (s : String) : String := String.ofList (redactText s.toList)

@[simp] theorem apply_nil (rule : Rule) : rule.apply [] = [] := rfl

theorem redactText_eq (s : List Char) :
    redactText s = signature.apply (accessSignature.apply (accountKey.apply
      (encryptionKey.apply (authorization.apply s)))) := rfl

end StorageReply.Redaction
