import StorageReply.Issue
import StorageReply.Value.Display

/-!
# Failures

Every way in which reading a reply, a document, a setting or a log setup can fail. A failure is a
cause; its text is computed from the cause.

Main definitions:

* `InvalidHeader`, `UriPairFault`, `DocumentFault`, `TextFault`: causes with a text of their own;
* `Failure`: the sum of all causes;
* `Failure.message`, `Failure.code?`: what is shown for it.
-/

namespace StorageReply

open Number

/-- A header value outside its enumeration. -/
structure InvalidHeader where
  /-- The value as received. -/
  value : String
  /-- The name of the enumeration. -/
  typeName : String
  /-- The header it came from, if known. -/
  header : Option String
  deriving DecidableEq, Repr

/-- The sentence for a header value outside its enumeration; an empty header name is left out. -/
def InvalidHeader.message (fault : InvalidHeader) : String :=
  let start := "Invalid " ++ fault.typeName ++ " value '" ++ fault.value ++ "'"
  match fault.header with
  | none => start
  | some name => if name.isEmpty then start else start ++ " in header '" ++ name ++ "'"

/-- Why two URIs make no storage URI. -/
inductive UriPairFault
  /-- Neither location is set. -/
  | noLocation
  /-- The two locations address different resources. -/
  | differentResources
  deriving DecidableEq, Repr

/-- The sentence for a bad pair. -/
def UriPairFault.message : UriPairFault → String
  | .noLocation => "StorageUri requires a primary or secondary URI"
  | .differentResources =>
    "Primary and secondary location URIs in a StorageUri must point to the same resource"

/-- Why a well-formed document is not the expected one. -/
inductive DocumentFault
  /-- The root has another name. -/
  | unexpectedRoot (expected found : String)
  /-- An element's text is no truth value. -/
  | notBoolean (element text : String)
  /-- An element's text is no integer. -/
  | notInteger (element text : String)
  /-- An element lacks a child or the child is blank. -/
  | missingChild (element child : String)
  /-- The replication status is none of the known ones. -/
  | unknownStatus (text : String)
  deriving DecidableEq, Repr

namespace DocumentFault

/-- The sentence for a bad document. -/
def message : DocumentFault → String
  | .unexpectedRoot expected found =>
    "Expected root element '" ++ expected ++ "' but found '" ++ found ++ "'"
  | .notBoolean element text =>
    "Element '" ++ element ++ "' must be 'true' or 'false', got '" ++ text ++ "'"
  | .notInteger element text =>
    "Element '" ++ element ++ "' must be an integer, got '" ++ text ++ "'"
  | .missingChild element child => "'" ++ element ++ "' is missing '" ++ child ++ "'"
  | .unknownStatus text => "Unknown geo-replication status '" ++ text ++ "'"

/-- The element at which the problem was found. -/
def element : DocumentFault → String
  | .unexpectedRoot _ found => found
  | .notBoolean name _ => name
  | .notInteger name _ => name
  | .missingChild name _ => name
  | .unknownStatus _ => "Status"

end DocumentFault

/-- The part of a date that does not exist. -/
inductive DatePart
  /-- The month. -/
  | month
  /-- The day. -/
  | day
  /-- The hour. -/
  | hour
  /-- The minute. -/
  | minute
  /-- The second. -/
  | second
  deriving DecidableEq, Repr

/-- The sentence for a part of a date that does not exist. -/
def DatePart.message : DatePart → String
  | .month => "month must be in 1..12"
  | .day => "day is out of range for month"
  | .hour => "hour must be in 0..23"
  | .minute => "minute must be in 0..59"
  | .second => "second must be in 0..59"

/-- Why a text or number cannot be used. -/
inductive TextFault
  /-- A URL with an opening or a closing bracket only. -/
  | unbalancedBrackets
  /-- A network location with a character that stands for a separator. -/
  | disguisedSeparator (host : String)
  /-- A value that is no member of an enumeration. -/
  | notMember (shown typeName : String)
  /-- A text that is no size. -/
  | notSize (text : String)
  /-- A settings file with an unknown ending. -/
  | fileFormat (ending : String)
  /-- A level name that stands for another kind of text. -/
  | notLevel (text : String)
  /-- An integer whose numeral is too long to write. -/
  | longNumeral
  /-- A numeral with too many digits to read. -/
  | longDigits (count : Nat)
  /-- A message template that breaks off in a directive. -/
  | incompleteTemplate
  /-- A message template that breaks off in a key. -/
  | incompleteKey
  /-- A message template with an unknown directive. -/
  | unknownDirective (c : Char) (index : Nat)
  /-- A message template with a width that is too great. -/
  | wideTemplate
  /-- A message template with a precision that is too great. -/
  | preciseTemplate
  /-- A path with a NUL character. -/
  | nulInPath
  /-- A moment whose time is not a number. -/
  | undefinedNumber
  /-- An encoding of several bytes a character. -/
  | wideEncoding
  /-- A year that dates are not written in. -/
  | outsideYears (year : Int)
  /-- A number that is greater than any code point. -/
  | outsideUnicode
  /-- A text that is no integer in a base. -/
  | notInteger (base : Nat) (text : String)
  /-- A text that is no floating-point number. -/
  | notNumber (text : String)
  /-- A date that does not exist. -/
  | noDate (part : DatePart)
  /-- An offset from universal time of a day or more. -/
  | wideOffset (seconds : Int)
  deriving DecidableEq, Repr

/-- The sentence for an unusable text. -/
def TextFault.message : TextFault → String
  | .unbalancedBrackets => "Invalid IPv6 URL"
  | .disguisedSeparator host =>
    "netloc " ++ host ++ " contains invalid characters under NFKC normalization"
  | .notMember shown typeName => shown ++ " is not a valid " ++ typeName
  | .notSize text => "Invalid log rotation size: " ++ Text.quotedString text
  | .fileFormat ending => "Unsupported config file format: " ++ ending
  | .notLevel text => "Unknown level: " ++ Text.quotedString text
  | .longNumeral => "Exceeds the limit (4300 digits) for integer string conversion; " ++
      "use sys.set_int_max_str_digits() to increase the limit"
  | .longDigits count => "Exceeds the limit (4300 digits) for integer string conversion: value has "
      ++ numeral count ++ " digits; use sys.set_int_max_str_digits() to increase the limit"
  | .incompleteTemplate => "incomplete format"
  | .incompleteKey => "incomplete format key"
  | .unknownDirective c index =>
    "unsupported format character '" ++
      (if 31 ≤ c.toNat && c.toNat < 126 then String.singleton c else "?") ++
      "' (0x" ++ String.ofList (Nat.toDigits 16 c.toNat) ++ ") at index " ++ numeral index
  | .wideTemplate => "width too big"
  | .preciseTemplate => "precision too big"
  | .nulInPath => "embedded null byte"
  | .undefinedNumber => "cannot convert float NaN to integer"
  | .wideEncoding => "multi-byte encodings are not supported"
  | .outsideYears year => "year " ++ numeral year ++ " is out of range"
  | .outsideUnicode => "chr() arg not in range(0x110000)"
  | .notInteger base text => "invalid literal for int() with base " ++ numeral base ++ ": "
      ++ Text.quotedString text
  | .notNumber text => "could not convert string to float: " ++ Text.quotedString text
  | .noDate part => part.message
  | .wideOffset seconds => "offset must be a timedelta strictly between -timedelta(hours=24) and "
      ++ "timedelta(hours=24), not " ++ Value.spanText seconds ++ "."

/-- Every way in which an operation can fail. -/
inductive Failure
  /-- A header value outside its enumeration. -/
  | invalidHeader (fault : InvalidHeader)
  /-- A URI was read before it was set. -/
  | uriNotSet (resource : String)
  /-- Two URIs make no storage URI. -/
  | uriPair (fault : UriPairFault)
  /-- A well-formed document is not the expected one. -/
  | document (fault : DocumentFault)
  /-- A value is no date of the service. -/
  | timestamp (value : Value)
  /-- A value breaks the rules of its record. -/
  | validation (issues : List Issue)
  /-- A text or number cannot be used. -/
  | unusable (fault : TextFault)
  /-- No configuration has been loaded. -/
  | notLoaded
  /-- The settings file does not exist. -/
  | fileMissing (path : String)
  /-- A file that was to be removed does not exist. -/
  | nothingToRemove (path : String)
  /-- A value has no headers to read. -/
  | unreadableHeaders (typeName : String)
  /-- A document is not well-formed XML. -/
  | malformedXml
  /-- A path to elements is not well-formed. -/
  | malformedPath
  /-- A settings file is not well-formed YAML. -/
  | malformedYaml
  /-- A settings file is not well-formed JSON. -/
  | malformedJson
  /-- A document declares an unknown encoding. -/
  | unknownEncoding
  /-- A document declares an encoding that refuses to be used. -/
  | unusableEncoding
  /-- A document declares an encoding that cannot take all bytes. -/
  | undecodable
  /-- A value of the wrong kind was used. -/
  | wrongKind
  /-- A value lacks the operation that was asked of it. -/
  | noOperation
  /-- A key is not present. -/
  | missingKey
  /-- A position lies outside a text or list. -/
  | missingItem
  /-- A number is out of range. -/
  | outOfRange
  /-- A point in time is beyond what the clock can show. -/
  | beyondClock
  /-- A folder stands where a file was expected. -/
  | isFolder
  /-- A file stands where a folder was expected. -/
  | notFolder
  /-- A file stands where a folder was to be made. -/
  | fileInTheWay
  deriving Repr

namespace Failure

/-- The code of a failure of the storage client. -/
def code? : Failure → Option String
  | .invalidHeader _ => some "InvalidHeaderValue"
  | .uriNotSet _ => some "UriNotSet"
  | .uriPair _ => some "InvalidUri"
  | .document _ => some "InvalidXmlDocument"
  | .timestamp _ => some "InvalidTimestamp"
  | _ => none

/-- The sentence of a failure that has one. -/
def message? : Failure → Option String
  | .invalidHeader fault => some fault.message
  | .uriNotSet resource => some ("Storage URI for " ++ resource ++ " is not set")
  | .uriPair fault => some fault.message
  | .document fault => some fault.message
  | .timestamp value => some ("Invalid RFC 1123 timestamp: '" ++ value.display?.getD "" ++ "'")
  | .unusable fault => some fault.message
  | .notLoaded => some "Configuration not loaded. Call load() first."
  | .fileMissing path => some ("Configuration file not found: " ++ path)
  | .nothingToRemove path =>
    some ("[Errno 2] No such file or directory: " ++ Text.quotedString path)
  | .unreadableHeaders typeName => some ("Cannot read headers from " ++ typeName)
  | _ => none

end Failure

/-- Two steps succeed just when the first one does and the second one does on its result. -/
theorem bind_eq_ok_iff {ε α β : Type} {x : Except ε α} {f : α → Except ε β} {b : β} :
    (x >>= f) = .ok b ↔ ∃ a, x = .ok a ∧ f a = .ok b := by
  cases x with
  | error e => simp [bind, Except.bind]
  | ok a => simp [bind, Except.bind]

theorem map_eq_ok_iff {ε α β : Type} {x : Except ε α} {f : α → β} {b : β} :
    x.map f = .ok b ↔ ∃ a, x = .ok a ∧ f a = b := by
  cases x <;> simp [Except.map]

theorem eq_ok_of_toOption {ε α : Type} {x : Except ε α} {a : α} (h : x.toOption = some a) :
    x = .ok a := by
  cases x with
  | error e => simp [Except.toOption] at h
  | ok b => simpa [Except.toOption] using h

theorem exists_error_of_toOption {ε α : Type} {x : Except ε α} (h : x.toOption = none) :
    ∃ e, x = .error e := by
  cases x with
  | error e => exact ⟨e, rfl⟩
  | ok a => simp [Except.toOption] at h

/-- Every member of a list of results is the result of a member of the list. -/
theorem exists_of_mem_mapM {ε α β : Type} {f : α → Except ε β} {as : List α} {bs : List β}
    (h : as.mapM f = .ok bs) {b : β} (hb : b ∈ bs) : ∃ a ∈ as, f a = .ok b := by
  induction as generalizing bs with
  | nil =>
    obtain rfl := Except.ok.inj h
    simp at hb
  | cons a as ih =>
    rw [List.mapM_cons, bind_eq_ok_iff] at h
    obtain ⟨c, hc, h⟩ := h
    obtain ⟨cs, hcs, h⟩ := bind_eq_ok_iff.1 h
    obtain rfl := Except.ok.inj h
    rcases List.mem_cons.1 hb with rfl | hb
    · exact ⟨a, List.mem_cons_self .., hc⟩
    · obtain ⟨a', ha', hb⟩ := ih hcs hb
      exact ⟨a', List.mem_cons_of_mem _ ha', hb⟩

/-- A list of results is a result where each member has one. -/
theorem exists_mapM_eq_ok {ε α β : Type} {f : α → Except ε β} {as : List α}
    (h : ∀ a ∈ as, ∃ b, f a = .ok b) : ∃ bs, as.mapM f = .ok bs := by
  induction as with
  | nil => exact ⟨[], rfl⟩
  | cons a as ih =>
    obtain ⟨b, hb⟩ := h a (List.mem_cons_self ..)
    obtain ⟨bs, hbs⟩ := ih fun a' ha' => h a' (List.mem_cons_of_mem _ ha')
    refine ⟨b :: bs, ?_⟩
    rw [List.mapM_cons, hb, hbs]
    rfl

/-- A list of results fails where members fail in one way only, and one does. -/
theorem mapM_eq_error {ε α β : Type} {f : α → Except ε β} {as : List α} {e : ε}
    (hall : ∀ a ∈ as, f a = .error e ∨ ∃ b, f a = .ok b) (hfails : ∃ a ∈ as, f a = .error e) :
    as.mapM f = .error e := by
  induction as with
  | nil =>
    obtain ⟨a, ha, -⟩ := hfails
    simp at ha
  | cons a as ih =>
    rw [List.mapM_cons]
    rcases hall a (List.mem_cons_self ..) with ha | ⟨b, hb⟩
    · rw [ha]
      rfl
    · have hrest : ∃ a' ∈ as, f a' = .error e := by
        obtain ⟨a', ha', hfail⟩ := hfails
        rcases List.mem_cons.1 ha' with rfl | ha'
        · rw [hb] at hfail
          cases hfail
        · exact ⟨a', ha', hfail⟩
      rw [hb, ih (fun a' ha' => hall a' (List.mem_cons_of_mem _ ha')) hrest]
      rfl

end StorageReply
