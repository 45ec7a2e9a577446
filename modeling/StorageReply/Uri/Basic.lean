import StorageReply.Failure
import StorageReply.Text.Pieces

/-!
# Uniform resource identifiers

A URI reference taken apart into its six parts, and put together again. Only brackets that do not
pair and characters that stand for a separator make a reference unusable; anything else is some
reference.

Main definitions:

* `Uri`: the parts, with `Uri.parse` and `Uri.text`;
* `Uri.trimmedPath`: the path without the slashes at its end;
* `Uri.append`: the same reference with a segment at the end of its path.
-/

namespace StorageReply

open Text

/-- The parts of a URI reference. -/
structure Uri where
  /-- The scheme, in lower case. -/
  scheme : List Char
  /-- The network location. -/
  host : List Char
  /-- The path. -/
  path : List Char
  /-- The parameters of the last path segment. -/
  params : List Char
  /-- The query. -/
  query : List Char
  /-- The fragment. -/
  fragment : List Char
  deriving DecidableEq, Repr

namespace Uri

/-- The schemes whose references have a network location. -/
def hostSchemes : List String :=
  ["", "ftp", "http", "gopher", "nntp", "telnet", "imap", "wais", "file", "mms", "https", "shttp",
   "snews", "prospero", "rtsp", "rtspu", "rsync", "svn", "svn+ssh", "sftp", "nfs", "git",
   "git+ssh", "ws", "wss"]

/-- The schemes whose last path segment can have parameters. -/
def paramSchemes : List String :=
  ["", "ftp", "hdl", "prospero", "http", "imap", "https", "shttp", "rtsp", "rtspu", "sip", "sips",
   "mms", "sftp", "tel"]

/-- Whether a character may stand in a scheme. -/
def isSchemeChar (c : Char) : Bool := c.isAlphanum || c == '+' || c == '-' || c == '.'

/-- The characters that a reference loses before it is read: tab, carriage return, line feed. -/
def isDropped (c : Char) : Bool := c == '\t' || c == '\r' || c == '\n'

/-- The scheme in lower case and what follows its colon; without a scheme the whole text. -/
def splitScheme (s : List Char) : List Char × List Char :=
  match cut? (· == ':') s with
  | some (name, _, rest) =>
    if (name.head?.map Char.isAlpha).getD false && name.all isSchemeChar then
      (name.map Char.toLower, rest)
    else ([], s)
  | none => ([], s)

/-- Whether a character ends a network location. -/
def endsHost (c : Char) : Bool := c == '/' || c == '?' || c == '#'

/-- The network location after two slashes, and what follows it. -/
def splitHost (s : List Char) : List Char × List Char :=
  match s with
  | '/' :: '/' :: rest => (rest.takeWhile (!endsHost ·), rest.dropWhile (!endsHost ·))
  | _ => ([], s)

/-- The parts before and after the first occurrence of a mark; the second is empty without one. -/
def splitMark (mark : Char) (s : List Char) : List Char × List Char :=
  (s.takeWhile (· != mark), (s.dropWhile (· != mark)).drop 1)

/-- The path without the parameters of its last segment, and these parameters. -/
def splitParams (path : List Char) : List Char × List Char :=
  let name := afterLast '/' path
  let (start, params) := splitMark ';' name
  (path.take (path.length - name.length) ++ start, params)

/-- Characters whose compatibility form holds a separator of a reference. -/
def disguisedSeparators : List Nat :=
  [0x2047, 0x2048, 0x2049, 0x2100, 0x2101, 0x2105, 0x2106, 0x2A74, 0xFE13, 0xFE16, 0xFE55, 0xFE56,
   0xFE5F, 0xFE6B, 0xFF03, 0xFF0F, 0xFF1A, 0xFF1F, 0xFF20]

/-- Whether a network location can be used: its brackets pair up. -/
def bracketsPair (host : List Char) : Bool := host.contains '[' == host.contains ']'

/-- Whether a network location has a character that stands for a separator. -/
def hasDisguise (host : List Char) : Bool := host.any (disguisedSeparators.contains ·.toNat)

/-- The parts of a reference. Tabs and line breaks are dropped wherever they stand; blanks and
control characters at its ends belong to it. Of brackets in the network location only the pairing is
looked at, not what stands between them. -/
def parse (s : List Char) : Except TextFault Uri :=
  let (scheme, rest) := splitScheme (s.filter (!isDropped ·))
  let (host, rest) := splitHost rest
  if !bracketsPair host then .error .unbalancedBrackets
  else
    let (rest, fragment) := splitMark '#' rest
    let (path, query) := splitMark '?' rest
    if hasDisguise host then .error (.disguisedSeparator (String.ofList host))
    else
      let (path, params) :=
        if paramSchemes.contains (String.ofList scheme) then splitParams path else (path, [])
      .ok ⟨scheme, host, path, params, query, fragment⟩

/-- Text after a mark, or nothing where there is no text. -/
def marked (mark : Char) (s : List Char) : List Char := if s.isEmpty then [] else mark :: s

/-- The network location and path with the slashes between them. Without a network location two
slashes are written for the schemes that have one, unless the path begins with two slashes itself;
a path of that kind without a scheme is written as it stands. -/
def hostAndPath (u : Uri) : List Char :=
  let path := u.path ++ marked ';' u.params
  if !u.host.isEmpty
      || (!u.scheme.isEmpty && hostSchemes.contains (String.ofList u.scheme)
        && !beginsWith path ['/', '/']) then
    '/' :: '/' :: u.host ++ (if path.isEmpty || beginsWith path ['/'] then path else '/' :: path)
  else path

/-- The text of a reference. -/
def text (u : Uri) : List Char :=
  (if u.scheme.isEmpty then [] else u.scheme ++ [':']) ++ u.hostAndPath ++ marked '?' u.query
    ++ marked '#' u.fragment

/-- A text without the slashes at its end. -/
def dropSlashes (s : List Char) : List Char := (s.reverse.dropWhile (· == '/')).reverse

/-- A text without the slashes at its two ends. -/
def stripSlashes (s : List Char) : List Char := dropSlashes (s.dropWhile (· == '/'))

/-- The path without the slashes at its end. -/
def trimmedPath (u : Uri) : List Char := dropSlashes u.path

/-- The reference with a segment at the end of its path. -/
def append (u : Uri) (segment : List Char) : Uri :=
  { u with path := u.trimmedPath ++ '/' :: segment }

/-- The last segment of the path. -/
def lastSegment (u : Uri) : List Char := afterLast '/' u.trimmedPath

@[simp] theorem append_scheme (u : Uri) (segment : List Char) :
    (u.append segment).scheme = u.scheme := rfl

@[simp] theorem append_host (u : Uri) (segment : List Char) :
    (u.append segment).host = u.host := rfl

@[simp] theorem append_query (u : Uri) (segment : List Char) :
    (u.append segment).query = u.query := rfl

end Uri

end StorageReply
