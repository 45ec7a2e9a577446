import StorageReply.Text.Case
import StorageReply.Text.Utf8
import StorageReply.Xml.CodePage
import StorageReply.Xml.Document

/-!
# Encodings of documents

The characters of a document that is given as bytes. Its first bytes show whether it is written in
units of one byte or of two; the XML declaration names the encoding of one byte, UTF-8 without it.

Main definitions:

* `Encoding`: the encodings, with `Encoding.named`;
* `Encoding.decode?`: the characters of bytes;
* `Document.ofText`, `Document.ofBytes`: the root element of a document;
* `Source`, `Source.read`: a document as it came, and what it says.
-/

namespace StorageReply.Xml

open Text

/-- How bytes stand for characters. -/
inductive Encoding
  /-- UTF-8. -/
  | utf8
  /-- Two bytes a unit, the greater byte first or last. -/
  | utf16 (greaterFirst : Bool)
  /-- The first 256 code points. -/
  | latin1
  /-- ASCII. -/
  | ascii
  /-- ASCII with a table for the bytes from `0x80` on. -/
  | page (table : String)
  deriving DecidableEq, Repr

namespace Encoding

/-- The units of two bytes. -/
def units? (greaterFirst : Bool) : List UInt8 → Option (List Nat)
  | [] => some []
  | [_] => none
  | a :: b :: rest =>
    let unit := if greaterFirst then a.toNat * 256 + b.toNat else b.toNat * 256 + a.toNat
    (units? greaterFirst rest).map (unit :: ·)

/-- The characters of units of two bytes; surrogates must pair. -/
def ofUnits? : List Nat → Option (List Char)
  | [] => some []
  | [n] => if 0xD800 ≤ n && n < 0xE000 then none else some [Char.ofNat n]
  | n :: m :: rest =>
    if 0xD800 ≤ n && n < 0xDC00 then
      if 0xDC00 ≤ m && m < 0xE000 then
        (ofUnits? rest).map (Char.ofNat (0x10000 + (n - 0xD800) * 0x400 + (m - 0xDC00)) :: ·)
      else none
    else if 0xDC00 ≤ n && n < 0xE000 then none
    else (ofUnits? (m :: rest)).map (Char.ofNat n :: ·)

/-- The character of a byte in a code page. -/
def pageChar? (table : List Char) (b : UInt8) : Option Char :=
  if b < 0x80 then some (Char.ofNat b.toNat)
  else table[b.toNat - 0x80]?.filter (· ≠ '\uFFFD')

/-- The characters of bytes. -/
def decode? : Encoding → List UInt8 → Option (List Char)
  | .utf8, bytes => Utf8.decode? bytes
  | .utf16 greaterFirst, bytes => (units? greaterFirst bytes).bind ofUnits?
  | .latin1, bytes => some (bytes.map fun b => Char.ofNat b.toNat)
  | .ascii, bytes => bytes.mapM (pageChar? [])
  | .page table, bytes => bytes.mapM (pageChar? table.toList)

/-- A name with small letters, and an underscore for each run of other marks. -/
def normalizedName (name : List Char) : String :=
  String.ofList (joined ['_']
    (wordsFrom (fun c => !(c.isAlphanum || c == '.')) [] (name.map asciiLowerChar)))

/-- Other names of the first 256 code points. Escapes are not followed. -/
def latin1Names : List String :=
  ["8859", "charmap", "cp819", "csisolatin1", "ibm819", "iso8859", "iso8859_1", "iso_8859_1",
   "iso_8859_1_1987", "iso_ir_100", "l1", "latin", "latin1", "latin_1", "raw_unicode_escape",
   "unicode_escape"]

/-- Other names of ASCII, and names under which only the ASCII part of an encoding can be read. -/
def asciiNames : List String :=
  ["646", "ansi_x3.4_1968", "ansi_x3.4_1986", "ansi_x3_4_1968", "ascii", "cp367", "cp65001",
   "csascii", "csiso2022jp", "hz", "hz_gb", "hz_gb_2312", "hzgb", "ibm367", "iso2022_jp",
   "iso2022_jp_1", "iso2022_jp_2", "iso2022_jp_2004", "iso2022_jp_3", "iso2022_jp_ext",
   "iso2022jp", "iso2022jp_1", "iso2022jp_2", "iso2022jp_2004", "iso2022jp_3", "iso2022jp_ext",
   "iso646_us", "iso_2022_jp", "iso_2022_jp_1", "iso_2022_jp_2", "iso_2022_jp_2004",
   "iso_2022_jp_3", "iso_2022_jp_ext", "iso_646.irv_1991", "iso_ir_6", "u8", "us", "us_ascii",
   "utf", "utf8", "utf8_ucs2", "utf8_ucs4", "utf_8", "utf_8_sig"]

/-- Encodings of several bytes a character, which are known but cannot be used. -/
def wideNames : List String :=
  ["932", "936", "949", "950", "big5", "big5_hkscs", "big5_tw", "big5hkscs", "chinese", "cp1361",
   "cp932", "cp936", "cp949", "cp950", "csbig5", "csiso2022kr", "csiso58gb231280", "csshiftjis",
   "euc_cn", "euc_jis2004", "euc_jis_2004", "euc_jisx0213", "euc_jp", "euc_kr", "euccn",
   "eucgb2312_cn", "eucjis2004", "eucjisx0213", "eucjp", "euckr", "gb18030", "gb18030_2000",
   "gb2312", "gb2312_1980", "gb2312_80", "gbk", "hkscs", "iso2022_kr", "iso2022kr", "iso_2022_kr",
   "iso_ir_58", "jisx0213", "johab", "korean", "ks_c_5601", "ks_c_5601_1987", "ks_x_1001",
   "ksc5601", "ksx1001", "ms1361", "ms932", "ms936", "ms949", "ms950", "ms_kanji", "mskanji",
   "s_jis", "s_jis_2004", "s_jisx0213", "shift_jis", "shift_jis_2004", "shift_jisx0213",
   "shiftjis", "shiftjis2004", "shiftjisx0213", "sjis", "sjis_2004", "sjisx0213", "u16", "u32",
   "u7", "u_jis", "uhc", "ujis", "unicode_1_1_utf_7", "unicodebigunmarked",
   "unicodelittleunmarked", "utf16", "utf32", "utf7", "utf_16", "utf_16_be", "utf_16_le",
   "utf_16be", "utf_16le", "utf_32", "utf_32_be", "utf_32_le", "utf_32be", "utf_32le", "utf_7",
   "x_mac_japanese", "x_mac_korean", "x_mac_simp_chinese", "x_mac_trad_chinese"]

/-- Encodings that do not agree with ASCII, which no document is read in. Some of them have a second
byte for marks of ASCII. -/
def foreignNames : List String :=
  ["037", "1026", "1140", "273", "424", "500", "864", "cp037", "cp1026", "cp1140", "cp273",
   "cp424", "cp500", "cp864", "cp875", "csibm037", "csibm1026", "csibm273", "csibm424",
   "csibm500", "csibm864", "ebcdic_cp_be", "ebcdic_cp_ca", "ebcdic_cp_ch", "ebcdic_cp_he",
   "ebcdic_cp_nl", "ebcdic_cp_us", "ebcdic_cp_wt", "ibm037", "ibm039", "ibm1026", "ibm1140",
   "ibm273", "ibm424", "ibm500", "ibm864", "mac_arabic", "mac_farsi"]

/-- Encodings that refuse to say what single bytes stand for. -/
def refusingNames : List String := ["idna", "undefined"]

/-- The encoding of a declared name in a document whose first bytes show `family`. The declaration
must agree with them on the number of bytes in a unit and on their order. -/
def named (family : Encoding) (name : List Char) : Except Failure Encoding :=
  let isWide := match family with
    | .utf16 _ => true
    | _ => false
  let upper := String.ofList (name.map asciiUpperChar)
  let demand (fits : Bool) : Except Failure Encoding :=
    if fits then .ok family else .error .malformedXml
  if upper == "UTF-16" then demand isWide
  else if upper == "UTF-16BE" then demand (family == .utf16 true)
  else if upper == "UTF-16LE" then demand (family == .utf16 false)
  else
    let known : Option Encoding :=
      if upper == "UTF-8" then some .utf8
      else if upper == "ISO-8859-1" then some .latin1
      else if upper == "US-ASCII" then some .ascii
      else none
    match known with
    | some encoding => if isWide then .error .malformedXml else .ok encoding
    | none =>
      let norm := normalizedName name
      if wideNames.contains norm then .error (.unusable .wideEncoding)
      else if foreignNames.contains norm then .error .malformedXml
      else if refusingNames.contains norm then .error .unusableEncoding
      else if norm == "punycode" then .error .undecodable
      else
        let found : Option Encoding :=
          if latin1Names.contains norm then some .latin1
          else if asciiNames.contains norm then some .ascii
          else (CodePage.find? norm).map .page
        match found with
        | some encoding => if isWide then .error .malformedXml else .ok encoding
        | none => .error .unknownEncoding

/-- What the first bytes of a document show, and the bytes without a mark of the byte order. -/
def detect : List UInt8 → Encoding × List UInt8
  | 0xEF :: 0xBB :: 0xBF :: rest => (.utf8, rest)
  | 0xFE :: 0xFF :: rest => (.utf16 true, rest)
  | 0xFF :: 0xFE :: rest => (.utf16 false, rest)
  | 0x00 :: b :: rest => (.utf16 true, 0x00 :: b :: rest)
  | b :: 0x00 :: rest => (.utf16 false, b :: 0x00 :: rest)
  | bytes => (.utf8, bytes)

/-- The characters of the XML declaration at most: all up to the first angle bracket that closes. -/
def declarationPart (family : Encoding) (bytes : List UInt8) : List Char :=
  match family with
  | .utf16 greaterFirst =>
    (((units? greaterFirst bytes).getD []).takeWhile (· != 0x3E)).map Char.ofNat ++ ['>']
  | _ => (bytes.takeWhile (· != 0x3E)).map (fun b => Char.ofNat b.toNat) ++ ['>']

/-- The encoding that a document declares, if it has a proper declaration that does. -/
def declared? (family : Encoding) (bytes : List UInt8) : Option (List Char) :=
  match Declaration.read? (declarationPart family bytes) with
  | some (some declaration, _) => declaration.encoding
  | _ => none

end Encoding

namespace Document

/-- The root element of characters. -/
def ofChars (s : Option (List Char)) : Except Failure Element :=
  match s.bind parse? with
  | some e => .ok e
  | none => .error .malformedXml

/-- The root element of a text. A mark of the byte order at its start is passed over, and what the
declaration says of the encoding does not matter. -/
def ofText (s : String) : Except Failure Element :=
  match s.toList with
  | '\uFEFF' :: rest => ofChars (some rest)
  | cs => ofChars (some cs)

/-- The root element of a document given as bytes. -/
def ofBytes (bytes : List UInt8) : Except Failure Element :=
  let (family, rest) := Encoding.detect bytes
  match Encoding.declared? family rest with
  | none => ofChars (family.decode? rest)
  | some name =>
    match Encoding.named family name with
    | .ok encoding => ofChars (encoding.decode? rest)
    | .error failure => .error failure

end Document

/-- A document as it came. -/
inductive Source
  /-- As text. -/
  | text (s : String)
  /-- As bytes. -/
  | bytes (data : List UInt8)
  deriving Repr

/-- The root element of a document. -/
def Source.root : Source → Except Failure Element
  | .text s => Document.ofText s
  | .bytes data => Document.ofBytes data

/-- What a document says, by what its root element says. -/
def Source.read {α : Type} (read : Element → Except Failure α) (s : Source) : Except Failure α :=
  s.root >>= read

end StorageReply.Xml
