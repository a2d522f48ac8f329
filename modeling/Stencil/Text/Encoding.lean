import Stencil.Text.CodePage.Table
import Stencil.Text.DomainNames
import Stencil.Text.Escapes
import Stencil.Text.LineEnd
import Stencil.Text.MultiByte
import Stencil.Text.Utf16
import Stencil.Text.Utf32
import Stencil.Text.Utf7
import Stencil.Text.Utf8

/-!
# Encodings of Template Files

The encodings that a template file may have, the names they go by, and the
text of a file.

A name is looked up by its letters, digits and full stops alone: case does not
matter, and whatever stands between them counts as one underscore. Each encoding
has one name of its own and further names; for one of those, a full stop may
stand in place of an underscore. The word for the encoding of the system, which
has to be written exactly, is a name of UTF-8, too.

UTF-8 may be asked for with a signature, a byte order mark that is dropped when
it starts the file; without, such a mark is a character of the text. Faults in a
file with a signature are counted from after it.

UTF-16 and UTF-32 may be asked for in one of the two byte orders, or in the one
that the file is marked with. A file without a mark is then refused unless it is
empty; faults that it has in the order with the lowest byte first go before
that.

The others have modules of their own: encodings of one byte for a character, those
of East Asian text, and those that spell characters beyond ASCII in some way in
bytes of ASCII. One more is there only to be refused.

## Main definitions

* `Encoding`: The encodings.
* `Encoding.ofName?`: The encoding of a name.
* `Encoding.decode`: The characters of a file, line ends untouched.
* `Encoding.read`: The text of a file.

## Theorems

* `Encoding.ofName?_utf8`: UTF-8 goes by its usual name.
-/

namespace Stencil.Text

/-- The encodings that a template file may have. -/
inductive Encoding where
  | utf8
  /-- UTF-8 that may start with a byte order mark. -/
  | utf8Signed
  | ascii
  | latin1
  /-- UTF-16, in the order that the file is marked with if none is given. -/
  | utf16 (order : Option ByteOrder)
  /-- UTF-32, in the order that the file is marked with if none is given. -/
  | utf32 (order : Option ByteOrder)
  | page (p : CodePage)
  | multiByte (m : MultiByte)
  | utf7
  /-- Code points up to the last of one byte, and escapes for all others. -/
  | escaped
  /-- The same with escapes by number only. -/
  | rawEscaped
  | punycode
  /-- Names of the domain name system, in which Punycode is marked. -/
  | domainNames
  /-- The encoding that is there to be refused. -/
  | refused
deriving DecidableEq, Repr

namespace Encoding

/-- The name of each encoding, in the form that `plainName` gives. -/
def name : Encoding → String
  | utf8 => "utf_8"
  | utf8Signed => "utf_8_sig"
  | ascii => "ascii"
  | latin1 => "latin_1"
  | utf16 none => "utf_16"
  | utf16 (some .little) => "utf_16_le"
  | utf16 (some .big) => "utf_16_be"
  | utf32 none => "utf_32"
  | utf32 (some .little) => "utf_32_le"
  | utf32 (some .big) => "utf_32_be"
  | page p => p.name
  | multiByte m => m.name
  | utf7 => "utf_7"
  | escaped => "unicode_escape"
  | rawEscaped => "raw_unicode_escape"
  | punycode => "punycode"
  | domainNames => "idna"
  | refused => "undefined"

/-- The further names of each encoding, in the same form. -/
def furtherNames : Encoding → List String
  | utf8 => ["u8", "utf", "utf8", "utf8_ucs2", "utf8_ucs4", "cp65001"]
  | utf8Signed => []
  | ascii => ["646", "ansi_x3.4_1968", "ansi_x3_4_1968", "ansi_x3.4_1986", "cp367", "csascii",
      "ibm367", "iso646_us", "iso_646.irv_1991", "iso_ir_6", "us", "us_ascii"]
  | latin1 => ["8859", "charmap", "cp819", "csisolatin1", "ibm819", "iso8859", "iso8859_1",
      "iso_8859_1", "iso_8859_1_1987", "iso_ir_100", "l1", "latin", "latin1"]
  | utf16 none => ["u16", "utf16"]
  | utf16 (some .little) => ["unicodelittleunmarked", "utf_16le"]
  | utf16 (some .big) => ["unicodebigunmarked", "utf_16be"]
  | utf32 none => ["u32", "utf32"]
  | utf32 (some .little) => ["utf_32le"]
  | utf32 (some .big) => ["utf_32be"]
  | page p => p.furtherNames
  | multiByte m => m.furtherNames
  | utf7 => ["u7", "unicode_1_1_utf_7", "utf7"]
  | escaped | rawEscaped | punycode | domainNames | refused => []

/-- The words of a name: its runs of ASCII letters, digits and full stops. -/
def nameWords : List Char → List (List Char)
  | [] => []
  | c :: s =>
    if c.isAlphanum || c == '.' then
      match s, nameWords s with
      | d :: _, w :: ws => if d.isAlphanum || d == '.' then (c :: w) :: ws else [c] :: w :: ws
      | _, ws => [c] :: ws
    else nameWords s

/-- A name in lower case, its words joined by underscores. -/
def plainName (name : String) : String :=
  "_".intercalate ((nameWords name.toList).map fun w => .ofList (w.map Char.toLower))

/-- All encodings. -/
def all : List Encoding :=
  [utf8, utf8Signed, ascii, latin1, utf16 none, utf16 (some .little), utf16 (some .big),
    utf32 none, utf32 (some .little), utf32 (some .big), utf7, escaped, rawEscaped, punycode,
    domainNames, refused] ++ CodePage.all.map page ++ MultiByte.all.map multiByte

/-- The encoding of a name. -/
def ofName? (name : String) : Option Encoding :=
  let plain := plainName name
  let undotted := plain.map fun c => if c = '.' then '_' else c
  if name = "locale" then some utf8
  else all.find? fun e =>
    e.name = plain || e.furtherNames.contains plain || e.furtherNames.contains undotted

/-- The byte order mark in UTF-8. -/
def signature : List UInt8 := [0xEF, 0xBB, 0xBF]

/-- The byte order marks in UTF-16. -/
def marks16 : List (List UInt8 × ByteOrder) := [([0xFF, 0xFE], .little), ([0xFE, 0xFF], .big)]

/-- The byte order marks in UTF-32. -/
def marks32 : List (List UInt8 × ByteOrder) :=
  [([0xFF, 0xFE, 0, 0], .little), ([0, 0, 0xFE, 0xFF], .big)]

/-- The characters of a file in UTF-8 with a signature. Bytes that could still
    become one, with none after them, are read as a signature that has no text
    after it. -/
def decodeSigned (bytes : List UInt8) : Except DecodeFault (List Char) :=
  if signature.isPrefixOf bytes then decodeUtf8 0 (bytes.drop signature.length)
  else if bytes.isPrefixOf signature then .ok []
  else decodeUtf8 0 bytes

/-- The characters of a file that starts with one of the marks. -/
def decodeMarked (marks : List (List UInt8 × ByteOrder))
    (decode : ByteOrder → Nat → List UInt8 → Except DecodeFault (List Char))
    (bytes : List UInt8) : Except ReadFault (List Char) :=
  match marks.find? fun mark => mark.1.isPrefixOf bytes with
  | some (mark, order) =>
    (decode order mark.length (bytes.drop mark.length)).mapError .bytes
  | none =>
    match decode .little 0 bytes with
    | .error fault => .error (.bytes fault)
    | .ok [] => .ok []
    | .ok _ => .error .unmarked

/-- The characters of a file. -/
def decode : Encoding → List UInt8 → Except ReadFault (List Char)
  | utf8, bytes => (decodeUtf8 0 bytes).mapError .bytes
  | utf8Signed, bytes => (decodeSigned bytes).mapError .bytes
  | ascii, bytes => (decodeAscii 0 bytes).mapError .bytes
  | latin1, bytes => .ok (bytes.map fun b => Char.ofNat b.toNat)
  | utf16 none, bytes => decodeMarked marks16 decodeUtf16 bytes
  | utf16 (some order), bytes => (decodeUtf16 order 0 bytes).mapError .bytes
  | utf32 none, bytes => decodeMarked marks32 decodeUtf32 bytes
  | utf32 (some order), bytes => (decodeUtf32 order 0 bytes).mapError .bytes
  | page p, bytes => (p.decode 0 bytes).mapError .bytes
  | multiByte m, bytes => m.decode bytes
  | utf7, bytes => (decodeUtf7 bytes).mapError .bytes
  | escaped, bytes => (decodeEscapes bytes).mapError .bytes
  | rawEscaped, bytes => (decodeRawEscapes bytes).mapError .bytes
  | punycode, bytes => Punycode.decodeBytes bytes
  | domainNames, bytes => decodeDomainNames bytes
  | refused, _ => .error .refused

/-- The text of a file: its characters, with line feeds as the only line ends. -/
def read (e : Encoding) (bytes : List UInt8) : Except ReadFault String :=
  (e.decode bytes).map fun s => .ofList (unifyLineEnds s)

/-- UTF-8 goes by its usual name. -/
theorem ofName?_utf8 : ofName? "utf-8" = some utf8 := by
  decide +kernel

end Encoding

end Stencil.Text
