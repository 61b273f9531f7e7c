import SourceCensus.Encoding.Units

/-! Encodings by name. Case does not matter, and neither does what parts the words of a name. There are
   many more than those written out here, so the others come from outside. -/
namespace SourceCensus.Encoding

/-- Letters in lower case, digits and points, with one low line for whatever stands between them. -/
def plainName (name : String) : String :=
  let step (done : List Char × Bool) (c : Char) : List Char × Bool :=
    if c.isAlphanum || c == '.' then
      (if done.2 && !done.1.isEmpty then c.toLower :: '_' :: done.1 else c.toLower :: done.1, false)
    else (done.1, true)
  String.ofList (name.toList.foldl step ([], false)).1.reverse

def names : Encoding → List String
  | .utf8 => ["utf_8", "utf8", "u8", "utf", "utf8_ucs2", "utf8_ucs4", "cp65001"]
  | .utf8Marked => ["utf_8_sig"]
  | .ascii =>
    ["ascii", "646", "ansi_x3.4_1968", "ansi_x3_4_1968", "ansi_x3.4_1986", "ansi_x3_4_1986",
      "cp367", "csascii", "ibm367", "iso646_us", "iso_646.irv_1991", "iso_646_irv_1991",
      "iso_ir_6", "us", "us_ascii"]
  | .latin1 =>
    ["latin_1", "8859", "cp819", "csisolatin1", "ibm819", "iso8859", "iso8859_1", "iso_8859_1",
      "iso_8859_1_1987", "iso_ir_100", "l1", "latin", "latin1"]
  | .utf16 => ["utf_16", "u16", "utf16"]
  | .utf16Little => ["utf_16_le", "unicodelittleunmarked", "utf_16le"]
  | .utf16Big => ["utf_16_be", "unicodebigunmarked", "utf_16be"]
  | .utf32 => ["utf_32", "u32", "utf32"]
  | .utf32Little => ["utf_32_le", "utf_32le"]
  | .utf32Big => ["utf_32_be", "utf_32be"]

def all : List Encoding :=
  [.utf8, .utf8Marked, .ascii, .latin1, .utf16, .utf16Little, .utf16Big, .utf32, .utf32Little,
    .utf32Big]

def ofName? (name : String) : Option Encoding :=
  all.find? fun encoding => (names encoding).contains (plainName name)

inductive Codec
  | text (decode : Handling → Bytes → Except Failure (List Char))
  | notText
  | unknown

/-- The encodings that are not written out here, by their plain names. -/
class Codecs where
  find : String → Codec

def codec [Codecs] (name : String) : Codec :=
  match ofName? name with
  | some encoding => .text (decode encoding)
  | none => Codecs.find (plainName name)

def otherNames : List String :=
  ["base64", "base64_codec", "base_64", "bz2", "bz2_codec", "hex", "hex_codec", "quopri",
    "quopri_codec", "quoted_printable", "quotedprintable", "rot13", "rot_13", "uu", "uu_codec",
    "zip", "zlib", "zlib_codec"]

/-- Of the other encodings only those that read no text at all. -/
@[reducible] def textlessCodecs : Codecs where
  find plain :=
    if plain = "undefined" then .text fun _ _ => .error (.stopped "undefined encoding")
    else if otherNames.contains plain then .notText
    else .unknown

end SourceCensus.Encoding
