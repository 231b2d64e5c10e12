import PolicyAgent.Text.Charset.Chinese
import PolicyAgent.Text.Charset.ConsoleChart
import PolicyAgent.Text.Charset.Escape
import PolicyAgent.Text.Charset.Iso2022
import PolicyAgent.Text.Charset.IsoChart
import PolicyAgent.Text.Charset.MacintoshChart
import PolicyAgent.Text.Charset.MainframeChart
import PolicyAgent.Text.Charset.Unicode
import PolicyAgent.Text.Charset.WindowsChart
import PolicyAgent.Text.HeaderParameters
import PolicyAgent.Text.Punycode

/-!
# Character sets of message bodies

A body that is to be shown is read leniently, in the character set that its content type names;
a name that is not known stands for UTF-8. Names are compared by their letters and digits. Some
names are known, but not as character sets, and some sets need a mark at the head of the text:
then there is nothing to be shown.
-/
namespace PolicyAgent.Text

inductive CharsetError
  | missingMark16
  | missingMark32
  | binary
  | rotation
  | domainNames
  | undefined
  | unorderedSections (startsNumbered : Bool)
  | numbers (e : DecodingError)
  deriving DecidableEq, Repr

def CharsetError.message : CharsetError → String
  | missingMark16 => "UTF-16 stream does not start with BOM"
  | missingMark32 => "UTF-32 stream does not start with BOM"
  | binary => ""
  | rotation => "descriptor 'translate' for 'str' objects doesn't apply to a 'bytes' object"
  | domainNames => "Unsupported error handling replace"
  | undefined => "undefined encoding"
  | unorderedSections startsNumbered =>
    let (later, first) := if startsNumbered then ("NoneType", "int") else ("int", "NoneType")
    s!"'<' not supported between instances of '{later}' and '{first}'"
  | numbers e => e.message

inductive Charset
  | ascii
  | utf8
  | markedUtf8
  | utf7
  | utf16
  | orderedUtf16 (bigEndian : Bool)
  | utf32
  | orderedUtf32 (bigEndian : Bool)
  | chart (chart : Charset.Chart)
  | gb2312
  | gbk
  | gb18030
  | hz
  | big5
  | windowsBig5
  | hongKong
  | eucKr
  | uhc
  | johab
  | eucJp
  | shiftJis
  | windowsShiftJis
  | eucExtension (edition : Charset.ExtensionEdition)
  | shiftedExtension (edition : Charset.ExtensionEdition)
  | iso2022 (variant : Charset.Iso2022)
  | escapes
  | codePointEscapes
  | punycode
  | unusable (why : CharsetError)

namespace Charset

/-- Character sets without a chart, with their names, the main name first. -/
def named : List (List String × Charset) :=
  [(["ascii", "646", "ansi_x3.4_1968", "ansi_x3.4_1986", "ansi_x3_4_1968", "cp367", "csascii",
     "ibm367", "iso646_us", "iso_646.irv_1991", "iso_ir_6", "us", "us_ascii"], .ascii),
   (["utf_8", "cp65001", "u8", "utf", "utf8", "utf8_ucs2", "utf8_ucs4"], .utf8),
   (["utf_8_sig"], .markedUtf8),
   (["utf_7", "u7", "unicode_1_1_utf_7", "utf7"], .utf7),
   (["utf_16", "u16", "utf16"], .utf16),
   (["utf_16_le", "unicodelittleunmarked", "utf_16le"], .orderedUtf16 false),
   (["utf_16_be", "unicodebigunmarked", "utf_16be"], .orderedUtf16 true),
   (["utf_32", "u32", "utf32"], .utf32),
   (["utf_32_le", "utf_32le"], .orderedUtf32 false),
   (["utf_32_be", "utf_32be"], .orderedUtf32 true),
   (["gb2312", "chinese", "csiso58gb231280", "euc_cn", "euccn", "eucgb2312_cn", "gb2312_1980",
     "gb2312_80", "iso_ir_58", "x_mac_simp_chinese"], .gb2312),
   (["gbk", "936", "cp936", "ms936"], .gbk),
   (["gb18030", "gb18030_2000"], .gb18030),
   (["hz", "hz_gb", "hz_gb_2312", "hzgb"], .hz),
   (["big5", "big5_tw", "csbig5", "x_mac_trad_chinese"], .big5),
   (["cp950", "950", "ms950"], .windowsBig5),
   (["big5hkscs", "big5_hkscs", "hkscs"], .hongKong),
   (["euc_kr", "euckr", "korean", "ks_c_5601", "ks_c_5601_1987", "ks_x_1001", "ksc5601", "ksx1001",
     "x_mac_korean"], .eucKr),
   (["cp949", "949", "ms949", "uhc"], .uhc),
   (["johab", "cp1361", "ms1361"], .johab),
   (["euc_jp", "eucjp", "u_jis", "ujis"], .eucJp),
   (["shift_jis", "csshiftjis", "s_jis", "shiftjis", "sjis", "x_mac_japanese"], .shiftJis),
   (["cp932", "932", "ms932", "ms_kanji", "mskanji"], .windowsShiftJis),
   (["euc_jisx0213", "eucjisx0213"], .eucExtension .first),
   (["euc_jis_2004", "euc_jis2004", "eucjis2004", "jisx0213"], .eucExtension .second),
   (["shift_jisx0213", "s_jisx0213", "shiftjisx0213", "sjisx0213"], .shiftedExtension .first),
   (["shift_jis_2004", "s_jis_2004", "shiftjis2004", "sjis_2004"], .shiftedExtension .second),
   (["iso2022_jp", "csiso2022jp", "iso2022jp", "iso_2022_jp"], .iso2022 (.japanese [])),
   (["iso2022_jp_1", "iso2022jp_1", "iso_2022_jp_1"], .iso2022 (.japanese [.japaneseSupplement])),
   (["iso2022_jp_ext", "iso2022jp_ext", "iso_2022_jp_ext"],
     .iso2022 (.japanese [.japaneseSupplement, .katakana])),
   (["iso2022_jp_2", "iso2022jp_2", "iso_2022_jp_2"], .iso2022 .multilingual),
   (["iso2022_jp_3", "iso2022jp_3", "iso_2022_jp_3"], .iso2022 (.extension .first)),
   (["iso2022_jp_2004", "iso2022jp_2004", "iso_2022_jp_2004"], .iso2022 (.extension .second)),
   (["iso2022_kr", "csiso2022kr", "iso2022kr", "iso_2022_kr"], .iso2022 .korean),
   (["unicode_escape"], .escapes),
   (["raw_unicode_escape"], .codePointEscapes),
   (["punycode"], .punycode),
   (["idna"], .unusable .domainNames),
   (["undefined"], .unusable .undefined),
   (["rot_13", "rot13"], .unusable .rotation),
   (["base64_codec", "base64", "base_64"], .unusable .binary),
   (["bz2_codec", "bz2"], .unusable .binary),
   (["hex_codec", "hex"], .unusable .binary),
   (["quopri_codec", "quopri", "quoted_printable", "quotedprintable"], .unusable .binary),
   (["uu_codec", "uu"], .unusable .binary),
   (["zlib_codec", "zip", "zlib"], .unusable .binary)]

def all : List (List String × Charset) :=
  named ++ (isoCharts ++ windowsCharts ++ consoleCharts ++ macintoshCharts ++ mainframeCharts).map
    fun c => (c.names, .chart c)

/-- The words of a name with one low line between them. Dots belong to words. -/
def normalName (name : List Char) : List Char :=
  let isWordChar (c : Char) : Bool := c.isAlphanum || c = '.'
  ['_'].intercalate
    (((name.map Char.toLower).splitOnP (!isWordChar ·)).filter (!·.isEmpty))

/-- In a further name of a character set, dots may stand for low lines. -/
def isNamed (name : List Char) : List String → Bool
  | [] => false
  | main :: further =>
    let undotted := name.map fun c => if c = '.' then '_' else c
    main.toList == name || further.any fun n => n.toList == name || n.toList == undotted

def ofName? (name : List Char) : Option Charset :=
  (all.find? fun entry => isNamed (normalName name) entry.1).map (·.2)

def asciiChar (b : UInt8) : Char := if b < 0x80 then Char.ofNat b.toNat else replacement

/-- The numbers of Punycode are ASCII, and so is the text before them, as far as it can be
read. -/
def readPunycode (octets : List UInt8) : Except CharsetError (List Point) :=
  let numbers := (octets.reverse.takeWhile (· ≠ 0x2d)).reverse
  let isAscii (b : UInt8) : Bool := b < 0x80
  match numbers.dropWhile isAscii with
  | b :: _ =>
    .error (.numbers ⟨"ascii", (numbers.takeWhile isAscii).length, [b], .notAscii⟩)
  | [] =>
    let basic := (octets.take (octets.length - numbers.length)).dropLast
    .ok (Punycode.decodeReadable (basic.map asciiChar) (numbers.map asciiChar))

def read (charset : Charset) (octets : List UInt8) : Except CharsetError (List Point) :=
  match charset with
  | ascii => .ok (octets.map fun b => .char (asciiChar b))
  | utf8 => .ok ((readUtf8Leniently 0 octets).map .char)
  | markedUtf8 => .ok ((readMarkedUtf8 octets).map .char)
  | utf7 => .ok (readUtf7 octets)
  | utf16 => (readMarkedUtf16? octets).elim (.error .missingMark16) .ok
  | orderedUtf16 bigEndian => .ok (readUtf16 bigEndian octets)
  | utf32 => (readMarkedUtf32? octets).elim (.error .missingMark32) .ok
  | orderedUtf32 bigEndian => .ok (readUtf32 bigEndian octets)
  | chart c => .ok ((c.read octets).map .char)
  | gb2312 => .ok (readGb2312 octets)
  | gbk => .ok (readGbk octets)
  | gb18030 => .ok (readGb18030 octets)
  | hz => .ok (readHz octets)
  | big5 => .ok (readBig5 octets)
  | windowsBig5 => .ok (readWindowsBig5 octets)
  | hongKong => .ok (readHongKong octets)
  | eucKr => .ok (readEucKr octets)
  | uhc => .ok (readUhc octets)
  | johab => .ok (readJohab octets)
  | eucJp => .ok (readEucJp octets)
  | shiftJis => .ok (readShiftJis octets)
  | windowsShiftJis => .ok (readWindowsShiftJis octets)
  | eucExtension edition => .ok (readEucExtension edition octets)
  | shiftedExtension edition => .ok (readShiftedExtension edition octets)
  | iso2022 variant => .ok (variant.read octets)
  | escapes => .ok (readEscapes octets)
  | codePointEscapes => .ok (readCodePointEscapes octets)
  | punycode => readPunycode octets
  | unusable why => .error why

/-- Octets of a parameter as a text, or as they are if its character set cannot read them. -/
def ofParameterOctets (charset : Option (List Char)) (text : List Char) : List Char :=
  let octets := text.map fun c => UInt8.ofNat c.toNat
  match ofName? (charset.getD "us-ascii".toList) with
  | none => text
  | some charset =>
    match (charset.read octets).toOption with
    | none => text
    | some ps => if ps.contains (.char replacement) then text else spell ps

def nameIn? (parameters : List HeaderParameter) : Option (List Char) :=
  let name := match HeaderParameter.find? "charset".toList parameters with
    | none => none
    | some (.plain text) => some text
    | some (.octets charset text) => some (ofParameterOctets charset text)
  name.filter (·.all fun c => c.toNat < 0x80)

def ofContentType (contentType : String) : Charset :=
  let parameters := HeaderParameter.ofHeader contentType.toList
  match HeaderParameter.unordered? parameters with
  | some startsNumbered => .unusable (.unorderedSections startsNumbered)
  | none => ((nameIn? parameters).bind ofName?).getD .utf8

end Charset

end PolicyAgent.Text
