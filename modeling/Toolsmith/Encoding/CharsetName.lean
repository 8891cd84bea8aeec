/-
The names of character sets. Case does not count in a name, and runs of
characters other than ASCII letters, digits and points count as one.
-/
import Toolsmith.Encoding.Charset
import Toolsmith.Encoding.CodepageTable

namespace Toolsmith

/-- A character set, or what goes by a name like one: its name, and further
names, which go before names where both are the same. -/
structure CharsetName where
  name : String
  aliases : List String
  set : Charset
  deriving DecidableEq, Repr

namespace CharsetName

/-- The names of character sets that are no code pages. -/
def special : List CharsetName :=
  [⟨"utf_8", ["cp65001", "u8", "utf", "utf8", "utf8_ucs2", "utf8_ucs4"],
      .utf8⟩,
    ⟨"utf_8_sig", [], .utf8Marked⟩,
    ⟨"utf_7", ["u7", "unicode_1_1_utf_7", "utf7"], .utf7⟩,
    ⟨"utf_16", ["u16", "utf16"], .utf16 none⟩,
    ⟨"utf_16_be", ["unicodebigunmarked", "utf_16be"],
      .utf16 (some .bigEndian)⟩,
    ⟨"utf_16_le", ["unicodelittleunmarked", "utf_16le"],
      .utf16 (some .littleEndian)⟩,
    ⟨"utf_32", ["u32", "utf32"], .utf32 none⟩,
    ⟨"utf_32_be", ["utf_32be"], .utf32 (some .bigEndian)⟩,
    ⟨"utf_32_le", ["utf_32le"], .utf32 (some .littleEndian)⟩,
    ⟨"ascii", ["646", "ansi_x3.4_1968", "ansi_x3.4_1986", "ansi_x3_4_1968",
      "cp367", "csascii", "ibm367", "iso646_us", "iso_646.irv_1991",
      "iso_ir_6", "us", "us_ascii"], .ascii⟩,
    ⟨"latin_1", ["8859", "cp819", "csisolatin1", "ibm819", "iso8859",
      "iso8859_1", "iso_8859_1", "iso_8859_1_1987", "iso_ir_100", "l1",
      "latin", "latin1"], .latin1⟩,
    ⟨"charmap", [], .latin1⟩]

/-- The names of character sets for Japanese, Chinese and Korean. -/
def eastAsian : List CharsetName :=
  [⟨"shift_jis", ["csshiftjis", "s_jis", "shiftjis", "sjis",
      "x_mac_japanese"], .multibyte .shiftJis⟩,
    ⟨"cp932", ["932", "ms932", "ms_kanji", "mskanji"],
      .multibyte .windows932⟩,
    ⟨"euc_jp", ["eucjp", "u_jis", "ujis"], .multibyte .eucJp⟩,
    ⟨"shift_jis_2004", ["s_jis_2004", "shiftjis2004", "sjis_2004"],
      .multibyte (.shiftJis2004 true)⟩,
    ⟨"shift_jisx0213", ["s_jisx0213", "shiftjisx0213", "sjisx0213"],
      .multibyte (.shiftJis2004 false)⟩,
    ⟨"euc_jis_2004", ["euc_jis2004", "eucjis2004", "jisx0213"],
      .multibyte (.eucJis2004 true)⟩,
    ⟨"euc_jisx0213", ["eucjisx0213"], .multibyte (.eucJis2004 false)⟩,
    ⟨"iso2022_jp", ["csiso2022jp", "iso2022jp", "iso_2022_jp"],
      .iso2022 .japanese⟩,
    ⟨"iso2022_jp_1", ["iso2022jp_1", "iso_2022_jp_1"],
      .iso2022 .japanese1⟩,
    ⟨"iso2022_jp_2", ["iso2022jp_2", "iso_2022_jp_2"],
      .iso2022 .japanese2⟩,
    ⟨"iso2022_jp_2004", ["iso2022jp_2004", "iso_2022_jp_2004"],
      .iso2022 .japanese2004⟩,
    ⟨"iso2022_jp_3", ["iso2022jp_3", "iso_2022_jp_3"],
      .iso2022 .japanese3⟩,
    ⟨"iso2022_jp_ext", ["iso2022jp_ext", "iso_2022_jp_ext"],
      .iso2022 .japaneseExtended⟩,
    ⟨"gb2312", ["chinese", "csiso58gb231280", "euc_cn", "euccn",
      "eucgb2312_cn", "gb2312_1980", "gb2312_80", "iso_ir_58",
      "x_mac_simp_chinese"], .multibyte .gb2312⟩,
    ⟨"gbk", ["936", "cp936", "ms936"], .multibyte .gbk⟩,
    ⟨"gb18030", ["gb18030_2000"], .multibyte .gb18030⟩,
    ⟨"hz", ["hz_gb", "hz_gb_2312", "hzgb"], .hz⟩,
    ⟨"big5", ["big5_tw", "csbig5", "x_mac_trad_chinese"],
      .multibyte .big5⟩,
    ⟨"cp950", ["950", "ms950"], .multibyte .windows950⟩,
    ⟨"big5hkscs", ["big5_hkscs", "hkscs"], .multibyte .big5Hkscs⟩,
    ⟨"euc_kr", ["euckr", "korean", "ks_c_5601", "ks_c_5601_1987",
      "ks_x_1001", "ksc5601", "ksx1001", "x_mac_korean"],
      .multibyte .eucKr⟩,
    ⟨"cp949", ["949", "ms949", "uhc"], .multibyte .windows949⟩,
    ⟨"johab", ["cp1361", "ms1361"], .multibyte .johab⟩,
    ⟨"iso2022_kr", ["csiso2022kr", "iso2022kr", "iso_2022_kr"],
      .iso2022 .korean⟩]

/-- The names of ways to write texts or octets that are no character
sets, or not quite. -/
def others : List CharsetName :=
  [⟨"unicode_escape", [], .escaped false⟩,
    ⟨"raw_unicode_escape", [], .escaped true⟩,
    ⟨"punycode", [], .punycode⟩,
    ⟨"idna", [], .unusable .exact⟩,
    ⟨"undefined", [], .unusable .undefined⟩,
    ⟨"rot_13", ["rot13"], .unusable .ofTexts⟩,
    ⟨"base64_codec", ["base64", "base_64"], .unusable .ofOctets⟩,
    ⟨"bz2_codec", ["bz2"], .unusable .ofOctets⟩,
    ⟨"hex_codec", ["hex"], .unusable .ofOctets⟩,
    ⟨"quopri_codec", ["quopri", "quoted_printable", "quotedprintable"],
      .unusable .ofOctets⟩,
    ⟨"uu_codec", ["uu"], .unusable .ofOctets⟩,
    ⟨"zlib_codec", ["zip", "zlib"], .unusable .ofOctets⟩]

/-- The name of a code page. -/
def ofPage (p : Codepage) : CharsetName := ⟨p.name, p.aliases, .page p⟩

/-- All names. -/
def all : List CharsetName :=
  special ++ eastAsian ++ others ++ Codepage.all.map ofPage

/-- A name in its normal form, behind the given part of it; the flag says
whether characters were left out since. -/
def normal (part : List Char) (isApart : Bool) : List Char → List Char
  | [] => part.reverse
  | c :: rest =>
    if Text.isAsciiLetter c || Text.isAsciiDigit c || c == '.' then
      let joined := if isApart && !part.isEmpty then '_' :: part else part
      normal (c.toLower :: joined) false rest
    else normal part true rest

end CharsetName

/-- The character set of a name. A name with points is only known as a
further name, with the points or with underscores for them. -/
def Charset.named? (name : List Char) : Option Charset :=
  let n := CharsetName.normal [] false name
  let byAlias (s : List Char) : Option CharsetName :=
    CharsetName.all.find? (·.aliases.contains (String.ofList s))
  let underscored := n.map fun c => if c == '.' then '_' else c
  let byName : Option CharsetName :=
    if n.contains '.' then none
    else CharsetName.all.find? (·.name == String.ofList n)
  (((byAlias n).or (byAlias underscored)).or byName).map (·.set)

end Toolsmith
