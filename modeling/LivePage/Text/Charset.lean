/-
Character sets that a text may be sent in.

* `Charset.ofName?`: the character set of a name;
* `Charset.decode`: the text of some bytes, with replacement characters;
* `Charset.strict?`: the text of some bytes that all mean something.
-/
import LivePage.Text.Charset.Switching
import LivePage.Text.Charset.Unicode
import LivePage.Text.CodePage.Extended
import LivePage.Text.CodePage.Whole

namespace LivePage

/-- Why a known character set gives no text. -/
inductive CharsetFault
  /-- It turns bytes into other bytes. -/
  | bytesOnly
  /-- It turns texts into other texts. -/
  | textsOnly
  /-- It stands for no character set at all. -/
  | undefined
  /-- It does not say what stands for bytes that mean nothing. -/
  | noReplacement
  /-- The bytes must begin with a mark of their order. -/
  | unmarked (title : String)
deriving DecidableEq

def CharsetFault.message : CharsetFault → String
  | .bytesOnly => ""
  | .textsOnly => "descriptor 'translate' for 'str' objects doesn't apply to a 'bytes' object"
  | .undefined => "undefined encoding"
  | .noReplacement => "Unsupported error handling replace"
  | .unmarked title => title ++ " stream does not start with BOM"

structure Charset where
  /-- The name, in small letters and with underscores for all marks. -/
  name : String
  /-- Other names, which count before the names of all character sets. -/
  aliases : List String
  /-- The text of some bytes, with a replacement character for what means nothing. -/
  decode : List UInt8 → Except CharsetFault String
  /-- The text of some bytes that all mean something. -/
  strict? : List UInt8 → Option String

namespace Charset

/-! ### Kinds of character sets -/

/-- The character set whose bytes are scanned. -/
def ofScan (name : String) (aliases : List String) (scan : List UInt8 → Scanned) : Charset where
  name := name
  aliases := aliases
  decode bytes := .ok (scan bytes).lossy
  strict? bytes := (scan bytes).strict?

/-- The character set whose bytes are scanned in groups. -/
def ofGroups (name : String) (aliases : List String) (front : UInt8 → List UInt8 → ByteGroup) :
    Charset :=
  .ofScan name aliases (LivePage.scan front)

/-- The character set in which one byte is ASCII and two bytes are another character. -/
def ofPairs (name : String) (aliases : List String) (char? : UInt8 → UInt8 → Option Char) :
    Charset :=
  .ofGroups name aliases (pairGroup char?)

/-- The character set that a code page is. -/
def ofPage (page : CodePage) : Charset := .ofScan page.name page.aliases page.scan

/-- A character set whose bytes begin with a mark of their order; fewer bytes than `size` need
none. Bytes that are whole may do without. -/
def ofMarked (name : String) (aliases : List String) (title : String) (size : Nat)
    (order? : List UInt8 → Option ByteOrder) (scan : ByteOrder → List UInt8 → Scanned) :
    Charset where
  name := name
  aliases := aliases
  decode bytes := match order? bytes with
    | some order => .ok (scan order (bytes.drop size)).lossy
    | none =>
      if bytes.length < size then .ok (scan .little bytes).lossy else .error (.unmarked title)
  strict? bytes := match order? bytes with
    | some order => (scan order (bytes.drop size)).strict?
    | none => (scan .little bytes).strict?

/-- A character set that never gives a text. -/
def ofFault (name : String) (aliases : List String) (cause : CharsetFault) : Charset where
  name := name
  aliases := aliases
  decode _ := .error cause
  strict? _ := none

/-! ### The character sets -/

def utf8 : Charset where
  name := "utf_8"
  aliases := ["cp65001", "u8", "utf", "utf8", "utf8_ucs2", "utf8_ucs4"]
  decode bytes := .ok (Utf8.decodeLossy bytes)
  strict? bytes := (Utf8.decode bytes).toOption

/-- Bytes without the mark at their front. A mark that breaks off goes too. -/
def withoutMark : List UInt8 → List UInt8
  | [0xEF] | [0xEF, 0xBB] => []
  | 0xEF :: 0xBB :: 0xBF :: rest => rest
  | bytes => bytes

/-- UTF-8, perhaps with a mark at the front. -/
def utf8Marked : Charset where
  name := "utf_8_sig"
  aliases := []
  decode bytes := utf8.decode (withoutMark bytes)
  strict? bytes := utf8.strict? (if bytes.length < 3 then bytes else withoutMark bytes)

/-- The character sets of all characters. -/
def unicode : List Charset := [
  utf8,
  utf8Marked,
  .ofScan "utf_7" ["u7", "unicode_1_1_utf_7", "utf7"] utf7,
  .ofMarked "utf_16" ["u16", "utf16"] "UTF-16" 2 ByteOrder.ofMark16? utf16,
  .ofScan "utf_16_le" ["unicodelittleunmarked", "utf_16le"] (utf16 .little),
  .ofScan "utf_16_be" ["unicodebigunmarked", "utf_16be"] (utf16 .big),
  .ofMarked "utf_32" ["u32", "utf32"] "UTF-32" 4 ByteOrder.ofMark32? utf32,
  .ofScan "utf_32_le" ["utf_32le"] (utf32 .little),
  .ofScan "utf_32_be" ["utf_32be"] (utf32 .big)]

/-- The code pages that have no characters of their own. -/
def plainPages : List CodePage := [
  ⟨"latin_1", ["8859", "cp819", "csisolatin1", "ibm819", "iso8859", "iso8859_1", "iso_8859_1",
    "iso_8859_1_1987", "iso_ir_100", "l1", "latin", "latin1"], #[]⟩,
  ⟨"charmap", [], #[]⟩,
  ⟨"ascii", ["646", "ansi_x3.4_1968", "ansi_x3.4_1986", "ansi_x3_4_1968", "cp367", "csascii",
    "ibm367", "iso646_us", "iso_646.irv_1991", "iso_ir_6", "us", "us_ascii"],
    Array.replicate 128 Utf8.replacement⟩]

/-- The character sets of East Asia. -/
def eastAsian : List Charset := [
  .ofGroups "shift_jis" ["csshiftjis", "s_jis", "shiftjis", "sjis", "x_mac_japanese"]
    shiftJisGroup,
  .ofGroups "cp932" ["932", "ms932", "ms_kanji", "mskanji"] shiftJisExtendedGroup,
  .ofGroups "euc_jp" ["eucjp", "u_jis", "ujis"] eucJpGroup,
  .ofPairs "gb2312" ["chinese", "csiso58gb231280", "euc_cn", "euccn", "eucgb2312_cn",
    "gb2312_1980", "gb2312_80", "iso_ir_58", "x_mac_simp_chinese"] simplifiedHanzi.high?,
  .ofPairs "gbk" ["936", "cp936", "ms936"] hanziPair?,
  .ofGroups "gb18030" ["gb18030_2000"] hanziFullGroup,
  .ofPairs "big5" ["big5_tw", "csbig5", "x_mac_trad_chinese"] big5Pair?,
  .ofPairs "cp950" ["950", "ms950"] big5ExtendedPair?,
  .ofGroups "euc_kr" ["euckr", "korean", "ks_c_5601", "ks_c_5601_1987", "ks_x_1001", "ksc5601",
    "ksx1001", "x_mac_korean"] hangulGroup,
  .ofPairs "cp949" ["949", "ms949", "uhc"] hangulExtendedPair?,
  .ofPairs "johab" ["cp1361", "ms1361"] johabPair?]

/-- The character set that an encoding is that switches. Unless it has shifts, it has
announcements. -/
def ofSwitching (name : String) (aliases : List String) (repertoires : List Repertoire)
    (hasShifts hasSingles : Bool) : Charset :=
  .ofScan name aliases (Switching.scan ⟨repertoires, hasShifts, hasSingles, !hasShifts⟩)

/-- The character sets of East Asia in ASCII. -/
def switching : List Charset := [
  .ofSwitching "iso2022_jp" ["csiso2022jp", "iso2022jp", "iso_2022_jp"] [.roman, .kanji] false
    false,
  .ofSwitching "iso2022_jp_1" ["iso2022jp_1", "iso_2022_jp_1"]
    [.roman, .kanji, .supplementaryKanji] false false,
  .ofSwitching "iso2022_jp_2" ["iso2022jp_2", "iso_2022_jp_2"]
    [.roman, .kanji, .supplementaryKanji, .hanzi, .hangul, .latin, .greek] false true,
  .ofSwitching "iso2022_jp_ext" ["iso2022jp_ext", "iso_2022_jp_ext"]
    [.roman, .katakana, .kanji, .supplementaryKanji] false false,
  .ofSwitching "iso2022_kr" ["csiso2022kr", "iso2022kr", "iso_2022_kr"] [.hangul] true false,
  .ofScan "hz" ["hz_gb", "hz_gb_2312", "hzgb"] hz]

/-- The names that never give a text. -/
def faulty : List Charset := [
  .ofFault "base64_codec" ["base64", "base_64"] .bytesOnly,
  .ofFault "bz2_codec" ["bz2"] .bytesOnly,
  .ofFault "hex_codec" ["hex"] .bytesOnly,
  .ofFault "quopri_codec" ["quopri", "quoted_printable", "quotedprintable"] .bytesOnly,
  .ofFault "uu_codec" ["uu"] .bytesOnly,
  .ofFault "zlib_codec" ["zip", "zlib"] .bytesOnly,
  .ofFault "rot_13" ["rot13"] .textsOnly,
  .ofFault "undefined" [] .undefined,
  .ofFault "idna" [] .noReplacement]

def all : List Charset :=
  unicode ++ (plainPages ++ CodePage.graphic ++ CodePage.extended ++ CodePage.whole).map .ofPage ++
    eastAsian ++ switching ++ faulty

/-! ### Names -/

/-- The parts of a name between its marks, joined by underscores. A point is no mark. -/
def normalized (name : String) : String :=
  let parts := name.toList.splitOnP fun c => !(c.isAlphanum || c == '.')
  "_".intercalate ((parts.filter fun part => !part.isEmpty).map fun part =>
    String.ofList (part.map Char.toLower))

/-- The character set of a name, in which case and the kind of the marks do not count. A point
counts as a mark, but only in a name that is an alias. -/
def ofName? (name : String) : Option Charset :=
  let known (name : String) : Option Charset := all.find? fun set => set.aliases.contains name
  let name := normalized name
  let unpointed := String.ofList (name.toList.map fun c => if c == '.' then '_' else c)
  (known name).or <| (known unpointed).or <| all.find? fun set => set.name == name

end Charset

end LivePage
