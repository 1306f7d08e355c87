import Conformity.Markup.ByteTables
import Conformity.Text.Utf8
import Conformity.Text.Lowercase

/-!
# Character sets

How the bytes of a document become characters. A character set is known by many labels, in which
capitals and punctuation do not count. Reading fails on bytes that stand for nothing.
-/

namespace Conformity.Markup

/-- A way to read bytes. -/
inductive Charset where
  | utf8
  | utf16 (bigEndian : Bool)
  /-- One byte for each character; the runs tell what the bytes beyond ASCII stand for. -/
  | single (upper : ByteRuns)

/-- The code that a byte stands for. -/
def byteCode? (upper : ByteRuns) (b : UInt8) : Option Nat :=
  if b.toNat < 0x80 then some b.toNat
  else
    (upper.find? fun r => decide (r.1 ≤ b.toNat) && decide (b.toNat < r.1 + r.2.2)).map
      fun r => r.2.1 + (b.toNat - r.1)

/-- Reads bytes of a single-byte set. -/
def decodeSingle (upper : ByteRuns) (bs : Bytes) : Option (List Char) :=
  bs.mapM fun b => (byteCode? upper b).map Char.ofNat

/-- The unit that two bytes form. -/
def unit16 (bigEndian : Bool) (a b : UInt8) : Nat :=
  if bigEndian then a.toNat * 256 + b.toNat else b.toNat * 256 + a.toNat

/-- The units of two bytes each. -/
def units16 (bigEndian : Bool) : Bytes → Option (List Nat)
  | [] => some []
  | [_] => none
  | a :: b :: rest => (units16 bigEndian rest).map (unit16 bigEndian a b :: ·)

/-- The units of two bytes each, a single byte at the end being left out. -/
def fullUnits16 (bigEndian : Bool) : Bytes → List Nat
  | a :: b :: rest => unit16 bigEndian a b :: fullUnits16 bigEndian rest
  | _ => []

/-- The characters of units of two bytes, two units standing for one character beyond the first
65536. -/
def joinUnits : List Nat → Option (List Char)
  | [] => some []
  | [n] => if 0xD800 ≤ n && n < 0xE000 then none else some [Char.ofNat n]
  | n :: m :: rest =>
    if 0xD800 ≤ n && n < 0xE000 then
      if n < 0xDC00 && 0xDC00 ≤ m && m < 0xE000 then
        (joinUnits rest).map
          (Char.ofNat (0x10000 + (n - 0xD800) * 1024 + (m - 0xDC00)) :: ·)
      else none
    else (joinUnits (m :: rest)).map (Char.ofNat n :: ·)

/-- The characters that bytes stand for. -/
def Charset.decode? : Charset → Bytes → Option (List Char)
  | utf8, bs => Text.decode? bs
  | utf16 big, bs => (units16 big bs).bind joinUnits
  | single upper, bs => decodeSingle upper bs

/-- A label without capitals and punctuation. -/
def plainLabel (s : String) : String :=
  String.ofList ((s.toList.filter Char.isAlphanum).map Char.toLower)

/-- The labels of the sets of single bytes. -/
def singleByteLabels : List (List String × ByteRuns) :=
  [(["ascii", "usascii", "646", "us", "ansix341968", "isoir6", "cp367", "iso646us", "ibm367"], []),
   (["iso88591", "latin1", "latin", "l1", "cp819", "ibm819", "8859", "isoir100", "csisolatin1",
     "iso885911987", "isolatin1"], iso8859p1Runs),
   (["iso88592", "latin2", "l2", "isoir101", "csisolatin2", "iso885921987", "isolatin2"],
     iso8859p2Runs),
   (["iso88593", "latin3", "l3", "isoir109", "csisolatin3", "iso885931988"], iso8859p3Runs),
   (["iso88594", "latin4", "l4", "isoir110", "csisolatin4", "iso885941988"], iso8859p4Runs),
   (["iso88595", "cyrillic", "isoir144", "csisolatincyrillic", "iso885951988"], iso8859p5Runs),
   (["iso88596", "arabic", "asmo708", "ecma114", "isoir127", "csisolatinarabic", "iso885961987"],
     iso8859p6Runs),
   (["iso88597", "greek", "greek8", "ecma118", "elot928", "isoir126", "csisolatingreek",
     "iso885971987"], iso8859p7Runs),
   (["iso88598", "hebrew", "isoir138", "csisolatinhebrew", "iso885981988"], iso8859p8Runs),
   (["iso88599", "latin5", "l5", "isoir148", "csisolatin5", "iso885991989", "isolatin5"],
     iso8859p9Runs),
   (["iso885910", "latin6", "l6", "isoir157", "csisolatin6", "iso8859101992"], iso8859p10Runs),
   (["iso885911", "thai", "iso8859112001"], iso8859p11Runs),
   (["iso885913", "latin7", "l7"], iso8859p13Runs),
   (["iso885914", "latin8", "l8", "isoir199", "isoceltic", "iso8859141998"], iso8859p14Runs),
   (["iso885915", "latin9", "l9"], iso8859p15Runs),
   (["iso885916", "latin10", "l10", "isoir226", "iso8859162001"], iso8859p16Runs),
   (["cp1250", "windows1250", "1250"], cp1250Runs), (["cp1251", "windows1251", "1251"], cp1251Runs),
   (["cp1252", "windows1252", "1252"], cp1252Runs), (["cp1253", "windows1253", "1253"], cp1253Runs),
   (["cp1254", "windows1254", "1254"], cp1254Runs), (["cp1255", "windows1255", "1255"], cp1255Runs),
   (["cp1256", "windows1256", "1256"], cp1256Runs), (["cp1257", "windows1257", "1257"], cp1257Runs),
   (["cp1258", "windows1258", "1258"], cp1258Runs), (["koi8r", "cskoi8r"], koi8rRuns),
   (["koi8u"], koi8uRuns), (["cp437", "437", "ibm437"], cp437Runs),
   (["cp850", "850", "ibm850"], cp850Runs), (["cp852", "852", "ibm852"], cp852Runs),
   (["cp855", "855", "ibm855"], cp855Runs), (["cp857", "857", "ibm857"], cp857Runs),
   (["cp862", "862", "ibm862"], cp862Runs), (["cp866", "866", "ibm866"], cp866Runs)]

/-- The set of single bytes with a label. -/
def singleByte? (label : String) : Option ByteRuns :=
  (singleByteLabels.find? fun e => e.1.contains (plainLabel label)).map (·.2)

/-- The labels of the common sets in which some characters take several bytes. -/
def multiByteLabels : List String :=
  ["big5", "big5tw", "csbig5", "big5hkscs", "hkscs", "cp932", "932", "ms932", "mskanji", "cp949",
   "949", "ms949", "uhc", "cp950", "950", "ms950", "eucjp", "ujis", "ujis", "eucjis2004",
   "jisx0213", "eucjisx0213", "euckr", "korean", "ksc5601", "ksx1001", "gb2312", "chinese", "euccn",
   "gb231280", "gbk", "936", "cp936", "ms936", "gb18030", "gb180302000", "hz", "hzgb", "hzgb2312",
   "iso2022jp", "iso2022jp1", "iso2022jp2", "iso2022jp3", "iso2022kr", "johab", "cp1361", "shiftjis",
   "csshiftjis", "sjis", "shiftjis2004", "shiftjisx0213", "utf16", "u16", "utf16le", "utf16be",
   "utf32", "u32", "utf32le", "utf32be", "utf7", "u7"]

end Conformity.Markup
