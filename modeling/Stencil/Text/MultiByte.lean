import Stencil.Text.Chinese.Big5
import Stencil.Text.Chinese.Gb18030
import Stencil.Text.Chinese.Hz
import Stencil.Text.Iso2022
import Stencil.Text.Japanese.EucJp
import Stencil.Text.Japanese.ShiftJis
import Stencil.Text.Korean.EucKr
import Stencil.Text.Korean.Johab

/-!
# Encodings of East Asian Text

The encodings in which characters of Chinese, Japanese and Korean take several
bytes, with the names that they go by.

## Main definitions

* `MultiByte`: The encodings.
* `MultiByte.all`: All of them.
* `MultiByte.decode`: The characters that bytes encode.
-/

namespace Stencil.Text

/-- The encodings of East Asian text. -/
inductive MultiByte where
  | shiftJis
  | shiftJis0213 (e : Jis0213Edition)
  | shiftJisWindows
  | eucJp
  | eucJis0213 (e : Jis0213Edition)
  | iso2022 (v : Iso2022)
  | gb2312
  | gbk
  | gb18030
  | hz
  | big5
  | big5Windows
  | big5HongKong
  | eucKr
  | unifiedHangul
  | johab
deriving DecidableEq, Repr

namespace MultiByte

/-- The name of each encoding. It is also reported under that name. -/
def name : MultiByte → String
  | shiftJis => "shift_jis"
  | shiftJis0213 .of2000 => "shift_jisx0213"
  | shiftJis0213 .of2004 => "shift_jis_2004"
  | shiftJisWindows => "cp932"
  | eucJp => "euc_jp"
  | eucJis0213 .of2000 => "euc_jisx0213"
  | eucJis0213 .of2004 => "euc_jis_2004"
  | iso2022 .korean => "iso2022_kr"
  | iso2022 .japanese => "iso2022_jp"
  | iso2022 .japanese1 => "iso2022_jp_1"
  | iso2022 .japanese2 => "iso2022_jp_2"
  | iso2022 .japanese3 => "iso2022_jp_3"
  | iso2022 .japanese2004 => "iso2022_jp_2004"
  | iso2022 .japaneseExtended => "iso2022_jp_ext"
  | gb2312 => "gb2312"
  | gbk => "gbk"
  | gb18030 => "gb18030"
  | hz => "hz"
  | big5 => "big5"
  | big5Windows => "cp950"
  | big5HongKong => "big5hkscs"
  | eucKr => "euc_kr"
  | unifiedHangul => "cp949"
  | johab => "johab"

/-- The further names of each encoding. -/
def furtherNames : MultiByte → List String
  | shiftJis => ["csshiftjis", "s_jis", "shiftjis", "sjis", "x_mac_japanese"]
  | shiftJis0213 .of2000 => ["s_jisx0213", "shiftjisx0213", "sjisx0213"]
  | shiftJis0213 .of2004 => ["s_jis_2004", "shiftjis2004", "sjis_2004"]
  | shiftJisWindows => ["932", "ms932", "ms_kanji", "mskanji"]
  | eucJp => ["eucjp", "u_jis", "ujis"]
  | eucJis0213 .of2000 => ["eucjisx0213"]
  | eucJis0213 .of2004 => ["euc_jis2004", "eucjis2004", "jisx0213"]
  | iso2022 .korean => ["csiso2022kr", "iso2022kr", "iso_2022_kr"]
  | iso2022 .japanese => ["csiso2022jp", "iso2022jp", "iso_2022_jp"]
  | iso2022 .japanese1 => ["iso2022jp_1", "iso_2022_jp_1"]
  | iso2022 .japanese2 => ["iso2022jp_2", "iso_2022_jp_2"]
  | iso2022 .japanese3 => ["iso2022jp_3", "iso_2022_jp_3"]
  | iso2022 .japanese2004 => ["iso2022jp_2004", "iso_2022_jp_2004"]
  | iso2022 .japaneseExtended => ["iso2022jp_ext", "iso_2022_jp_ext"]
  | gb2312 => ["chinese", "csiso58gb231280", "euc_cn", "euccn", "eucgb2312_cn", "gb2312_1980",
      "gb2312_80", "iso_ir_58", "x_mac_simp_chinese"]
  | gbk => ["936", "cp936", "ms936"]
  | gb18030 => ["gb18030_2000"]
  | hz => ["hz_gb", "hz_gb_2312", "hzgb"]
  | big5 => ["big5_tw", "csbig5", "x_mac_trad_chinese"]
  | big5Windows => ["950", "ms950"]
  | big5HongKong => ["big5_hkscs", "hkscs"]
  | eucKr => ["euckr", "korean", "ks_c_5601", "ks_c_5601_1987", "ks_x_1001", "ksc5601", "ksx1001",
      "x_mac_korean"]
  | unifiedHangul => ["949", "ms949", "uhc"]
  | johab => ["cp1361", "ms1361"]

/-- All encodings of East Asian text. -/
def all : List MultiByte :=
  [shiftJis, shiftJis0213 .of2000, shiftJis0213 .of2004, shiftJisWindows, eucJp,
    eucJis0213 .of2000, eucJis0213 .of2004, iso2022 .korean, iso2022 .japanese,
    iso2022 .japanese1, iso2022 .japanese2, iso2022 .japanese3, iso2022 .japanese2004,
    iso2022 .japaneseExtended, gb2312, gbk, gb18030, hz, big5, big5Windows, big5HongKong, eucKr,
    unifiedHangul, johab]

/-- The characters that the bytes encode. -/
def decode (m : MultiByte) (bytes : List UInt8) : Except ReadFault (List Char) :=
  let plain (sequence : Unit → UInt8 → List UInt8 → Sequence Unit) :=
    decodeSequences m.name sequence () 0 bytes
  match m with
  | shiftJis => plain ShiftJis.standard
  | shiftJis0213 e => plain (ShiftJis.jis0213 e)
  | shiftJisWindows => plain ShiftJis.windows
  | eucJp => plain EucJp.standard
  | eucJis0213 e => plain (EucJp.jis0213 e)
  | iso2022 v => decodeSequences m.name v.sequence {} 0 bytes
  | gb2312 => plain Gb2312.sequence
  | gbk => plain Gbk.sequence
  | gb18030 => plain Gb18030.sequence
  | hz => decodeSequences m.name Hz.sequence false 0 bytes
  | big5 => plain Big5.standard
  | big5Windows => plain Big5.windows
  | big5HongKong => plain Big5.hongKong
  | eucKr => plain EucKr.standard
  | unifiedHangul => plain EucKr.unified
  | johab => plain Johab.sequence

end MultiByte

end Stencil.Text
