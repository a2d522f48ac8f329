import Stencil.Text.Chinese.Gb2312
import Stencil.Text.Sequence

/-!
# GBK

Chinese text in two bytes for a character, the second of which may be one of
ASCII. The sequences of GB 2312 are kept, but for two signs. In front of them and
behind stand, in the order of their code points, all the ideographs that GB 2312
lacks, then a few that are compatibility forms.

## Main definitions

* `Gb2312.sequence`: What bytes in GB 2312 alone begin with.
* `Gbk.char?`: The character of two bytes.
* `Gbk.sequence`: What bytes begin with.
-/

namespace Stencil.Text

/-- What bytes in GB 2312 alone begin with, both bytes of a character being
    beyond ASCII. -/
def Gb2312.sequence (_ : Unit) (a : UInt8) (rest : List UInt8) : Sequence Unit :=
  if a < 0x80 then .plain a () else .ofTwo () (Grid.gb2312.byBytes? 0xA1 a) rest

namespace Gbk

/-- Signs that are added, and two that replace others. -/
def signs : List Strip := [
  ⟨0xA1, 0xA4, "·"⟩,
  ⟨0xA1, 0xAA, "—"⟩,
  ⟨0xA2, 0xA1, "ⅰⅱⅲⅳⅴⅵⅶⅷⅸⅹ"⟩,
  ⟨0xA6, 0xE0, "︵︶︹︺︿﹀︽︾﹁﹂﹃﹄��︻︼︷︸︱�︳︴"⟩,
  ⟨0xA8, 0x40,
    "ˊˋ˙–―‥‵℅℉↖↗↘↙∕∟∣≒≦≧⊿═║╒╓╔╕╖╗╘╙╚╛╜╝╞╟╠╡╢╣╤╥╦╧╨╩╪╫╬╭╮╯╰╱╲╳▁▂▃▄▅▆▇�█▉▊▋▌▍▎▏▓▔▕▼▽◢◣◤◥☉⊕〒〝〞"⟩,
  ⟨0xA8, 0xBB, "ɑ�ńň�ɡ"⟩,
  ⟨0xA9, 0x40, "〡〢〣〤〥〦〧〨〩㊣㎎㎏㎜㎝㎞㎡㏄㏎㏑㏒㏕︰￢￤�℡㈱�‐���ー゛゜ヽヾ〆ゝゞ﹉﹊﹋﹌﹍﹎﹏﹐﹑﹒﹔﹕﹖﹗﹙﹚﹛﹜﹝﹞﹟﹠﹡�﹢﹣﹤﹥﹦﹨﹩﹪﹫"⟩,
  ⟨0xA9, 0x96, "〇"⟩]

/-- The ideographs that GB 2312 lacks. -/
def supplement : Array Char :=
  Grid.gb2312.lacked 0x4E00 0x9FA5

/-- Ideographs that are forms of others. -/
def compatibilityForms : List Strip := [
  ⟨0xFD, 0x9C, "\uf92c\uf979\uf995\uf9e7\uf9f1"⟩,
  ⟨0xFE, 0x40, "\ufa0c\ufa0d﨎﨏﨑﨓﨔\ufa18﨟\ufa20﨡﨣﨤﨧﨨﨩"⟩]

/-- Where a second byte stands among all that there are. -/
def trail? (b : UInt8) : Option Nat :=
  if 0x40 ≤ b && b ≤ 0x7E then some (b.toNat - 0x40)
  else if 0x80 ≤ b && b ≤ 0xFE then some (b.toNat - 0x41)
  else none

/-- Where two bytes stand among those of the supplement: first whole rows of 190
    cells, then the first 96 of each. -/
def supplementIndex? (a b : UInt8) : Option Nat :=
  (trail? b).bind fun i =>
    if 0x81 ≤ a && a ≤ 0xA0 then some ((a - 0x81).toNat * 190 + i)
    else if 0xAA ≤ a && i < 96 then some (0x20 * 190 + (a - 0xAA).toNat * 96 + i)
    else none

/-- The character of two bytes. -/
def char? (a b : UInt8) : Option Char :=
  Strip.find? signs a b <|> Grid.gb2312.byBytes? 0xA1 a b <|>
    (supplementIndex? a b).bind (supplement[·]?) <|> Strip.find? compatibilityForms a b

/-- What bytes begin with. -/
def sequence (_ : Unit) (a : UInt8) (rest : List UInt8) : Sequence Unit :=
  if a < 0x80 then .plain a () else .ofTwo () (char? a) rest

end Gbk

end Stencil.Text
