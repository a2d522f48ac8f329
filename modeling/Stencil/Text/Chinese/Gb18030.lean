import Stencil.Text.Chinese.Gbk
import Stencil.Text.Ranges

/-!
# GB 18030

Chinese text in which every code point has a sequence. One of two bytes is a
character of GBK, or of the few that were added to it, or else one for private
use. All code points that are left have one of four bytes, by their number among
them.

## Main definitions

* `Gb18030.two?`: The character of two bytes.
* `Gb18030.four?`: The character of four bytes.
* `Gb18030.sequence`: What bytes begin with.
-/

namespace Stencil.Text.Gb18030

/-- Characters that were added to GBK. -/
def added : List Strip := [
  ⟨0xA2, 0xE3, "€"⟩,
  ⟨0xA8, 0xBF, "ǹ"⟩,
  ⟨0xA9, 0x89, "〾⿰⿱⿲⿳⿴⿵⿶⿷⿸⿹⿺⿻"⟩,
  ⟨0xFE, 0x50, "⺁���⺄㑳㑇⺈⺋�㖞㘚㘎⺌⺗㥮㤘�㧏㧟㩳㧐��㭎㱮㳠⺧��⺪䁖䅟⺮䌷⺳⺶⺷�䎱䎬⺻䏝䓖䙡䙌��䜣䜩䝼䞍⻊䥇䥺䥽䦂䦃䦅䦆䦟䦛䦷䦶��䲣䲟䲠䲡䱷䲢䴓䴔䴕䴖䴗䴘䴙䶮"⟩]

/-- Cells of a row, from one second byte to another. -/
structure CellRun where
  lead : UInt8
  first : UInt8
  last : UInt8
deriving DecidableEq, Repr

/-- The cells that were left free for private use, in the order of the code
    points that stand for them. Some have been given a character since. -/
def privateCells : List CellRun :=
  (List.range 6).map (fun i => ⟨0xAA + .ofNat i, 0xA1, 0xFE⟩) ++
  (List.range 7).map (fun i => ⟨0xF8 + .ofNat i, 0xA1, 0xFE⟩) ++
  (List.range 7).flatMap (fun i => [⟨0xA1 + .ofNat i, 0x40, 0x7E⟩, ⟨0xA1 + .ofNat i, 0x80, 0xA0⟩]) ++ [
    ⟨0xA2, 0xAB, 0xB0⟩, ⟨0xA2, 0xE3, 0xE4⟩, ⟨0xA2, 0xEF, 0xF0⟩, ⟨0xA2, 0xFD, 0xFE⟩,
    ⟨0xA4, 0xF4, 0xFE⟩, ⟨0xA5, 0xF7, 0xFE⟩, ⟨0xA6, 0xB9, 0xC0⟩, ⟨0xA6, 0xD9, 0xDF⟩,
    ⟨0xA6, 0xEC, 0xED⟩, ⟨0xA6, 0xF3, 0xF3⟩, ⟨0xA6, 0xF6, 0xFE⟩, ⟨0xA7, 0xC2, 0xD0⟩,
    ⟨0xA7, 0xF2, 0xFE⟩, ⟨0xA8, 0x96, 0xA0⟩, ⟨0xA8, 0xBC, 0xBC⟩, ⟨0xA8, 0xBF, 0xBF⟩,
    ⟨0xA8, 0xC1, 0xC4⟩, ⟨0xA8, 0xEA, 0xFE⟩, ⟨0xA9, 0x58, 0x58⟩, ⟨0xA9, 0x5B, 0x5B⟩,
    ⟨0xA9, 0x5D, 0x5F⟩, ⟨0xA9, 0x89, 0x95⟩, ⟨0xA9, 0x97, 0xA3⟩, ⟨0xA9, 0xF0, 0xFE⟩,
    ⟨0xD7, 0xFA, 0xFE⟩, ⟨0xFE, 0x50, 0x7E⟩, ⟨0xFE, 0x80, 0xA0⟩]

/-- How many cells of the runs stand before that of two bytes, if it is one. -/
def position? (a b : UInt8) : List CellRun → Option Nat
  | [] => none
  | r :: runs =>
    if r.lead == a && r.first ≤ b && b ≤ r.last then some (b - r.first).toNat
    else (position? a b runs).map ((r.last - r.first).toNat + 1 + ·)

/-- The character of two bytes. -/
def two? (a b : UInt8) : Option Char :=
  Gbk.char? a b <|> Strip.find? added a b <|>
    (position? a b privateCells).map fun i => Char.ofNat (0xE000 + i)

/-- The code points up to the last of two bytes that have sequences of four. -/
def fourByteRanges : List CodeRange := [
    (0x80, 0xA3), (0xA5, 0xA6), (0xA9, 0xAF), (0xB2, 0xB6), (0xB8, 0xD6), (0xD8, 0xDF),
    (0xE2, 0xE7), (0xEB, 0xEB), (0xEE, 0xF1), (0xF4, 0xF6), (0xF8, 0xF8), (0xFB, 0xFB),
    (0xFD, 0x100), (0x102, 0x112), (0x114, 0x11A), (0x11C, 0x12A), (0x12C, 0x143), (0x145, 0x147),
    (0x149, 0x14C), (0x14E, 0x16A), (0x16C, 0x1CD), (0x1CF, 0x1CF), (0x1D1, 0x1D1), (0x1D3, 0x1D3),
    (0x1D5, 0x1D5), (0x1D7, 0x1D7), (0x1D9, 0x1D9), (0x1DB, 0x1DB), (0x1DD, 0x1F8), (0x1FA, 0x250),
    (0x252, 0x260), (0x262, 0x2C6), (0x2C8, 0x2C8), (0x2CC, 0x2D8), (0x2DA, 0x390), (0x3A2, 0x3A2),
    (0x3AA, 0x3B0), (0x3C2, 0x3C2), (0x3CA, 0x400), (0x402, 0x40F), (0x450, 0x450),
    (0x452, 0x200F), (0x2011, 0x2012), (0x2017, 0x2017), (0x201A, 0x201B), (0x201E, 0x2024),
    (0x2027, 0x202F), (0x2031, 0x2031), (0x2034, 0x2034), (0x2036, 0x203A), (0x203C, 0x20AB),
    (0x20AD, 0x2102), (0x2104, 0x2104), (0x2106, 0x2108), (0x210A, 0x2115), (0x2117, 0x2120),
    (0x2122, 0x215F), (0x216C, 0x216F), (0x217A, 0x218F), (0x2194, 0x2195), (0x219A, 0x2207),
    (0x2209, 0x220E), (0x2210, 0x2210), (0x2212, 0x2214), (0x2216, 0x2219), (0x221B, 0x221C),
    (0x2221, 0x2222), (0x2224, 0x2224), (0x2226, 0x2226), (0x222C, 0x222D), (0x222F, 0x2233),
    (0x2238, 0x223C), (0x223E, 0x2247), (0x2249, 0x224B), (0x224D, 0x2251), (0x2253, 0x225F),
    (0x2262, 0x2263), (0x2268, 0x226D), (0x2270, 0x2294), (0x2296, 0x2298), (0x229A, 0x22A4),
    (0x22A6, 0x22BE), (0x22C0, 0x2311), (0x2313, 0x245F), (0x246A, 0x2473), (0x249C, 0x24FF),
    (0x254C, 0x254F), (0x2574, 0x2580), (0x2590, 0x2592), (0x2596, 0x259F), (0x25A2, 0x25B1),
    (0x25B4, 0x25BB), (0x25BE, 0x25C5), (0x25C8, 0x25CA), (0x25CC, 0x25CD), (0x25D0, 0x25E1),
    (0x25E6, 0x2604), (0x2607, 0x2608), (0x260A, 0x263F), (0x2641, 0x2641), (0x2643, 0x2E80),
    (0x2E82, 0x2E83), (0x2E85, 0x2E87), (0x2E89, 0x2E8A), (0x2E8D, 0x2E96), (0x2E98, 0x2EA6),
    (0x2EA8, 0x2EA9), (0x2EAB, 0x2EAD), (0x2EAF, 0x2EB2), (0x2EB4, 0x2EB5), (0x2EB8, 0x2EBA),
    (0x2EBC, 0x2EC9), (0x2ECB, 0x2FEF), (0x2FFC, 0x2FFF), (0x3004, 0x3004), (0x3018, 0x301C),
    (0x301F, 0x3020), (0x302A, 0x303D), (0x303F, 0x3040), (0x3094, 0x309A), (0x309F, 0x30A0),
    (0x30F7, 0x30FB), (0x30FF, 0x3104), (0x312A, 0x321F), (0x322A, 0x3230), (0x3232, 0x32A2),
    (0x32A4, 0x338D), (0x3390, 0x339B), (0x339F, 0x33A0), (0x33A2, 0x33C3), (0x33C5, 0x33CD),
    (0x33CF, 0x33D0), (0x33D3, 0x33D4), (0x33D6, 0x3446), (0x3448, 0x3472), (0x3474, 0x359D),
    (0x359F, 0x360D), (0x360F, 0x3619), (0x361B, 0x3917), (0x3919, 0x396D), (0x396F, 0x39CE),
    (0x39D1, 0x39DE), (0x39E0, 0x3A72), (0x3A74, 0x3B4D), (0x3B4F, 0x3C6D), (0x3C6F, 0x3CDF),
    (0x3CE1, 0x4055), (0x4057, 0x415E), (0x4160, 0x4336), (0x4338, 0x43AB), (0x43AD, 0x43B0),
    (0x43B2, 0x43DC), (0x43DE, 0x44D5), (0x44D7, 0x464B), (0x464D, 0x4660), (0x4662, 0x4722),
    (0x4724, 0x4728), (0x472A, 0x477B), (0x477D, 0x478C), (0x478E, 0x4946), (0x4948, 0x4979),
    (0x497B, 0x497C), (0x497E, 0x4981), (0x4984, 0x4984), (0x4987, 0x499A), (0x499C, 0x499E),
    (0x49A0, 0x49B5), (0x49B8, 0x4C76), (0x4C78, 0x4C9E), (0x4CA4, 0x4D12), (0x4D1A, 0x4DAD),
    (0x4DAF, 0x4DFF), (0x9FA6, 0xD7FF), (0xE76C, 0xE76C), (0xE7C8, 0xE7C8), (0xE7E7, 0xE7F3),
    (0xE815, 0xE815), (0xE819, 0xE81D), (0xE81F, 0xE825), (0xE827, 0xE82A), (0xE82D, 0xE830),
    (0xE833, 0xE83A), (0xE83C, 0xE842), (0xE844, 0xE853), (0xE856, 0xE863), (0xE865, 0xF92B),
    (0xF92D, 0xF978), (0xF97A, 0xF994), (0xF996, 0xF9E6), (0xF9E8, 0xF9F0), (0xF9F2, 0xFA0B),
    (0xFA10, 0xFA10), (0xFA12, 0xFA12), (0xFA15, 0xFA17), (0xFA19, 0xFA1E), (0xFA22, 0xFA22),
    (0xFA25, 0xFA26), (0xFA2A, 0xFE2F), (0xFE32, 0xFE32), (0xFE45, 0xFE48), (0xFE53, 0xFE53),
    (0xFE58, 0xFE58), (0xFE67, 0xFE67), (0xFE6C, 0xFF00), (0xFF5F, 0xFFDF), (0xFFE6, 0xFFFF)]

/-- The code point with a number, all of the ranges being counted. -/
def nth? : List CodeRange → Nat → Option Nat
  | [], _ => none
  | (first, last) :: ranges, i =>
    if first + i ≤ last then some (first + i) else nth? ranges (i - (last + 1 - first))

/-- The number that four bytes are. The second and the fourth are digits, the
    first and the third count from a base on. -/
def number (a b c d : UInt8) : Nat :=
  (((a - 0x81).toNat * 10 + (b - 0x30).toNat) * 126 + (c - 0x81).toNat) * 10 + (d - 0x30).toNat

/-- The character of four bytes. The numbers from that of the sixteenth first byte
    on are for the code points beyond those of two bytes. -/
def four? (a b c d : UInt8) : Option Char :=
  if 0x81 ≤ a && a ≤ 0xFE && 0x81 ≤ c && c ≤ 0xFE && isDigit d then
    let n := number a b c d
    if a < 0x85 then (nth? fourByteRanges n).map Char.ofNat
    else if a < 0x90 then none
    else
      let point := 0x10000 + (n - number 0x90 0x30 0x81 0x30)
      if point ≤ 0x10FFFF then some (Char.ofNat point) else none
  else none
where
  /-- A byte that is a decimal digit. -/
  isDigit (b : UInt8) : Bool := 0x30 ≤ b && b ≤ 0x39

/-- What bytes begin with. -/
def sequence (_ : Unit) (a : UInt8) (rest : List UInt8) : Sequence Unit :=
  if a < 0x80 then .plain a ()
  else match rest with
    | [] => .cutOff
    | b :: rest =>
      if four?.isDigit b then
        match rest with
        | c :: d :: _ => .ofFound ((four? a b c d).map ([·])) 3 ()
        | _ => .cutOff
      else .ofFound ((two? a b).map ([·])) 1 ()

end Stencil.Text.Gb18030
