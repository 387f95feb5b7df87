/-
The encodings of Chinese text. GB 2312 has one; two more fill its empty
cells and add rows, the last one with all other characters in four bytes.
Big5 and its extension are independent of them.

* `hanziPair?`, `hanziFullGroup`: the characters and the groups of the two
  extensions of GB 2312;
* `big5Pair?`, `big5ExtendedPair?`: the characters of Big5 and its
  extension.
-/
import LivePage.Text.Charset.Japanese
import LivePage.Text.Grid.SimplifiedHanzi
import LivePage.Text.Grid.TraditionalHanzi

namespace LivePage

/-! ### GB 2312 extended -/

/-- The number of the cell of two bytes. -/
def hanziCell? (lead trail : UInt8) : Option Nat :=
  cellOf? [(0x81, 0xFE)] [(0x40, 0x7E), (0x80, 0xFE)] 190 lead trail

/-- Which characters of the first plane are in a list, by their codes. -/
def presence (chars : List Char) : Array Bool :=
  chars.foldl (fun found c => found.setIfInBounds c.toNat true) (Array.replicate 0x10000 false)

/-- The ideographs that GB 2312 has not, in order, and some that are there for compatibility. -/
def otherHanzi : Array Char :=
  let found := presence (simplifiedHanzi.toList.flatMap Array.toList)
  let codes := (List.range' 0x4E00 20902).filter fun code => !(found[code]?.getD false)
  (codes.map Char.ofNat ++ "郎凉秊裏隣兀嗀﨎﨏﨑﨓﨔礼﨟蘒﨡﨣﨤﨧﨨﨩".toList).toArray

/-- Signs in cells that GB 2312 leaves empty, or that are changed. -/
def hanziStrips : List Strip := [
  .ofText 6179 "·",
  .ofText 6185 "—",
  .ofText 6366 "ⅰⅱⅲⅳⅴⅵⅶⅷⅸⅹ",
  .ofText 7189 "︵︶︹︺︿﹀︽︾﹁﹂﹃﹄��︻︼︷︸︱�︳︴",
  .ofText 7410 ("ˊˋ˙–―‥‵℅℉↖↗↘↙∕∟∣≒≦≧⊿═║╒╓╔╕╖╗╘╙╚╛╜╝╞╟╠╡╢╣╤╥╦╧╨" ++
    "╩╪╫╬╭╮╯╰╱╲╳▁▂▃▄▅▆▇█▉▊▋▌▍▎▏▓▔▕▼▽◢◣◤◥☉⊕〒〝〞"),
  .ofText 7532 "ɑ�ńň�ɡ",
  .ofText 7600 ("〡〢〣〤〥〦〧〨〩㊣㎎㎏㎜㎝㎞㎡㏄㏎㏑㏒㏕︰￢￤�℡㈱�‐���ー゛゜ヽ" ++
    "ヾ〆ゝゞ﹉﹊﹋﹌﹍﹎﹏﹐﹑﹒﹔﹕﹖﹗﹙﹚﹛﹜﹝﹞﹟﹠﹡﹢﹣﹤﹥﹦﹨﹩﹪﹫"),
  .ofText 7685 "〇"]

/-- The character in a cell of the extension. The ideographs fill the rows in front of GB 2312,
and then the cells on the left of its later rows. -/
def hanziCellChar? (cell : Nat) : Option Char :=
  let row := cell / 190
  let column := cell % 190
  if row < 32 then otherHanzi[cell]?
  else if 41 ≤ row && column < 96 then otherHanzi[6080 + 96 * (row - 41) + column]?
  else (Strip.find? hanziStrips cell).or
    (if column < 96 then none else simplifiedHanzi.char? (row - 32) (column - 96))

/-- The character of two bytes in the extension. -/
def hanziPair? (lead trail : UInt8) : Option Char :=
  (hanziCell? lead trail).bind hanziCellChar?

/-! ### GB 2312 with all characters -/

/-- Characters in cells that the extension leaves empty. -/
def lateHanziStrips : List Strip := [
  .ofText 6432 "€",
  .ofText 7536 "ǹ",
  .ofText 7672 "〾⿰⿱⿲⿳⿴⿵⿶⿷⿸⿹⿺⿻",
  .ofText 23766 (String.join [
    "⺁\ue816\ue817\ue818⺄㑳㑇⺈⺋\ue81e㖞㘚㘎⺌⺗㥮㤘\ue826㧏㧟㩳㧐\ue82b\ue82c㭎㱮㳠⺧\ue831\ue832⺪䁖䅟⺮䌷⺳⺶⺷\ue83b䎱",
    "䎬⺻䏝䓖䙡䙌\ue843䜣䜩䝼䞍⻊䥇䥺䥽䦂䦃䦅䦆䦟䦛䦷䦶\ue854\ue855䲣䲟䲠䲡䱷䲢䴓䴔䴕䴖䴗䴘䴙䶮\ue864"])]

/-- The number of a cell in three fields for private use: on the right of rows behind both halves
of the ideographs, and on the left of the signs. -/
def privateField? (cell : Nat) : Option Nat :=
  let row := cell / 190
  let column := cell % 190
  if 41 ≤ row && row < 47 && 96 ≤ column then some (94 * (row - 41) + (column - 96))
  else if 119 ≤ row && 96 ≤ column then some (564 + 94 * (row - 119) + (column - 96))
  else if 32 ≤ row && row < 39 && column < 96 then some (1222 + 96 * (row - 32) + column)
  else none

/-- The other cells that the extension leaves empty, among the signs and behind the first half of
the ideographs. -/
def vacantCells : Array Nat :=
  ((List.range' 33 8 ++ [86]).flatMap fun row =>
    (List.range' (190 * row) 190).filter fun cell =>
      (hanziCellChar? cell).isNone && (privateField? cell).isNone).toArray

/-- The character in a cell. Cells that are still empty are for private use, in order. -/
def hanziFullCellChar? (cell : Nat) : Option Char :=
  (hanziCellChar? cell).or <| (Strip.find? lateHanziStrips cell).or <|
    ((privateField? cell).or ((vacantCells.idxOf? cell).map (1894 + ·))).map fun n =>
      Char.ofNat (0xE000 + n)

/-- The characters of the first plane that no two bytes have, in order. -/
def fourByteChars : Array Char :=
  let found := presence ((List.range (126 * 190)).filterMap hanziFullCellChar?)
  let codes := (List.range' 0x80 (0x10000 - 0x80)).filter fun code =>
    !(found[code]?.getD false) && code.isValidChar
  (codes.map Char.ofNat).toArray

/-- The character of four bytes, of which the second and the fourth are digits. -/
def fourByteChar? (a b c d : UInt8) : Option Char := do
  let a ← indexIn? a [(0x81, 0xFE)]
  let b ← indexIn? b [(0x30, 0x39)]
  let c ← indexIn? c [(0x81, 0xFE)]
  let d ← indexIn? d [(0x30, 0x39)]
  let low := 1260 * b + 10 * c + d
  if a < 4 then fourByteChars[12600 * a + low]?
  else
    let code := 0x10000 + 12600 * (a - 15) + low
    if 15 ≤ a && code.isValidChar then some (Char.ofNat code) else none

/-- The group at the front of GB 18030. -/
def hanziFullGroup (lead : UInt8) (rest : List UInt8) : ByteGroup :=
  if lead < 0x80 then .means [Char.ofNat lead.toNat] 0
  else match rest with
    | [] => .meaningless 0
    | b :: after =>
      if b < 0x30 || 0x39 < b then
        .ofChar? ((hanziCell? lead b).bind hanziFullCellChar?) 1
      else match after with
        | c :: d :: _ => .ofChar? (fourByteChar? lead b c d) 3
        | _ => .meaningless rest.length

/-! ### Big5 -/

/-- The number of the cell of two bytes. -/
def big5Cell? (lead trail : UInt8) : Option Nat :=
  cellOf? [(0xA1, 0xFE)] [(0x40, 0x7E), (0xA1, 0xFE)] 157 lead trail

/-- The character of two bytes. -/
def big5Pair? (lead trail : UInt8) : Option Char :=
  (big5Cell? lead trail).bind (traditionalHanzi.numbered? 157)

/-- The cells in which the extension has characters of its own. -/
def big5Strips : List Strip := [
  .ofText 5 "‧",
  .ofText 14 "﹑",
  .ofText 96 "¯",
  .ofText 129 "～",
  .ofText 144 "⊕⊙",
  .ofText 158 "∕﹨",
  .ofText 161 "￥",
  .ofText 163 "￠￡",
  .ofText 441 "€",
  .ofText 13932 "碁銹裏墻恒粧嫺╔╦╗╠╬╣╚╩╝╒╤╕╞╪╡╘╧╛╓╥╖╟╫╢╙╨╜║═╭╮╰╯▓"]

/-- The character of two bytes in the extension. -/
def big5ExtendedPair? (lead trail : UInt8) : Option Char :=
  (big5Cell? lead trail).bind fun cell =>
    (Strip.find? big5Strips cell).or (traditionalHanzi.numbered? 157 cell)

end LivePage
