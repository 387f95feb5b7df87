/-
The encodings of Japanese text. JIS X 0208 has two of them; one more has
characters of its own in cells that JIS X 0208 leaves empty.

* `shiftJisGroup`, `shiftJisExtendedGroup`, `eucJpGroup`: the groups of
  the three.
-/
import LivePage.Text.Grid.Kanji
import LivePage.Text.Grid.SupplementaryKanji

namespace LivePage

/-- The character of a byte that is a katakana of half width. -/
def narrowKatakana? (b : UInt8) : Option Char :=
  if 0xA1 ≤ b && b ≤ 0xDF then some (Char.ofNat (0xFEC0 + b.toNat)) else none

/-! ### Two rows to a lead byte -/

/-- The number of the cell of two bytes. -/
def shiftJisCell? (lead trail : UInt8) : Option Nat :=
  cellOf? [(0x81, 0x9F), (0xE0, 0xFC)] [(0x40, 0x7E), (0x80, 0xFC)] 188 lead trail

/-- The group at the front of Shift JIS. -/
def shiftJisGroup (lead : UInt8) (rest : List UInt8) : ByteGroup :=
  match narrowKatakana? lead with
  | some c => .means [c] 0
  | none =>
    if lead == 0x80 || lead == 0xA0 || 0xFD ≤ lead then .meaningless 0
    else pairGroup (fun lead trail => (shiftJisCell? lead trail).bind (kanji.numbered? 94))
      lead rest

/-! ### More cells -/

/-- Kanji that JIS X 0208 has not. -/
def moreKanji : String := String.join [
  "纊褜鍈銈蓜俉炻昱棈鋹曻彅丨仡仼伀伃伹佖侒侊侚侔俍偀倢俿倞偆偰偂傔僴僘兊兤冝冾凬刕劜劦勀勛匀匇匤卲厓厲叝﨎咜咊咩哿喆坙坥垬埈埇﨏塚增墲夋奓奛奝奣妤妺孖寀甯寘寬尞岦岺峵崧嵓﨑嵂嵭嶸嶹巐",
  "弡弴彧德忞恝悅悊惞惕愠惲愑愷愰憘戓抦揵摠撝擎敎昀昕昻昉昮昞昤晥晗晙晴晳暙暠暲暿曺朎朗杦枻桒柀栁桄棏﨓楨﨔榘槢樰橫橆橳橾櫢櫤毖氿汜沆汯泚洄涇浯涖涬淏淸淲淼渹湜渧渼溿澈澵濵瀅瀇瀨炅炫焏",
  "焄煜煆煇凞燁燾犱犾猤猪獷玽珉珖珣珒琇珵琦琪琩琮瑢璉璟甁畯皂皜皞皛皦益睆劯砡硎硤硺礰礼神祥禔福禛竑竧靖竫箞精絈絜綷綠緖繒罇羡羽茁荢荿菇菶葈蒴蕓蕙蕫﨟薰蘒﨡蠇裵訒訷詹誧誾諟諸諶譓譿賰賴",
  "贒赶﨣軏﨤逸遧郞都鄕鄧釚釗釞釭釮釤釥鈆鈐鈊鈺鉀鈼鉎鉙鉑鈹鉧銧鉷鉸鋧鋗鋙鋐﨧鋕鋠鋓錥錡鋻﨨錞鋿錝錂鍰鍗鎤鏆鏞鏸鐱鑅鑈閒隆﨩隝隯霳霻靃靍靏靑靕顗顥飯飼餧館馞驎髙髜魵魲鮏鮱鮻鰀鵰鵫鶴鸙黑"]

/-- The cells in which the extension of Shift JIS has characters of its own. -/
def shiftJisStrips : List Strip := [
  .ofText 32 "～∥",
  .ofText 60 "－",
  .ofText 80 "￠￡",
  .ofText 137 "￢",
  .ofText 1128 ("①②③④⑤⑥⑦⑧⑨⑩⑪⑫⑬⑭⑮⑯⑰⑱⑲⑳ⅠⅡⅢⅣⅤⅥⅦⅧⅨⅩ�㍉㌔㌢㍍㌘㌧㌃㌶㍑㍗㌍㌦㌣㌫㍊" ++
    "㌻㎜㎝㎞㎎㎏㏄㎡��������㍻〝〟№㏍℡㊤㊥㊦㊧㊨㈱㈲㈹㍾㍽㍼≒≡∫∮∑√⊥∠∟⊿∵∩∪"),
  .ofText 8272 (moreKanji ++ "��ⅰⅱⅲⅳⅴⅵⅶⅷⅸⅹ￢￤＇＂"),
  .ofText 10716 ("ⅰⅱⅲⅳⅴⅵⅶⅷⅸⅹⅠⅡⅢⅣⅤⅥⅦⅧⅨⅩ￢￤＇＂㈱№℡∵" ++ moreKanji)]

/-- The character of a cell of the extension: ten lead bytes are for private use. -/
def shiftJisExtended? (cell : Nat) : Option Char :=
  if 8836 ≤ cell && cell < 10716 then some (Char.ofNat (0xE000 + (cell - 8836)))
  else (Strip.find? shiftJisStrips cell).or (kanji.numbered? 94 cell)

/-- The group at the front of the extension of Shift JIS. All bytes that are no lead byte mean
something. -/
def shiftJisExtendedGroup (lead : UInt8) (rest : List UInt8) : ByteGroup :=
  match narrowKatakana? lead with
  | some c => .means [c] 0
  | none =>
    if lead == 0x80 then .means ['\x80'] 0
    else if lead == 0xA0 then .means ['\uF8F0'] 0
    else if 0xFD ≤ lead then .means [Char.ofNat (0xF8F1 + (lead.toNat - 0xFD))] 0
    else pairGroup (fun lead trail => (shiftJisCell? lead trail).bind shiftJisExtended?) lead rest

/-! ### One row to a lead byte -/

/-- The character of a grid in the cell of two bytes. -/
def Grid.high? (grid : Grid) (lead trail : UInt8) : Option Char :=
  (cellOf? [(0xA1, 0xFE)] [(0xA1, 0xFE)] 94 lead trail).bind (grid.numbered? 94)

/-- The group at the front of EUC-JP, which has JIS X 0212 too. -/
def eucJpGroup (lead : UInt8) (rest : List UInt8) : ByteGroup :=
  if lead == 0x8F then
    match rest with
    | b :: c :: _ => .ofChar? (supplementaryKanji.high? b c) 2
    | rest => .meaningless rest.length
  else if lead == 0x8E then pairGroup (fun _ trail => narrowKatakana? trail) lead rest
  else pairGroup kanji.high? lead rest

end LivePage
