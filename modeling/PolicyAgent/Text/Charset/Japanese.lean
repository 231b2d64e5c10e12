import PolicyAgent.Text.Charset.JapaneseRows
import PolicyAgent.Text.Charset.JapaneseSupplementRows
import PolicyAgent.Text.Charset.Rows

/-!
# Character sets of Japanese

JIS X 0208 has the rows of Japanese. EUC writes them with the highest bits set, and Shift JIS
packs two rows under one first octet, so that single octets remain for narrow katakana. Windows
changes some signs of Shift JIS and adds rows for more signs, for ideographs and for private use.
-/
namespace PolicyAgent.Text.Charset

def narrowKatakana? (b : UInt8) : Option Char :=
  if 0xa1 ≤ b ∧ b ≤ 0xdf then some (Char.ofNat (0xff61 + (b.toNat - 0xa1))) else none

/-- Two octets announce narrow katakana and the supplement. -/
def eucJpStep : List UInt8 → Step Unit
  | 0x8e :: rest =>
    match rest with
    | [] => .incomplete
    | b :: _ => Step.ofChar? (narrowKatakana? b) 2
  | 0x8f :: rest =>
    match rest with
    | a :: b :: _ => Step.ofChar? (highChar? japaneseSupplementRows a b) 3
    | _ => .incomplete
  | octets => twoOctetStep (highChar? japaneseRows) octets

def readEucJp : List UInt8 → List Point := (Decoder.stateless eucJpStep).read

/-- Row and column of two octets. A second octet from 0x9f on is in the second of two rows. -/
def shiftedPlace? (a b : UInt8) : Option (Nat × Nat) := do
  let pair ←
    if 0x81 ≤ a ∧ a ≤ 0x9f then some (a.toNat - 0x81)
    else if 0xe0 ≤ a ∧ a ≤ 0xfc then some (a.toNat - 0xe0 + 31)
    else none
  let n := b.toNat
  if 0x40 ≤ n ∧ n ≤ 0x7e then some (2 * pair + 1, n - 0x3f)
  else if 0x80 ≤ n ∧ n ≤ 0x9e then some (2 * pair + 1, n - 0x40)
  else if 0x9f ≤ n ∧ n ≤ 0xfc then some (2 * pair + 2, n - 0x9e)
  else none

def shiftJisChar? (a b : UInt8) : Option Char := do
  let (row, column) ← shiftedPlace? a b
  rowChar? japaneseRows row column

/-- Narrow katakana are single octets, and so are ASCII and some octets of a set. -/
def shiftedStep (single? : UInt8 → Option Char) (char? : UInt8 → UInt8 → Option Char) :
    List UInt8 → Step Unit
  | [] => .incomplete
  | a :: rest =>
    match (narrowKatakana? a).or (single? a) with
    | some c => .characters [c] 1 ()
    | none => twoOctetStep char? (a :: rest)

def readShiftJis : List UInt8 → List Point :=
  (Decoder.stateless (shiftedStep (fun _ => none) shiftJisChar?)).read

/-- Signs of the first rows that Windows reads as wide ones. -/
def wideSigns : List ((Nat × Nat) × Char) :=
  [((1, 33), '～'), ((1, 34), '∥'), ((1, 61), '－'), ((1, 81), '￠'), ((1, 82), '￡'), ((2, 44), '￢')]

def windowsRows : List (Nat × String) :=
  [(13, "①②③④⑤⑥⑦⑧⑨⑩⑪⑫⑬⑭⑮⑯⑰⑱⑲⑳ⅠⅡⅢⅣⅤⅥⅦⅧⅨⅩ�㍉㌔㌢㍍㌘㌧㌃㌶㍑㍗㌍㌦㌣㌫㍊㌻㎜㎝㎞㎎㎏㏄㎡��������㍻〝〟№㏍℡㊤㊥㊦㊧㊨㈱㈲㈹㍾㍽㍼≒≡∫∮∑√⊥∠∟⊿∵∩∪"),
   (89, "纊褜鍈銈蓜俉炻昱棈鋹曻彅丨仡仼伀伃伹佖侒侊侚侔俍偀倢俿倞偆偰偂傔僴僘兊兤冝冾凬刕劜劦勀勛匀匇匤卲厓厲叝﨎咜咊咩哿喆坙坥垬埈埇﨏塚增墲夋奓奛奝奣妤妺孖寀甯寘寬尞岦岺峵崧嵓﨑嵂嵭嶸嶹巐弡弴彧德"),
   (90, "忞恝悅悊惞惕愠惲愑愷愰憘戓抦揵摠撝擎敎昀昕昻昉昮昞昤晥晗晙晴晳暙暠暲暿曺朎朗杦枻桒柀栁桄棏﨓楨﨔榘槢樰橫橆橳橾櫢櫤毖氿汜沆汯泚洄涇浯涖涬淏淸淲淼渹湜渧渼溿澈澵濵瀅瀇瀨炅炫焏焄煜煆煇凞燁燾犱"),
   (91, "犾猤猪獷玽珉珖珣珒琇珵琦琪琩琮瑢璉璟甁畯皂皜皞皛皦益睆劯砡硎硤硺礰礼神祥禔福禛竑竧靖竫箞精絈絜綷綠緖繒罇羡羽茁荢荿菇菶葈蒴蕓蕙蕫﨟薰蘒﨡蠇裵訒訷詹誧誾諟諸諶譓譿賰賴贒赶﨣軏﨤逸遧郞都鄕鄧釚"),
   (92, "釗釞釭釮釤釥鈆鈐鈊鈺鉀鈼鉎鉙鉑鈹鉧銧鉷鉸鋧鋗鋙鋐﨧鋕鋠鋓錥錡鋻﨨錞鋿錝錂鍰鍗鎤鏆鏞鏸鐱鑅鑈閒隆﨩隝隯霳霻靃靍靏靑靕顗顥飯飼餧館馞驎髙髜魵魲鮏鮱鮻鰀鵰鵫鶴鸙黑��ⅰⅱⅲⅳⅴⅵⅶⅷⅸⅹ￢￤＇＂"),
   (115, "ⅰⅱⅲⅳⅴⅵⅶⅷⅸⅹⅠⅡⅢⅣⅤⅥⅦⅧⅨⅩ￢￤＇＂㈱№℡∵纊褜鍈銈蓜俉炻昱棈鋹曻彅丨仡仼伀伃伹佖侒侊侚侔俍偀倢俿倞偆偰偂傔僴僘兊兤冝冾凬刕劜劦勀勛匀匇匤卲厓厲叝﨎咜咊咩哿喆坙坥垬埈埇﨏塚增墲"),
   (116, "夋奓奛奝奣妤妺孖寀甯寘寬尞岦岺峵崧嵓﨑嵂嵭嶸嶹巐弡弴彧德忞恝悅悊惞惕愠惲愑愷愰憘戓抦揵摠撝擎敎昀昕昻昉昮昞昤晥晗晙晴晳暙暠暲暿曺朎朗杦枻桒柀栁桄棏﨓楨﨔榘槢樰橫橆橳橾櫢櫤毖氿汜沆汯泚洄涇浯"),
   (117, "涖涬淏淸淲淼渹湜渧渼溿澈澵濵瀅瀇瀨炅炫焏焄煜煆煇凞燁燾犱犾猤猪獷玽珉珖珣珒琇珵琦琪琩琮瑢璉璟甁畯皂皜皞皛皦益睆劯砡硎硤硺礰礼神祥禔福禛竑竧靖竫箞精絈絜綷綠緖繒罇羡羽茁荢荿菇菶葈蒴蕓蕙蕫﨟薰"),
   (118, "蘒﨡蠇裵訒訷詹誧誾諟諸諶譓譿賰賴贒赶﨣軏﨤逸遧郞都鄕鄧釚釗釞釭釮釤釥鈆鈐鈊鈺鉀鈼鉎鉙鉑鈹鉧銧鉷鉸鋧鋗鋙鋐﨧鋕鋠鋓錥錡鋻﨨錞鋿錝錂鍰鍗鎤鏆鏞鏸鐱鑅鑈閒隆﨩隝隯霳霻靃靍靏靑靕顗顥飯飼餧館馞驎髙"),
   (119, "髜魵魲鮏鮱鮻鰀鵰鵫鶴鸙黑")]

/-- Rows for private use follow the last row of ideographs. -/
def windowsChar? (a b : UInt8) : Option Char := do
  let (row, column) ← shiftedPlace? a b
  if 95 ≤ row ∧ row ≤ 114 then some (Char.ofNat (0xe000 + (row - 95) * 94 + (column - 1)))
  else match windowsRows.lookup row with
    | some added => charAt? added (column - 1)
    | none => (wideSigns.lookup (row, column)).or (rowChar? japaneseRows row column)

def windowsSingle? (b : UInt8) : Option Char :=
  if b = 0x80 then some (Char.ofNat 0x80)
  else if b = 0xa0 then some (Char.ofNat 0xf8f0)
  else if 0xfd ≤ b then some (Char.ofNat (0xf8f1 + (b.toNat - 0xfd)))
  else none

def readWindowsShiftJis : List UInt8 → List Point :=
  (Decoder.stateless (shiftedStep windowsSingle? windowsChar?)).read

end PolicyAgent.Text.Charset
