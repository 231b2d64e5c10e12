import PolicyAgent.Text.Charset.HongKongRows
import PolicyAgent.Text.Charset.Rows
import PolicyAgent.Text.Charset.SimplifiedChineseRows
import PolicyAgent.Text.Charset.TraditionalChineseRows

/-!
# Character sets of Chinese

GB 2312 has the rows of simplified Chinese. GBK fills the places around them with signs and with
the ideographs that they lack; GB 18030 fills what is still open, and has codes of four octets
for all other characters. HZ writes the rows in ASCII, between marks. Big5 has the rows of
traditional Chinese, in which Windows changes some signs and adds some. Hong Kong adds a
supplement, which comes before the signs and alphabets of Big5 in three rows.
-/
namespace PolicyAgent.Text.Charset

/-- Signs that GBK adds, by the code of the first of a run. -/
def gbkSigns : List (Nat × String) :=
  [(0xa1a4, "·"), (0xa1aa, "—"), (0xa2a1, "ⅰⅱⅲⅳⅴⅵⅶⅷⅸⅹ"), (0xa6e0, "︵︶︹︺︿﹀︽︾﹁﹂﹃﹄"),
   (0xa6ee, "︻︼︷︸︱"), (0xa6f4, "︳︴"),
   (0xa840, "ˊˋ˙–―‥‵℅℉↖↗↘↙∕∟∣≒≦≧⊿═║╒╓╔╕╖╗╘╙╚╛╜╝╞╟╠╡╢╣╤╥╦╧╨╩╪╫╬╭╮╯╰╱╲╳▁▂▃▄▅▆▇█▉▊▋▌▍▎▏▓▔▕▼▽◢◣◤◥☉⊕〒〝〞"),
   (0xa8bb, "ɑ"), (0xa8bd, "ńň"), (0xa8c0, "ɡ"), (0xa940, "〡〢〣〤〥〦〧〨〩㊣㎎㎏㎜㎝㎞㎡㏄㏎㏑㏒㏕︰￢￤"),
   (0xa959, "℡㈱"), (0xa95c, "‐"), (0xa960, "ー゛゜ヽヾ〆ゝゞ﹉﹊﹋﹌﹍﹎﹏﹐﹑﹒﹔﹕﹖﹗﹙﹚﹛﹜﹝﹞﹟﹠﹡﹢﹣﹤﹥﹦﹨﹩﹪﹫"),
   (0xa996, "〇")]

/-- Characters that GB 18030 puts into places left open by GBK. -/
def gb18030Signs : List (Nat × String) :=
  [(0xa2e3, "€"), (0xa8bf, "ǹ"), (0xa989, "〾⿰⿱⿲⿳⿴⿵⿶⿷⿸⿹⿺⿻"), (0xfe50, "⺁"), (0xfe54, "⺄㑳㑇⺈⺋"),
   (0xfe5a, "㖞㘚㘎⺌⺗㥮㤘"), (0xfe62, "㧏㧟㩳㧐"), (0xfe68, "㭎㱮㳠⺧"), (0xfe6e, "⺪䁖䅟⺮䌷⺳⺶⺷"),
   (0xfe77, "䎱䎬⺻䏝䓖䙡䙌"), (0xfe80, "䜣䜩䝼䞍⻊䥇䥺䥽䦂䦃䦅䦆䦟䦛䦷䦶"), (0xfe92, "䲣䲟䲠䲡䱷䲢䴓䴔䴕䴖䴗䴘䴙䶮")]

/-- Runs of places left open by GBK, with the code of the first place and their number. -/
def openPlaces : List (Nat × Nat) :=
  [(0xa2ab, 6), (0xa2e3, 2), (0xa2ef, 2), (0xa2fd, 2), (0xa4f4, 11), (0xa5f7, 8), (0xa6b9, 8),
   (0xa6d9, 7), (0xa6ec, 2), (0xa6f3, 1), (0xa6f6, 9), (0xa7c2, 15), (0xa7f2, 13), (0xa896, 11),
   (0xa8bc, 1), (0xa8bf, 1), (0xa8c1, 4), (0xa8ea, 21), (0xa958, 1), (0xa95b, 1), (0xa95d, 3),
   (0xa989, 13), (0xa997, 13), (0xa9f0, 15), (0xd7fa, 5), (0xfe50, 80)]

/-- Numbers of codes of four octets from which on characters are consecutive. -/
def fourOctetRuns : List (Nat × Nat) :=
  [(0, 0x80), (36, 0xa5), (38, 0xa9), (45, 0xb2), (50, 0xb8), (81, 0xd8), (89, 0xe2), (95, 0xeb),
   (96, 0xee), (100, 0xf4), (103, 0xf8), (104, 0xfb), (105, 0xfd), (109, 0x102), (126, 0x114),
   (133, 0x11c), (148, 0x12c), (172, 0x145), (175, 0x149), (179, 0x14e), (208, 0x16c), (306, 0x1cf),
   (307, 0x1d1), (308, 0x1d3), (309, 0x1d5), (310, 0x1d7), (311, 0x1d9), (312, 0x1db), (313, 0x1dd),
   (341, 0x1fa), (428, 0x252), (443, 0x262), (544, 0x2c8), (545, 0x2cc), (558, 0x2da), (741, 0x3a2),
   (742, 0x3aa), (749, 0x3c2), (750, 0x3ca), (805, 0x402), (819, 0x450), (820, 0x452),
   (7922, 0x2011), (7924, 0x2017), (7925, 0x201a), (7927, 0x201e), (7934, 0x2027), (7943, 0x2031),
   (7944, 0x2034), (7945, 0x2036), (7950, 0x203c), (8062, 0x20ad), (8148, 0x2104), (8149, 0x2106),
   (8152, 0x210a), (8164, 0x2117), (8174, 0x2122), (8236, 0x216c), (8240, 0x217a), (8262, 0x2194),
   (8264, 0x219a), (8374, 0x2209), (8380, 0x2210), (8381, 0x2212), (8384, 0x2216), (8388, 0x221b),
   (8390, 0x2221), (8392, 0x2224), (8393, 0x2226), (8394, 0x222c), (8396, 0x222f), (8401, 0x2238),
   (8406, 0x223e), (8416, 0x2249), (8419, 0x224d), (8424, 0x2253), (8437, 0x2262), (8439, 0x2268),
   (8445, 0x2270), (8482, 0x2296), (8485, 0x229a), (8496, 0x22a6), (8521, 0x22c0), (8603, 0x2313),
   (8936, 0x246a), (8946, 0x249c), (9046, 0x254c), (9050, 0x2574), (9063, 0x2590), (9066, 0x2596),
   (9076, 0x25a2), (9092, 0x25b4), (9100, 0x25be), (9108, 0x25c8), (9111, 0x25cc), (9113, 0x25d0),
   (9131, 0x25e6), (9162, 0x2607), (9164, 0x260a), (9218, 0x2641), (9219, 0x2643), (11329, 0x2e82),
   (11331, 0x2e85), (11334, 0x2e89), (11336, 0x2e8d), (11346, 0x2e98), (11361, 0x2ea8),
   (11363, 0x2eab), (11366, 0x2eaf), (11370, 0x2eb4), (11372, 0x2eb8), (11375, 0x2ebc),
   (11389, 0x2ecb), (11682, 0x2ffc), (11686, 0x3004), (11687, 0x3018), (11692, 0x301f),
   (11694, 0x302a), (11714, 0x303f), (11716, 0x3094), (11723, 0x309f), (11725, 0x30f7),
   (11730, 0x30ff), (11736, 0x312a), (11982, 0x322a), (11989, 0x3232), (12102, 0x32a4),
   (12336, 0x3390), (12348, 0x339f), (12350, 0x33a2), (12384, 0x33c5), (12393, 0x33cf),
   (12395, 0x33d3), (12397, 0x33d6), (12510, 0x3448), (12553, 0x3474), (12851, 0x359f),
   (12962, 0x360f), (12973, 0x361b), (13738, 0x3919), (13823, 0x396f), (13919, 0x39d1),
   (13933, 0x39e0), (14080, 0x3a74), (14298, 0x3b4f), (14585, 0x3c6f), (14698, 0x3ce1),
   (15583, 0x4057), (15847, 0x4160), (16318, 0x4338), (16434, 0x43ad), (16438, 0x43b2),
   (16481, 0x43de), (16729, 0x44d7), (17102, 0x464d), (17122, 0x4662), (17315, 0x4724),
   (17320, 0x472a), (17402, 0x477d), (17418, 0x478e), (17859, 0x4948), (17909, 0x497b),
   (17911, 0x497e), (17915, 0x4984), (17916, 0x4987), (17936, 0x499c), (17939, 0x49a0),
   (17961, 0x49b8), (18664, 0x4c78), (18703, 0x4ca4), (18814, 0x4d1a), (18962, 0x4daf),
   (19043, 0x9fa6), (33469, 0xe76c), (33470, 0xe7c8), (33471, 0xe7e7), (33484, 0xe815),
   (33485, 0xe819), (33490, 0xe81f), (33497, 0xe827), (33501, 0xe82d), (33505, 0xe833),
   (33513, 0xe83c), (33520, 0xe844), (33536, 0xe856), (33550, 0xe865), (37845, 0xf92d),
   (37921, 0xf97a), (37948, 0xf996), (38029, 0xf9e8), (38038, 0xf9f2), (38064, 0xfa10),
   (38065, 0xfa12), (38066, 0xfa15), (38069, 0xfa19), (38075, 0xfa22), (38076, 0xfa25),
   (38078, 0xfa2a), (39108, 0xfe32), (39109, 0xfe45), (39113, 0xfe53), (39114, 0xfe58),
   (39115, 0xfe67), (39116, 0xfe6c), (39265, 0xff5f), (39394, 0xffe6)]

/-- The column of a second octet in the rows of GBK, which leave out 0x7f. -/
def gbkColumn? (b : UInt8) : Option Nat :=
  let n := b.toNat
  if 0x40 ≤ n ∧ n ≤ 0x7e then some (n - 0x40)
  else if 0x80 ≤ n ∧ n ≤ 0xfe then some (n - 0x41)
  else none

/-- How far a code lies behind the code of the first place of a run in the same row. -/
def placeAfter? (column? : UInt8 → Option Nat) (first : Nat) (a b : UInt8) : Option Nat := do
  let start ← column? (UInt8.ofNat first)
  let column ← column? b
  if first / 256 = a.toNat ∧ start ≤ column then some (column - start) else none

def signAt? (column? : UInt8 → Option Nat) (signs : List (Nat × String)) (a b : UInt8) :
    Option Char :=
  signs.findSome? fun (first, run) => (placeAfter? column? first a b).bind (charAt? run)

def ideographPlace? (a b : UInt8) : Option Nat := do
  let column ← gbkColumn? b
  if 0x81 ≤ a ∧ a ≤ 0xa0 then some ((a.toNat - 0x81) * 190 + column)
  else if 0xaa ≤ a ∧ a ≤ 0xfe ∧ column < 96 then some (6080 + (a.toNat - 0xaa) * 96 + column)
  else none

/-- Ideographs that are in no row, and at last some of another block. -/
def furtherIdeographs : Array Char :=
  blockWithout 0x4e00 0x9fa5 simplifiedRows
    ++ ([0xf92c, 0xf979, 0xf995, 0xf9e7, 0xf9f1, 0xfa0c, 0xfa0d, 0xfa0e, 0xfa0f, 0xfa11, 0xfa13,
      0xfa14, 0xfa18, 0xfa1f, 0xfa20, 0xfa21, 0xfa23, 0xfa24, 0xfa27, 0xfa28,
      0xfa29].map Char.ofNat).toArray

def gbkChar? (a b : UInt8) : Option Char :=
  ((signAt? gbkColumn? gbkSigns a b).or (highChar? simplifiedRows a b)).or
    ((ideographPlace? a b).bind (furtherIdeographs[·]?))

/-- Characters for private use: users have three areas, and open places follow in order. -/
def privateChar? (a b : UInt8) : Option Char := do
  let column ← gbkColumn? b
  let number ←
    if 0xaa ≤ a ∧ a ≤ 0xaf ∧ 96 ≤ column then
      some (0xe000 + (a.toNat - 0xaa) * 94 + (column - 96))
    else if 0xf8 ≤ a ∧ a ≤ 0xfe ∧ 96 ≤ column then
      some (0xe234 + (a.toNat - 0xf8) * 94 + (column - 96))
    else if 0xa1 ≤ a ∧ a ≤ 0xa7 ∧ column < 96 then
      some (0xe4c6 + (a.toNat - 0xa1) * 96 + column)
    else openNumber? 0xe766 openPlaces
  return Char.ofNat number
where
  /-- The number of an open place, when the runs start at `next`. -/
  openNumber? : (next : Nat) → List (Nat × Nat) → Option Nat
    | _, [] => none
    | next, (first, count) :: runs =>
      match (placeAfter? gbkColumn? first a b).filter (· < count) with
      | some place => some (next + place)
      | none => openNumber? (next + count) runs

def gb18030Char? (a b : UInt8) : Option Char :=
  ((gbkChar? a b).or (signAt? gbkColumn? gb18030Signs a b)).or (privateChar? a b)

def fourOctetChar? (number : Nat) : Option Char :=
  if number < 39420 then
    (fourOctetRuns.reverse.find? (·.1 ≤ number)).map fun run =>
      Char.ofNat (run.2 + (number - run.1))
  else if 189000 ≤ number ∧ number < 189000 + 0x100000 then
    some (Char.ofNat (0x10000 + (number - 189000)))
  else none

/-- A second octet that is a digit starts a code of four octets. -/
def gb18030Step : List UInt8 → Step Unit
  | a :: b :: rest =>
    if a < 0x80 ∨ b < 0x30 ∨ 0x39 < b then
      twoOctetStep gb18030Char? (a :: b :: rest)
    else match rest with
      | c :: d :: _ =>
        if a < 0x81 ∨ a = 0xff ∨ c < 0x81 ∨ c = 0xff ∨ d < 0x30 ∨ 0x39 < d then .refused 1 ()
        else
          let number := (((a.toNat - 0x81) * 10 + (b.toNat - 0x30)) * 126 + (c.toNat - 0x81)) * 10
            + (d.toNat - 0x30)
          Step.ofChar? (fourOctetChar? number) 4
      | _ => .incomplete
  | octets => twoOctetStep gb18030Char? octets

/-- A tilde starts or ends the rows, goes on in the next line, or is written twice. -/
def hzStep (inRows : Bool) : List UInt8 → Step Bool
  | 0x7e :: b :: _ =>
    if inRows then if b = 0x7d then .characters [] 2 false else .refused 1 true
    else if b = 0x7e then .characters ['~'] 2 false
    else if b = 0x7b then .characters [] 2 true
    else if b = 0x0a then .characters [] 2 false
    else .refused 1 false
  | a :: rest =>
    if a = 0x7e then .incomplete
    else if 0x80 ≤ a then .refused 1 inRows
    else if !inRows then .characters [Char.ofNat a.toNat] 1 false
    else match rest with
      | [] => .incomplete
      | b :: _ =>
        match if a < 0x21 ∨ b < 0x21 then none
            else rowChar? simplifiedRows (a.toNat - 0x20) (b.toNat - 0x20) with
        | some c => .characters [c] 2 true
        | none => .refused 1 true
  | [] => .incomplete

def readGb2312 : List UInt8 → List Point :=
  (Decoder.stateless (twoOctetStep (highChar? simplifiedRows))).read

def readGbk : List UInt8 → List Point := (Decoder.stateless (twoOctetStep gbkChar?)).read

def readGb18030 : List UInt8 → List Point := (Decoder.stateless gb18030Step).read

def readHz : List UInt8 → List Point := (⟨false, hzStep, fun _ => []⟩ : Decoder Bool).read

/-- The column of a second octet in the rows of Big5, which are in two parts. -/
def big5Column? (b : UInt8) : Option Nat :=
  let n := b.toNat
  if 0x40 ≤ n ∧ n ≤ 0x7e then some (n - 0x40)
  else if 0xa1 ≤ n ∧ n ≤ 0xfe then some (n - 0xa1 + 63)
  else none

def big5Char? (a b : UInt8) : Option Char := do
  let column ← big5Column? b
  let part := 2 * (a.toNat - 0xa1)
  if a < 0xa1 then none
  else if column < 63 then charAt? (← traditionalRows[part]?) column
  else charAt? (← traditionalRows[part + 1]?) (column - 63)

def windowsBig5Signs : List (Nat × String) :=
  [(0xa145, "‧"), (0xa14e, "﹑"), (0xa1c2, "¯"), (0xa1e3, "～"), (0xa1f2, "⊕⊙"), (0xa241, "∕﹨"),
   (0xa244, "￥"), (0xa246, "￠￡"), (0xa3e1, "€"),
   (0xf9d6, "碁銹裏墻恒粧嫺╔╦╗╠╬╣╚╩╝╒╤╕╞╪╡╘╧╛╓╥╖╟╫╢╙╨╜║═╭╮╰╯▓")]

def windowsBig5Char? (a b : UInt8) : Option Char :=
  (signAt? big5Column? windowsBig5Signs a b).or (big5Char? a b)

def hongKongLetters : List ((UInt8 × UInt8) × List Char) :=
  [((0x88, 0x62), ['Ê', '\u0304']), ((0x88, 0x64), ['Ê', '\u030c']),
   ((0x88, 0xa3), ['ê', '\u0304']), ((0x88, 0xa5), ['ê', '\u030c'])]

/-- Places where the supplement stands instead of Big5. -/
def isSupplementary (a b : UInt8) : Bool :=
  a == 0xc7 || a == 0xc8 || a == 0xc6 && 0xa1 ≤ b

def hongKongChars? (a b : UInt8) : Option (List Char) :=
  let big5 := if isSupplementary a b then none else big5Char? a b
  let added := do charAt? (← hongKongRows.lookup a.toNat) (← big5Column? b)
  ((big5.or added).map ([·])).or (hongKongLetters.lookup (a, b))

def hongKongStep : List UInt8 → Step Unit
  | [] => .incomplete
  | a :: rest =>
    if a < 0x80 then .characters [Char.ofNat a.toNat] 1 ()
    else match rest with
      | [] => .incomplete
      | b :: _ => Step.ofChars? (hongKongChars? a b) 2

def readHongKong : List UInt8 → List Point := (Decoder.stateless hongKongStep).read

def readBig5 : List UInt8 → List Point := (Decoder.stateless (twoOctetStep big5Char?)).read

def readWindowsBig5 : List UInt8 → List Point :=
  (Decoder.stateless (twoOctetStep windowsBig5Char?)).read

end PolicyAgent.Text.Charset
