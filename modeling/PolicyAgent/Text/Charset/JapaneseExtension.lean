import PolicyAgent.Text.Charset.Japanese
import PolicyAgent.Text.Charset.JapaneseExtensionRows

/-!
# Character sets of the Japanese extension

JIS X 0213 has two planes of rows. Some places of the first plane have a letter and a combining
mark. The second edition added ten ideographs and changed another one. EUC announces the second
plane where it announces the supplement, and Shift JIS packs it behind the first one.
-/
namespace PolicyAgent.Text.Charset

inductive ExtensionEdition
  | first
  | second
  deriving DecidableEq, Repr

/-- The places of the ideographs that the second edition added. -/
def addedPlaces : List (Nat × Nat) :=
  [(14, 1), (15, 94), (47, 52), (47, 94), (84, 7), (94, 90), (94, 91), (94, 92), (94, 93), (94, 94)]

/-- Letters with a combining mark, by the place of the first of a run. -/
def markedLetters : List ((Nat × Nat) × List String) :=
  [((4, 87), ["か\u309a", "き\u309a", "く\u309a", "け\u309a", "こ\u309a"]),
   ((5, 87), ["カ\u309a", "キ\u309a", "ク\u309a", "ケ\u309a", "コ\u309a", "セ\u309a", "ツ\u309a",
     "ト\u309a"]),
   ((6, 88), ["ㇷ\u309a"]), ((11, 36), ["æ\u0300"]),
   ((11, 40), ["ɔ\u0300", "ɔ\u0301", "ʌ\u0300", "ʌ\u0301", "ə\u0300", "ə\u0301", "ɚ\u0300",
     "ɚ\u0301"]),
   ((11, 69), ["˩˥", "˥˩"])]

def markedLetter? (row column : Nat) : Option (List Char) :=
  markedLetters.findSome? fun ((r, first), letters) =>
    if r = row ∧ first ≤ column then letters[column - first]?.map String.toList else none

def numberedChar? (rows : List (Nat × String)) (row column : Nat) : Option Char :=
  if column = 0 then none else (rows.lookup row).bind (charAt? · (column - 1))

/-- The edition came before the ideograph at a place. -/
def ExtensionEdition.precedes (edition : ExtensionEdition) (row column : Nat) : Bool :=
  edition = .first && addedPlaces.contains (row, column)

def firstPlaneChars? (edition : ExtensionEdition) (row column : Nat) : Option (List Char) :=
  if edition.precedes row column then none
  else (markedLetter? row column).or
    (((rowChar? japaneseRows row column).or (numberedChar? firstPlaneRows row column)).map ([·]))

def secondPlaneChar? (edition : ExtensionEdition) (row column : Nat) : Option Char :=
  if edition = .first ∧ (row, column) = (93, 27) then some '鬝'
  else numberedChar? secondPlaneRows row column

/-- The characters at a place of the first plane, which a code of two octets tells. The code of
an ideograph that was added later is given up as a whole. -/
def firstPlaneStep (edition : ExtensionEdition) (place? : Option (Nat × Nat))
    (chars? : Nat → Nat → Option (List Char)) : Step Unit :=
  match place? with
  | none => .refused 1 ()
  | some (row, column) =>
    if edition.precedes row column then .refused 2 () else .ofChars? (chars? row column) 2

def highPlace? (a b : UInt8) : Option (Nat × Nat) :=
  if a < 0xa1 ∨ b < 0xa1 then none else some (a.toNat - 0xa0, b.toNat - 0xa0)

/-- A wide tilde stands in the place of the narrow one. -/
def eucExtensionStep (edition : ExtensionEdition) : List UInt8 → Step Unit
  | [] => .incomplete
  | 0x8e :: rest =>
    match rest with
    | [] => .incomplete
    | b :: _ => Step.ofChar? (narrowKatakana? b) 2
  | 0x8f :: rest =>
    match rest with
    | a :: b :: _ =>
      let own := (highPlace? a b).bind fun (row, column) => secondPlaneChar? edition row column
      Step.ofChar? (own.or (highChar? japaneseSupplementRows a b)) 3
    | _ => .incomplete
  | a :: rest =>
    if a < 0x80 then .characters [Char.ofNat a.toNat] 1 ()
    else match rest with
      | [] => .incomplete
      | b :: _ =>
        firstPlaneStep edition (highPlace? a b) fun row column =>
          if (row, column) = (2, 18) then some ['～'] else firstPlaneChars? edition row column

def readEucExtension (edition : ExtensionEdition) : List UInt8 → List Point :=
  (Decoder.stateless (eucExtensionStep edition)).read

def packedRows : List Nat := [1, 8, 3, 4, 5, 12, 13, 14, 15] ++ List.range' 78 17

/-- A yen sign and an overline stand in two places of ASCII. -/
def romanChar? (b : UInt8) : Option Char :=
  if b = 0x5c then some '¥'
  else if b = 0x7e then some '‾'
  else if b < 0x80 then some (Char.ofNat b.toNat)
  else none

/-- A narrow backslash stands in the place of the wide one. -/
def shiftedExtensionChars? (edition : ExtensionEdition) (row column : Nat) :
    Option (List Char) := do
  if (row, column) = (1, 32) then some ['\\']
  else if row ≤ 94 then firstPlaneChars? edition row column
  else (secondPlaneChar? edition (← packedRows[row - 95]?) column).map ([·])

def shiftedExtensionStep (edition : ExtensionEdition) : List UInt8 → Step Unit
  | [] => .incomplete
  | a :: rest =>
    match (romanChar? a).or (narrowKatakana? a) with
    | some c => .characters [c] 1 ()
    | none =>
      if a = 0x80 ∨ a = 0xa0 ∨ 0xfd ≤ a then .refused 1 ()
      else match rest with
        | [] => .incomplete
        | b :: _ =>
          firstPlaneStep edition (shiftedPlace? a b) (shiftedExtensionChars? edition)

def readShiftedExtension (edition : ExtensionEdition) : List UInt8 → List Point :=
  (Decoder.stateless (shiftedExtensionStep edition)).read

end PolicyAgent.Text.Charset
