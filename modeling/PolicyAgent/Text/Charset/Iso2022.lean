import PolicyAgent.Text.Charset.IsoChart
import PolicyAgent.Text.Charset.JapaneseExtension
import PolicyAgent.Text.Charset.Korean
import PolicyAgent.Text.Charset.SimplifiedChineseRows

/-!
# Character sets of ISO 2022

Text is written in octets below 0x80, and escape sequences tell which set they belong to. A
second set can be designated beside the first, and shifts change between the two; a third one
gives single characters behind a shift of their own. Other escape sequences stand in the text as
they are, up to the letter that ends them.
-/
namespace PolicyAgent.Text.Charset

inductive Designated
  | ascii
  | roman
  | katakana
  | japanese
  | oldJapanese
  | japaneseSupplement
  | korean
  | simplifiedChinese
  | westEuropean
  | greek
  | firstPlane (edition : ExtensionEdition)
  | secondPlane
  deriving DecidableEq, Repr

/-- The letter that ends the escape sequence of a set, and whether the set has two octets for a
character. -/
def Designated.final : Designated → UInt8 × Bool
  | ascii => (0x42, false)
  | roman => (0x4a, false)
  | katakana => (0x49, false)
  | japanese => (0x42, true)
  | oldJapanese => (0x40, true)
  | japaneseSupplement => (0x44, true)
  | korean => (0x43, true)
  | simplifiedChinese => (0x41, true)
  | westEuropean => (0x41, false)
  | greek => (0x46, false)
  | firstPlane .first => (0x4f, true)
  | firstPlane .second => (0x51, true)
  | secondPlane => (0x50, true)

def lowPlace? (a b : UInt8) : Option (Nat × Nat) :=
  if a < 0x21 ∨ 0x80 ≤ b ∨ b < 0x21 then none else some (a.toNat - 0x20, b.toNat - 0x20)

def Designated.chars? (set : Designated) (a b : UInt8) : Option (List Char) :=
  let char? : Option Char → Option (List Char) := Option.map ([·])
  let inRows (rows : List String) : Option (List Char) :=
    char? ((lowPlace? a b).bind fun (row, column) => rowChar? rows row column)
  match set with
  | ascii => some [Char.ofNat a.toNat]
  | roman => char? (romanChar? a)
  | katakana => char? (narrowKatakana? (a + 0x80))
  | japanese | oldJapanese => inRows japaneseRows
  | japaneseSupplement => inRows japaneseSupplementRows
  | korean => inRows koreanRows
  | simplifiedChinese => inRows simplifiedRows
  | westEuropean | greek => none
  | firstPlane edition =>
    (lowPlace? a b).bind fun (row, column) => firstPlaneChars? edition row column
  | secondPlane =>
    char? ((lowPlace? a b).bind fun (row, column) => secondPlaneChar? .second row column)

/-- The chart of Greek, without the signs that were added to it later. -/
def greekChar? (b : UInt8) : Option Char :=
  if [0xa4, 0xa5, 0xaa].contains b then none
  else (isoCharts.find? (·.names.head? == some "iso8859_7")).bind (·.char? b)

/-- The character of an octet in the third set, which is the upper half of a chart or ASCII. -/
def Designated.singleChar? : Designated → UInt8 → Option Char
  | westEuropean, b => if b < 0x80 then some (Char.ofNat (b.toNat + 0x80)) else none
  | greek, b => greekChar? (b ^^^ 0x80)
  | _, b => if b < 0x80 then some (Char.ofNat b.toNat) else none

/-- A variant: the sets that it knows besides ASCII, whether it has shifts, whether the
announcement of a revised set may stand before its designation, and whether it has a third
set. -/
structure Iso2022 where
  sets : List Designated
  hasShifts : Bool
  hasRevisions : Bool
  hasThird : Bool

inductive SetPlace
  | first
  | second
  | third
  deriving DecidableEq, Repr

structure Iso2022State where
  first : Designated
  second : Designated
  third : Designated
  shifted : Bool
  /-- Inside of an escape sequence that means nothing. -/
  escaped : Bool
  deriving DecidableEq, Repr

def Iso2022State.start : Iso2022State := ⟨.ascii, .ascii, .ascii, false, false⟩

namespace Iso2022

def escape : UInt8 := 0x1b

def isFinal (b : UInt8) : Bool := 0x40 ≤ b && b ≤ 0x5a

/-- The length of the escape sequence at the head of a text, if its end is there; zero if the
end is far off. `size` octets of it have been seen. -/
def sequenceLength (revisions : Bool) (size : Nat) (octets : List UInt8) : Option Nat :=
  if 16 ≤ size then some 0
  else match octets with
    | [] => none
    | a :: rest =>
      if isFinal a then some (size + 1)
      else if revisions ∧ a = 0x26 ∧ rest.head? = some 0x40 then
        sequenceLength revisions (size + 3) (rest.drop 2)
      else sequenceLength revisions (size + 1) rest
termination_by octets.length

def designation? (variant : Iso2022) : List UInt8 → Option (Designated × SetPlace)
  | [_, 0x24, final] => (find? final true).map (·, .first)
  | [_, 0x28, final] => (find? final false).map (·, .first)
  | [_, 0x29, final] => (find? final false).map (·, .second)
  | [_, 0x2e, final] => if variant.hasThird then (find? final false).map (·, .third) else none
  | [_, 0x24, 0x28, final] => (find? final true).map (·, .first)
  | [_, 0x24, 0x29, final] => (find? final true).map (·, .second)
  | [_, 0x26, 0x40, 0x1b, 0x24, 0x42] =>
    if variant.hasRevisions then (find? 0x42 true).map (·, .first) else none
  | _ => none
where
  find? (final : UInt8) (wide : Bool) : Option Designated :=
    (Designated.ascii :: variant.sets).find? (·.final == (final, wide))

def designate (state : Iso2022State) (set : Designated) : SetPlace → Iso2022State
  | .first => { state with first := set }
  | .second => { state with second := set }
  | .third => { state with third := set }

def sequenceStep (variant : Iso2022) (state : Iso2022State) (octets : List UInt8) :
    Step Iso2022State :=
  match sequenceLength variant.hasRevisions 1 (octets.drop 1) with
  | none => .incomplete
  | some 0 => .refused 1 state
  | some size =>
    match variant.designation? (octets.take size) with
    | some (set, place) => .characters [] size (designate state set place)
    | none => .refused size state

/-- A character of the third set, three octets long with the shift before it. -/
def singleStep (state : Iso2022State) : List UInt8 → Step Iso2022State
  | _ :: _ :: b :: _ =>
    match state.third.singleChar? b with
    | some c => .characters [c] 3 state
    | none => .refused 3 state
  | _ => .incomplete

def characterStep (state : Iso2022State) (a : UInt8) (rest : List UInt8) : Step Iso2022State :=
  let set := if state.shifted then state.second else state.first
  let (_, wide) := set.final
  match wide, rest with
  | true, [] => .incomplete
  | true, b :: _ =>
    match set.chars? a b with
    | some cs => .characters cs 2 state
    | none => .refused 2 state
  | false, _ =>
    match set.chars? a 0 with
    | some cs => .characters cs 1 state
    | none => .refused 1 state

def step (variant : Iso2022) (state : Iso2022State) : List UInt8 → Step Iso2022State
  | [] => .incomplete
  | a :: rest =>
    let plain (state : Iso2022State) := Step.characters [Char.ofNat a.toNat] 1 state
    if state.escaped then plain { state with escaped := !isFinal a }
    else if a = escape then
      match rest with
      | [] => .incomplete
      | b :: _ =>
        if [0x24, 0x26, 0x28, 0x29, 0x2e].contains b then sequenceStep variant state (a :: rest)
        else if variant.hasThird ∧ b = 0x4e then singleStep state (a :: rest)
        else plain { state with escaped := true }
    else if a = 0x0f ∧ variant.hasShifts then .characters [] 1 { state with shifted := false }
    else if a = 0x0e ∧ variant.hasShifts then .characters [] 1 { state with shifted := true }
    else if a = 0x0a then plain { state with shifted := false }
    else if a < 0x20 then plain state
    else if 0x80 ≤ a then .refused 1 state
    else characterStep state a rest

def read (variant : Iso2022) : List UInt8 → List Point :=
  (⟨.start, step variant, fun _ => []⟩ : Decoder Iso2022State).read

def japanese (further : List Designated) : Iso2022 :=
  ⟨[.japanese, .roman, .oldJapanese] ++ further, false, true, false⟩

def multilingual : Iso2022 :=
  ⟨[.japanese, .japaneseSupplement, .korean, .simplifiedChinese, .roman, .oldJapanese,
    .westEuropean, .greek], false, true, true⟩

def extension (edition : ExtensionEdition) : Iso2022 :=
  ⟨[.japanese, .firstPlane edition, .secondPlane], false, true, false⟩

def korean : Iso2022 := ⟨[.korean], true, false, false⟩

end Iso2022

end PolicyAgent.Text.Charset
