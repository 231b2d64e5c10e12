import PolicyAgent.Text.Charset.KoreanRows
import PolicyAgent.Text.Charset.Rows

/-!
# Character sets of Korean

KS X 1001 has 2350 of the 11172 syllables of Korean. EUC-KR writes any other one as a filler and
three letters; UHC puts the others into the places around the rows, in their order; Johab writes
every syllable by five bits for each of its letters, and packs the rows of signs and ideographs.
-/
namespace PolicyAgent.Text.Charset

def uhcColumn? (b : UInt8) : Option Nat :=
  let n := b.toNat
  if 0x41 ≤ n ∧ n ≤ 0x5a then some (n - 0x41)
  else if 0x61 ≤ n ∧ n ≤ 0x7a then some (n - 0x61 + 26)
  else if 0x81 ≤ n ∧ n ≤ 0xfe then some (n - 0x81 + 52)
  else none

def furtherSyllables : Array Char := blockWithout 0xac00 0xd7a3 koreanRows

/-- The place of a code among those that UHC gives to further syllables. -/
def syllablePlace? (a b : UInt8) : Option Nat := do
  let column ← uhcColumn? b
  if 0x81 ≤ a ∧ a ≤ 0xa0 then some ((a.toNat - 0x81) * 178 + column)
  else if 0xa1 ≤ a ∧ a ≤ 0xfe ∧ column < 84 then some (5696 + (a.toNat - 0xa1) * 84 + column)
  else none

def uhcChar? (a b : UInt8) : Option Char :=
  (highChar? koreanRows a b).or ((syllablePlace? a b).bind (furtherSyllables[·]?))

/-- Second octets of the letters that can start a syllable, in the order of Unicode. -/
def leadingLetters : List Nat :=
  [0xa1, 0xa2, 0xa4, 0xa7, 0xa8, 0xa9, 0xb1, 0xb2, 0xb3, 0xb5, 0xb6, 0xb7, 0xb8, 0xb9, 0xba, 0xbb,
   0xbc, 0xbd, 0xbe]

/-- Second octets of the letters that can end a syllable, after the filler for none. -/
def trailingLetters : List Nat :=
  [0xd4, 0xa1, 0xa2, 0xa3, 0xa4, 0xa5, 0xa6, 0xa7, 0xa9, 0xaa, 0xab, 0xac, 0xad, 0xae, 0xaf, 0xb0,
   0xb1, 0xb2, 0xb4, 0xb5, 0xb6, 0xb7, 0xb8, 0xba, 0xbb, 0xbc, 0xbd, 0xbe]

def syllable (leading vowel trailing : Nat) : Char :=
  Char.ofNat (0xac00 + leading * 588 + vowel * 28 + trailing)

def syllableOfLetters? (leading vowel trailing : UInt8) : Option Char := do
  let l ← leadingLetters.findIdx? (· == leading.toNat)
  let v ← if 0xbf ≤ vowel ∧ vowel ≤ 0xd3 then some (vowel.toNat - 0xbf) else none
  let t ← trailingLetters.findIdx? (· == trailing.toNat)
  return syllable l v t

/-- A filler and three letters are one syllable of eight octets. -/
def eucKrStep : List UInt8 → Step Unit
  | 0xa4 :: 0xd4 :: rest =>
    match rest with
    | c :: l :: d :: v :: e :: t :: _ =>
      if c = 0xa4 ∧ d = 0xa4 ∧ e = 0xa4 then Step.ofChar? (syllableOfLetters? l v t) 8
      else .refused 1 ()
    | _ => .incomplete
  | octets => twoOctetStep (highChar? koreanRows) octets

/-- What five bits of Johab mean: nothing, the place of no letter, or the letter with a number. -/
inductive LetterBits
  | nothing
  | noLetter
  | letter (n : Nat)
  deriving DecidableEq, Repr

def leadingBits (n : Nat) : LetterBits :=
  if n = 1 then .noLetter else if 2 ≤ n ∧ n ≤ 20 then .letter (n - 2) else .nothing

/-- Vowels stand in groups of six with two places between them. -/
def vowelBits (n : Nat) : LetterBits :=
  if n = 2 then .noLetter
  else if n < 3 ∨ n % 8 < 2 ∨ 29 < n then .nothing
  else .letter (n - 3 - 2 * (n / 8))

def trailingBits (n : Nat) : LetterBits :=
  if n = 1 then .noLetter
  else if n = 0 ∨ n = 18 ∨ 29 < n then .nothing
  else .letter (if n < 18 then n - 1 else n - 2)

def loneLetter? (octet : Option Nat) : Option Char :=
  octet.map fun n => Char.ofNat (0x3131 + (n - 0xa1))

def johabSyllable? (a b : UInt8) : Option Char :=
  let n := a.toNat * 256 + b.toNat
  match leadingBits (n / 1024 % 32), vowelBits (n / 32 % 32), trailingBits (n % 32) with
  | .letter l, .letter v, .letter t => some (syllable l v t)
  | .letter l, .letter v, .noLetter => some (syllable l v 0)
  | .noLetter, .noLetter, .noLetter => some (Char.ofNat 0x3000)
  | .letter l, .noLetter, .noLetter => loneLetter? leadingLetters[l]?
  | .noLetter, .letter v, .noLetter => loneLetter? (some (0xbf + v))
  | .noLetter, .noLetter, .letter t => loneLetter? trailingLetters[t]?
  | _, _, _ => none

/-- Two rows under one first octet; the letters among the signs have no second code. -/
def johabSign? (a b : UInt8) : Option Char :=
  if a = 0xdf ∨ 0xf9 < a ∨ b < 0x31 ∨ (0x80 ≤ b ∧ b < 0x91) ∨ b.toNat % 128 = 127
      ∨ (a = 0xda ∧ 0xa1 ≤ b ∧ b ≤ 0xd3) then none
  else
    let pair := if a < 0xe0 then 2 * (a.toNat - 0xd9) else 2 * a.toNat - 0x197
    let place := if b < 0x91 then b.toNat - 0x31 else b.toNat - 0x43
    rowChar? koreanRows (pair + place / 94 + 1) (place % 94 + 1)

def johabChar? (a b : UInt8) : Option Char :=
  if a < 0xd8 then johabSyllable? a b else if a < 0xd9 then none else johabSign? a b

def readJohab : List UInt8 → List Point := (Decoder.stateless (twoOctetStep johabChar?)).read

def readEucKr : List UInt8 → List Point := (Decoder.stateless eucKrStep).read

def readUhc : List UInt8 → List Point := (Decoder.stateless (twoOctetStep uhcChar?)).read

end PolicyAgent.Text.Charset
