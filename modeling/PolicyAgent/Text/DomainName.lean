import PolicyAgent.Text.Composition
import PolicyAgent.Text.Direction
import PolicyAgent.Text.DomainCharacter
import PolicyAgent.Text.Joining
import PolicyAgent.Text.Punycode
import PolicyAgent.Text.Utf8

/-!
# International domain names

A domain name is a sequence of labels, which dots of four kinds part. A label outside ASCII has
a form in ASCII: its Punycode behind `xn--`. Both forms stand for the same label, and a label
is valid if it is composed, keeps the rules on hyphens and marks, consists of permitted
characters in permitted surroundings, and keeps its direction. A label in ASCII form is valid if
the label that it stands for is.
-/
namespace PolicyAgent.Text

/-- Why a text is no domain name. Places in a label are counted from 1. -/
inductive DomainError
  | domainTooLong
  | emptyDomain
  | labelTooLong
  | emptyLabel
  | uncomposed
  | innerHyphens
  | outerHyphen
  | leadingMark
  | character (label : List Point) (place : Nat)
  | surroundings (label : List Point) (place : Nat)
  | joiner (label : List Point) (place : Nat)
  | direction (e : DirectionError)
  | missingPunycode
  | hyphenAfterPunycode
  | invalidPunycode
  deriving DecidableEq, Repr

def codePointName (label : List Point) (place : Nat) : String :=
  let digits := Nat.toDigits 16 ((label[place - 1]?.map Point.code).getD 0)
  let filled := List.replicate (4 - digits.length) '0' ++ digits
  s!"U+{String.ofList (filled.map Char.toUpper)}"

def DomainError.message : DomainError → String
  | domainTooLong => "Domain too long"
  | emptyDomain => "Empty domain"
  | labelTooLong => "Label too long"
  | emptyLabel => "Empty Label"
  | uncomposed => "Label must be in Normalization Form C"
  | innerHyphens => "Label has disallowed hyphens in 3rd and 4th position"
  | outerHyphen => "Label must not start or end with a hyphen"
  | leadingMark => "Label begins with an illegal combining character"
  | character label place =>
    s!"Codepoint {codePointName label place} at position {place} of {quoted (ofPoints label)} "
      ++ "not allowed"
  | surroundings label place =>
    s!"Codepoint {codePointName label place} not allowed at position {place} in "
      ++ quoted (ofPoints label)
  | joiner label place =>
    s!"Unknown codepoint adjacent to joiner {codePointName label place} at position {place} in "
      ++ quoted (ofPoints label)
  | direction e => e.message
  | missingPunycode => "Malformed A-label, no Punycode eligible content found"
  | hyphenAfterPunycode => "A-label must not end with a hyphen"
  | invalidPunycode => "Invalid A-label"

namespace DomainName

/-- Marks that form conjuncts of letters. -/
def conjunctClass : Nat := 9

def isJoiner (c : Char) : Bool := c.toNat == 0x200c || c.toNat == 0x200d

def isArabicDigit (c : Char) : Bool := 0x660 ≤ c.toNat && c.toNat ≤ 0x669

def isExtendedArabicDigit (c : Char) : Bool := 0x6f0 ≤ c.toNat && c.toNat ≤ 0x6f9

/-- A joiner may follow a mark that forms conjuncts, but no character without direction; a
non-joiner may also stand between letters that would join. The text before is read backwards. -/
def joinerFits (before : List Char) (c : Char) (after : List Char) : Bool :=
  before.head?.any (markClass ·.toNat == conjunctClass)
    || (c.toNat == 0x200c && before.head?.all (fun previous =>
      markClass previous.toNat != 0 || (direction? previous).isSome) && wouldJoin before after)

/-- Whether a character that depends on its surroundings may stand in them, if it is such a
character. -/
def fits? (before : List Char) (c : Char) (after : List Char) : Option Bool :=
  if c = '·' then some (before.head? == some 'l' && after.head? == some 'l')
  else if c.toNat = 0x375 then some (after.head?.any (inRanges greekRanges))
  else if c.toNat = 0x5f3 ∨ c.toNat = 0x5f4 then some (before.head?.any (inRanges hebrewRanges))
  else if c.toNat = 0x30fb then
    some ((before ++ after).any fun d => d != c && inRanges japaneseRanges d)
  else if isArabicDigit c then some (!(before ++ after).any isExtendedArabicDigit)
  else if isExtendedArabicDigit c then some (!(before ++ after).any isArabicDigit)
  else none

def checkCharacter (label : List Point) (before : List Char) (c : Char) (after : List Char) :
    Except DomainError Unit :=
  let place := before.length + 1
  if isDomainCharacter c then .ok ()
  else if isJoiner c then
    if joinerFits before c after then .ok () else .error (.joiner label place)
  else match fits? before c after with
    | some true => .ok ()
    | some false => .error (.surroundings label place)
    | none => .error (.character label place)

def checkCharacters (label : List Point) : (before : List Char) → List Char →
    Except DomainError Unit
  | _, [] => .ok ()
  | before, c :: after =>
    match checkCharacter label before c after with
    | .ok () => checkCharacters label (c :: before) after
    | .error e => .error e

/-- A domain name has at most this many characters if it ends in a dot, else one less. -/
def greatestLength : Nat := 254

def greatestLabelLength : Nat := 63

/-- A lone half is no more permitted than U+FFFD is, and counts as that. -/
def checkLabel (label : List Point) : Except DomainError Unit := do
  let cs := label.map fun p => p.char?.getD replacement
  if cs.isEmpty then throw .emptyLabel
  if greatestLength < cs.length then throw .labelTooLong
  if !isComposed cs then throw .uncomposed
  if (cs.drop 2).take 2 = ['-', '-'] then throw .innerHyphens
  if cs.head? = some '-' ∨ cs.getLast? = some '-' then throw .outerHyphen
  if cs.head?.any (inRanges markRanges) then throw .leadingMark
  checkCharacters label [] cs
  (Direction.checkLabel cs).mapError .direction

def asciiMark : List Char := "xn--".toList

def unicodeLabel (ascii : List Char) : Except DomainError (List Char) := do
  let ascii := ascii.map Char.toLower
  if asciiMark.isPrefixOf ascii then
    let numbers := ascii.drop asciiMark.length
    if numbers.isEmpty then throw .missingPunycode
    if numbers.getLast? = some '-' then throw .hyphenAfterPunycode
    match Punycode.decode numbers with
    | none => throw .invalidPunycode
    | some label => do
      checkLabel label
      return label.filterMap Point.char?
  else
    checkLabel (points ascii)
    return ascii

def isAscii (cs : List Char) : Bool := cs.all fun c => c.toNat < 0x80

def asciiLabel (label : List Char) : Except DomainError (List Char) := do
  let ascii ←
    if isAscii label then do
      let _ ← unicodeLabel label
      pure label
    else do
      checkLabel (points label)
      pure (asciiMark ++ Punycode.encode label)
  if greatestLabelLength < ascii.length then throw .labelTooLong
  return ascii

def isDot (c : Char) : Bool := c.toNat ∈ [0x2e, 0x3002, 0xff0e, 0xff61]

/-- The labels of a name; a dot at the end is told apart. -/
def labels (name : List Char) : Except DomainError (List (List Char) × Bool) :=
  if greatestLength < name.length then .error .domainTooLong
  else if name.isEmpty then .error .emptyDomain
  else
    let parts := name.splitOnP isDot
    if parts.getLast? = some [] then .ok (parts.dropLast, true) else .ok (parts, false)

def joinLabels (labels : List (List Char)) (endsInDot : Bool) : List Char :=
  ['.'].intercalate (if endsInDot then labels ++ [[]] else labels)

def encode (name : List Char) : Except DomainError (List Char) := do
  let (labels, endsInDot) ← labels name
  let ascii := joinLabels (← labels.mapM asciiLabel) endsInDot
  if greatestLength < ascii.length + (if endsInDot then 0 else 1) then throw .domainTooLong
  return ascii

def decode (name : List Char) : Except DomainError (List Char) := do
  let (labels, endsInDot) ← labels name
  return joinLabels (← labels.mapM unicodeLabel) endsInDot

end DomainName

end PolicyAgent.Text
