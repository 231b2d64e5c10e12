import PolicyAgent.Decimal.Places
import PolicyAgent.Decimal.Reading
import PolicyAgent.Journal.Setup
import PolicyAgent.Journal.Shown

/-!
# Message templates

A record may come as a template and values for its places. A place is a percent sign, maybe the
name of a field between parentheses, and a letter for the kind of text: `s` for any value, `d`
for a number without its fraction, and others. Marks, a width and a precision may stand before
the letter. Two percent signs are one. Places without a name take the values in order, and each
value has to be taken. If the only value is an object with fields, places with a name draw from
it, and no value has to be taken. A template without values is the message itself.
-/
namespace PolicyAgent.Journal

open PolicyAgent.Decimal PolicyAgent.Json PolicyAgent.Text

inductive TemplateError
  | tooFewValues
  | tooManyValues
  | noFields
  | openName
  | openPlace
  | unknownName (name : String)
  | extentNotWhole
  | widthTooBig
  | precisionTooBig
  | widthOverflow
  | precisionOverflow
  | notANumber (kind : Char) (typeName : String)
  | notWhole (kind : Char) (typeName : String)
  | notAFloat (typeName : String)
  | notACharacter
  | noSuchCharacter
  | nan
  | infinite
  | floatOverflow
  | unknownKind (kind : Point) (position : Nat)
  deriving DecidableEq, Repr

/-- The lowest digits of a number that it takes in hexadecimal. -/
def hexText (n : Nat) : String := String.ofList (Nat.toDigits 16 n)

def TemplateError.message : TemplateError → String
  | .tooFewValues => "not enough arguments for format string"
  | .tooManyValues => "not all arguments converted during string formatting"
  | .noFields => "format requires a mapping"
  | .openName => "incomplete format key"
  | .openPlace => "incomplete format"
  | .unknownName name => quoted name
  | .extentNotWhole => "* wants int"
  | .widthTooBig => "width too big"
  | .precisionTooBig => "precision too big"
  | .widthOverflow => "Python int too large to convert to C ssize_t"
  | .precisionOverflow => "Python int too large to convert to C int"
  | .notANumber kind typeName => s!"%{kind} format: a real number is required, not {typeName}"
  | .notWhole kind typeName => s!"%{kind} format: an integer is required, not {typeName}"
  | .notAFloat typeName => s!"must be real number, not {typeName}"
  | .notACharacter => "%c requires int or char"
  | .noSuchCharacter => "%c arg not in range(0x110000)"
  | .nan => "cannot convert float NaN to integer"
  | .infinite => "cannot convert float infinity to integer"
  | .floatOverflow => "int too large to convert to float"
  | .unknownKind kind position =>
    let visible := if 31 ≤ kind.code ∧ kind.code ≤ 126 then ofPoints [kind] else "?"
    s!"unsupported format character '{visible}' (0x{hexText kind.code}) at index {position}"

/-- The values that are left to take, and the fields that places with a name draw from. -/
structure Supply where
  left : List Value
  fields : Option Fields

namespace Supply

/-- An object with fields that is the only value supplies its fields. -/
def ofValues (values : List Value) : Supply :=
  match values with
  | [.object (field :: fields)] => ⟨values, some (field :: fields)⟩
  | _ => ⟨values, none⟩

def next (supply : Supply) : Except TemplateError (Value × Supply) :=
  match supply.left with
  | [] => .error .tooFewValues
  | value :: left => .ok (value, { supply with left })

def choose (supply : Supply) (name : String) : Except TemplateError Supply :=
  match supply.fields with
  | none => .error .noFields
  | some fields =>
    match Fields.get? fields name with
    | none => .error (.unknownName name)
    | some value => .ok { supply with left := [value] }

def isUsedUp (supply : Supply) : Bool := supply.fields.isSome || supply.left.isEmpty

end Supply

/-- How the text of a place is laid out. -/
structure PlaceLayout where
  leftAligned : Bool
  signed : Bool
  spaced : Bool
  alternate : Bool
  zeroFilled : Bool
  width : Nat
  precision : Option Nat

/-- The name up to its closing parenthesis; parentheses inside of it are in pairs. -/
def takePlaceName : (depth : Nat) → List Point → Option (List Point × List Point)
  | _, [] => none
  | depth, p :: rest =>
    match p, depth with
    | .char ')', 0 => some ([], rest)
    | .char ')', depth + 1 => (takePlaceName depth rest).map fun (name, tail) => (p :: name, tail)
    | .char '(', depth => (takePlaceName (depth + 1) rest).map fun (name, tail) => (p :: name, tail)
    | _, depth => (takePlaceName depth rest).map fun (name, tail) => (p :: name, tail)

def isMark (p : Point) : Bool := decide (p ∈ ['-', '+', ' ', '#', '0'].map Point.char)

def isDigit (p : Point) : Bool := p.char?.any fun c => (asciiDigit? c).isSome

def greatestExtent : Nat := 0x7fffffff

/-- A width or precision: a number, or a star for the next value. The errors are for a number
and for a value that is too big. -/
def takeExtent (supply : Supply) (tooBig overflow : TemplateError) (ps : List Point) :
    Except TemplateError (Int × Supply × List Point) :=
  match ps with
  | .char '*' :: rest => do
    let (value, supply) ← supply.next
    match value with
    | .integer n => if greatestExtent < n.natAbs then throw overflow else return (n, supply, rest)
    | .bool b => return (if b then 1 else 0, supply, rest)
    | _ => throw .extentNotWhole
  | _ =>
    let (digits, _) := takeDigits ((ps.takeWhile isDigit).filterMap Point.char?)
    if greatestExtent < ofDigits digits then .error tooBig
    else .ok ((ofDigits digits : Int), supply, ps.dropWhile isDigit)

def takePrecision (supply : Supply) (ps : List Point) :
    Except TemplateError (Option Nat × Supply × List Point) :=
  match ps with
  | .char '.' :: rest => do
    let (n, supply, rest) ← takeExtent supply .precisionTooBig .precisionOverflow rest
    return (some n.toNat, supply, rest)
  | _ => .ok (none, supply, ps)

/-- Letters for sizes of numbers mean nothing. -/
def skipSize : List Point → List Point
  | p :: rest => if p = .char 'h' ∨ p = .char 'l' ∨ p = .char 'L' then rest else p :: rest
  | [] => []

/-- The layout at the head of a text, and what follows it, from the letter of the kind on. -/
def takeLayout (supply : Supply) (ps : List Point) :
    Except TemplateError (PlaceLayout × Supply × List Point) := do
  let marks := (ps.takeWhile isMark).filterMap Point.char?
  let (width, supply, afterWidth) ←
    takeExtent supply .widthTooBig .widthOverflow (ps.dropWhile isMark)
  let (precision, supply, afterPrecision) ← takePrecision supply afterWidth
  return ({
    leftAligned := '-' ∈ marks || width < 0, signed := '+' ∈ marks, spaced := ' ' ∈ marks
    alternate := '#' ∈ marks, zeroFilled := '0' ∈ marks, width := width.natAbs, precision },
    supply, skipSize afterPrecision)

namespace PlaceLayout

def fill (layout : PlaceLayout) (ps : List Point) : List Point :=
  let blanks := List.replicate (layout.width - ps.length) (.char ' ')
  if layout.leftAligned then ps ++ blanks else blanks ++ ps

def text (layout : PlaceLayout) (s : String) : List Point :=
  let ps := points s.toList
  layout.fill ((layout.precision.map ps.take).getD ps)

/-- The digits of a number behind its sign and a mark of its base. Zeros that fill it up stand
between the two. -/
def number (layout : PlaceLayout) (negative : Bool) (base digits : List Char) : List Point :=
  let sign := if negative then ['-'] else if layout.signed then ['+']
    else if layout.spaced then [' '] else []
  let filling := layout.width - (sign ++ base ++ digits).length
  if layout.zeroFilled ∧ ¬layout.leftAligned then
    (sign ++ base ++ List.replicate filling '0' ++ digits).map .char
  else layout.fill ((sign ++ base ++ digits).map .char)

/-- A whole number in a base, with at least as many digits as the precision says. -/
def whole (layout : PlaceLayout) (base : Nat) (mark : List Char) (isUpper : Bool) (n : Int) :
    List Point :=
  let digits := Nat.toDigits base n.natAbs
  let padded := List.replicate (layout.precision.getD 1 - digits.length) '0' ++ digits
  layout.number (n < 0) (if layout.alternate then mark else [])
    (if isUpper then padded.map Char.toUpper else padded)

/-- A floating-point number, in upper case if the kind is. -/
def float (layout : PlaceLayout) (form : Form) (isUpper : Bool) (x : Float) : List Point :=
  let (negative, digits) := match Binary64.ofFloat x with
    | .nan => (false, "nan".toList)
    | .infinite negative => (negative, "inf".toList)
    | .finite negative mantissa exponent =>
      (negative, (Ratio.ofBinary mantissa exponent).write form (layout.precision.getD 6)
        layout.alternate)
  layout.number negative [] (if isUpper then digits.map Char.toUpper else digits)

end PlaceLayout

/-- The whole number that stands in a place for numbers: a fraction is cut off. -/
def wholePart (kind : Char) : Value → Except TemplateError Int
  | .bool b => .ok (if b then 1 else 0)
  | .integer n => .ok n
  | .number x =>
    match Binary64.ofFloat x with
    | .nan => .error .nan
    | .infinite _ => .error .infinite
    | finite =>
      let q := finite.toRat?.getD 0
      .ok (if q < 0 then q.ceil else q.floor)
  | v => .error (.notANumber kind v.typeName)

/-- The whole number that stands in a place for whole numbers only. -/
def exactWhole (kind : Char) : Value → Except TemplateError Int
  | .bool b => .ok (if b then 1 else 0)
  | .integer n => .ok n
  | v => .error (.notWhole kind v.typeName)

def floatOf : Value → Except TemplateError Float
  | .bool b => .ok (if b then 1 else 0)
  | .integer n =>
    if Binary64.overflowBound ≤ n.natAbs then .error .floatOverflow else .ok (Float.ofInt n)
  | .number x => .ok x
  | v => .error (.notAFloat v.typeName)

def pointOf : Value → Except TemplateError Point
  | .string s =>
    match points s.toList with
    | [p] => .ok p
    | _ => .error .notACharacter
  | .integer n =>
    if 0 ≤ n ∧ n < 0x110000 then .ok (.ofCode n.toNat) else .error .noSuchCharacter
  | .bool b => .ok (.ofCode (if b then 1 else 0))
  | _ => .error .notACharacter

def asciiOnly (s : String) : String :=
  ofPoints ((points s.toList).flatMap fun p =>
    if p.code < 128 then [p] else (codePointEscape p).map .char)

def placeText (layout : PlaceLayout) (kind : Point) (position : Nat) (value : Value) :
    Except TemplateError (List Point) :=
  match kind with
  | .char 's' => .ok (layout.text (shown value))
  | .char 'r' => .ok (layout.text (quotedValue value))
  | .char 'a' => .ok (layout.text (asciiOnly (quotedValue value)))
  | .char 'd' => (wholePart 'd' value).map (layout.whole 10 [] false)
  | .char 'i' => (wholePart 'i' value).map (layout.whole 10 [] false)
  | .char 'u' => (wholePart 'u' value).map (layout.whole 10 [] false)
  | .char 'x' => (exactWhole 'x' value).map (layout.whole 16 ['0', 'x'] false)
  | .char 'X' => (exactWhole 'X' value).map (layout.whole 16 ['0', 'X'] true)
  | .char 'o' => (exactWhole 'o' value).map (layout.whole 8 ['0', 'o'] false)
  | .char 'f' => (floatOf value).map (layout.float .positional false)
  | .char 'F' => (floatOf value).map (layout.float .positional true)
  | .char 'e' => (floatOf value).map (layout.float .scientific false)
  | .char 'E' => (floatOf value).map (layout.float .scientific true)
  | .char 'g' => (floatOf value).map (layout.float .general false)
  | .char 'G' => (floatOf value).map (layout.float .general true)
  | .char 'c' => (pointOf value).map fun p => layout.fill [p]
  | _ => .error (.unknownKind kind position)

/-- The text of the place behind a percent sign, and what follows the place. -/
def takePlace (templateLength : Nat) (supply : Supply) (ps : List Point) :
    Except TemplateError (List Point × Supply × List Point) := do
  let (supply, ps) ← match ps with
    | .char '(' :: rest =>
      match supply.fields, takePlaceName 0 rest with
      | none, _ => throw .noFields
      | some _, none => throw .openName
      | some _, some (name, rest) => do
        let supply ← supply.choose (ofPoints name)
        pure (supply, rest)
    | _ => pure (supply, ps)
  let (layout, supply, ps) ← takeLayout supply ps
  match ps with
  | [] => throw .openPlace
  | kind :: rest =>
    let (value, supply) ← supply.next
    return (← placeText layout kind (templateLength - ps.length) value, supply, rest)

/-- The template with its places filled. Each step takes a point, so that `fuel` beyond the length
of the template is not used up. -/
def fillPoints (templateLength : Nat) : (fuel : Nat) → Supply → List Point →
    Except TemplateError (List Point)
  | 0, _, _ => .ok []
  | fuel + 1, supply, ps =>
    match ps with
    | [] => if supply.isUsedUp then .ok [] else .error .tooManyValues
    | .char '%' :: .char '%' :: rest =>
      (fillPoints templateLength fuel supply rest).map (.char '%' :: ·)
    | .char '%' :: rest => do
      let (written, supply, rest) ← takePlace templateLength supply rest
      return written ++ (← fillPoints templateLength fuel supply rest)
    | p :: rest => (fillPoints templateLength fuel supply rest).map (p :: ·)

def fill (template : String) (values : List Value) : Except TemplateError String :=
  if values.isEmpty then .ok template
  else
    let ps := points template.toList
    (fillPoints ps.length (ps.length + 1) (Supply.ofValues values) ps).map ofPoints

/-- A record whose message is a template. -/
structure Entry where
  logger : String
  severity : Severity
  template : String
  values : List Value

namespace Entry

def record (entry : Entry) : Except TemplateError Record :=
  (fill entry.template entry.values).map fun text => ⟨entry.logger, entry.severity, text⟩

/-- Only entries of the request logger itself are looked into for polls. -/
def isPoll (entry : Entry) : Except TemplateError Bool :=
  if entry.logger = requestLogger then entry.record.map Journal.isPoll else .ok false

/-- What is written of an entry. One without a message is left out, unless its message had to be
looked into. -/
def written (agent : Threshold) (entry : Entry) : Except TemplateError (List Record) :=
  if reachesThreshold agent entry.logger entry.severity then
    entry.isPoll.map fun poll =>
      match entry.record with
      | .ok record => if poll then [] else [record]
      | .error _ => []
  else .ok []

end Entry

def writtenEntries (agent : Threshold) (entries : List Entry) :
    Except TemplateError (List Record) :=
  (entries.mapM (Entry.written agent)).map List.flatten

end PolicyAgent.Journal
