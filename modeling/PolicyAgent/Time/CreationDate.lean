import PolicyAgent.Decimal.Binary64
import PolicyAgent.Json.Value
import PolicyAgent.Time.Rfc3339

/-!
# Creation dates of commands

The platform may give the creation date of a command as a number, as the text of a number, as
a day, or as a day with a time. Numbers count from the beginning of 1970, UTC, in seconds or,
if they are large, in milliseconds. Of a floating-point number the whole part is exact, and the
rest is scaled to microseconds and rounded to the nearest one. A day stands for its midnight. A
time has hours and minutes, perhaps seconds and a fraction, of which six digits count, and
perhaps an offset. A text without an offset is read as local fields alone.
-/
namespace PolicyAgent.Time

open PolicyAgent.Decimal PolicyAgent.Json

inductive DateReason
  | tooShort
  | yearDigits
  | separator
  | monthDigits
  | dayDigits
  | monthRange
  | dayRange
  | extraCharacters
  | tooLate
  | tooEarly
  | yearZero
  | notANumber
  deriving DecidableEq, Repr

def DateReason.text : DateReason → String
  | .tooShort => "input is too short"
  | .yearDigits => "invalid character in year"
  | .separator => "invalid date separator, expected `-`"
  | .monthDigits => "invalid character in month"
  | .dayDigits => "invalid character in day"
  | .monthRange => "month value is outside expected range of 1-12"
  | .dayRange => "day value is outside expected range"
  | .extraCharacters => "unexpected extra characters at the end of the input"
  | .tooLate => "dates after 9999 are not supported as unix timestamps"
  | .tooEarly => "dates before 0000 are not supported as unix timestamps"
  | .yearZero => "year 0 is out of range"
  | .notANumber => "NaN values not permitted"

/-- How a creation date is refused: as no date at all, as no text, as a moment, or as a text that
might have been a date without time. -/
inductive DateError
  | notADate
  | notAText
  | moment (reason : DateReason)
  | text (reason : DateReason)
  deriving DecidableEq, Repr

/-- Counts of a larger magnitude are of milliseconds. -/
def greatestSecondCount : Nat := 20000000000

def microsPerCount (isLarge : Bool) : Nat := if isLarge then 1000 else 1000000

def endOfCalendar : Int := 253402300800

def beginningOfYearZero : Int := -62167219200

def beginningOfCalendar : Int := -62135596800

def dateOfMicros (micros : Int) : Except DateReason Timestamp :=
  let seconds := Int.fdiv micros 1000000
  if endOfCalendar ≤ seconds then .error .tooLate
  else if seconds < beginningOfYearZero then .error .tooEarly
  else if seconds < beginningOfCalendar then .error .yearZero
  else
    (Timestamp.ofInstant (micros - beginningOfCalendar * 1000000).toNat).mapError fun _ => .tooLate

def dateOfWhole (n : Int) : Except DateReason Timestamp :=
  dateOfMicros (n * microsPerCount (greatestSecondCount < n.natAbs))

/-- The difference to the whole number below is a floating-point number, and so is the number of
microseconds that it stands for; both are rounded before the nearest microsecond is taken. For a
negative count, or for a large one with a fraction, the steps of the validating library are not
known to be these, and its last microseconds may be others. -/
def dateOfFloat (x : Float) : Except DateReason Timestamp :=
  match Binary64.ofFloat x with
  | .nan => .error .notANumber
  | .infinite negative => .error (if negative then .tooEarly else .tooLate)
  | finite =>
    let unit := microsPerCount (Float.ofNat greatestSecondCount < x.abs)
    let rest := (x - x.floor) * Float.ofNat unit
    let whole := finite.floor?.getD 0
    dateOfMicros (whole * unit + (Binary64.ofFloat rest).nearest?.getD 0)

/-- Numbers in a text count only if their whole part fits in 64 bits. -/
def fitsInt64 (n : Int) : Bool := -0x8000000000000000 ≤ n && n < 0x8000000000000000

/-- What a text is as a number: a sign and digits, or a sign, digits around a point and maybe an
exponent. -/
inductive Count
  | whole (n : Int)
  | number (x : Float)

def count? (cs : List Char) : Option Count :=
  let (negative, unsigned) := takeSign cs
  let (whole, afterWhole) := takeDigits unsigned
  let n : Int := if negative then -(ofDigits whole : Int) else ofDigits whole
  if ¬fitsInt64 n then none
  else match takeFraction afterWhole with
    | (none, []) => if whole.isEmpty then none else some (.whole n)
    | (none, _) => none
    | (some fraction, tail) =>
      let (exponent, rest) := takeExponent tail
      if ¬rest.isEmpty ∨ whole.isEmpty ∧ fraction.isEmpty then none
      else some (.number (Numeral.toFloat ⟨negative, whole, fraction, exponent.getD 0⟩))

/-- The number of octets of a text, by which short texts are told. -/
def octetCount (cs : List Char) : Nat :=
  (Text.characters cs).foldl (fun count c => count + c.utf8Size) 0

def takeFixed? (size : Nat) (cs : List Char) : Option (Nat × List Char) :=
  if (cs.take size).length = size then (number? (cs.take size)).map (·, cs.drop size) else none

def takeMark? (mark : Char) : List Char → Option (List Char)
  | c :: rest => if c = mark then some rest else none
  | [] => none

def takeDay (cs : List Char) : Except DateReason (Nat × Nat × Nat × List Char) :=
  if octetCount cs < 10 then .error .tooShort
  else match takeFixed? 4 cs with
    | none => .error .yearDigits
    | some (year, cs) =>
      match takeMark? '-' cs with
      | none => .error .separator
      | some cs =>
        match takeFixed? 2 cs with
        | none => .error .monthDigits
        | some (month, cs) =>
          match takeMark? '-' cs with
          | none => .error .separator
          | some cs =>
            match takeFixed? 2 cs with
            | none => .error .dayDigits
            | some (day, rest) =>
              if month < 1 ∨ 12 < month then .error .monthRange
              else if day < 1 ∨ daysInMonth year month < day then .error .dayRange
              else .ok (year, month, day, rest)

def takeBelow? (bound : Nat) (cs : List Char) : Option (Nat × List Char) :=
  match takeFixed? 2 cs with
  | some (n, rest) => if n < bound then some (n, rest) else none
  | none => none

/-- Seconds and their fraction, in microseconds; a text without them has none. A fraction has
at least one digit. -/
def takeSeconds? (cs : List Char) : Option (Nat × Nat × List Char) :=
  match cs with
  | ':' :: rest => do
    let (second, rest) ← takeBelow? 60 rest
    match rest with
    | mark :: digits =>
      if mark = '.' ∨ mark = ',' then
        match digits.takeWhile (fun c => (Text.asciiDigit? c).isSome) with
        | [] => none
        | fraction =>
          return (second, (number? (sixDigits fraction)).getD 0, digits.drop fraction.length)
      else return (second, 0, rest)
    | [] => return (second, 0, [])
  | _ => some (0, 0, cs)

/-- The signs of an offset: the minus of ASCII or the one of mathematics. -/
def offsetSign? (c : Char) : Option Int :=
  if c = '+' then some 1
  else if c = '-' ∨ c = Char.ofNat 0x2212 then some (-1)
  else none

/-- The offset that a whole text is, in seconds; no text is a missing offset. -/
def offset? (cs : List Char) : Option (Option Int) :=
  match cs with
  | [] => some none
  | [c] => if c = 'Z' ∨ c = 'z' then some (some 0) else none
  | sign :: rest => do
    let factor ← offsetSign? sign
    let (hours, rest) ← takeBelow? 24 rest
    let rest := (takeMark? ':' rest).getD rest
    let (minutes, rest) ← takeBelow? 60 rest
    if rest = [] then return some (factor * ((hours * 60 + minutes) * 60 : Nat)) else none

/-- The time and offset that a whole text after a day is: nothing for midnight, or a time
behind a letter `T`, a blank or an underscore. -/
def timeAndOffset? (cs : List Char) : Option (Nat × Nat × Nat × Nat × Option Int) :=
  match cs with
  | [] => some (0, 0, 0, 0, none)
  | mark :: rest =>
    if mark = 'T' ∨ mark = 't' ∨ mark = ' ' ∨ mark = '_' then do
      let (hour, rest) ← takeBelow? 24 rest
      let rest ← takeMark? ':' rest
      let (minute, rest) ← takeBelow? 60 rest
      let (second, micro, rest) ← takeSeconds? rest
      let offset ← offset? rest
      return (hour, minute, second, micro, offset)
    else none

/-- The date of a text that is no number. A year of zero shows only when all else is good. -/
def dateOfText (cs : List Char) : Except DateError Timestamp :=
  match takeDay cs with
  | .error reason => .error (.text reason)
  | .ok (year, month, day, rest) =>
    match timeAndOffset? rest with
    | none => .error (.text .extraCharacters)
    | some (hour, minute, second, micro, offset) =>
      match Numbers.timestamp ⟨year, month, day, hour, minute, second, micro, offset.getD 0⟩ with
      | .ok t => .ok (if offset.isSome then t else t.withoutOffset)
      | .error _ => .error (.moment .yearZero)

/-- A count beyond all dates is refused as a text. -/
def DateReason.isBeyond : DateReason → Bool
  | .tooLate | .tooEarly => true
  | _ => false

/-- The date of a text. A whole count beyond all dates is refused for that reason, any other one
as the text that it is. -/
def readDateText (cs : List Char) : Except DateError Timestamp :=
  match count? cs with
  | none => dateOfText cs
  | some (.whole n) =>
    (dateOfWhole n).mapError fun reason =>
      if reason.isBeyond then .text reason else .moment reason
  | some (.number x) =>
    match dateOfFloat x with
    | .ok t => .ok t
    | .error reason => if reason.isBeyond then dateOfText cs else .error (.moment reason)

/-- The creation date that a value gives. A whole number is no date if the floating-point number
next to it is infinite. -/
def readCreationDate : Value → Except DateError Timestamp
  | .integer n =>
    if Binary64.overflowBound ≤ n.natAbs then .error .notADate
    else (dateOfWhole n).mapError .moment
  | .number x => (dateOfFloat x).mapError .moment
  | .string s =>
    if Text.isWellFormed s then readDateText s.toList else .error .notAText
  | _ => .error .notADate

end PolicyAgent.Time
