import PolicyAgent.Decimal.Reading
import PolicyAgent.Text.Quoted
import PolicyAgent.Text.Uppercase
import PolicyAgent.Time.Timestamp

/-!
# RFC 3339 timestamps

Timestamps are written to the second. A clock that shows UTC is marked `Z`, and the year
then has as many digits as it needs; with any other offset it has four. An offset with
seconds shows them.

Reading is in two steps. The text in upper case has to have the shape of a timestamp: digits
of any script around fixed marks, a fraction of any length, `Z` or an offset, and perhaps a
line feed. Its numbers, of which the fraction keeps six digits, are then read in ASCII, and
each has to be in range. An offset is less than 24 hours but may have more than 59 minutes.
-/
namespace PolicyAgent.Time

open PolicyAgent.Text PolicyAgent.Decimal

def twoDigits (n : Nat) : List Char := [Nat.digitChar (n / 10 % 10), Nat.digitChar (n % 10)]

def fourDigits (n : Nat) : List Char := twoDigits (n / 100) ++ twoDigits (n % 100)

def significantDigits (n : Nat) : List Char := (fourDigits n).dropWhile (· = '0')

@[simp] theorem length_twoDigits (n : Nat) : (twoDigits n).length = 2 := rfl

@[simp] theorem length_fourDigits (n : Nat) : (fourDigits n).length = 4 := rfl

/-- An offset as sign, hours and minutes, and seconds if there are any. -/
def Offset.written (o : Offset) : List Char :=
  let n := o.seconds.natAbs
  let sign := if o.seconds < 0 then '-' else '+'
  let hoursAndMinutes := sign :: twoDigits (n / 3600) ++ ':' :: twoDigits (n / 60 % 60)
  if n % 60 = 0 then hoursAndMinutes else hoursAndMinutes ++ ':' :: twoDigits (n % 60)

def Timestamp.writtenAfterYear (t : Timestamp) : List Char :=
  '-' :: twoDigits t.day.month ++ '-' :: twoDigits t.day.day ++
    'T' :: twoDigits t.time.hour ++ ':' :: twoDigits t.time.minute ++
    ':' :: twoDigits t.time.second

def Timestamp.rfc3339Chars (t : Timestamp) : List Char :=
  let o := t.offset.getD .utc
  if o.seconds = 0 then significantDigits t.day.year ++ t.writtenAfterYear ++ ['Z']
  else fourDigits t.day.year ++ t.writtenAfterYear ++ o.written

def Timestamp.rfc3339 (t : Timestamp) : String := String.ofList t.rfc3339Chars

inductive Slot
  | digit
  | mark (c : Char)
  deriving DecidableEq

/-- A digit slot takes a decimal digit of any script. -/
def Slot.takes : Slot → Char → Bool
  | digit, c => (decimalDigit? c).isSome
  | mark m, c => m == c

/-- The head of a text that fills a pattern, and what follows it. -/
def takeSlots? : List Slot → List Char → Option (List Char × List Char)
  | [], cs => some ([], cs)
  | _ :: _, [] => none
  | slot :: slots, c :: cs =>
    if slot.takes c then (takeSlots? slots cs).map fun (taken, rest) => (c :: taken, rest)
    else none

/-- `dddd-dd-ddTdd:dd:dd` -/
def localSlots : List Slot :=
  [.digit, .digit, .digit, .digit, .mark '-', .digit, .digit, .mark '-', .digit, .digit,
   .mark 'T', .digit, .digit, .mark ':', .digit, .digit, .mark ':', .digit, .digit]

/-- `dd:dd` -/
def offsetSlots : List Slot := [.digit, .digit, .mark ':', .digit, .digit]

/-- The pieces of a text with the shape of a timestamp. The offset of `Z` is zero. -/
structure Shape where
  clock : List Char
  fraction : List Char
  offset : List Char
  deriving DecidableEq, Repr

def zeroOffset : List Char := ['+', '0', '0', ':', '0', '0']

/-- An offset that ends the text, but for a line feed. -/
def takeOffset? (cs : List Char) : Option (List Char) :=
  match cs with
  | 'Z' :: rest => if rest = [] ∨ rest = ['\n'] then some zeroOffset else none
  | sign :: rest =>
    if sign = '+' ∨ sign = '-' then
      match takeSlots? offsetSlots rest with
      | some (taken, tail) => if tail = [] ∨ tail = ['\n'] then some (sign :: taken) else none
      | none => none
    else none
  | [] => none

def takeFractionOfAnyScript (cs : List Char) : List Char × List Char :=
  match cs with
  | '.' :: rest =>
    match rest.takeWhile (fun c => (decimalDigit? c).isSome) with
    | [] => ([], cs)
    | digits => (digits, rest.drop digits.length)
  | _ => ([], cs)

def Shape.ofChars? (cs : List Char) : Option Shape := do
  let (clock, afterClock) ← takeSlots? localSlots cs
  let (fraction, afterFraction) := takeFractionOfAnyScript afterClock
  let offset ← takeOffset? afterFraction
  return ⟨clock, fraction, offset⟩

/-- Six digits of a fraction: the first six, with zeros after a shorter one. -/
def sixDigits (digits : List Char) : List Char :=
  digits.take 6 ++ List.replicate (6 - digits.length) '0'

/-- The text that the numbers are read from. -/
def Shape.normalized (shape : Shape) : List Char :=
  shape.clock ++ (if shape.fraction = [] then [] else '.' :: sixDigits shape.fraction)
    ++ shape.offset

inductive ReadError
  | shape (text : String)
  | digits (normalized : String)
  | offset (seconds : Int)
  | field (e : FieldError)
  deriving DecidableEq, Repr

def ReadError.message : ReadError → String
  | .shape text => s!"{quoted text} is not an RFC-3339 timestamp"
  | .digits normalized => s!"Invalid isoformat string: {quoted normalized}"
  | .offset seconds =>
    let days := seconds.fdiv 86400
    let rest := seconds.fmod 86400
    let rest := if rest = 0 then "" else s!", seconds={rest}"
    "offset must be a timedelta strictly between -timedelta(hours=24) and timedelta(hours=24), "
      ++ s!"not datetime.timedelta(days={days}{rest})."
  | .field e => e.message

def number? (cs : List Char) : Option Nat := (cs.mapM asciiDigit?).map ofDigits

def numberAt? (cs : List Char) (start size : Nat) : Option Nat :=
  number? ((cs.drop start).take size)

/-- The numbers of a timestamp, each in its own range or not. -/
structure Numbers where
  year : Nat
  month : Nat
  day : Nat
  hour : Nat
  minute : Nat
  second : Nat
  micro : Nat
  offset : Int
  deriving DecidableEq, Repr

/-- The numbers of a shape; none if one of them has a digit outside ASCII. -/
def Shape.numbers? (shape : Shape) : Option Numbers := do
  let year ← numberAt? shape.clock 0 4
  let month ← numberAt? shape.clock 5 2
  let day ← numberAt? shape.clock 8 2
  let hour ← numberAt? shape.clock 11 2
  let minute ← numberAt? shape.clock 14 2
  let second ← numberAt? shape.clock 17 2
  let micro ← number? (sixDigits shape.fraction)
  let hours ← numberAt? shape.offset 1 2
  let minutes ← numberAt? shape.offset 4 2
  let distance : Int := (hours * 60 + minutes) * 60
  return ⟨year, month, day, hour, minute, second, micro,
    if shape.offset.head? = some '-' then -distance else distance⟩

/-- The timestamp with the given numbers. The offset is looked at first, then the day, then
the time. -/
def Numbers.timestamp (n : Numbers) : Except ReadError Timestamp :=
  match Offset.ofSeconds? n.offset with
  | none => .error (.offset n.offset)
  | some offset =>
    match Day.ofNumbers n.year n.month n.day with
    | .error e => .error (.field e)
    | .ok day =>
      match TimeOfDay.ofNumbers n.hour n.minute n.second n.micro with
      | .error e => .error (.field e)
      | .ok time => .ok ⟨day, time, some offset⟩

def Timestamp.readRfc3339 (text : String) : Except ReadError Timestamp :=
  match Shape.ofChars? (uppercaseChars text.toList) with
  | none => .error (.shape text)
  | some shape =>
    match shape.numbers? with
    | none => .error (.digits (String.ofList shape.normalized))
    | some numbers => numbers.timestamp

end PolicyAgent.Time
