import PolicyAgent.Text.Blank
import PolicyAgent.Text.DecimalDigit

/-!
# Reading decimal numbers

A numeral has a sign, digits, a fraction and an exponent; the number that it denotes is
rounded once to the nearest floating-point number. Settings are read generously: blanks
around the numeral are passed over, digits of any script count, an underscore may stand
between two digits, and infinities and NaN have names. One of the two parts around the
decimal point may be empty.
-/
namespace PolicyAgent.Decimal

open PolicyAgent.Text

def ofDigits (digits : List Nat) : Nat := digits.foldl (fun n d => 10 * n + d) 0

/-- A numeral taken apart: `whole.fraction * 10 ^ exponent`. -/
structure Numeral where
  negative : Bool
  whole : List Nat
  fraction : List Nat
  exponent : Int
  deriving DecidableEq, Repr

def Numeral.toFloat (n : Numeral) : Float :=
  let digits := ofDigits (n.whole ++ n.fraction)
  let exponent := n.exponent - n.fraction.length
  let magnitude := Float.ofScientific digits (exponent < 0) exponent.natAbs
  if n.negative then -magnitude else magnitude

/-- The longest run of ASCII digits at the head of a text, and what follows it. -/
def takeDigits : List Char → List Nat × List Char
  | [] => ([], [])
  | c :: rest =>
    match asciiDigit? c with
    | some d => let (digits, tail) := takeDigits rest; (d :: digits, tail)
    | none => ([], c :: rest)

/-- A sign at the head of a text; none counts as plus. -/
def takeSign : List Char → Bool × List Char
  | '-' :: rest => (true, rest)
  | '+' :: rest => (false, rest)
  | rest => (false, rest)

/-- An exponent at the head of a text. A mark without digits is not part of it. -/
def takeExponent : List Char → Option Int × List Char
  | mark :: rest =>
    if mark = 'e' ∨ mark = 'E' then
      let (negative, afterSign) := takeSign rest
      match takeDigits afterSign with
      | ([], _) => (none, mark :: rest)
      | (digits, tail) =>
        (some (if negative then -(ofDigits digits : Int) else ofDigits digits), tail)
    else (none, mark :: rest)
  | [] => (none, [])

/-- A fraction at the head of a text: a point and the digits after it, maybe none. -/
def takeFraction : List Char → Option (List Nat) × List Char
  | '.' :: rest => let (digits, tail) := takeDigits rest; (some digits, tail)
  | rest => (none, rest)

/-- The digits of every script in ASCII; `none` where another character from outside
ASCII stands. -/
def toAsciiDigits (cs : List Char) : Option (List Char) :=
  cs.mapM fun c =>
    if c.toNat < 128 then some c else (decimalDigit? c).map Nat.digitChar

/-- The text without the underscores between digits; any other underscore is refused. -/
def dropUnderscores : (afterDigit : Bool) → List Char → Option (List Char)
  | _, [] => some []
  | afterDigit, '_' :: rest =>
    match afterDigit, rest with
    | true, c :: _ => if c.isDigit then dropUnderscores false rest else none
    | _, _ => none
  | _, c :: rest => (dropUnderscores c.isDigit rest).map (c :: ·)

def ofName? (negative : Bool) (cs : List Char) : Option Float :=
  let signed (x : Float) := if negative then -x else x
  match cs.map Char.toLower with
  | ['i', 'n', 'f'] | ['i', 'n', 'f', 'i', 'n', 'i', 't', 'y'] => some (signed (1.0 / 0.0))
  | ['n', 'a', 'n'] => some (0.0 / 0.0)
  | _ => none

def numeral? (negative : Bool) (cs : List Char) : Option Numeral :=
  let (whole, afterWhole) := takeDigits cs
  let (fraction, afterFraction) := takeFraction afterWhole
  let (exponent, rest) := takeExponent afterFraction
  if rest.isEmpty ∧ ¬(whole.isEmpty ∧ (fraction.getD []).isEmpty) then
    some ⟨negative, whole, fraction.getD [], exponent.getD 0⟩
  else none

/-- The sign of a generously written numeral, and what follows it in ASCII. -/
def plainNumeral? (s : String) : Option (Bool × List Char) := do
  let cs ← toAsciiDigits (trimBlanks s.toList)
  return takeSign (← dropUnderscores false cs)

def readWhole? (s : String) : Option Int := do
  let (negative, unsigned) ← plainNumeral? s
  match takeDigits unsigned with
  | (d :: digits, []) =>
    let magnitude : Int := ofDigits (d :: digits)
    some (if negative then -magnitude else magnitude)
  | _ => none

def readFloat? (s : String) : Option Float := do
  let (negative, unsigned) ← plainNumeral? s
  (numeral? negative unsigned).map Numeral.toFloat <|> ofName? negative unsigned

end PolicyAgent.Decimal
