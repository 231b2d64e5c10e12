import PolicyAgent.Decimal.Binary64

/-!
# Decimals with a given number of places

A number is written with so many places behind the point, positionally or with an exponent, or
with so many digits in all in whichever of the two ways suits its size. It is rounded once, from
its exact value; what lies in the middle goes to the even digit.
-/
namespace PolicyAgent.Decimal

/-- A quotient rounded to the nearest whole number, in the middle to the even one. -/
def roundDiv (numerator denominator : Nat) : Nat :=
  let quotient := numerator / denominator
  let rest := numerator % denominator
  if denominator < 2 * rest ∨ denominator = 2 * rest ∧ quotient % 2 = 1 then quotient + 1
  else quotient

structure Ratio where
  numerator : Nat
  denominator : Nat

def Ratio.ofBinary (mantissa : Nat) (exponent : Int) : Ratio :=
  if 0 ≤ exponent then ⟨mantissa <<< exponent.toNat, 1⟩ else ⟨mantissa, 1 <<< (-exponent).toNat⟩

namespace Ratio

def scaled (r : Ratio) (exponent : Int) : Nat :=
  if 0 ≤ exponent then roundDiv (r.numerator * Nat.pow 10 exponent.toNat) r.denominator
  else roundDiv r.numerator (r.denominator * Nat.pow 10 (-exponent).toNat)

/-- The exponent of the first digit, by counting; `fuel` bounds it for numbers below one. -/
def firstExponent (r : Ratio) : (fuel : Nat) → Int
  | 0 => 0
  | fuel + 1 =>
    if r.numerator = 0 then 0
    else if r.denominator ≤ r.numerator then
      (Nat.toDigits 10 (r.numerator / r.denominator)).length - 1
    else firstExponent ⟨r.numerator * 10, r.denominator⟩ fuel - 1

/-- The first digits of a number, so many behind the first one, and the exponent of the first. -/
def leading (r : Ratio) (places : Nat) : Nat × Int :=
  let exponent := r.firstExponent 400
  let digits := r.scaled (places - exponent)
  if digits = Nat.pow 10 (places + 1) then (Nat.pow 10 places, exponent + 1) else (digits, exponent)

end Ratio

/-- How a number is written: where the point stands, and what happens to zeros at the end. -/
inductive Form
  | positional
  | scientific
  /-- Positional unless the exponent is below -4 or reaches the number of digits. -/
  | general
  deriving DecidableEq, Repr

/-- The digits with a point before the last ones. A point without places is left out, unless it
is asked for. -/
def withPoint (digits places : Nat) (keepPoint : Bool) : List Char :=
  let written := Nat.toDigits 10 digits
  let padded := List.replicate (places + 1 - written.length) '0' ++ written
  let whole := padded.take (padded.length - places)
  if places = 0 ∧ ¬keepPoint then whole else whole ++ '.' :: padded.drop (padded.length - places)

def trimZeros (cs : List Char) : List Char :=
  if '.' ∈ cs then
    match cs.reverse.dropWhile (· = '0') with
    | '.' :: rest => rest.reverse
    | rest => rest.reverse
  else cs

def exponentSuffix (exponent : Int) : List Char :=
  let digits := Nat.toDigits 10 exponent.natAbs
  'e' :: (if exponent < 0 then '-' else '+') :: List.replicate (2 - digits.length) '0' ++ digits

def Ratio.write (r : Ratio) (form : Form) (precision : Nat) (keepPoint : Bool) : List Char :=
  let positional (places : Nat) := withPoint (r.scaled places) places keepPoint
  match form with
  | .positional => positional precision
  | .scientific =>
    let (digits, exponent) := r.leading precision
    withPoint digits precision keepPoint ++ exponentSuffix exponent
  | .general =>
    let places := precision - 1
    let (digits, exponent) := r.leading places
    let trim (cs : List Char) := if keepPoint then cs else trimZeros cs
    if -4 ≤ exponent ∧ exponent ≤ places then trim (positional (places - exponent).toNat)
    else trim (withPoint digits places keepPoint) ++ exponentSuffix exponent

end PolicyAgent.Decimal
