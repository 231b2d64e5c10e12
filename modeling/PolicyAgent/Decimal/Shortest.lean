import PolicyAgent.Decimal.Binary64

/-!
# The shortest decimal that reads back

The reals that round to a floating-point number form an interval around it, which contains
its ends when the mantissa is even. For a growing number of digits, the two neighbours of
the value on the decimal grid of that many digits are tried: the first grid with a neighbour
inside the interval gives the digits. Of two such neighbours the nearer is taken, and the
even one if both are equally near. All arithmetic is on whole numbers.

How the digits are laid out is a matter of the format that writes them: see `Layout`.
-/
namespace PolicyAgent.Decimal

/-- The decimal `digits * 10 ^ exponent`. -/
structure Scaled where
  digits : Nat
  exponent : Int
  deriving DecidableEq, Repr

/-- A positive number `value / unit` and the ends `low / unit` and `high / unit` of the
interval of the reals that round to it. -/
structure Rounding where
  low : Nat
  value : Nat
  high : Nat
  unit : Nat
  closed : Bool

namespace Rounding

/-- The interval of `mantissa * 2 ^ exponent`. The gap below a power of two is half the
gap above it. -/
def ofBinary (mantissa : Nat) (exponent : Int) : Rounding :=
  let up := 1 <<< (exponent - 2).toNat
  let down := 1 <<< (2 - exponent).toNat
  let gap := if mantissa = Binary64.leastNormalMantissa ∧ Binary64.leastExponent < exponent
    then 1 else 2
  { low := (4 * mantissa - gap) * up
    value := 4 * mantissa * up
    high := (4 * mantissa + 2) * up
    unit := down
    closed := mantissa % 2 = 0 }

def rescale (r : Rounding) (k : Int) : Rounding :=
  let up := Nat.pow 10 (-k).toNat
  { r with low := r.low * up, value := r.value * up, high := r.high * up,
           unit := r.unit * Nat.pow 10 k.toNat }

def contains (r : Rounding) (n : Nat) : Bool :=
  let x := n * r.unit
  if r.closed then r.low ≤ x && x ≤ r.high else r.low < x && x < r.high

/-- The neighbour of the value on the grid of whole numbers that lies in the interval. -/
def nearest? (r : Rounding) : Option Nat :=
  let below := r.value / r.unit
  let above := below + 1
  match r.contains below, r.contains above with
  | true, true =>
    let rest := 2 * (r.value % r.unit)
    some (if rest < r.unit ∨ (rest = r.unit ∧ below % 2 = 0) then below else above)
  | true, false => some below
  | false, true => some above
  | false, false => none

def wholeDigits (n : Nat) : Nat := (Nat.toDigits 10 n).length

def leadingZeros (r : Rounding) : (fuel : Nat) → Nat
  | 0 => 0
  | fuel + 1 =>
    if r.unit ≤ r.value * 10 then 0
    else leadingZeros { r with value := r.value * 10 } fuel + 1

/-- The `p` with `10 ^ (p - 1) ≤ value / unit < 10 ^ p`. -/
def magnitude (r : Rounding) : Int :=
  if r.unit ≤ r.value then wholeDigits (r.value / r.unit) else -leadingZeros r 400

/-- Grids of `17 - fuel` digits and more; seventeen digits always read back. -/
def shortestFrom (r : Rounding) : (fuel : Nat) → Scaled
  | 0 => ⟨r.value / r.unit, 0⟩
  | fuel + 1 =>
    let k := r.magnitude - (17 - fuel : Nat)
    match (r.rescale k).nearest? with
    | some digits => ⟨digits, k⟩
    | none => shortestFrom r fuel

end Rounding

/-- The shortest decimal that reads back as `mantissa * 2 ^ exponent`, for a positive mantissa. -/
def shortest (mantissa : Nat) (exponent : Int) : Scaled :=
  (Rounding.ofBinary mantissa exponent).shortestFrom 17

/-- How a format writes floating-point numbers. A number `d.ddd * 10 ^ e` is written
positionally when `firstPositional ≤ e < firstScientific`. -/
structure Layout where
  firstPositional : Int
  firstScientific : Int
  /-- What follows a whole number written positionally. -/
  wholeSuffix : String
  exponentMark : String
  exponentDigits : Nat
  nan : String
  infinity : String

namespace Layout

/-- Numbers are written positionally from 0.0001 up to sixteen digits before the point. -/
def plain : Layout where
  firstPositional := -4
  firstScientific := 16
  wholeSuffix := ".0"
  exponentMark := "e"
  exponentDigits := 2
  nan := "nan"
  infinity := "inf"

def exponentText (layout : Layout) (e : Int) : String :=
  let digits := Nat.toDigits 10 e.natAbs
  let padding := List.replicate (layout.exponentDigits - digits.length) '0'
  layout.exponentMark ++ (if e < 0 then "-" else "+") ++ String.ofList (padding ++ digits)

def positive (layout : Layout) (x : Scaled) : String :=
  let written := Nat.toDigits 10 x.digits
  let point : Int := written.length + x.exponent
  let digits := (written.reverse.dropWhile (· = '0')).reverse
  if layout.firstPositional < point ∧ point ≤ layout.firstScientific then
    if point ≤ 0 then
      "0." ++ String.ofList (List.replicate (-point).toNat '0' ++ digits)
    else if digits.length ≤ point then
      String.ofList (digits ++ List.replicate (point.toNat - digits.length) '0')
        ++ layout.wholeSuffix
    else
      String.ofList (digits.take point.toNat ++ '.' :: digits.drop point.toNat)
  else
    let fraction := digits.drop 1
    String.ofList (digits.take 1 ++ if fraction.isEmpty then [] else '.' :: fraction)
      ++ layout.exponentText (point - 1)

def write (layout : Layout) (x : Float) : String :=
  match Binary64.ofFloat x with
  | .nan => layout.nan
  | .infinite negative => (if negative then "-" else "") ++ layout.infinity
  | .finite negative mantissa exponent =>
    (if negative then "-" else "") ++
      if mantissa = 0 then "0" ++ layout.wholeSuffix
      else layout.positive (shortest mantissa exponent)

end Layout

end PolicyAgent.Decimal
