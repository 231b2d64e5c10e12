/-!
# The value of a binary floating-point number

A finite number of the 64-bit format is a whole mantissa times a power of two. Reading the
mantissa and the exponent from the bits turns comparisons, rounding and remainders into
whole or rational arithmetic, which is exact.
-/
namespace PolicyAgent.Decimal

/-- What the bits of a number say. -/
inductive Binary64
  | nan
  | infinite (negative : Bool)
  | finite (negative : Bool) (mantissa : Nat) (exponent : Int)
  deriving DecidableEq, Repr

namespace Binary64

/-- Exponent of the last mantissa bit of subnormal numbers, the least there is. -/
def leastExponent : Int := -1074

/-- The mantissa of the least number with its exponent. -/
def leastNormalMantissa : Nat := 1 <<< 52

def ofBits (bits : Nat) : Binary64 :=
  let negative := 1 <<< 63 ≤ bits
  let biased : Nat := (bits >>> 52) % 0x800
  let fraction := bits % leastNormalMantissa
  if biased = 0x7ff then if fraction = 0 then .infinite negative else .nan
  else if biased = 0 then .finite negative fraction leastExponent
  else .finite negative (leastNormalMantissa + fraction) (leastExponent + biased - 1)

def ofFloat (x : Float) : Binary64 := ofBits x.toBits.toNat

/-- The rational number `mantissa * 2 ^ exponent`. -/
def scale (mantissa : Nat) (exponent : Int) : Rat :=
  if 0 ≤ exponent then ((mantissa <<< exponent.toNat : Nat) : Rat)
  else mkRat mantissa (1 <<< (-exponent).toNat)

def toRat? : Binary64 → Option Rat
  | finite negative mantissa exponent =>
    some (if negative then -scale mantissa exponent else scale mantissa exponent)
  | _ => none

/-- The floating-point number next to a whole number of this magnitude or more is infinite. -/
def overflowBound : Nat := (1 <<< 1024) - (1 <<< 970)

def floor? (x : Binary64) : Option Int := x.toRat?.map Rat.floor

/-- The whole number next to a finite number, the upper one in the middle. -/
def nearest? (x : Binary64) : Option Int := x.toRat?.map fun q => (q + 1 / 2).floor

/-- The floating-point number `mantissa * 2 ^ exponent`, exact whenever the mantissa has at
most 53 bits and the exponent is neither below the least nor so high that the product
overflows: both factors and their product are then representable. -/
def compose (mantissa : Nat) (exponent : Int) : Float :=
  let power := if -1022 ≤ exponent then (exponent + 1023).toNat <<< 52
    else 1 <<< (exponent - leastExponent).toNat
  Float.ofNat mantissa * Float.ofBits (UInt64.ofNat power)

/-- The exact remainder of a division of non-negative finite numbers, which is again a
floating-point number: it has no more bits than the divisor and none below both exponents. -/
def remainder? : Binary64 → Binary64 → Option Float
  | finite false m p, finite false n q =>
    let least := min p q
    let rest := (m <<< (p - least).toNat) % (n <<< (q - least).toNat)
    some (compose rest least)
  | _, _ => none

end Binary64

end PolicyAgent.Decimal
