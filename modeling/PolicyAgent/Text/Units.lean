import PolicyAgent.Text.Surrogate

/-!
# Units of several octets

UTF-16 and UTF-32 write text in units of two or four octets, of which the highest octet comes
first or last.
-/
namespace PolicyAgent.Text

def joinOctets (bigEndian : Bool) (octets : List UInt8) : Nat :=
  (if bigEndian then octets else octets.reverse).foldl (fun n b => n * 256 + b.toNat) 0

def joinUnits : List Nat → List Point
  | [] => []
  | [n] => [.ofCode n]
  | n :: m :: rest =>
    if isHighSurrogate n && isLowSurrogate m then .char (joinSurrogates n m) :: joinUnits rest
    else .ofCode n :: joinUnits (m :: rest)

/-- Units of two octets, and the odd octet that may remain. -/
def units16 (bigEndian : Bool) : List UInt8 → List Nat × List UInt8
  | a :: b :: rest =>
    let (units, tail) := units16 bigEndian rest
    (joinOctets bigEndian [a, b] :: units, tail)
  | tail => ([], tail)

def units32 (bigEndian : Bool) : List UInt8 → List Nat × List UInt8
  | a :: b :: c :: d :: rest =>
    let (units, tail) := units32 bigEndian rest
    (joinOctets bigEndian [a, b, c, d] :: units, tail)
  | tail => ([], tail)

end PolicyAgent.Text
