/-!
# Checksums

Two sums over octets tell whether data is as it was. Adler-32 adds up the octets and the sums
on the way. CRC-32 is the remainder of the data as a polynomial over the bits, lowest bit first.
-/
namespace PolicyAgent.Compression

/-- The greatest prime below 65536. -/
def adlerModulus : Nat := 65521

def adlerStep (sums : Nat × Nat) (b : UInt8) : Nat × Nat :=
  let low := (sums.1 + b.toNat) % adlerModulus
  (low, (sums.2 + low) % adlerModulus)

def adler32 (octets : List UInt8) : Nat :=
  let sums := octets.foldl adlerStep (1, 0)
  sums.2 * 65536 + sums.1

/-- The polynomial of CRC-32 without its highest term, lowest bit first. -/
def crcPolynomial : UInt32 := 0xedb88320

def crcBit (sum : UInt32) : UInt32 :=
  if sum &&& 1 = 1 then (sum >>> 1) ^^^ crcPolynomial else sum >>> 1

def crcStep (sum : UInt32) (b : UInt8) : UInt32 :=
  (List.range 8).foldl (fun sum _ => crcBit sum) (sum ^^^ b.toUInt32)

def crc32 (octets : List UInt8) : Nat :=
  (octets.foldl crcStep 0xffffffff ^^^ 0xffffffff).toNat

end PolicyAgent.Compression
