/-!
# Bits of a stream

A compressed stream is a sequence of bits, of which each octet holds eight, lowest bit first.
A number is read from its lowest bit on. A reader stops where the bits end or where they are
wrong, and the two are told apart, as a stream may end early.
-/
namespace PolicyAgent.Compression

abbrev Bits := List Bool

def octetBits (b : UInt8) : Bits := (List.range 8).map fun i => b.toNat.testBit i

def Bits.ofOctets (octets : List UInt8) : Bits := octets.flatMap octetBits

inductive StreamFault
  | headerCheck
  | method
  | windowSize
  | headerFlags
  | headerSum
  | dictionary
  | blockType
  | storedLength
  | symbolCounts
  | lengthCode
  | lengthRepeat
  | missingEnd
  | literalCode
  | distanceCode
  | literalSymbol
  | distanceSymbol
  | distance
  | checksum
  | contentLength
  deriving DecidableEq, Repr

/-- Why a reader stops before the end of its task. -/
inductive Halt
  | exhausted
  | fault (f : StreamFault)
  deriving DecidableEq, Repr

/-- A reader gives a result and the bits behind it. -/
abbrev ReadResult (α : Type) := Except Halt (α × Bits)

namespace Bits

/-- The number in the next `width` bits. -/
def number : (width : Nat) → Bits → ReadResult Nat
  | 0, bits => .ok (0, bits)
  | _ + 1, [] => .error .exhausted
  | width + 1, bit :: bits =>
    match number width bits with
    | .ok (n, rest) => .ok (bit.toNat + 2 * n, rest)
    | .error halt => .error halt

theorem length_of_number {width n : Nat} {bits rest : Bits}
    (h : number width bits = .ok (n, rest)) : rest.length + width = bits.length := by
  induction width generalizing n bits with
  | zero => simp_all [number]
  | succ width ih =>
    cases bits with
    | nil => simp [number] at h
    | cons bit bits =>
      simp only [number] at h
      split at h
      · rename_i m r hm
        obtain ⟨-, rfl⟩ : bit.toNat + 2 * m = n ∧ r = rest := by simpa using h
        simp [← ih hm, Nat.add_assoc]
      · simp at h

def alignToOctet (bits : Bits) : Bits := bits.drop (bits.length % 8)

end Bits

end PolicyAgent.Compression
