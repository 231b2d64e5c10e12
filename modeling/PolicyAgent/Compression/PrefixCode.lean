import PolicyAgent.Compression.Bits

/-!
# Prefix codes

A prefix code is given by the lengths of its codes alone. Codes of one length are consecutive
numbers in the order of their symbols, and shorter codes come first, so reading a code needs
only how many codes there are of each length. Lengths can ask for more codes than there are, or
leave some unused.
-/
namespace PolicyAgent.Compression

/-- The number of codes of each length from 1 to the greatest in use, and the symbols in the
order of their codes. -/
structure PrefixCode where
  counts : List Nat
  symbols : Array Nat
  deriving DecidableEq, Repr

namespace PrefixCode

/-- The code in which symbol `i` has the length `lengths[i]`; of length 0 there are no codes. -/
def ofLengths (lengths : List Nat) : PrefixCode :=
  let greatest := lengths.foldl max 0
  let symbolsOf (length : Nat) : List Nat :=
    (lengths.zipIdx.filter (·.1 == length)).map (·.2)
  let groups := (List.range greatest).map fun i => symbolsOf (i + 1)
  { counts := groups.map List.length, symbols := groups.flatten.toArray }

/-- The codes of the greatest length that remain when some have been given away, or none if
there are not enough. -/
def unused? : (remaining : Nat) → (counts : List Nat) → Option Nat
  | remaining, [] => some remaining
  | remaining, count :: counts =>
    if 2 * remaining < count then none else unused? (2 * remaining - count) counts

def isComplete (code : PrefixCode) : Bool := unused? 1 code.counts == some 0

/-- A code without symbols, a single code of one bit, and complete codes can be used. -/
def isUsable (code : PrefixCode) : Bool :=
  code.counts.isEmpty || code.isComplete || code.counts == [1]

def isUsableForLengths (code : PrefixCode) : Bool := code.counts.isEmpty || code.isComplete

/-- Reads on after bits that are the number `value`, when the codes of the present length start
at `first`, and their symbols at `place`. -/
def readFrom (symbols : Array Nat) (value first place : Nat) :
    (counts : List Nat) → Bits → ReadResult (Option Nat)
  | [], bits => .ok (none, bits)
  | _ :: _, [] => .error .exhausted
  | count :: counts, bit :: bits =>
    let value := 2 * value + bit.toNat
    let first := 2 * first
    if value < first + count then .ok (symbols[place + (value - first)]?, bits)
    else readFrom symbols value (first + count) (place + count) counts bits

/-- The symbol whose code comes next, or none if the bits are no code. At least one bit is
read. -/
def read (code : PrefixCode) (bits : Bits) : ReadResult (Option Nat) :=
  readFrom code.symbols 0 0 0 (if code.counts.isEmpty then [0] else code.counts) bits

theorem length_le_of_readFrom {symbols : Array Nat} {value first place : Nat}
    {counts : List Nat} {bits rest : Bits} {symbol : Option Nat}
    (h : readFrom symbols value first place counts bits = .ok (symbol, rest)) :
    rest.length ≤ bits.length := by
  induction counts generalizing value first place bits with
  | nil => simp_all [readFrom]
  | cons count counts ih =>
    cases bits with
    | nil => simp [readFrom] at h
    | cons bit bits =>
      simp only [readFrom] at h
      split at h
      · simp_all
      · exact Nat.le_succ_of_le (ih h)

theorem length_lt_of_read {code : PrefixCode} {bits rest : Bits} {symbol : Option Nat}
    (h : code.read bits = .ok (symbol, rest)) : rest.length < bits.length := by
  obtain ⟨count, counts, hc⟩ :
      ∃ count counts, (if code.counts.isEmpty then [0] else code.counts) = count :: counts := by
    cases hs : code.counts <;> simp
  rw [read, hc] at h
  cases bits with
  | nil => simp [readFrom] at h
  | cons bit bits =>
    simp only [readFrom] at h
    split at h
    · simp_all
    · exact Nat.lt_succ_of_le (length_le_of_readFrom h)

end PrefixCode

end PolicyAgent.Compression
