import PolicyAgent.Compression.PrefixCode

/-!
# Deflated data

Data is compressed in blocks. A block holds octets as they are, or symbols of two prefix codes:
a symbol of the first is an octet, the end of the block, or the length of a repetition, whose
distance is a symbol of the second. The codes are fixed, or their lengths stand at the head of
the block, compressed by a third code. What has been written before a reader halts is kept.
-/
namespace PolicyAgent.Compression

/-- The octets written so far, and the bits that remain or why the reader halted. -/
abbrev Inflated := Array UInt8 × Except Halt Bits

inductive Token
  | octet (b : UInt8)
  | repetition (length distance : Nat)
  | blockEnd
  deriving DecidableEq, Repr

structure BlockCodes where
  literals : PrefixCode
  distances : PrefixCode

/-- The least length that a symbol from 257 on means, and the bits that add to it. -/
def lengthBases : List (Nat × Nat) :=
  [(3, 0), (4, 0), (5, 0), (6, 0), (7, 0), (8, 0), (9, 0), (10, 0), (11, 1), (13, 1), (15, 1),
   (17, 1), (19, 2), (23, 2), (27, 2), (31, 2), (35, 3), (43, 3), (51, 3), (59, 3), (67, 4),
   (83, 4), (99, 4), (115, 4), (131, 5), (163, 5), (195, 5), (227, 5), (258, 0)]

/-- The least distance that a symbol means, and the bits that add to it. -/
def distanceBases : List (Nat × Nat) :=
  [(1, 0), (2, 0), (3, 0), (4, 0), (5, 1), (7, 1), (9, 2), (13, 2), (17, 3), (25, 3), (33, 4),
   (49, 4), (65, 5), (97, 5), (129, 6), (193, 6), (257, 7), (385, 7), (513, 8), (769, 8),
   (1025, 9), (1537, 9), (2049, 10), (3073, 10), (4097, 11), (6145, 11), (8193, 12),
   (12289, 12), (16385, 13), (24577, 13)]

/-- A base with the number in its additional bits. -/
def readAbove (base : Option (Nat × Nat)) (fault : StreamFault) (bits : Bits) :
    ReadResult Nat :=
  match base with
  | none => .error (.fault fault)
  | some (least, width) =>
    match bits.number width with
    | .ok (n, rest) => .ok (least + n, rest)
    | .error halt => .error halt

def readRepetition (distances : PrefixCode) (length : Nat) (bits : Bits) : ReadResult Token :=
  match distances.read bits with
  | .error halt => .error halt
  | .ok (symbol, rest) =>
    match readAbove (symbol.bind (distanceBases[·]?)) .distanceSymbol rest with
    | .ok (distance, rest) => .ok (.repetition length distance, rest)
    | .error halt => .error halt

def readToken (codes : BlockCodes) (bits : Bits) : ReadResult Token :=
  match codes.literals.read bits with
  | .error halt => .error halt
  | .ok (none, _) => .error (.fault .literalSymbol)
  | .ok (some symbol, rest) =>
    if symbol < 256 then .ok (.octet (UInt8.ofNat symbol), rest)
    else if symbol = 256 then .ok (.blockEnd, rest)
    else match readAbove lengthBases[symbol - 257]? .literalSymbol rest with
      | .error halt => .error halt
      | .ok (length, rest) => readRepetition codes.distances length rest

theorem length_le_of_readAbove {base : Option (Nat × Nat)} {fault : StreamFault} {n : Nat}
    {bits rest : Bits} (h : readAbove base fault bits = .ok (n, rest)) :
    rest.length ≤ bits.length := by
  unfold readAbove at h
  split at h
  · simp at h
  · split at h
    · rename_i hn
      have := Bits.length_of_number hn
      simp only [Except.ok.injEq, Prod.mk.injEq] at h
      rw [← h.2]
      omega
    · simp at h

theorem length_le_of_readRepetition {distances : PrefixCode} {length : Nat} {token : Token}
    {bits rest : Bits} (h : readRepetition distances length bits = .ok (token, rest)) :
    rest.length ≤ bits.length := by
  unfold readRepetition at h
  split at h
  · simp at h
  · rename_i symbol between hs
    have hlt := PrefixCode.length_lt_of_read hs
    split at h
    · rename_i ha
      have := length_le_of_readAbove ha
      simp only [Except.ok.injEq, Prod.mk.injEq] at h
      rw [← h.2]
      omega
    · simp at h

theorem length_lt_of_readToken {codes : BlockCodes} {token : Token} {bits rest : Bits}
    (h : readToken codes bits = .ok (token, rest)) : rest.length < bits.length := by
  unfold readToken at h
  split at h
  · simp at h
  · simp at h
  · rename_i between hs
    have hlt := PrefixCode.length_lt_of_read hs
    split at h
    · simp_all
    · split at h
      · simp_all
      · split at h
        · simp at h
        · rename_i ha
          have := length_le_of_readAbove ha
          have := length_le_of_readRepetition h
          omega

/-- Octets from `distance` back, one after the other, so that a repetition may repeat itself. -/
def repeatBack (distance : Nat) : (length : Nat) → Array UInt8 → Array UInt8
  | 0, written => written
  | length + 1, written =>
    repeatBack distance length (written.push (written[written.size - distance]?.getD 0))

def inflateSymbols (codes : BlockCodes) (written : Array UInt8) (bits : Bits) : Inflated :=
  match _ : readToken codes bits with
  | .error halt => (written, .error halt)
  | .ok (.blockEnd, rest) => (written, .ok rest)
  | .ok (.octet b, rest) => inflateSymbols codes (written.push b) rest
  | .ok (.repetition length distance, rest) =>
    if written.size < distance then (written, .error (.fault .distance))
    else inflateSymbols codes (repeatBack distance length written) rest
termination_by bits.length
decreasing_by all_goals exact length_lt_of_readToken ‹_›

def fixedCodes : BlockCodes :=
  { literals := .ofLengths (List.replicate 144 8 ++ List.replicate 112 9 ++ List.replicate 24 7
      ++ List.replicate 8 8)
    distances := .ofLengths (List.replicate 32 5) }

/-- The order in which the lengths of the third code stand. -/
def lengthOrder : List Nat := [16, 17, 18, 0, 8, 7, 9, 6, 10, 5, 11, 4, 12, 3, 13, 2, 14, 1, 15]

def readNumbers (width : Nat) : (count : Nat) → Bits → Except Halt (List Nat × Bits)
  | 0, bits => .ok ([], bits)
  | count + 1, bits => do
    let (n, rest) ← bits.number width
    let (ns, rest) ← readNumbers width count rest
    return (n :: ns, rest)

/-- How often a symbol of the third code repeats a length at least, and the bits that add to
it. -/
def repetitionBase : Nat → Nat × Nat
  | 16 => (3, 2)
  | 17 => (3, 3)
  | 18 => (11, 7)
  | _ => (1, 0)

/-- The length that a symbol of the third code repeats: the one before it, zero, or itself. -/
def repeatedLength? (last : Option Nat) : Nat → Option Nat
  | 16 => last
  | 17 | 18 => some 0
  | length => some length

theorem one_le_repetitionBase (symbol : Nat) : 1 ≤ (repetitionBase symbol).1 := by
  unfold repetitionBase
  split <;> decide

/-- Code lengths, `count` of which are to come; the last one may be repeated. -/
def readLengths (code : PrefixCode) (last : Option Nat) (count : Nat) (bits : Bits) :
    ReadResult (List Nat) :=
  if count = 0 then .ok ([], bits)
  else match code.read bits with
    | .error halt => .error halt
    | .ok (found, rest) =>
      let symbol := found.getD 0
      match rest.number (repetitionBase symbol).2 with
      | .error halt => .error halt
      | .ok (more, rest) =>
        let times := (repetitionBase symbol).1 + more
        match repeatedLength? last symbol with
        | none => .error (.fault .lengthRepeat)
        | some length =>
          if count < times then .error (.fault .lengthRepeat)
          else match readLengths code (some length) (count - times) rest with
            | .error halt => .error halt
            | .ok (lengths, rest) => .ok (List.replicate times length ++ lengths, rest)
termination_by count
decreasing_by
  have := one_le_repetitionBase (found.getD 0)
  omega

def demand (condition : Bool) (fault : StreamFault) : Except Halt Unit :=
  if condition then .ok () else .error (.fault fault)

def readCodes (bits : Bits) : Except Halt (BlockCodes × Bits) := do
  let (counts, rest) ← bits.number 14
  let literalCount := counts % 32 + 257
  let distanceCount := counts / 32 % 32 + 1
  demand (literalCount ≤ 286 && distanceCount ≤ 30) .symbolCounts
  let (ordered, rest) ← readNumbers 3 (counts / 1024 + 4) rest
  let lengthOf (symbol : Nat) : Nat :=
    (((lengthOrder.zip ordered).find? (·.1 == symbol)).map (·.2)).getD 0
  let lengthCode := PrefixCode.ofLengths ((List.range 19).map lengthOf)
  demand lengthCode.isUsableForLengths .lengthCode
  let (lengths, rest) ← readLengths lengthCode none (literalCount + distanceCount) rest
  demand (lengths.getD 256 0 != 0) .missingEnd
  let literals := PrefixCode.ofLengths (lengths.take literalCount)
  demand literals.isUsable .literalCode
  let distances := PrefixCode.ofLengths (lengths.drop literalCount)
  demand distances.isUsable .distanceCode
  return (⟨literals, distances⟩, rest)

def copyOctets : (count : Nat) → Array UInt8 → Bits → Inflated
  | 0, written, bits => (written, .ok bits)
  | count + 1, written, bits =>
    match bits.number 8 with
    | .error halt => (written, .error halt)
    | .ok (b, rest) => copyOctets count (written.push (UInt8.ofNat b)) rest

def inflateStored (written : Array UInt8) (bits : Bits) : Inflated :=
  match bits.alignToOctet.number 32 with
  | .error halt => (written, .error halt)
  | .ok (n, rest) =>
    if n % 65536 + n / 65536 = 65535 then copyOctets (n % 65536) written rest
    else (written, .error (.fault .storedLength))

/-- A block of one of four kinds, of which the last one does not exist. -/
def inflateBlock (kind : Nat) (written : Array UInt8) (bits : Bits) : Inflated :=
  match kind with
  | 0 => inflateStored written bits
  | 1 => inflateSymbols fixedCodes written bits
  | 2 =>
    match readCodes bits with
    | .error halt => (written, .error halt)
    | .ok (codes, rest) => inflateSymbols codes written rest
  | _ => (written, .error (.fault .blockType))

/-- Blocks up to the last one, which is marked. No more blocks are read than there are bits. -/
def inflateBlocks : (most : Nat) → Array UInt8 → Bits → Inflated
  | 0, written, _ => (written, .error .exhausted)
  | most + 1, written, bits =>
    match bits.number 3 with
    | .error halt => (written, .error halt)
    | .ok (head, rest) =>
      match inflateBlock (head / 2) written rest with
      | (written, .error halt) => (written, .error halt)
      | (written, .ok rest) =>
        if head % 2 = 1 then (written, .ok rest) else inflateBlocks most written rest

/-- Deflated data: every block takes three bits at least. -/
def inflate (bits : Bits) : Inflated := inflateBlocks (bits.length / 3 + 1) #[] bits

end PolicyAgent.Compression
