import PolicyAgent.Compression.Checksum
import PolicyAgent.Compression.Deflate
import PolicyAgent.Text.Ranges

/-!
# Codings of content

Content is sent in codings, of which `gzip` and `deflate` are known. Both deflate the content:
`gzip` puts a file header before it and a CRC and the length behind it, `deflate` puts two octets
before it and an Adler sum behind it. Some senders leave that frame of `deflate` out. Content
that ends early counts as far as it goes, and what follows its end is passed over.
-/
namespace PolicyAgent.Compression

open PolicyAgent.Text

def StreamFault.reason? : StreamFault → Option String
  | headerCheck => some "incorrect header check"
  | method => some "unknown compression method"
  | windowSize => some "invalid window size"
  | headerFlags => some "unknown header flags set"
  | headerSum => some "header crc mismatch"
  | dictionary => none
  | blockType => some "invalid block type"
  | storedLength => some "invalid stored block lengths"
  | symbolCounts => some "too many length or distance symbols"
  | lengthCode => some "invalid code lengths set"
  | lengthRepeat => some "invalid bit length repeat"
  | missingEnd => some "invalid code -- missing end-of-block"
  | literalCode => some "invalid literal/lengths set"
  | distanceCode => some "invalid distances set"
  | literalSymbol => some "invalid literal/length code"
  | distanceSymbol => some "invalid distance code"
  | distance => some "invalid distance too far back"
  | checksum => some "incorrect data check"
  | contentLength => some "incorrect length check"

/-- A stream that needs a dictionary is not wrong in itself. -/
def StreamFault.message (fault : StreamFault) : String :=
  match fault.reason? with
  | some reason => s!"Error -3 while decompressing data: {reason}"
  | none => "Error 2 while decompressing data"

/-- Octets of a stream, lowest octet first. -/
def number32 (bits : Bits) : ReadResult Nat := bits.number 32

/-- The next octets, highest octet first. -/
def bigNumber : (count : Nat) → (above : Nat) → Bits → ReadResult Nat
  | 0, n, bits => .ok (n, bits)
  | count + 1, n, bits =>
    match bits.number 8 with
    | .ok (b, rest) => bigNumber count (256 * n + b) rest
    | .error halt => .error halt

/-- The head of a deflated content: a multiple of 31 that names method, window and dictionary. -/
def readZlibHead (bits : Bits) : Except Halt (Unit × Bits) := do
  let (head, rest) ← bits.number 16
  let first := head % 256
  demand ((256 * first + head / 256) % 31 == 0) .headerCheck
  demand (first % 16 == 8) .method
  demand (first / 16 ≤ 7) .windowSize
  if head.testBit 13 then
    let _ ← bits.number 48
    throw (.fault .dictionary)
  return ((), rest)

/-- Octets up to and with the first zero. -/
def skipText (bits : Bits) : Except Halt (Unit × Bits) :=
  match _ : bits.number 8 with
  | .error halt => .error halt
  | .ok (b, rest) => if b = 0 then .ok ((), rest) else skipText rest
termination_by bits.length
decreasing_by have := Bits.length_of_number ‹_›; omega

def octetsOf : Bits → List UInt8
  | a :: b :: c :: d :: e :: f :: g :: h :: rest =>
    UInt8.ofNat ([a, b, c, d, e, f, g, h].foldr (fun bit n => bit.toNat + 2 * n) 0)
      :: octetsOf rest
  | _ => []

/-- The head of a file: method, flags, time and system, and the fields that the flags name. -/
def readGzipHead (bits : Bits) : Except Halt (Unit × Bits) := do
  let (magic, rest) ← bits.number 16
  demand (magic == 0x8b1f) .headerCheck
  let (methodAndFlags, rest) ← rest.number 16
  let flags := methodAndFlags / 256
  demand (methodAndFlags % 256 == 8) .method
  demand (flags < 32) .headerFlags
  let (_, rest) ← rest.number 48
  let rest ←
    if flags.testBit 2 then do
      let (length, rest) ← rest.number 16
      let (_, rest) ← rest.number (8 * length)
      pure rest
    else pure rest
  let rest ← if flags.testBit 3 then (·.2) <$> skipText rest else pure rest
  let rest ← if flags.testBit 4 then (·.2) <$> skipText rest else pure rest
  if flags.testBit 1 then
    let (sum, behind) ← rest.number 16
    let head := octetsOf (bits.take (bits.length - rest.length))
    demand (sum == crc32 head % 65536) .headerSum
    return ((), behind)
  else return ((), rest)

def checkZlibTail (content : List UInt8) (bits : Bits) : Except Halt Unit := do
  let (sum, _) ← bigNumber 4 0 bits.alignToOctet
  demand (sum == adler32 content) .checksum

def checkGzipTail (content : List UInt8) (bits : Bits) : Except Halt Unit := do
  let (sum, rest) ← number32 bits.alignToOctet
  demand (sum == crc32 content) .checksum
  let (length, _) ← number32 rest
  demand (length == content.length % 0x100000000) .contentLength

inductive ContentCoding
  | gzip
  | deflate
  deriving DecidableEq, Repr

/-- Content of a stream: nothing is wrong if it merely ends early. -/
def contentOf (written : Array UInt8) (halt : Halt) : Except StreamFault (List UInt8) :=
  match halt with
  | .exhausted => .ok written.toList
  | .fault f => .error f

def decodeFramed (readHead : Bits → Except Halt (Unit × Bits))
    (checkTail : List UInt8 → Bits → Except Halt Unit) (octets : List UInt8) :
    Except StreamFault (List UInt8) :=
  match readHead (.ofOctets octets) with
  | .error halt => contentOf #[] halt
  | .ok ((), bits) =>
    match inflate bits with
    | (written, .error halt) => contentOf written halt
    | (written, .ok rest) =>
      match checkTail written.toList rest with
      | .ok () => .ok written.toList
      | .error halt => contentOf written halt

/-- Content whose frame is wrong is read once more without a frame. -/
def ContentCoding.decode (coding : ContentCoding) (octets : List UInt8) :
    Except StreamFault (List UInt8) :=
  match coding with
  | gzip => decodeFramed readGzipHead checkGzipTail octets
  | deflate =>
    match decodeFramed readZlibHead checkZlibTail octets with
    | .ok content => .ok content
    | .error _ => decodeFramed (fun bits => .ok ((), bits)) (fun _ _ => .ok ()) octets

def ContentCoding.ofName? (name : List Char) : Option ContentCoding :=
  if name = "gzip".toList then some gzip
  else if name = "deflate".toList then some deflate
  else none

def ContentCoding.ofNames (names : List Char) : List ContentCoding :=
  ((names.map Char.toLower).splitOn ',').filterMap fun name =>
    ofName? ((name.dropWhile isPadding).reverse.dropWhile isPadding).reverse
where
  isPadding (c : Char) : Bool := inRanges [(0x9, 0xd), (0x1c, 0x20)] c

/-- The coding that was used last is undone first. -/
def decodeContent (codings : List ContentCoding) (octets : List UInt8) :
    Except StreamFault (List UInt8) :=
  codings.foldrM (fun coding octets => coding.decode octets) octets

end PolicyAgent.Compression
