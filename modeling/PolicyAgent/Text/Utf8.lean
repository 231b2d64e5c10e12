import PolicyAgent.Text.Quoted
import PolicyAgent.Text.Surrogate

/-!
# UTF-8

One character is read at a time from a list of octets, together with the number of octets
that it takes. An octet sequence that is no character is refused with the number of octets
that a reader has to give up: the longest start of a character that is there, or one octet.
A strict reader stops there and names the place; a lenient one puts U+FFFD and goes on.

Encoded halves of surrogate pairs have the shape of a character but are none. The strict
reader lets them pass.
-/
namespace PolicyAgent.Text

/-- What stands in a text for octets that cannot be read. -/
def replacement : Char := Char.ofNat 0xfffd

inductive OctetFault
  | invalidStart
  | invalidContinuation
  | unexpectedEnd
  | truncated
  | outOfRange
  | notAscii
  deriving DecidableEq, Repr

def OctetFault.reason : OctetFault → String
  | .invalidStart => "invalid start byte"
  | .invalidContinuation => "invalid continuation byte"
  | .unexpectedEnd => "unexpected end of data"
  | .truncated => "truncated data"
  | .outOfRange => "code point not in range(0x110000)"
  | .notAscii => "ordinal not in range(128)"

/-- A place in an octet sequence that cannot be read: the octets from `first` on, as many
as `octets` has. -/
structure DecodingError where
  encoding : String
  first : Nat
  octets : List UInt8
  fault : OctetFault
  deriving DecidableEq, Repr

def DecodingError.message (e : DecodingError) : String :=
  let place := match e.octets with
    | [b] => s!"byte 0x{String.ofList (hexDigits 2 b.toNat)} in position {e.first}"
    | octets => s!"bytes in position {e.first}-{e.first + octets.length - 1}"
  s!"'{e.encoding}' codec can't decode {place}: {e.fault.reason}"

abbrev Refusal := OctetFault × Nat

/-- Octets of the form `10xxxxxx` carry six bits of a character. -/
def isTail (b : UInt8) : Bool := 0x80 ≤ b && b ≤ 0xbf

/-- The second octets that may follow a lead, which rule out overlong forms, surrogates
and code points above U+10FFFF. -/
def secondRange (lead : UInt8) : UInt8 × UInt8 :=
  if lead = 0xe0 then (0xa0, 0xbf)
  else if lead = 0xed then (0x80, 0x9f)
  else if lead = 0xf0 then (0x90, 0xbf)
  else if lead = 0xf4 then (0x80, 0x8f)
  else (0x80, 0xbf)

def inSecondRange (lead b : UInt8) : Bool :=
  (secondRange lead).1 ≤ b && b ≤ (secondRange lead).2

/-- The low six bits of each octet after the first bits of the lead. -/
def joinBits (lead : Nat) (tails : List UInt8) : Char :=
  Char.ofNat (tails.foldl (fun n b => n * 64 + (b.toNat - 0x80)) lead)

def nextUtf8 : List UInt8 → Except Refusal (Char × Nat)
  | [] => .error (.unexpectedEnd, 0)
  | a :: rest =>
    if a < 0x80 then .ok (Char.ofNat a.toNat, 1)
    else if a < 0xc2 ∨ 0xf4 < a then .error (.invalidStart, 1)
    else match rest with
      | [] => .error (.unexpectedEnd, 1)
      | b :: rest =>
        if !inSecondRange a b then .error (.invalidContinuation, 1)
        else if a < 0xe0 then .ok (joinBits (a.toNat - 0xc0) [b], 2)
        else match rest with
          | [] => .error (.unexpectedEnd, 2)
          | c :: rest =>
            if !isTail c then .error (.invalidContinuation, 2)
            else if a < 0xf0 then .ok (joinBits (a.toNat - 0xe0) [b, c], 3)
            else match rest with
              | [] => .error (.unexpectedEnd, 3)
              | d :: _ =>
                if !isTail d then .error (.invalidContinuation, 3)
                else .ok (joinBits (a.toNat - 0xf0) [b, c, d], 4)

/-- The half of a surrogate pair that the first three octets would be as a character. -/
def encodedHalf? : List UInt8 → Option Point
  | a :: b :: c :: _ =>
    if a == 0xed && 0xa0 ≤ b && b ≤ 0xbf && isTail c then
      some (.ofCode (0xd000 + (b.toNat - 0x80) * 64 + (c.toNat - 0x80)))
    else none
  | _ => none

/-- Strict reading that lets encoded halves pass. `skip` counts octets of the character before
that are still to be passed over. -/
def readUtf8 : (position skip : Nat) → List UInt8 → Except DecodingError (List Point)
  | _, _, [] => .ok []
  | position, skip + 1, _ :: rest => readUtf8 (position + 1) skip rest
  | position, 0, a :: rest =>
    match nextUtf8 (a :: rest) with
    | .ok (c, size) => (readUtf8 (position + 1) (size - 1) rest).map (.char c :: ·)
    | .error (fault, size) =>
      match encodedHalf? (a :: rest) with
      | some half => (readUtf8 (position + 1) 2 rest).map (half :: ·)
      | none => .error ⟨"utf-8", position, (a :: rest).take size, fault⟩

def readUtf8Leniently : (skip : Nat) → List UInt8 → List Char
  | _, [] => []
  | skip + 1, _ :: rest => readUtf8Leniently skip rest
  | 0, a :: rest =>
    match nextUtf8 (a :: rest) with
    | .ok (c, size) => c :: readUtf8Leniently (size - 1) rest
    | .error (_, size) => replacement :: readUtf8Leniently (size - 1) rest

def utf8Octets (s : String) : List UInt8 := s.toUTF8.toList

end PolicyAgent.Text
