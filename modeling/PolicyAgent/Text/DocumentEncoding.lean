import PolicyAgent.Text.Units
import PolicyAgent.Text.Utf8

/-!
# Encodings of documents

A JSON document names its encoding by its first octets: a byte order mark, or the places of the
zero octets that the first two characters leave, which are ASCII.
-/
namespace PolicyAgent.Text

inductive Encoding
  | utf8
  | utf8Marked
  | utf16 (bigEndian marked : Bool)
  | utf32 (bigEndian marked : Bool)
  deriving DecidableEq, Repr

def Encoding.ofOctets : List UInt8 → Encoding
  | 0x00 :: 0x00 :: 0xfe :: 0xff :: _ => .utf32 true true
  | 0xff :: 0xfe :: 0x00 :: 0x00 :: _ => .utf32 false true
  | 0xfe :: 0xff :: _ => .utf16 true true
  | 0xff :: 0xfe :: _ => .utf16 false true
  | 0xef :: 0xbb :: 0xbf :: _ => .utf8Marked
  | a :: b :: c :: d :: _ =>
    if a = 0 then if b = 0 then .utf32 true false else .utf16 true false
    else if b = 0 then if c = 0 ∧ d = 0 then .utf32 false false else .utf16 false false
    else .utf8
  | [a, b] => if a = 0 then .utf16 true false else if b = 0 then .utf16 false false else .utf8
  | _ => .utf8

def readUtf16 (bigEndian : Bool) (octets : List UInt8) (skipped : Nat) :
    Except DecodingError (List Point) :=
  match units16 bigEndian octets with
  | (units, []) => .ok (joinUnits units)
  | (units, tail) =>
    .error ⟨if bigEndian then "utf-16-be" else "utf-16-le", skipped + 2 * units.length, tail,
      .truncated⟩

def readUtf32 (bigEndian : Bool) (octets : List UInt8) (skipped : Nat) :
    Except DecodingError (List Point) :=
  let encoding := if bigEndian then "utf-32-be" else "utf-32-le"
  let (units, tail) := units32 bigEndian octets
  match units.findIdx? (0x10ffff < ·) with
  | some i => .error ⟨encoding, skipped + 4 * i, (octets.drop (4 * i)).take 4, .outOfRange⟩
  | none =>
    if tail.isEmpty then .ok (units.map Point.ofCode)
    else .error ⟨encoding, skipped + 4 * units.length, tail, .truncated⟩

/-- The text of a JSON document, without its byte order mark. -/
def readDocument (octets : List UInt8) : Except DecodingError (List Point) :=
  match Encoding.ofOctets octets with
  | .utf8 => readUtf8 0 0 octets
  | .utf8Marked => readUtf8 0 0 (octets.drop 3)
  | .utf16 bigEndian marked =>
    if marked then readUtf16 bigEndian (octets.drop 2) 2 else readUtf16 bigEndian octets 0
  | .utf32 bigEndian marked =>
    if marked then readUtf32 bigEndian (octets.drop 4) 4 else readUtf32 bigEndian octets 0

end PolicyAgent.Text
