import PolicyAgent.Text.Base64
import PolicyAgent.Text.Charset.Decoder
import PolicyAgent.Text.Units

/-!
# Character sets of Unicode

All characters of Unicode can be written in UTF-8, UTF-16 and UTF-32, and in UTF-7, which writes
units of 16 bits to base 64 between a plus and a minus sign. A mark at the head of a text can
tell the order of its octets; a text without a mark needs a character set that tells it.
-/
namespace PolicyAgent.Text.Charset

/-- UTF-8 behind a mark, which may be missing, but not be there in part. -/
def readMarkedUtf8 : List UInt8 → List Char
  | [0xef] | [0xef, 0xbb] => []
  | 0xef :: 0xbb :: 0xbf :: rest => readUtf8Leniently 0 rest
  | octets => readUtf8Leniently 0 octets

def utf16Step (bigEndian : Bool) : List UInt8 → Step Unit
  | a :: b :: rest =>
    let n := joinOctets bigEndian [a, b]
    if isLowSurrogate n then .refused 2 ()
    else if isHighSurrogate n then
      match rest with
      | c :: d :: _ =>
        let m := joinOctets bigEndian [c, d]
        if isLowSurrogate m then .characters [joinSurrogates n m] 4 () else .refused 2 ()
      | _ => .incomplete
    else .characters [Char.ofNat n] 2 ()
  | _ => .incomplete

def utf32Step (bigEndian : Bool) : List UInt8 → Step Unit
  | a :: b :: c :: d :: _ =>
    let n := joinOctets bigEndian [a, b, c, d]
    if isSurrogate n ∨ 0x10ffff < n then .refused 4 () else .characters [Char.ofNat n] 4 ()
  | _ => .incomplete

def readUtf16 (bigEndian : Bool) : List UInt8 → List Point :=
  (Decoder.stateless (utf16Step bigEndian)).read

def readUtf32 (bigEndian : Bool) : List UInt8 → List Point :=
  (Decoder.stateless (utf32Step bigEndian)).read

/-- UTF-16 behind its mark, if it is there. Less than one unit has no mark. -/
def readMarkedUtf16? : List UInt8 → Option (List Point)
  | 0xfe :: 0xff :: rest => some (readUtf16 true rest)
  | 0xff :: 0xfe :: rest => some (readUtf16 false rest)
  | _ :: _ :: _ => none
  | octets => some (readUtf16 false octets)

def readMarkedUtf32? : List UInt8 → Option (List Point)
  | 0x00 :: 0x00 :: 0xfe :: 0xff :: rest => some (readUtf32 true rest)
  | 0xff :: 0xfe :: 0x00 :: 0x00 :: rest => some (readUtf32 false rest)
  | _ :: _ :: _ :: _ :: _ => none
  | octets => some (readUtf32 false octets)

/-- Bits that have been read to base 64 but are no unit yet, and the first half of a surrogate
pair that waits for the second one. -/
structure Utf7Section where
  bits : Nat
  count : Nat
  high : Option Nat
  deriving DecidableEq, Repr

def Utf7Section.start : Utf7Section := ⟨0, 0, none⟩

/-- Bits that are left have to be zero, and too few for a letter. -/
def Utf7Section.isWhole (s : Utf7Section) : Bool := s.count < 6 && s.bits == 0

def Utf7Section.pending (s : Utf7Section) : List Point := (s.high.map Point.ofCode).toList

def Utf7Section.push (s : Utf7Section) (value : Nat) : List Point × Utf7Section :=
  let bits := s.bits * 64 + value
  let count := s.count + 6
  if count < 16 then ([], { s with bits, count })
  else
    let count := count - 16
    let unit := bits >>> count
    let bits := bits % (1 <<< count)
    match s.high with
    | some high =>
      if isLowSurrogate unit then ([.char (joinSurrogates high unit)], ⟨bits, count, none⟩)
      else if isHighSurrogate unit then ([.ofCode high], ⟨bits, count, some unit⟩)
      else ([.ofCode high, .ofCode unit], ⟨bits, count, none⟩)
    | none =>
      if isHighSurrogate unit then ([], ⟨bits, count, some unit⟩)
      else ([.ofCode unit], ⟨bits, count, none⟩)

def value64? (b : UInt8) : Option Nat :=
  (List.range 64).find? fun n => letter64 n == Char.ofNat b.toNat

/-- Outside of a section every ASCII character stands for itself, but for the plus sign. -/
def utf7Direct (a : UInt8) (rest : List UInt8) : Step (Option Utf7Section) :=
  if a = 0x2b then
    match rest with
    | b :: _ =>
      if b = 0x2d then .characters ['+'] 2 none
      else if (value64? b).isNone then .refused 2 none
      else .characters [] 1 (some .start)
    | [] => .characters [] 1 (some .start)
  else if a < 0x80 then .characters [Char.ofNat a.toNat] 1 none
  else .refused 1 none

/-- A section ends before the first octet that is no letter; a minus sign belongs to it. -/
def utf7Step : Option Utf7Section → List UInt8 → Step (Option Utf7Section)
  | _, [] => .incomplete
  | none, a :: rest => utf7Direct a rest
  | some s, a :: rest =>
    match value64? a with
    | some value =>
      let (ps, s) := s.push value
      .points ps 1 (some s)
    | none =>
      if !s.isWhole then .refused 1 none
      else
        let before := if a < 0x80 then s.pending else []
        if a = 0x2d then .points before 1 none
        else match utf7Direct a rest with
          | .points ps size next => .points (before ++ ps) size next
          | step => step

/-- A text may end inside of a section if nothing is left over. -/
def utf7End (s : Option Utf7Section) : List Point :=
  match s with
  | some s => if s.isWhole && s.high.isNone then [] else [.char replacement]
  | none => []

def readUtf7 : List UInt8 → List Point :=
  (⟨none, utf7Step, utf7End⟩ : Decoder (Option Utf7Section)).read

end PolicyAgent.Text.Charset
