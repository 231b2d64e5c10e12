import PolicyAgent.Text.Charset.Decoder

/-!
# Escapes

Two character sets write every character in ASCII. An octet stands for the character with its
number, and a backslash starts an escape: a letter for a control character, up to three octal
digits, or a letter before the hexadecimal digits of a code point. The smaller set knows code
points of four and of eight digits only. A backslash that starts no escape stands for itself.
-/
namespace PolicyAgent.Text.Charset

def octetChar (b : UInt8) : Char := Char.ofNat b.toNat

/-- A code point of so many hexadecimal digits behind a backslash and a letter. Digits that are
missing at the end of the octets may be still to come. -/
def codePointStep (digits : Nat) (rest : List UInt8) : Step Unit :=
  let values := ((rest.take digits).map fun b => hexValue? (octetChar b)).takeWhile Option.isSome
  let n := values.foldl (fun n v => 16 * n + v.getD 0) 0
  if values.length = digits then
    if n ≤ 0x10ffff then .points [.ofCode n] (2 + digits) () else .refused (2 + digits) ()
  else if values.length = rest.length then .incomplete
  else .refused (2 + values.length) ()

/-- The characters that a letter stands for. A line feed behind a backslash is none. -/
def letterEscape? (c : Char) : Option (List Char) :=
  if c = '\n' then some []
  else if "\\'\"".toList.contains c then some [c]
  else ([('a', 7), ('b', 8), ('t', 9), ('n', 10), ('v', 11), ('f', 12), ('r', 13)].lookup c).map
    fun n => [Char.ofNat n]

def isOctal (c : Char) : Bool := '0' ≤ c && c ≤ '7'

def octalStep (octets : List UInt8) : Step Unit :=
  let digits := ((octets.take 3).map octetChar).takeWhile isOctal
  let n := digits.foldl (fun n c => 8 * n + (c.toNat - '0'.toNat)) 0
  .characters [Char.ofNat n] (1 + digits.length) ()

/-- Names of characters in braces are not known. -/
def nameStep : List UInt8 → Step Unit
  | [] => .incomplete
  | b :: rest =>
    let name := rest.takeWhile (· ≠ 0x7d)
    if b ≠ 0x7b then .refused 2 ()
    else if name.length = rest.length then .incomplete
    else if name.isEmpty then .refused 3 ()
    else .refused (4 + name.length) ()

def escapeStep : List UInt8 → Step Unit
  | [] => .incomplete
  | a :: rest =>
    if octetChar a ≠ '\\' then .characters [octetChar a] 1 ()
    else match rest with
      | [] => .incomplete
      | b :: behind =>
        let c := octetChar b
        match letterEscape? c with
        | some cs => .characters cs 2 ()
        | none =>
          if isOctal c then octalStep rest
          else if c = 'x' then codePointStep 2 behind
          else if c = 'u' then codePointStep 4 behind
          else if c = 'U' then codePointStep 8 behind
          else if c = 'N' then nameStep behind
          else .characters ['\\', c] 2 ()

def codePointEscapeStep : List UInt8 → Step Unit
  | [] => .incomplete
  | a :: rest =>
    if octetChar a ≠ '\\' then .characters [octetChar a] 1 ()
    else match rest with
      | [] => .characters ['\\'] 1 ()
      | b :: behind =>
        let c := octetChar b
        if c = 'u' then codePointStep 4 behind
        else if c = 'U' then codePointStep 8 behind
        else .characters ['\\', c] 2 ()

def readEscapes : List UInt8 → List Point := (Decoder.stateless escapeStep).read

def readCodePointEscapes : List UInt8 → List Point :=
  (Decoder.stateless codePointEscapeStep).read

end PolicyAgent.Text.Charset
