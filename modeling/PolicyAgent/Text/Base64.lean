/-!
# Base 64

Three octets are written as four letters of six bits each. A last group of one or two octets
is filled up with zero bits, and equality signs fill the missing letters up to four.
-/
namespace PolicyAgent.Text

def letter64 (n : Nat) : Char :=
  if n < 26 then Char.ofNat ('A'.toNat + n)
  else if n < 52 then Char.ofNat ('a'.toNat + (n - 26))
  else if n < 62 then Char.ofNat ('0'.toNat + (n - 52))
  else if n = 62 then '+'
  else '/'

def group64 (a b c : UInt8) : List Char :=
  let n := a.toNat * 0x10000 + b.toNat * 0x100 + c.toNat
  [n / 0x40000, n / 0x1000 % 64, n / 64 % 64, n % 64].map letter64

def base64 : List UInt8 → List Char
  | [] => []
  | [a] => (group64 a 0 0).take 2 ++ ['=', '=']
  | [a, b] => (group64 a b 0).take 3 ++ ['=']
  | a :: b :: c :: rest => group64 a b c ++ base64 rest

end PolicyAgent.Text
