import PolicyAgent.Text.Printable
import PolicyAgent.Text.Surrogate

/-!
# Quoted text

Texts that come from outside are shown in messages between quotes, with every character
that could be mistaken or not be seen written as an escape. The quote is the single one,
unless the text has single quotes and no double one. Tab, line feed, carriage return,
the backslash and the quote itself have short escapes; any other unprintable character is
written by its code point, with as few of two, four or eight hexadecimal digits as hold it.
A lone half of a surrogate pair is written by its number.
-/
namespace PolicyAgent.Text

def hexDigits (width n : Nat) : List Char :=
  match width with
  | 0 => []
  | width + 1 => hexDigits width (n / 16) ++ [Nat.digitChar (n % 16)]

def hexValue? (c : Char) : Option Nat :=
  if '0' ≤ c ∧ c ≤ '9' then some (c.toNat - '0'.toNat)
  else if 'a' ≤ c ∧ c ≤ 'f' then some (c.toNat - 'a'.toNat + 10)
  else if 'A' ≤ c ∧ c ≤ 'F' then some (c.toNat - 'A'.toNat + 10)
  else none

def quoteFor (cs : List Char) : Char :=
  if '\'' ∈ cs ∧ '"' ∉ cs then '"' else '\''

def codePointEscape (p : Point) : List Char :=
  let n := p.code
  if n < 0x100 then '\\' :: 'x' :: hexDigits 2 n
  else if n < 0x10000 then '\\' :: 'u' :: hexDigits 4 n
  else '\\' :: 'U' :: hexDigits 8 n

def escapeChar (quote c : Char) : List Char :=
  if c = quote ∨ c = '\\' then ['\\', c]
  else if c = '\t' then ['\\', 't']
  else if c = '\n' then ['\\', 'n']
  else if c = '\r' then ['\\', 'r']
  else if isPrintable c then [c]
  else codePointEscape (.char c)

def escapePoint (quote : Char) : Point → List Char
  | .char c => escapeChar quote c
  | half => codePointEscape half

def quotedChars (cs : List Char) : List Char :=
  let quote := quoteFor cs
  quote :: (points cs).flatMap (escapePoint quote) ++ [quote]

def quoted (s : String) : String := String.ofList (quotedChars s.toList)

def quotedOption : Option String → String
  | some s => quoted s
  | none => "None"

end PolicyAgent.Text
