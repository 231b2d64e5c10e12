import PolicyAgent.Decimal.Shortest
import PolicyAgent.Json.Value
import PolicyAgent.Text.Quoted

/-!
# Writing JSON documents

Values are written on one line; a style gives the separators. Only what the grammar demands
is escaped: quotes, backslashes and control characters, so all other characters stand for
themselves. Floating-point numbers have the fewest digits that read back and always a point
or an exponent, which keeps them apart from whole numbers.
-/
namespace PolicyAgent.Json

open PolicyAgent.Decimal PolicyAgent.Text

/-- The numbers that the grammar has no form for are written by name. -/
def numberLayout : Layout := { Layout.plain with nan := "NaN", infinity := "Infinity" }

structure Style where
  item : String
  name : String

def Style.compact : Style := ⟨",", ":"⟩

def Style.spaced : Style := ⟨", ", ": "⟩

def escapeJsonChar (c : Char) : List Char :=
  if c = '"' ∨ c = '\\' then ['\\', c]
  else if c = '\n' then ['\\', 'n']
  else if c = '\r' then ['\\', 'r']
  else if c = '\t' then ['\\', 't']
  else if c.toNat = 8 then ['\\', 'b']
  else if c.toNat = 12 then ['\\', 'f']
  else if c.toNat < 0x20 then '\\' :: 'u' :: hexDigits 4 c.toNat
  else [c]

def writeString (s : String) : String :=
  String.ofList ('"' :: s.toList.flatMap escapeJsonChar ++ ['"'])

mutual

def Value.write (style : Style) : Value → String
  | .null => "null"
  | .bool b => if b then "true" else "false"
  | .integer n => toString n
  | .number x => numberLayout.write x
  | .string s => writeString s
  | .array items => "[" ++ style.item.intercalate (writeItems style items) ++ "]"
  | .object fields => "\x7b" ++ style.item.intercalate (writeFields style fields) ++ "\x7d"

def writeItems (style : Style) : List Value → List String
  | [] => []
  | item :: items => item.write style :: writeItems style items

def writeFields (style : Style) : List (String × Value) → List String
  | [] => []
  | (name, value) :: fields =>
    (writeString name ++ style.name ++ value.write style) :: writeFields style fields

end

end PolicyAgent.Json
