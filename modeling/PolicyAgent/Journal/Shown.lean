import PolicyAgent.Decimal.Shortest
import PolicyAgent.Json.Value
import PolicyAgent.Text.Quoted

/-!
# Values in messages

In a message a text stands for itself. Inside of an array or object it stands between quotes, so
that one sees where it ends; arrays and objects are shown with their brackets on one line.
-/
namespace PolicyAgent.Journal

open PolicyAgent.Json PolicyAgent.Text

mutual

def quotedValue : Value → String
  | .null => "None"
  | .bool b => if b then "True" else "False"
  | .integer n => toString n
  | .number x => Decimal.Layout.plain.write x
  | .string s => quoted s
  | .array items => "[" ++ ", ".intercalate (quotedItems items) ++ "]"
  | .object fields => "\x7b" ++ ", ".intercalate (quotedFields fields) ++ "\x7d"

def quotedItems : List Value → List String
  | [] => []
  | item :: items => quotedValue item :: quotedItems items

def quotedFields : List (String × Value) → List String
  | [] => []
  | (name, value) :: fields => (quoted name ++ ": " ++ quotedValue value) :: quotedFields fields

end

def shown : Value → String
  | .string s => s
  | v => quotedValue v

end PolicyAgent.Journal
