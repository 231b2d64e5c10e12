/-!
# JSON values

Whole numbers and floating-point numbers are kept apart, as the text of a document keeps
them apart, and whole numbers have no bound. The fields of an object stay in the order in
which their names first occurred; writing to a name that is there replaces its value.
-/
namespace PolicyAgent.Json

inductive Value
  | null
  | bool (b : Bool)
  | integer (n : Int)
  | number (x : Float)
  | string (s : String)
  | array (items : List Value)
  | object (fields : List (String × Value))
  deriving Inhabited

abbrev Fields := List (String × Value)

def Fields.get? (fields : Fields) (name : String) : Option Value :=
  (fields.find? fun field => field.1 == name).map (·.2)

def Fields.put (fields : Fields) (name : String) (value : Value) : Fields :=
  match fields with
  | [] => [(name, value)]
  | field :: rest =>
    if field.1 = name then (name, value) :: rest else field :: Fields.put rest name value

namespace Value

def isNull : Value → Bool
  | null => true
  | _ => false

/-- The name of a value's type in messages. -/
def typeName : Value → String
  | null => "NoneType"
  | bool _ => "bool"
  | integer _ => "int"
  | number _ => "float"
  | string _ => "str"
  | array _ => "list"
  | object _ => "dict"

mutual

/-- The value with nulls in the places of infinities and NaN. -/
def withoutNonFinite : Value → Value
  | number x => if x.isFinite then number x else null
  | array items => array (itemsWithoutNonFinite items)
  | object fields => object (fieldsWithoutNonFinite fields)
  | v => v

def itemsWithoutNonFinite : List Value → List Value
  | [] => []
  | item :: items => item.withoutNonFinite :: itemsWithoutNonFinite items

def fieldsWithoutNonFinite : List (String × Value) → List (String × Value)
  | [] => []
  | (name, value) :: fields => (name, value.withoutNonFinite) :: fieldsWithoutNonFinite fields

end

def ofOption : Option Value → Value := (·.getD null)

def ofText? : Option String → Value
  | some s => string s
  | none => null

@[simp] theorem isNull_eq_true {v : Value} : v.isNull = true ↔ v = null := by
  cases v <;> simp [isNull]

end Value

end PolicyAgent.Json
