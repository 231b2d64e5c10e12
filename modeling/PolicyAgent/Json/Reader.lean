import PolicyAgent.Decimal.Reading
import PolicyAgent.Json.Value
import PolicyAgent.Text.DocumentEncoding
import PolicyAgent.Text.Quoted

/-!
# Reading JSON documents

The reader takes the longest value at the head of a text and returns it with the rest. A
document is one value between blanks. Beyond the standard grammar the names `NaN`,
`Infinity` and `-Infinity` are numbers, and of several fields with one name the last counts.

A refusal names its problem and the place: the number of points that were still to be read, from
which the index, line and column of the message follow. Documents that
keep to the grammar are refused too if their arrays and objects nest too deep or a whole number
has too many digits.
-/
namespace PolicyAgent.Json

open PolicyAgent.Decimal PolicyAgent.Text

inductive Problem
  | expectingValue
  | expectingName
  | expectingColon
  | expectingComma
  | extraData
  | unterminatedString
  | controlCharacter
  | unknownEscape
  | malformedCodePoint
  deriving DecidableEq, Repr

def Problem.text : Problem → String
  | .expectingValue => "Expecting value"
  | .expectingName => "Expecting property name enclosed in double quotes"
  | .expectingColon => "Expecting ':' delimiter"
  | .expectingComma => "Expecting ',' delimiter"
  | .extraData => "Extra data"
  | .unterminatedString => "Unterminated string starting at"
  | .controlCharacter => "Invalid control character at"
  | .unknownEscape => "Invalid \\escape"
  | .malformedCodePoint => "Invalid \\uXXXX escape"

/-- How deep arrays and objects may nest, and how many digits a whole number may have. -/
structure Limits where
  nesting : Nat
  digits : Nat

def Limits.standard : Limits := ⟨980, 4300⟩

/-- Why a text is refused: a problem and the number of points from its place to the end, an array
or object inside too many others, or a whole number of too many digits. -/
inductive Refusal
  | grammar (problem : Problem) (remaining : Nat)
  | nesting (isObject : Bool)
  | digits (count limit : Nat)
  deriving DecidableEq, Repr

structure SyntaxError where
  problem : Problem
  index : Nat
  line : Nat
  column : Nat
  deriving DecidableEq, Repr

def SyntaxError.message (e : SyntaxError) : String :=
  s!"{e.problem.text}: line {e.line} column {e.column} (char {e.index})"

/-- The line of a place counts the line feeds before it, the column the points after the last of
them. -/
def SyntaxError.locate (problem : Problem) (remaining : Nat) (document : List Point) :
    SyntaxError :=
  let before := document.take (document.length - remaining)
  { problem
    index := before.length
    line := before.count (.char '\n') + 1
    column := (before.reverse.takeWhile (· ≠ .char '\n')).length + 1 }

def refuse (problem : Problem) (rest : List Point) : Except Refusal α :=
  .error (.grammar problem rest.length)

def isJsonBlank (p : Point) : Bool :=
  p = .char ' ' || p = .char '\t' || p = .char '\n' || p = .char '\r'

def skipBlanks (ps : List Point) : List Point := ps.dropWhile isJsonBlank

def hexPoint? (p : Point) : Option Nat := p.char?.bind hexValue?

def codeUnit? (a b c d : Point) : Option Nat := do
  return (← hexPoint? a) * 0x1000 + (← hexPoint? b) * 0x100 + (← hexPoint? c) * 0x10
    + (← hexPoint? d)

def shortEscape? (c : Char) : Option Char :=
  if c = '"' ∨ c = '\\' ∨ c = '/' then some c
  else if c = 'b' then some (Char.ofNat 8)
  else if c = 'f' then some (Char.ofNat 12)
  else if c = 'n' then some '\n'
  else if c = 'r' then some '\r'
  else if c = 't' then some '\t'
  else none

/-- The escaped unit at the head of a text `hhhh…` after the letter `u`, which has to be
followed by one point more. -/
def takeUnit? : List Point → Option (Nat × List Point)
  | a :: b :: c :: d :: e :: rest => (codeUnit? a b c d).map (·, e :: rest)
  | _ => none

/-- The second half of a surrogate pair, if one follows. A malformed code point after a
complete escape mark is refused. -/
def takeLowSurrogate? : List Point → Except Refusal (Option (Nat × List Point))
  | .char '\\' :: .char 'u' :: a :: b :: c :: d :: e :: rest =>
    match codeUnit? a b c d with
    | some low => .ok (if isLowSurrogate low then some (low, e :: rest) else none)
    | none => refuse .malformedCodePoint (.char 'u' :: a :: b :: c :: d :: e :: rest)
  | _ => .ok none

/-- The points up to the closing quote, and the text after it; `fuel` bounds the number of points
read. -/
def readPoints : (fuel : Nat) → List Point → Except Refusal (List Point × List Point)
  | 0, _ => refuse .unterminatedString []
  | _, [] => refuse .unterminatedString []
  | fuel + 1, p :: rest =>
    if p = .char '"' then .ok ([], rest)
    else if p.code < 0x20 then refuse .controlCharacter (p :: rest)
    else if p ≠ .char '\\' then do
      let (ps, tail) ← readPoints fuel rest
      return (p :: ps, tail)
    else match rest with
      | [] => refuse .unterminatedString []
      | .char 'u' :: digits =>
        match takeUnit? digits with
        | none => refuse .malformedCodePoint rest
        | some (unit, tail) => do
          let low ← if isHighSurrogate unit then takeLowSurrogate? tail else .ok none
          match low with
          | some (low, tail) =>
            let (ps, tail) ← readPoints fuel tail
            return (.char (joinSurrogates unit low) :: ps, tail)
          | none =>
            let (ps, tail) ← readPoints fuel tail
            return (.ofCode unit :: ps, tail)
      | e :: tail =>
        match e.char?.bind shortEscape? with
        | none => refuse .unknownEscape (p :: rest)
        | some escaped => do
          let (ps, tail) ← readPoints fuel tail
          return (.char escaped :: ps, tail)

/-- A string behind its opening quote, which is the place where an unclosed one is refused. -/
def readString (fuel : Nat) (afterQuote : List Point) : Except Refusal (String × List Point) :=
  match readPoints fuel afterQuote with
  | .ok (ps, tail) => .ok (ofPoints ps, tail)
  | .error (.grammar .unterminatedString _) => refuse .unterminatedString (.char '"' :: afterQuote)
  | .error refusal => .error refusal

/-- The whole part of a number: a zero, or digits that do not start with one. -/
def takeWhole? (cs : List Char) : Option (List Nat × List Char) :=
  match cs with
  | '0' :: rest => some ([0], rest)
  | _ =>
    match takeDigits cs with
    | ([], _) => none
    | taken => some taken

def takeFractionDigits : List Char → Option (List Nat) × List Char
  | '.' :: rest =>
    match takeDigits rest with
    | ([], _) => (none, '.' :: rest)
    | (digits, tail) => (some digits, tail)
  | rest => (none, rest)

def isOfNumber (p : Point) : Bool :=
  p.char?.any fun c => (asciiDigit? c).isSome || c = '+' || c = '-' || c = '.' || c = 'e' || c = 'E'

/-- The number at the head of a text. One without fraction and exponent is whole. -/
def readNumber (limits : Limits) (ps : List Point) : Except Refusal (Value × List Point) :=
  let cs := (ps.takeWhile isOfNumber).filterMap Point.char?
  let (negative, unsigned) := match cs with
    | '-' :: rest => (true, rest)
    | _ => (false, cs)
  match takeWhole? unsigned with
  | none => refuse .expectingValue ps
  | some (whole, afterWhole) =>
    let (fraction, afterFraction) := takeFractionDigits afterWhole
    let (exponent, rest) := takeExponent afterFraction
    let tail := rest.map .char ++ ps.dropWhile isOfNumber
    if fraction.isNone ∧ exponent.isNone then
      if limits.digits < whole.length then .error (.digits whole.length limits.digits)
      else
        let n : Int := ofDigits whole
        .ok (.integer (if negative then -n else n), tail)
    else
      let numeral : Numeral := ⟨negative, whole, fraction.getD [], exponent.getD 0⟩
      .ok (.number numeral.toFloat, tail)

def names : List (List Char × Value) :=
  [(['n', 'u', 'l', 'l'], .null), (['t', 'r', 'u', 'e'], .bool true),
   (['f', 'a', 'l', 's', 'e'], .bool false), (['N', 'a', 'N'], .number (0.0 / 0.0)),
   (['I', 'n', 'f', 'i', 'n', 'i', 't', 'y'], .number (1.0 / 0.0)),
   (['-', 'I', 'n', 'f', 'i', 'n', 'i', 't', 'y'], .number (-1.0 / 0.0))]

def takeName? (ps : List Point) : Option (Value × List Point) :=
  names.findSome? fun (name, value) =>
    if (name.map Point.char).isPrefixOf ps then some (value, ps.drop name.length) else none

mutual

/-- A value at the head of a text, inside so many arrays and objects. Of two nested calls one
consumes a point, so fuel beyond twice the length of the text is never used up. -/
def readValue (limits : Limits) :
    (fuel depth : Nat) → List Point → Except Refusal (Value × List Point)
  | 0, _, ps => refuse .expectingValue ps
  | fuel + 1, depth, ps =>
    match ps with
    | .char '"' :: rest => do
      let (s, tail) ← readString fuel rest
      return (.string s, tail)
    | .char '[' :: rest =>
      if limits.nesting ≤ depth then .error (.nesting false)
      else match skipBlanks rest with
        | .char ']' :: tail => .ok (.array [], tail)
        | items => do
          let (items, tail) ← readItems limits fuel (depth + 1) items
          return (.array items, tail)
    | .char '\x7b' :: rest =>
      if limits.nesting ≤ depth then .error (.nesting true)
      else match skipBlanks rest with
        | .char '\x7d' :: tail => .ok (.object [], tail)
        | fields => do
          let (fields, tail) ← readFields limits fuel (depth + 1) [] fields
          return (.object fields, tail)
    | _ =>
      match takeName? ps with
      | some taken => .ok taken
      | none => readNumber limits ps

def readItems (limits : Limits) :
    (fuel depth : Nat) → List Point → Except Refusal (List Value × List Point)
  | 0, _, ps => refuse .expectingValue ps
  | fuel + 1, depth, ps => do
    let (item, tail) ← readValue limits fuel depth ps
    match skipBlanks tail with
    | .char ']' :: rest => return ([item], rest)
    | .char ',' :: rest =>
      let (items, tail) ← readItems limits fuel depth (skipBlanks rest)
      return (item :: items, tail)
    | rest => refuse .expectingComma rest

def readFields (limits : Limits) :
    (fuel depth : Nat) → Fields → List Point → Except Refusal (Fields × List Point)
  | 0, _, _, ps => refuse .expectingName ps
  | fuel + 1, depth, fields, ps =>
    match ps with
    | .char '"' :: afterQuote => do
      let (name, tail) ← readString fuel afterQuote
      match skipBlanks tail with
      | .char ':' :: rest =>
        let (value, tail) ← readValue limits fuel depth (skipBlanks rest)
        let fields := fields.put name value
        match skipBlanks tail with
        | .char '\x7d' :: rest => return (fields, rest)
        | .char ',' :: rest => readFields limits fuel depth fields (skipBlanks rest)
        | rest => refuse .expectingComma rest
      | rest => refuse .expectingColon rest
    | _ => refuse .expectingName ps

end

/-- Why octets are no JSON document that can be read. -/
inductive DocumentError
  | encoding (e : DecodingError)
  | grammar (e : SyntaxError)
  | nesting (isObject : Bool)
  | digits (count limit : Nat)
  deriving DecidableEq, Repr

def DocumentError.message : DocumentError → String
  | .encoding e => e.message
  | .grammar e => e.message
  | .nesting isObject =>
    let kind := if isObject then "object" else "array"
    s!"maximum recursion depth exceeded while decoding a JSON {kind} from a unicode string"
  | .digits count limit =>
    s!"Exceeds the limit ({limit} digits) for integer string conversion: value has {count} digits"
      ++ "; use sys.set_int_max_str_digits() to increase the limit"

def Refusal.toError (document : List Point) : Refusal → DocumentError
  | grammar problem remaining => .grammar (.locate problem remaining document)
  | nesting isObject => .nesting isObject
  | digits count limit => .digits count limit

def readWhole (limits : Limits) (ps : List Point) : Except DocumentError Value :=
  let outcome := do
    let (value, tail) ← readValue limits (2 * ps.length + 2) 0 (skipBlanks ps)
    match skipBlanks tail with
    | [] => return value
    | rest => refuse .extraData rest
  outcome.mapError (Refusal.toError ps)

def readDocument (limits : Limits) (cs : List Char) : Except DocumentError Value :=
  readWhole limits (points cs)

def readOctets (octets : List UInt8) : Except DocumentError Value := do
  let ps ← (Text.readDocument octets).mapError DocumentError.encoding
  readWhole .standard ps

end PolicyAgent.Json
