import PolicyAgent.Text.Percent
import PolicyAgent.Text.Ranges

/-!
# Parameters of headers

A header is followed by parameters behind semicolons, each a name and a value with an equality
sign between them. Semicolons inside of quotes belong to a value. A value may be written in
numbered sections, and with percent signs behind the name of a character set and of a language;
the name of the parameter then ends in an asterisk.
-/
namespace PolicyAgent.Text

structure HeaderParameter where
  name : List Char
  value : List Char
  deriving DecidableEq, Repr

/-- A value as it is meant, or with the character set of its octets, if it names one. -/
inductive ParameterValue
  | plain (text : List Char)
  | octets (charset : Option (List Char)) (text : List Char)
  deriving DecidableEq, Repr

namespace HeaderParameter

def isPadding (c : Char) : Bool := inRanges [(0x9, 0xd), (0x1c, 0x20)] c

def trim (cs : List Char) : List Char :=
  ((cs.dropWhile isPadding).reverse.dropWhile isPadding).reverse

/-- The texts between semicolons outside of quotes. A quote behind a backslash is none. -/
def split (inQuotes : Bool) (before : Char) : List Char → List (List Char)
  | [] => [[]]
  | c :: rest =>
    if c = ';' ∧ !inQuotes then [] :: split false ';' rest
    else
      let turns := c = '"' ∧ before ≠ '\\'
      match split (if turns then !inQuotes else inQuotes) c rest with
      | part :: parts => (c :: part) :: parts
      | [] => [[c]]

def ofChars (cs : List Char) : HeaderParameter :=
  { name := (trim (cs.takeWhile (· ≠ '='))).map Char.toLower
    value := trim ((cs.dropWhile (· ≠ '=')).drop 1) }

/-- The header itself is the first of its parameters. -/
def ofHeader (header : List Char) : List HeaderParameter := (split false ';' header).map ofChars

def unescape (c : Char) : List Char → List Char
  | a :: b :: rest =>
    if a = '\\' ∧ b = c then c :: unescape c rest else a :: unescape c (b :: rest)
  | cs => cs

def unquote (cs : List Char) : List Char :=
  let inner := (cs.drop 1).dropLast
  if cs.length < 2 then cs
  else if cs.head? = some '"' ∧ cs.getLast? = some '"' then unescape '"' (unescape '\\' inner)
  else if cs.head? = some '<' ∧ cs.getLast? = some '>' then inner
  else cs

/-- A section of a value: its number, if it has one, its text, and whether it has percent
signs. -/
structure Section where
  number : Option Nat
  text : List Char
  hasOctets : Bool
  deriving DecidableEq, Repr

def isWordChar (c : Char) : Bool := c.isAlphanum || c = '_'

/-- The name of the parameter that a parameter is a section of, and the section. -/
def section? (p : HeaderParameter) : Option (List Char × Section) :=
  let name := p.name.takeWhile isWordChar
  match p.name.dropWhile isWordChar with
  | '*' :: behind =>
    let digits := behind.takeWhile Char.isDigit
    let number := digits.foldl (fun n c => 10 * n + (c.toNat - '0'.toNat)) 0
    let text := unquote p.value
    if name = [] then none
    else match digits, behind.dropWhile Char.isDigit with
      | [], [] => some (name, ⟨none, text, true⟩)
      | _ :: _, [] => some (name, ⟨some number, text, false⟩)
      | _ :: _, ['*'] => some (name, ⟨some number, text, true⟩)
      | _, _ => none
  | _ => none

def Section.chars (s : Section) : List Char :=
  if s.hasOctets then (percentDecode s.text).map fun b => Char.ofNat b.toNat else s.text

/-- Sections with and without a number have no order. Of the first parameter that has both,
whether its first section has a number. -/
def unordered? (parameters : List HeaderParameter) : Option Bool :=
  let sections := (parameters.drop 1).filterMap section?
  let hasBoth (s : List Char × Section) : Bool :=
    sections.any fun t => t.1 == s.1 && t.2.number.isSome != s.2.number.isSome
  (sections.find? hasBoth).map (·.2.number.isSome)

def joinSections (sections : List Section) : ParameterValue :=
  let sorted := sections.mergeSort fun a b =>
    let m := a.number.getD 0
    let n := b.number.getD 0
    m < n || (m == n && !b.text.lex a.text fun c d => c < d)
  let text := sorted.flatMap Section.chars
  if sorted.any (·.hasOctets) then
    match text.splitOn '\'' with
    | charset :: _ :: rest@(_ :: _) =>
      .octets (if charset = [] then none else some charset) (['\''].intercalate rest)
    | _ => .octets none text
  else .plain text

/-- The value of a parameter. One that is written as a whole comes before one in sections, and
the header itself is no section. -/
def find? (name : List Char) : List HeaderParameter → Option ParameterValue
  | [] => none
  | header :: rest =>
    match (header :: rest.filter (·.section?.isNone)).find? (·.name == name) with
    | some p => some (.plain (unquote p.value))
    | none =>
      match (rest.filterMap section?).filter (·.1 == name) with
      | [] => none
      | sections => some (joinSections (sections.map (·.2)))

end HeaderParameter

end PolicyAgent.Text
