import PolicyAgent.Decimal.Reading
import PolicyAgent.Platform.Host
import PolicyAgent.Text.Repertoire

/-!
# Addresses of the platform

A base address is taken apart into scheme, authority, path, query and fragment. An authority
is user information, a host and a number behind a colon, none of which has to be there. Scheme
and host are written in lower case, the number is left out where the scheme implies it, dot
segments of the path are resolved, and characters that may not stand in a part are written as
their octets behind percent signs. An endpoint lies one segment below the base address. It is
built from the written parts of the base address by the same rules.
-/
namespace PolicyAgent.Platform

open PolicyAgent.Text

inductive UrlPart
  | scheme
  | authority
  | path
  | query
  | fragment
  deriving DecidableEq, Repr

def UrlPart.name : UrlPart → String
  | scheme => "scheme"
  | authority => "authority"
  | path => "path"
  | query => "query"
  | fragment => "fragment"

inductive UrlError
  | tooLong
  | controlCharacter (p : Point) (position : Nat)
  | partTooLong (part : UrlPart)
  | controlInPart (part : UrlPart) (p : Point) (position : Nat)
  | host (e : HostError)
  | hostNumber (text : String)
  | pathWithoutSlash
  | doubleSlash
  | leadingColon
  | unwritable (e : RepertoireError)
  deriving DecidableEq, Repr

def UrlError.message : UrlError → String
  | tooLong => "URL too long"
  | controlCharacter p position =>
    let shown := quoted (ofPoints [p])
    s!"Invalid non-printable ASCII character in URL, {shown} at position {position}."
  | partTooLong part => s!"URL component '{part.name}' too long"
  | controlInPart part p position =>
    let shown := quoted (ofPoints [p])
    s!"Invalid non-printable ASCII character in URL {part.name} component, "
      ++ s!"{shown} at position {position}."
  | host e => e.message
  | hostNumber text => s!"Invalid port: {quoted text}"
  | pathWithoutSlash => "For absolute URLs, path must be empty or begin with '/'"
  | doubleSlash => "Relative URLs cannot have a path starting with '//'"
  | leadingColon => "Relative URLs cannot have a path starting with ':'"
  | unwritable e => e.message

/-- The parts of an address as they are written. -/
structure Url where
  scheme : List Char
  user : List Char
  host : List Char
  number : Option Int
  path : List Char
  query : Option (List Char)
  fragment : Option (List Char)
  deriving DecidableEq, Repr

/-- The texts between the marks of an address. -/
structure UrlTexts where
  scheme : List Char
  authority : List Char
  path : List Char
  query : Option (List Char)
  fragment : Option (List Char)
  deriving DecidableEq, Repr

/-- The text before a mark and, if the mark is there, the text after it. -/
def cutAt (mark : Char) (cs : List Char) : List Char × Option (List Char) :=
  match cs.dropWhile (· ≠ mark) with
  | _ :: rest => (cs.takeWhile (· ≠ mark), some rest)
  | [] => (cs, none)

def cutAtLast (mark : Char) (cs : List Char) : List Char × Option (List Char) :=
  let back := cs.reverse
  match back.dropWhile (· ≠ mark) with
  | _ :: before => (before.reverse, some (back.takeWhile (· ≠ mark)).reverse)
  | [] => (cs, none)

namespace UrlTexts

def isSchemeChar (c : Char) : Bool := c.isAlphanum || c = '+' || c = '.' || c = '-'

/-- The scheme before the first colon, if the text starts with one. -/
def takeScheme (cs : List Char) : List Char × List Char :=
  let scheme := cs.takeWhile isSchemeChar
  match cs.dropWhile isSchemeChar with
  | ':' :: rest =>
    if scheme.head?.all Char.isAlpha then (scheme, rest) else ([], cs)
  | _ => ([], cs)

def takeAuthority : List Char → List Char × List Char
  | '/' :: '/' :: rest =>
    let ends (c : Char) : Bool := c = '/' || c = '?' || c = '#'
    (rest.takeWhile (!ends ·), rest.dropWhile (!ends ·))
  | rest => ([], rest)

def ofChars (cs : List Char) : UrlTexts :=
  let (beforeFragment, fragment) := cutAt '#' cs
  let (beforeQuery, query) := cutAt '?' beforeFragment
  let (scheme, afterScheme) := takeScheme beforeQuery
  let (authority, path) := takeAuthority afterScheme
  { scheme, authority, path, query, fragment }

def splitAuthority (authority : List Char) : List Char × List Char × List Char :=
  let (before, after) := cutAtLast '@' authority
  let (user, hostAndNumber) := match after with
    | some rest => (before, rest)
    | none => ([], authority)
  let host := match hostAndNumber with
    | '[' :: _ =>
      match cutAtLast ']' hostAndNumber with
      | (inner, some _) => inner ++ [']']
      | (_, none) => hostAndNumber.takeWhile (· ≠ ':')
    | _ => hostAndNumber.takeWhile (· ≠ ':')
  let number := match hostAndNumber.drop host.length with
    | ':' :: number => number
    | number => number
  (user, host, number)

end UrlTexts

namespace Url

def isGraphicBut (excluded : List Char) (c : Char) : Bool :=
  0x20 < c.toNat && c.toNat < 0x7f && !excluded.contains c

def backquote : Char := Char.ofNat 0x60

def isFragmentSafe : Char → Bool := isGraphicBut ['"', '<', '>', backquote]

def isQuerySafe : Char → Bool := isGraphicBut ['"', '#', '<', '>']

def isPathSafe : Char → Bool :=
  isGraphicBut ['"', '#', '<', '>', '?', backquote, '\x7b', '\x7d']

def isUserSafe (c : Char) : Bool := isPathSafe c && !"/;=@[\\]^|".toList.contains c

/-- A part as it is written; what UTF-8 cannot write is refused. -/
def encodePart (safe : Char → Bool) (cs : List Char) : Except UrlError (List Char) :=
  match (points cs).find? (!Repertoire.utf8.has ·) with
  | some p => .error (.unwritable ⟨.utf8, 0, [p]⟩)
  | none => .ok (percentEncode safe cs)

/-- A path without its dot segments; a double dot takes the segment before it away. -/
def resolveSegments : (done : List (List Char)) → List (List Char) → List (List Char)
  | done, [] => done.reverse
  | done, segment :: rest =>
    if segment = ['.'] then resolveSegments done rest
    else if segment = ['.', '.'] then
      resolveSegments (if done = [[]] then done else done.drop 1) rest
    else resolveSegments (segment :: done) rest

def resolvePath (path : List Char) : List Char :=
  ['/'].intercalate (resolveSegments [] (path.splitOn '/'))

def impliedNumber (scheme : List Char) : Option Int :=
  ([("http", 80), ("https", 443), ("ws", 80), ("wss", 443), ("ftp", 21)].find?
    (·.1.toList == scheme)).map (·.2)

def greatestDigits : Nat := 4300

def readNumber (scheme number : List Char) : Except UrlError (Option Int) :=
  let digits := (number.filter fun c => (decimalDigit? c).isSome).length
  if number = [] then .ok none
  else match Decimal.readWhole? (String.ofList number) with
    | none => .error (.hostNumber (String.ofList number))
    | some n =>
      if greatestDigits < digits then .error (.hostNumber (String.ofList number))
      else .ok (if impliedNumber scheme = some n then none else some n)

def site (url : Url) : List Char :=
  Host.write url.host ++ (url.number.map fun n => ':' :: (toString n).toList).getD []

/-- What stands between two slashes and the path: user information and a site. -/
def authority (url : Url) : List Char :=
  (if url.user = [] then [] else url.user ++ ['@']) ++ url.site

def hasAuthority (url : Url) : Bool :=
  !url.user.isEmpty || !url.host.isEmpty || url.number.isSome

def checkPath (url : Url) : Except UrlError Unit :=
  if url.hasAuthority then
    if url.path = [] ∨ url.path.head? = some '/' then .ok () else .error .pathWithoutSlash
  else if url.scheme = [] then
    if "//".toList.isPrefixOf url.path then .error .doubleSlash
    else if url.path.head? = some ':' then .error .leadingColon
    else .ok ()
  else .ok ()

def ofTexts (texts : UrlTexts) : Except UrlError Url := do
  let (user, host, number) := UrlTexts.splitAuthority texts.authority
  let scheme := texts.scheme.map Char.toLower
  let user ← encodePart isUserSafe user
  let host ← (Host.ofChars host).mapError .host
  let number ← readNumber scheme number
  let url : Url :=
    { scheme, user, host, number, path := texts.path, query := none, fragment := none }
  checkPath url
  let path := if scheme = [] ∧ !url.hasAuthority then url.path else resolvePath url.path
  return { url with
    path := ← encodePart isPathSafe path
    query := ← texts.query.mapM (encodePart isQuerySafe)
    fragment := ← texts.fragment.mapM (encodePart isFragmentSafe) }

/-- An address and each of its parts have at most this many points. -/
def greatestLength : Nat := 65536

/-- Control characters of ASCII have no place in an address. -/
def isControl (p : Point) : Bool := p.code < 0x20 || p.code = 0x7f

def ofChars (cs : List Char) : Except UrlError Url :=
  let ps := points cs
  if greatestLength < ps.length then .error .tooLong
  else match ps.findIdx? isControl with
    | some i => .error (.controlCharacter (ps.getD i (.char ' ')) i)
    | none => ofTexts (UrlTexts.ofChars cs)

def write (url : Url) : List Char :=
  (if url.scheme = [] then [] else url.scheme ++ [':'])
    ++ (if url.authority = [] then [] else '/' :: '/' :: url.authority)
    ++ url.path ++ (url.query.map ('?' :: ·)).getD [] ++ (url.fragment.map ('#' :: ·)).getD []

def texts (url : Url) : UrlTexts :=
  { scheme := url.scheme, authority := url.authority, path := url.path, query := url.query,
    fragment := url.fragment }

def checkPart (part : UrlPart) (cs : List Char) : Except UrlError Unit :=
  let ps := points cs
  if greatestLength < ps.length then .error (.partTooLong part)
  else match ps.findIdx? isControl with
    | some i => .error (.controlInPart part (ps.getD i (.char ' ')) i)
    | none => .ok ()

def ofParts (texts : UrlTexts) : Except UrlError Url := do
  checkPart .scheme texts.scheme
  checkPart .authority texts.authority
  checkPart .path texts.path
  texts.query.forM (checkPart .query)
  texts.fragment.forM (checkPart .fragment)
  ofTexts texts

def withSlash (cs : List Char) : List Char :=
  if cs.getLast? = some '/' then cs else cs ++ ['/']

/-- The parts with some text behind the query if there is one, behind the path otherwise. An
empty path is a slash. -/
def extended (url : Url) (extension : List Char → List Char) : UrlTexts :=
  let path := if url.path = [] then ['/'] else url.path
  match url.query with
  | some query => { url.texts with path, query := some (extension query) }
  | none => { url.texts with path := extension path }

def directory (url : Url) : Except UrlError Url :=
  let texts := url.extended withSlash
  if texts = url.extended id then .ok url else ofParts texts

def child (url : Url) (segment : List Char) : Except UrlError Url :=
  ofParts (url.extended fun cs => withSlash cs ++ segment)

end Url

end PolicyAgent.Platform
