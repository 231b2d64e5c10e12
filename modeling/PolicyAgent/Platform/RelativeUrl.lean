import PolicyAgent.Platform.Url

/-!
# Relative addresses

An address without a scheme or a host is relative to another one and takes from it the parts
that it lacks, up to the first part of its own. A path of its own that does not start with a
slash goes on behind the last slash of the other path. The schemes whose addresses work in this
way are known; any other address stands for itself.
-/
namespace PolicyAgent.Platform

open PolicyAgent.Text

/-- Schemes of addresses with a hierarchy. No scheme counts as one of them. -/
def hierarchicalSchemes : List String :=
  ["", "file", "ftp", "gopher", "http", "https", "imap", "mms", "nntp", "prospero", "rtsp", "rtsps",
   "rtspu", "sftp", "shttp", "svn", "svn+ssh", "wais", "ws", "wss"]

/-- Those of them whose paths may end in parameters. -/
def parameterSchemes : List String :=
  ["", "ftp", "http", "https", "imap", "mms", "prospero", "rtsp", "rtsps", "rtspu", "sftp", "shttp"]

namespace UrlTexts

def splitParameters (scheme path : List Char) : List Char × List Char :=
  let last := (path.reverse.takeWhile (· ≠ '/')).reverse
  match cutAt ';' last with
  | (segment, some parameters) =>
    if parameterSchemes.contains (String.ofList scheme) then
      (path.take (path.length - last.length) ++ segment, parameters)
    else (path, [])
  | (_, none) => (path, [])

/-- Segments without single dots; a double dot takes the segment before it away, if there is
one, and neither of them is the name of a file. -/
def resolve (segments : List (List Char)) : List (List Char) :=
  let step (done : List (List Char)) (segment : List Char) : List (List Char) :=
    if segment = ['.'] then done
    else if segment = ['.', '.'] then done.dropLast
    else done ++ [segment]
  let endsInDots := segments.getLast?.any fun last => last = ['.'] || last = ['.', '.']
  segments.foldl step [] ++ if endsInDots then [[]] else []

/-- A path as it goes on behind the last slash of another one. -/
def joinPaths (base path : List Char) : List Char :=
  let own := path.splitOn '/'
  let segments :=
    if path.head? = some '/' then own
    else
      let before := base.splitOn '/'
      let before := if before.getLast? = some [] then before else before.dropLast
      let all := before ++ own
      all.take 1 ++ ((all.drop 1).dropLast).filter (!·.isEmpty) ++ (all.drop 1).getLast?.toList
  let joined := ['/'].intercalate (resolve segments)
  if joined = [] then ['/'] else joined

/-- The text of a hierarchical address, in which parts without text leave no mark. -/
def write (texts : UrlTexts) : List Char :=
  let hasAuthority := !texts.authority.isEmpty || !texts.scheme.isEmpty
    || "//".toList.isPrefixOf texts.path
  let path := if texts.path = [] ∨ texts.path.head? = some '/' ∨ !hasAuthority then texts.path
    else '/' :: texts.path
  let marked (mark : Char) (part : Option (List Char)) : List Char :=
    match part with
    | none | some [] => []
    | some cs => mark :: cs
  (if texts.scheme = [] then [] else texts.scheme ++ [':'])
    ++ (if hasAuthority then '/' :: '/' :: texts.authority else []) ++ path
    ++ marked '?' texts.query ++ marked '#' texts.fragment

/-- An address with the parts that it lacks from another one of its scheme. -/
def joined (base texts : UrlTexts) : UrlTexts :=
  let texts := { texts with scheme := base.scheme }
  let (path, parameters) := splitParameters base.scheme texts.path
  let (basePath, _) := splitParameters base.scheme base.path
  if texts.authority ≠ [] then texts
  else if path = [] ∧ parameters = [] then
    let query := if texts.query.any (!·.isEmpty) then texts.query else base.query
    { texts with authority := base.authority, path := base.path, query }
  else
    let tail := if parameters = [] then [] else ';' :: parameters
    { texts with authority := base.authority, path := joinPaths basePath path ++ tail }

end UrlTexts

def joinedText (base relative : List Char) : List Char :=
  let baseTexts := UrlTexts.ofChars base
  let texts := UrlTexts.ofChars relative
  if base = [] then relative
  else if relative = [] then base
  else if (texts.scheme = [] ∨ texts.scheme = baseTexts.scheme)
      ∧ hierarchicalSchemes.contains (String.ofList baseTexts.scheme) then
    (baseTexts.joined texts).write
  else relative

def Url.join (url relative : Url) : Except UrlError Url :=
  Url.ofChars (joinedText url.write relative.write)

end PolicyAgent.Platform
