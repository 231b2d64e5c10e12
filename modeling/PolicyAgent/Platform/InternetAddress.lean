import PolicyAgent.Text.Quoted

/-!
# Addresses of the internet

An address of version 4 is four decimal numbers between dots, one for each octet. An address of
version 6 is eight groups of up to four hexadecimal digits between colons; two colons in a row
stand for one or more groups of zero, once at most, and the last two groups may be written as an
address of version 4. Behind a percent sign follows the zone in which the address is valid.
-/
namespace PolicyAgent.Platform

open PolicyAgent.Text

namespace InternetAddress

/-- A number below 256 without needless zeros. -/
def isOctet (cs : List Char) : Bool :=
  cs.all Char.isDigit
    && match cs with
      | [_] => true
      | [a, _] => a != '0'
      | [a, b, c] => a == '1' || (a == '2' && (b < '5' || (b == '5' && c ≤ '5')))
      | _ => false

def isVersion4 (cs : List Char) : Bool :=
  let octets := cs.splitOn '.'
  octets.length == 4 && octets.all isOctet

def isGroup (cs : List Char) : Bool :=
  !cs.isEmpty && cs.length ≤ 4 && cs.all fun c => (hexValue? c).isSome

/-- The number of groups between colons. An address of version 4 counts for two at the end of
the whole address. -/
def groupCount? (isEnd : Bool) (cs : List Char) : Option Nat :=
  if cs.isEmpty then some 0
  else
    let groups := cs.splitOn ':'
    let last := groups.getLastD []
    if isEnd && isVersion4 last then
      if groups.dropLast.all isGroup then some (groups.length + 1) else none
    else if groups.all isGroup then some groups.length
    else none

/-- The text before and behind the first two colons in a row, if there are any. -/
def cutAtGap : List Char → List Char × Option (List Char)
  | ':' :: ':' :: rest => ([], some rest)
  | [] => ([], none)
  | c :: rest => let (before, after) := cutAtGap rest; (c :: before, after)

def isVersion6Groups (cs : List Char) : Bool :=
  match cutAtGap cs with
  | (all, none) => groupCount? true all == some 8
  | (before, some after) =>
    match groupCount? false before, groupCount? true after with
    | some m, some n => m + n ≤ 7
    | _, _ => false

def isVersion6 (cs : List Char) : Bool :=
  isVersion6Groups (cs.takeWhile (· ≠ '%'))
    && match cs.dropWhile (· ≠ '%') with
      | [] => true
      | _ :: zone => !zone.isEmpty && !zone.contains '%'

end InternetAddress

end PolicyAgent.Platform
