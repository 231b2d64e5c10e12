import PolicyAgent.Platform.InternetAddress
import PolicyAgent.Text.DomainName
import PolicyAgent.Text.Lowercase
import PolicyAgent.Text.Percent

/-!
# Hosts

A host is an address of the internet or a name. Text that looks like an address has to be one:
brackets hold an address of version 6, and four runs of digits with one character between each
are an address of version 4. A name in ASCII is written in lower case with percent signs, any
other one has to be a domain name and is written in its ASCII form.
-/
namespace PolicyAgent.Platform

open PolicyAgent.Text

inductive HostError
  | version4 (text : List Char)
  | version6 (text : List Char)
  | name (text : List Char)
  deriving DecidableEq, Repr

def HostError.message : HostError → String
  | version4 text => s!"Invalid IPv4 address: {quoted (String.ofList text)}"
  | version6 text => s!"Invalid IPv6 address: {quoted (String.ofList text)}"
  | name text => s!"Invalid IDNA hostname: {quoted (String.ofList text)}"

namespace Host

/-- Four runs of digits are read in eight states: the even ones wait for the first digit of a
run, the odd ones are inside a run. A digit may stand between two runs as well. -/
def nextStates (c : Char) (state : Nat) : List Nat :=
  (if c.isDigit then [if state % 2 = 0 then state + 1 else state] else [])
    ++ if state % 2 = 1 ∧ state < 7 then [state + 1] else []

def looksLikeVersion4 (cs : List Char) : Bool :=
  (cs.foldl (fun states c => (states.flatMap (nextStates c)).eraseDups) [0]).contains 7

def looksLikeVersion6 (cs : List Char) : Bool :=
  cs.head? == some '[' && cs.getLast? == some ']' && 1 < cs.length

/-- Characters that a name in ASCII has as they are: letters, digits, and all signs but those
that end a host or enclose it. -/
def isNameSafe (c : Char) : Bool :=
  c.isAlphanum || "-._~!$&'()*+,;=%|\\\"".toList.contains c
    || [0x60, 0x7b, 0x7d].contains c.toNat

def ofChars (cs : List Char) : Except HostError (List Char) :=
  if cs.isEmpty then .ok []
  else if looksLikeVersion4 cs then
    if InternetAddress.isVersion4 cs then .ok cs else .error (.version4 cs)
  else if looksLikeVersion6 cs then
    let inner := (cs.drop 1).dropLast
    if InternetAddress.isVersion6 inner then .ok inner else .error (.version6 cs)
  else if DomainName.isAscii cs then .ok (percentEncode isNameSafe (cs.map Char.toLower))
  else (DomainName.encode (lowercaseChars cs)).mapError fun _ => .name cs

/-- A host in an address; only one of version 6 has colons. -/
def write (host : List Char) : List Char :=
  if host.contains ':' then '[' :: host ++ [']'] else host

def meant (host : List Char) : Except DomainError (List Char) :=
  if DomainName.asciiMark.isPrefixOf host then DomainName.decode host else .ok host

end Host

end PolicyAgent.Platform
