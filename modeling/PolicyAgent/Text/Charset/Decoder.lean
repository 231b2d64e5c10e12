import PolicyAgent.Text.Utf8

/-!
# Reading octets leniently

A character set is read from the left, some octets at a time, and may change its state on the
way. Octets that mean nothing are given up, and U+FFFD stands for them; so it does for an end
that comes too early. Reading never fails.
-/
namespace PolicyAgent.Text.Charset

/-- What stands at the head of some octets. At least one octet is taken. -/
inductive Step (State : Type)
  | points (ps : List Point) (size : Nat) (next : State)
  | refused (size : Nat) (next : State)
  | incomplete
  deriving Repr

/-- How a character set is read: what stands at the head of some octets, and what is to be
added at their end. -/
structure Decoder (State : Type) where
  start : State
  step : State → List UInt8 → Step State
  finish : State → List Point

namespace Decoder

variable {State : Type} (d : Decoder State)

/-- Steps from a state on. `skip` counts octets of the step before that are still to be passed
over. -/
def readFrom : State → (skip : Nat) → List UInt8 → List Point
  | state, _, [] => d.finish state
  | state, skip + 1, _ :: rest => readFrom state skip rest
  | state, 0, a :: rest =>
    match d.step state (a :: rest) with
    | .points ps size next => ps ++ readFrom next (size - 1) rest
    | .refused size next => .char replacement :: readFrom next (size - 1) rest
    | .incomplete => [.char replacement]

def read (octets : List UInt8) : List Point := d.readFrom d.start 0 octets

def stateless (step : List UInt8 → Step Unit) : Decoder Unit := ⟨(), fun _ => step, fun _ => []⟩

end Decoder

def Step.characters (cs : List Char) (size : Nat) (next : State) : Step State :=
  .points (cs.map .char) size next

/-- The characters of a code, or none if it means nothing; then one octet is given up. -/
def Step.ofChars? (cs : Option (List Char)) (size : Nat) : Step Unit :=
  match cs with
  | some cs => .characters cs size ()
  | none => .refused 1 ()

def Step.ofChar? (c : Option Char) (size : Nat) : Step Unit := .ofChars? (c.map ([·])) size

end PolicyAgent.Text.Charset
