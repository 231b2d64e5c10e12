import PolicyAgent.Text.Charset.Chart

/-!
# Rows of characters

The great character sets of East Asia stand in rows of 94 characters, of which the first octet
tells the row and the second one the column. Larger sets fill the places that such rows leave
open, some with the characters of a block that the rows lack, in the order of the block.
-/
namespace PolicyAgent.Text.Charset

def rowChar? (rows : List String) (row column : Nat) : Option Char :=
  if row = 0 ∨ column = 0 then none else rows[row - 1]?.bind (charAt? · (column - 1))

def highChar? (rows : List String) (a b : UInt8) : Option Char :=
  if a < 0xa1 ∨ b < 0xa1 then none else rowChar? rows (a.toNat - 0xa0) (b.toNat - 0xa0)

/-- Ascending numbers without others, which ascend as well. -/
def without : List Nat → List Nat → List Nat
  | [], _ => []
  | xs, [] => xs
  | x :: xs, y :: ys =>
    if x < y then x :: without xs (y :: ys)
    else if y < x then without (x :: xs) ys
    else without xs ys
termination_by xs ys => xs.length + ys.length

/-- The characters of a block from `first` to `last` that are in no row, in their order. -/
def blockWithout (first last : Nat) (rows : List String) : Array Char :=
  let taken := ((rows.flatMap String.toList).map Char.toNat).mergeSort
  ((without (List.range' first (last + 1 - first)) taken).map Char.ofNat).toArray

/-- ASCII octets are characters, other ones start a character of two octets. -/
def twoOctetStep (char? : UInt8 → UInt8 → Option Char) : List UInt8 → Step Unit
  | [] => .incomplete
  | a :: rest =>
    if a < 0x80 then .characters [Char.ofNat a.toNat] 1 ()
    else match rest with
      | [] => .incomplete
      | b :: _ => Step.ofChar? (char? a b) 2

end PolicyAgent.Text.Charset
