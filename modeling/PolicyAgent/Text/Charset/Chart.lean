import PolicyAgent.Text.Charset.Decoder

/-!
# Charts

A character set of single octets is shown as a chart of rows of sixteen characters. Octets above
the first row of the chart are the characters with their numbers, and U+FFFD fills the places
without a character.
-/
namespace PolicyAgent.Text.Charset

/-- A chart with the names of its character set, its main name first. -/
structure Chart where
  names : List String
  firstRow : Nat
  rows : List String
  deriving DecidableEq, Repr

def charAt? (row : String) (i : Nat) : Option Char := row.toList[i]?.filter (· != replacement)

def Chart.char? (chart : Chart) (b : UInt8) : Option Char :=
  let n := b.toNat
  if n < 16 * chart.firstRow then some (Char.ofNat n)
  else chart.rows[n / 16 - chart.firstRow]?.bind (charAt? · (n % 16))

def Chart.read (chart : Chart) (octets : List UInt8) : List Char :=
  octets.map fun b => (chart.char? b).getD replacement

end PolicyAgent.Text.Charset
