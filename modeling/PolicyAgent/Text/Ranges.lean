/-!
# Ranges of code points

A property of characters is a list of closed ranges of code points.
-/
namespace PolicyAgent.Text

def inRanges (ranges : List (Nat × Nat)) (c : Char) : Bool :=
  ranges.any fun range => range.1 ≤ c.toNat && c.toNat ≤ range.2

end PolicyAgent.Text
