/-!
# Sets of characters as ranges

A property of Unicode is given as a list of closed ranges of character numbers in increasing order.
-/
namespace Portability.Text

def inRanges (ranges : List (Nat × Nat)) (n : Nat) : Bool :=
  ranges.any fun (first, last) => first ≤ n && n ≤ last

end Portability.Text
