/-!
# Ranges of code points

Classes of characters are kept as tables of ranges.
-/

namespace MerchantApi.Text

def inRanges (ranges : Array (Nat × Nat)) (c : Char) : Bool :=
  ranges.any fun range => range.1 ≤ c.toNat && c.toNat ≤ range.2

end MerchantApi.Text
