/-! # Ranges of characters

Classes of characters as closed ranges of code points, as the Unicode character database lists
them. -/

namespace SchemaLedger.Text

def inRanges (ranges : List (Nat × Nat)) (c : Char) : Bool :=
  ranges.any fun (low, high) => low ≤ c.toNat && c.toNat ≤ high

end SchemaLedger.Text
