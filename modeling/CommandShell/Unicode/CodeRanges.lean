/-!
# Ranges of characters

A property of characters is given by the ranges of the code points that have
it, in ascending order.
-/

namespace CommandShell
namespace Unicode

/-- Ranges of code points, each with its first and its last one. -/
abbrev CodeRanges := List (Nat × Nat)

/-- Whether a character lies in one of the ranges. -/
def CodeRanges.contains (ranges : CodeRanges) (c : Char) : Bool :=
  ranges.any fun range => range.1 ≤ c.toNat && c.toNat ≤ range.2

end Unicode
end CommandShell
