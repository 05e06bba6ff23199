
/-!
# Rows of case tables

Case tables pair characters with characters, and neighbouring pairs tend to
have the same distance.  A row stands for a whole run of such pairs.
-/

namespace CommandShell
namespace Unicode

/-- The pairs whose first members run from `first` to `last` in steps of `step`
and whose second members run along with them from `target` on. -/
structure CaseRow where
  first : Nat
  last : Nat
  step : Nat
  target : Nat
  deriving DecidableEq, Repr, Inhabited

namespace CaseRow

/-- The partner of a first member of the row. -/
def toTarget? (row : CaseRow) (code : Nat) : Option Nat :=
  if row.first ≤ code && code ≤ row.last &&
      (code - row.first) % row.step == 0 then
    some (row.target + (code - row.first))
  else none

/-- The partner of a second member of the row. -/
def toFirst? (row : CaseRow) (code : Nat) : Option Nat :=
  if row.target ≤ code && code ≤ row.target + (row.last - row.first) &&
      (code - row.target) % row.step == 0 then
    some (row.first + (code - row.target))
  else none

end CaseRow

end Unicode
end CommandShell
