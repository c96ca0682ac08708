/-!
# Interval tables

Classes of characters are given as tables of inclusive intervals of code points.
-/

namespace EraRewards
namespace Text

/-- Whether a code point lies in one of the inclusive intervals of a table. -/
def inIntervals (table : Array (Nat × Nat)) (n : Nat) : Bool :=
  table.any fun interval => interval.1 ≤ n && n ≤ interval.2

end Text
end EraRewards
