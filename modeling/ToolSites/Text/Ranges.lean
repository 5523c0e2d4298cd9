/-!
# Tables of code points

A class of characters is given by an ascending table of closed ranges of code
points. The search stops at the first range that starts beyond the character.
-/

namespace ToolSites.Text

/-- Whether `n` lies in one of the ranges of an ascending table. -/
def inRanges (n : Nat) : List (Nat × Nat) → Bool
  | [] => false
  | (lo, hi) :: rest => if n < lo then false else n ≤ hi || inRanges n rest

end ToolSites.Text
