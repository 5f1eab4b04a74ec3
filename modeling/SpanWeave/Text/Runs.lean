import SpanWeave.Text.Basic

namespace SpanWeave.Text

/-- The code points from the first to the second number, in steps of the third. -/
abbrev Run := Nat × Nat × Nat

/-- The code point `n` lies in a run. -/
def Run.holds (r : Run) (n : Nat) : Bool :=
  r.1 ≤ n && n ≤ r.2.1 && (n - r.1) % r.2.2 == 0

def inRuns (runs : List Run) (c : Char) : Bool := runs.any fun r => r.holds c.toNat

end SpanWeave.Text
