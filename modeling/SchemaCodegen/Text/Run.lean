/-!
# Runs of code points

A character class is a short list of runs: code points at a fixed distance from one another
between a first and a last one. Most runs have distance one; the alternating capitals of the
extended Latin and Cyrillic blocks have distance two.
-/

namespace SchemaCodegen.Text

/-- The code points `first`, `first + step`, … up to `last`. -/
structure Run where
  first : Nat
  last : Nat
  step : Nat
deriving DecidableEq, Repr

def Run.mem (r : Run) (n : Nat) : Bool :=
  decide (r.first ≤ n) && decide (n ≤ r.last) && (n - r.first) % r.step == 0

/-- A character class as the union of its runs. -/
abbrev RunSet := List Run

def RunSet.contains (s : RunSet) (c : Char) : Bool :=
  s.any (·.mem c.toNat)

end SchemaCodegen.Text
