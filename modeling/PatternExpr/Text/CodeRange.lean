/-! Sets of characters given as runs of code points. -/
namespace PatternExpr

/-- The code points `first` to `last`, both included. -/
structure CodeRange where
  first : Nat
  last : Nat

/-- A table lists its ranges in ascending order, with a gap between any two. -/
abbrev CodeTable := List CodeRange

namespace CodeTable

def ofPairs (pairs : List (Nat × Nat)) : CodeTable := pairs.map fun p => ⟨p.1, p.2⟩

def contains (t : CodeTable) (c : Char) : Bool := t.any fun r => r.first ≤ c.toNat && c.toNat ≤ r.last

def size (t : CodeTable) : Nat := (t.map fun r => r.last + 1 - r.first).foldl (· + ·) 0

def isAscending : CodeTable → Bool
  | [] => true
  | [r] => r.first ≤ r.last
  | r :: s :: t => r.first ≤ r.last && r.last + 1 < s.first && isAscending (s :: t)

end CodeTable
end PatternExpr
