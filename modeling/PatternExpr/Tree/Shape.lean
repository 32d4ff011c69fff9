import PatternExpr.Tree.Expr

/-! Measures and views of expression trees. -/
namespace PatternExpr.Expr

/-- The literals from left to right; an expression with an empty slot still has the other one's. -/
def leaves : Expr → List Literal
  | .literal l => [l]
  | .binary _ left right _ =>
    (match left with | some left => left.leaves | none => []) ++
      (match right with | some right => right.leaves | none => [])
  | .probe _ inner => inner.leaves
  | _ => []
termination_by structural t => t

/-- The operators in postfix order. -/
def operators : Expr → List Operator
  | .binary op left right _ =>
    (match left with | some left => left.operators | none => []) ++
      (match right with | some right => right.operators | none => []) ++ [op]
  | .probe _ inner => inner.operators
  | _ => []
termination_by structural t => t

/-- The largest number of binary expressions around one another. -/
def nesting : Expr → Nat
  | .binary _ left right _ =>
    max (match left with | some left => left.nesting | none => 0)
      (match right with | some right => right.nesting | none => 0) + 1
  | .probe _ inner => inner.nesting
  | _ => 0
termination_by structural t => t

/-- The nodes other than binary expressions, from left to right; a probe stands before what it
observes. -/
def atoms : Expr → List Expr
  | .binary _ left right _ =>
    (match left with | some left => left.atoms | none => []) ++
      (match right with | some right => right.atoms | none => [])
  | .probe id inner => .probe id inner :: inner.atoms
  | t => [t]
termination_by structural t => t

/-- The pattern that a node stands for, if it is a literal one or observes one. -/
def pattern? : Expr → Option Pattern
  | .literal l => l.value.pattern?
  | .probe _ inner => inner.pattern?
  | _ => none
termination_by structural t => t

/-- Both operands of the expression are patterns. -/
def comparesPatterns : Expr → Bool
  | .binary _ (some left) (some right) _ => left.pattern?.isSome && right.pattern?.isSome
  | _ => false

def isProbe : Expr → Bool
  | .probe .. => true
  | _ => false

/-- Literals and the nodes of the host that neither fail nor observe. -/
def isPassive : Expr → Bool
  | .literal _ | .void _ | .irreducible _ => true
  | _ => false

@[simp] theorem leaves_binary (op : Operator) (left right : Expr) (location : Location) :
    (binary op (some left) (some right) location).leaves = left.leaves ++ right.leaves := rfl

@[simp] theorem atoms_binary (op : Operator) (left right : Expr) (location : Location) :
    (binary op (some left) (some right) location).atoms = left.atoms ++ right.atoms := rfl

@[simp] theorem operators_binary (op : Operator) (left right : Expr) (location : Location) :
    (binary op (some left) (some right) location).operators =
      left.operators ++ right.operators ++ [op] := rfl

@[simp] theorem nesting_binary (op : Operator) (left right : Expr) (location : Location) :
    (binary op (some left) (some right) location).nesting = max left.nesting right.nesting + 1 := rfl

end PatternExpr.Expr
