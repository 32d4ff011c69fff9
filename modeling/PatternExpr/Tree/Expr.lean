import PatternExpr.Fault.Basic

/-! Expression trees. Besides literals and binary expressions a tree may hold nodes of the host: ones
that yield nothing, that cannot be reduced, that fail, and that observe the evaluation. -/
namespace PatternExpr

structure Literal where
  value : Value
  location : Location

def Literal.equals (a b : Literal) : Bool := a.value == b.value && a.location == b.location

/-- An operand slot of a binary expression may be empty. -/
inductive Expr
  | literal (l : Literal)
  | binary (op : Operator) (left right : Option Expr) (location : Location)
  | void (location : Location)
  | irreducible (location : Location)
  | failing (fault : Fault) (location : Location)
  | probe (id : String) (inner : Expr)

namespace Expr

/-- An unsigned number that does not come from the source. -/
def number (n : Nat) : Expr := .literal ⟨.unsigned n, .synthetic⟩

def binaryName : String := "mathematical expression"

def name : Expr → String
  | .literal _ => "literal"
  | .binary .. => binaryName
  | .void _ => "void"
  | .irreducible _ => "opaque"
  | .failing .. => "fail"
  | .probe .. => "probe"

def location : Expr → Location
  | .literal l => l.location
  | .binary _ _ _ location | .void location | .irreducible location | .failing _ location => location
  | .probe .. => .synthetic

/-- Induction on trees: a binary expression has both operands or lacks one. -/
@[elab_as_elim, induction_eliminator]
theorem induct {motive : Expr → Prop}
    (literal : ∀ l, motive (.literal l))
    (binary : ∀ op left right location, motive left → motive right →
      motive (.binary op (some left) (some right) location))
    (incomplete : ∀ op left right location, left = none ∨ right = none →
      motive (.binary op left right location))
    (void : ∀ location, motive (.void location))
    (irreducible : ∀ location, motive (.irreducible location))
    (failing : ∀ fault location, motive (.failing fault location))
    (probe : ∀ id inner, motive inner → motive (.probe id inner)) : ∀ t, motive t
  | .literal l => literal l
  | .binary op (some left) (some right) location =>
    binary op left right location
      (induct literal binary incomplete void irreducible failing probe left)
      (induct literal binary incomplete void irreducible failing probe right)
  | .binary op none right location => incomplete op none right location (.inl rfl)
  | .binary op (some left) none location => incomplete op (some left) none location (.inr rfl)
  | .void location => void location
  | .irreducible location => irreducible location
  | .failing fault location => failing fault location
  | .probe id inner => probe id inner (induct literal binary incomplete void irreducible failing probe inner)

end Expr

/-- What the evaluation of a node yields. -/
inductive Reduct
  | nothing
  | literal (l : Literal)
  | irreducible (location : Location)

/-- The value of an operand, which must be a literal. -/
def Reduct.operand : Reduct → Except Fault Value
  | .nothing => .error .voidOperand
  | .literal l => .ok l.value
  | .irreducible _ => .error .nonLiteralOperand

end PatternExpr
