import PatternExpr.Tree.Expr

/-! Static types, read off the leaves of a tree and its operators. -/
namespace PatternExpr

/-- The kind of arithmetic on operands of two kinds: that of floats if there is a float, else unsigned if
there is an unsigned integer, else signed, but for two truth values. -/
def NumericKind.join (l r : NumericKind) : NumericKind :=
  if l = .float ∨ r = .float then .float
  else if l = .unsigned ∨ r = .unsigned then .unsigned
  else if l = .bool ∧ r = .bool then .bool
  else .signed

/-- The type of an operator's result on operands of two numeric kinds. Two truth values cannot be
divided, and floats have no bits. -/
def Operator.numericResult? (op : Operator) (l r : NumericKind) : Option NumericKind :=
  match op with
  | .relation _ | .and | .xor | .or | .not => some .bool
  | .div | .mod => if l = .bool ∧ r = .bool then none else some (l.join r)
  | .add | .sub | .mul => some (l.join r)
  | .shl | .shr | .bitAnd | .bitXor | .bitOr | .bitNot =>
    if l = .float ∨ r = .float then none else some (l.join r)

/-- The type of an operator's result; none where the operator does not apply. A pattern can be
compared with every operand, and for equality with another pattern. -/
def Operator.result? (op : Operator) (l r : ValueType) : Option ValueType :=
  match l, r with
  | .numeric k, .numeric k' => (op.numericResult? k k').map .numeric
  | .pattern, .pattern => if op.isEquality then some (.numeric .bool) else none
  | .pattern, _ | _, .pattern => if op.isRelational then some (.numeric .bool) else none
  | .string, .string =>
    match op with
    | .add => some .string
    | .relation _ => some (.numeric .bool)
    | _ => none
  | .string, .numeric k =>
    match op with
    | .add => if k = .char then some .string else none
    | .mul => if k = .char then none else some .string
    | _ => none
  | .numeric k, .string => if op = .add ∧ k = .char then some .string else none

/-- The type of every value the tree can evaluate to. -/
def Expr.type? : Expr → Option ValueType
  | .literal l => some l.value.type
  | .binary op (some left) (some right) _ => do op.result? (← left.type?) (← right.type?)
  | .probe _ inner => inner.type?
  | _ => none
termination_by structural t => t

theorem Operator.result?_ne_pattern (op : Operator) (l r : ValueType) :
    op.result? l r ≠ some .pattern := by
  cases l <;> cases r <;> simp only [Operator.result?] <;> (repeat' split) <;> simp

end PatternExpr
