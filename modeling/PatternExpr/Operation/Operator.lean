/-! The binary operators. -/
namespace PatternExpr

/-- The operators that ask how two operands are ordered. -/
inductive Relation
  | eq | ne | gt | lt | ge | le
deriving DecidableEq

namespace Relation

/-- Whether the relation holds of an order; unordered operands are only different. -/
def holds : Relation → Option Ordering → Bool
  | .ne, none => true
  | _, none => false
  | .eq, some o => o.isEq
  | .ne, some o => o.isNe
  | .gt, some o => o.isGT
  | .lt, some o => o.isLT
  | .ge, some o => o.isGE
  | .le, some o => o.isLE

/-- The relation between the swapped operands. -/
def converse : Relation → Relation
  | .eq => .eq
  | .ne => .ne
  | .gt => .lt
  | .lt => .gt
  | .ge => .le
  | .le => .ge

theorem holds_converse (r : Relation) (o : Option Ordering) :
    r.converse.holds (o.map Ordering.swap) = r.holds o := by
  rcases o with _ | o
  · cases r <;> rfl
  · cases r <;> cases o <;> rfl

end Relation

/-- `bitNot` and `not` read as unary but stand between two operands; they ignore the left one. -/
inductive Operator
  | add | sub | mul | div | mod
  | shl | shr | bitAnd | bitXor | bitOr | bitNot
  | relation (r : Relation)
  | and | xor | or | not
deriving DecidableEq

namespace Operator

def all : List Operator :=
  [.add, .sub, .mul, .div, .mod, .shl, .shr, .bitAnd, .bitXor, .bitOr, .bitNot,
   .relation .eq, .relation .ne, .relation .gt, .relation .lt, .relation .ge, .relation .le,
   .and, .xor, .or, .not]

theorem mem_all (op : Operator) : op ∈ all := by
  cases op with
  | relation r => cases r <;> decide
  | _ => decide

def symbol : Operator → String
  | .add => "+"
  | .sub => "-"
  | .mul => "*"
  | .div => "/"
  | .mod => "%"
  | .shl => "<<"
  | .shr => ">>"
  | .bitAnd => "&"
  | .bitXor => "^"
  | .bitOr => "|"
  | .bitNot => "~"
  | .relation .eq => "=="
  | .relation .ne => "!="
  | .relation .gt => ">"
  | .relation .lt => "<"
  | .relation .ge => ">="
  | .relation .le => "<="
  | .and => "&&"
  | .xor => "^^"
  | .or => "||"
  | .not => "!"

def ofSymbol? (s : String) : Option Operator := all.find? fun op => op.symbol == s

theorem ofSymbol?_symbol (op : Operator) : ofSymbol? op.symbol = some op := by
  cases op with
  | relation r => cases r <;> decide
  | _ => decide

def isRelational : Operator → Bool
  | .relation _ => true
  | _ => false

def isEquality : Operator → Bool
  | .relation .eq | .relation .ne => true
  | _ => false

end Operator
end PatternExpr
