/-! The stable codes of diagnostics. -/
namespace PatternExpr

/-- The failure category that the first digit of a code names. -/
inductive Category
  | operand | type | arithmetic | limit | data
deriving DecidableEq

inductive Code
  | voidOperand | nonLiteralOperand
  | invalidOperand | invalidCast
  | divisionByZero | booleanArithmetic | negativeRepeatCount
  | repeatLimit | recursionLimit
  | dataRead
deriving DecidableEq

namespace Code

def all : List Code :=
  [.voidOperand, .nonLiteralOperand, .invalidOperand, .invalidCast, .divisionByZero,
   .booleanArithmetic, .negativeRepeatCount, .repeatLimit, .recursionLimit, .dataRead]

theorem mem_all (c : Code) : c ∈ all := by cases c <;> decide

def toText : Code → String
  | .voidOperand => "E1001"
  | .nonLiteralOperand => "E1002"
  | .invalidOperand => "E2001"
  | .invalidCast => "E2002"
  | .divisionByZero => "E3001"
  | .booleanArithmetic => "E3002"
  | .negativeRepeatCount => "E3003"
  | .repeatLimit => "E4001"
  | .recursionLimit => "E4002"
  | .dataRead => "E5001"

def ofText? (s : String) : Option Code := all.find? fun c => c.toText == s

theorem ofText?_toText (c : Code) : ofText? c.toText = some c := by cases c <;> decide

def description : Code → String
  | .voidOperand => "an operand of a binary expression produced no value"
  | .nonLiteralOperand => "an operand of a binary expression did not reduce to a literal"
  | .invalidOperand => "the operator cannot be applied to the operand types"
  | .invalidCast => "a value could not be converted to the type required by its peer"
  | .divisionByZero => "the right-hand side of a division or modulus was zero"
  | .booleanArithmetic => "division and modulus are not defined for boolean values"
  | .negativeRepeatCount => "a string was repeated a negative number of times"
  | .repeatLimit => "a string repetition exceeded the configured repeat limit"
  | .recursionLimit => "expression nesting exceeded the configured depth limit"
  | .dataRead => "the bytes backing a pattern could not be read"

def category : Code → Category
  | .voidOperand | .nonLiteralOperand => .operand
  | .invalidOperand | .invalidCast => .type
  | .divisionByZero | .booleanArithmetic | .negativeRepeatCount => .arithmetic
  | .repeatLimit | .recursionLimit => .limit
  | .dataRead => .data

end Code
end PatternExpr
