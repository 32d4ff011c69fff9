import PatternExpr.Diagnostic.Basic
import PatternExpr.Operation.Operator
import PatternExpr.Value.Basic

/-! What can go wrong in an evaluation, and the diagnostic that tells it. -/
namespace PatternExpr

inductive Cause
  | voidOperand
  | nonLiteralOperand
  | invalidOperand (op : Operator) (left right : ValueType)
  | invalidCast (source target : String)
  | divisionByZero
  | booleanArithmetic
  | negativeRepeatCount
  | repeatLimitExceeded (limit : Nat)
  | recursionLimitExceeded (limit : Nat)
  | dataRead (message : String)
deriving DecidableEq

namespace Cause

def message : Cause → String
  | .voidOperand => "Void expression used in ternary expression."
  | .nonLiteralOperand | .invalidOperand .. => "Invalid operand used in mathematical expression."
  | .invalidCast source target => s!"Cannot convert value of type '{source}' to '{target}'."
  | .divisionByZero => "Division by zero."
  | .booleanArithmetic => "Cannot divide boolean values."
  | .negativeRepeatCount => "Cannot repeat string a negative number of times."
  | .repeatLimitExceeded limit => s!"Cannot repeat string more than {limit} times."
  | .recursionLimitExceeded limit => s!"Expression nesting exceeded the limit of {limit}."
  | .dataRead _ => "Failed to read pattern data."

def code : Cause → Code
  | .voidOperand => .voidOperand
  | .nonLiteralOperand => .nonLiteralOperand
  | .invalidOperand .. => .invalidOperand
  | .invalidCast .. => .invalidCast
  | .divisionByZero => .divisionByZero
  | .booleanArithmetic => .booleanArithmetic
  | .negativeRepeatCount => .negativeRepeatCount
  | .repeatLimitExceeded _ => .repeatLimit
  | .recursionLimitExceeded _ => .recursionLimit
  | .dataRead _ => .dataRead

/-- The advice that serves as a hint where a fault brings none of its own. -/
def suggestion : Cause → Option String
  | .repeatLimitExceeded limit => some s!"keep the repetition count at or below {limit}"
  | .recursionLimitExceeded _ => some "split the expression into smaller parts"
  | _ => none

end Cause

/-- A failed evaluation. The location, once known, is where it failed; the trace lists the
places it was reached from, innermost first. -/
structure Fault where
  cause : Cause
  message : String
  description : Option String
  hint : Option String
  location : Option Location
  trace : List Location
deriving DecidableEq

namespace Fault

/-- The fault says what its cause says. -/
def ofCause (cause : Cause) : Fault := ⟨cause, cause.message, none, none, none, []⟩

def withDescription (f : Fault) (description : String) : Fault :=
  { f with description := some description }

def withHint (f : Fault) (hint : String) : Fault := { f with hint := some hint }

def withLocation (f : Fault) (location : Location) : Fault := { f with location := some location }

/-- Takes the location only if there is none yet and it can be shown. -/
def orLocation (f : Fault) (location : Location) : Fault :=
  if f.location.isNone && !location.isSynthetic then f.withLocation location else f

/-- Adds entries after the ones the trace has. -/
def withTrace (f : Fault) (entries : List Location) : Fault := { f with trace := f.trace ++ entries }

def voidOperand : Fault :=
  (ofCause .voidOperand).withHint
    "If you used a function for one of the operands, make sure it returned a value."

def nonLiteralOperand : Fault := ofCause .nonLiteralOperand

def invalidOperand (op : Operator) (left right : ValueType) : Fault :=
  (ofCause (.invalidOperand op left right)).withDescription
    ("operator `" ++ op.symbol ++ "` cannot be applied to `" ++ left.name ++ "` and `" ++
      right.name ++ "`")

def invalidCast (source target : String) : Fault := ofCause (.invalidCast source target)

def divisionByZero : Fault := ofCause .divisionByZero

def booleanArithmetic : Fault := ofCause .booleanArithmetic

def negativeRepeatCount : Fault := ofCause .negativeRepeatCount

def repeatLimitExceeded (count : Int) (limit : Nat) : Fault :=
  (ofCause (.repeatLimitExceeded limit)).withDescription
    s!"the string was to be repeated {count} times"

def recursionLimitExceeded (limit : Nat) : Fault := ofCause (.recursionLimitExceeded limit)

def dataRead (e : ReadError) : Fault := (ofCause (.dataRead e.message)).withDescription e.message

/-- The message and, on lines of its own, the description. -/
def toText (f : Fault) : String :=
  match f.description with
  | none => f.message
  | some description => f.message ++ "\n" ++ description

def toDiagnostic (f : Fault) : Diagnostic :=
  { code := f.cause.code
    message := f.message
    location := f.location.getD .synthetic
    description := f.description.getD ""
    trace := f.trace
    hint := f.hint <|> f.cause.suggestion }

end Fault
end PatternExpr
