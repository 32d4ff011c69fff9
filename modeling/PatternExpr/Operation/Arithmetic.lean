import PatternExpr.Fault.Basic

/-! The operators on two numeric operands. Arithmetic casts both to the promoted kind, relations cast
the right operand to the kind of the left one, and the logical operators ask which are nonzero. -/
namespace PatternExpr

/-- The operators on words. They do not depend on the signedness, except `>>`. -/
def Word.operate? (signed : Bool) (a b : Word) (shift : Nat) : Operator → Option Word
  | .add => some (a + b)
  | .sub => some (a - b)
  | .mul => some (a * b)
  | .shl => some (a <<< shift)
  | .shr => some (if signed then a.sshiftRight shift else a >>> shift)
  | .bitAnd => some (a &&& b)
  | .bitXor => some (a ^^^ b)
  | .bitOr => some (a ||| b)
  | _ => none

def Binary64.operate? (a b : Binary64) : Operator → Option Binary64
  | .add => some (a.add b)
  | .sub => some (a.sub b)
  | .mul => some (a.mul b)
  | _ => none

/-- Which part of a division is asked for. -/
inductive DivisionPart
  | quotient | remainder
deriving DecidableEq

/-- Signed division truncates; the quotient of the least word by minus one wraps to itself. -/
def Word.divide (signed : Bool) (a b : Word) : DivisionPart → Word
  | .quotient => if signed then a.sdiv b else a / b
  | .remainder => if signed then a.srem b else a % b

/-- Words have no quotient by zero. -/
def Word.divide? (signed : Bool) (a b : Word) (part : DivisionPart) : Option Word :=
  if b = 0 then none else some (Word.divide signed a b part)

def Binary64.divide (a b : Binary64) : DivisionPart → Binary64
  | .quotient => a.div b
  | .remainder => a.rem b

namespace Numeric

def promotedKind (l r : Numeric) : NumericKind := l.kind.promote r.kind

/-- The shift distance: the right operand modulo the width of a word. -/
def shiftAmount (r : Numeric) : Nat := r.toSigned.toNat % 128

/-- Truth values compute as the words zero and one and stay truth values. -/
def applyInKind? (k : NumericKind) (op : Operator) (l r : Numeric) : Option Numeric :=
  match k with
  | .unsigned => (Word.operate? false l.toUnsigned r.toUnsigned r.shiftAmount op).map .unsigned
  | .signed | .char => (Word.operate? true l.toSigned r.toSigned r.shiftAmount op).map .signed
  | .bool =>
    (Word.operate? true l.toSigned r.toSigned r.shiftAmount op).map fun w => .bool (w != 0)
  | .float => (Binary64.operate? l.toFloat r.toFloat op).map .float

/-- The bits of the right operand inverted; the left one counts only through the promoted kind. -/
def complement? (k : NumericKind) (r : Numeric) : Option Numeric :=
  match k with
  | .unsigned => some (.unsigned (~~~r.toUnsigned))
  | .signed | .char => some (.signed (~~~r.toSigned))
  | .bool => some (.bool (~~~r.toSigned != 0))
  | .float => none

/-- A missing result is a division by zero. -/
def orZeroDivisor : Option Numeric → Except Fault Numeric
  | some n => .ok n
  | none => .error .divisionByZero

/-- A divisor that is zero in its own kind is refused before truth values are. A divisor that became
zero in the promoted kind would be refused as well. -/
def divide (part : DivisionPart) (l r : Numeric) : Except Fault Numeric :=
  if !r.toBool then .error .divisionByZero
  else
    match promotedKind l r with
    | .bool => .error .booleanArithmetic
    | .unsigned =>
      orZeroDivisor ((Word.divide? false l.toUnsigned r.toUnsigned part).map .unsigned)
    | .signed | .char =>
      orZeroDivisor ((Word.divide? true l.toSigned r.toSigned part).map .signed)
    | .float => .ok (.float (Binary64.divide l.toFloat r.toFloat part))

/-- A missing result is an operator that does not apply to the operands. -/
def orInvalid (op : Operator) (l r : Numeric) : Option Numeric → Except Fault Numeric
  | some n => .ok n
  | none => .error (.invalidOperand op (.numeric l.kind) (.numeric r.kind))

def apply (op : Operator) (l r : Numeric) : Except Fault Numeric :=
  match op with
  | .div => divide .quotient l r
  | .mod => divide .remainder l r
  | .relation rel => .ok (.bool (rel.holds (l.compare? r)))
  | .and => .ok (.bool (l.toBool && r.toBool))
  | .or => .ok (.bool (l.toBool || r.toBool))
  | .xor => .ok (.bool (l.toBool != r.toBool))
  | .not => .ok (.bool (!r.toBool))
  | .bitNot => orInvalid op l r (complement? (promotedKind l r) r)
  | _ => orInvalid op l r (applyInKind? (promotedKind l r) op l r)

end Numeric
end PatternExpr
