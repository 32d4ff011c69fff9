import PatternExpr.Operation.Arithmetic
import PatternExpr.Operation.Repetition
import PatternExpr.Value.Conversion

/-! The operators on operands that need no bytes to be read: everything but two patterns. A pattern
beside another operand is decoded to that operand's type and can only be compared. -/
namespace PatternExpr

/-- Strings join with strings and characters, repeat and compare. -/
def applyText (limits : Limits) (op : Operator) (l r : Value) : Except Fault Value :=
  match op, l, r with
  | .add, .string a, .string b => .ok (.string (a ++ b))
  | .add, .string a, .char c => .ok (.string (a.push c))
  | .add, .char c, .string b => .ok (.string (c.toString ++ b))
  | .relation rel, .string a, .string b => .ok (.bool (rel.holds (some (compare a b))))
  | .mul, .string _, .char _ => .error (.invalidOperand op l.type r.type)
  | .mul, .string s, .numeric n => do
    let count ← (Value.numeric n).toSigned
    (repeatString limits s count.toInt).map .string
  | _, _, _ => .error (.invalidOperand op l.type r.type)

/-- The answer to a relation once the pattern among the operands is decoded. -/
def relateDecoded (op : Operator) (l r : Value) (order : Option Ordering) : Except Fault Value :=
  match op with
  | .relation rel => .ok (.bool (rel.holds order))
  | _ => .error (.invalidOperand op l.type r.type)

/-- Numeric operands read the content in their own kind, strings read the text of the pattern. -/
def applyScalar (limits : Limits) (op : Operator) (l r : Value) : Except Fault Value :=
  match l, r with
  | .pattern p, .numeric n => do
    let d ← p.content.castTo n.kind
    relateDecoded op (.numeric d) r (d.compare? n)
  | .numeric n, .pattern p => do
    let d ← p.content.castTo n.kind
    relateDecoded op l (.numeric d) (n.compare? d)
  | .pattern p, .string s => relateDecoded op (.string p.toText) r (some (compare p.toText s))
  | .string s, .pattern p => relateDecoded op l (.string p.toText) (some (compare s p.toText))
  | .numeric a, .numeric b => (Numeric.apply op a b).map .numeric
  | _, _ => applyText limits op l r

theorem applyText_repetition (limits : Limits) (s : String) {n : Numeric} (h : n.kind ≠ .char) :
    applyText limits .mul (.string s) (.numeric n) =
      (repeatString limits s n.toSigned.toInt).map .string := by
  have hread : applyText limits .mul (.string s) (.numeric n) =
      (do let count ← (Value.numeric n).toSigned
          (repeatString limits s count.toInt).map .string) := by
    cases n with
    | char c => exact absurd rfl h
    | _ => rfl
  rw [hread, Value.toSigned_numeric]
  rfl

end PatternExpr
