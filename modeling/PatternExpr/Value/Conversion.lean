import PatternExpr.Fault.Basic

/-! Conversions of values. Only numeric values convert; a string or a pattern does not. They are written
apart from the casts between numeric values, with which they agree. -/
namespace PatternExpr

/-- The kind a conversion toward `k` ends in: nothing converts to a character. -/
def NumericKind.castTarget : NumericKind → NumericKind
  | .char => .signed
  | k => k

theorem Numeric.kind_castTo (n : Numeric) (k : NumericKind) : (n.castTo k).kind = k.castTarget := by
  cases k <;> rfl

namespace Value

def toUnsigned (v : Value) : Except Fault Word :=
  match v with
  | .unsigned w | .signed w => .ok w
  | .float x => .ok (BitVec.ofInt 128 (x.truncate 0 Word.maxUnsigned))
  | .bool b => .ok (BitVec.ofNat 128 b.toNat)
  | .char c => .ok (BitVec.ofNat 128 c.toNat)
  | .string _ | .pattern _ => .error (.invalidCast v.type.name "unsigned")

def toSigned (v : Value) : Except Fault Word :=
  match v with
  | .unsigned w | .signed w => .ok w
  | .float x => .ok (BitVec.ofInt 128 (x.truncate Word.minSigned Word.maxSigned))
  | .bool b => .ok (BitVec.ofNat 128 b.toNat)
  | .char c => .ok (BitVec.ofNat 128 c.toNat)
  | .string _ | .pattern _ => .error (.invalidCast v.type.name "signed")

def toFloat (v : Value) : Except Fault Binary64 :=
  match v with
  | .unsigned w => .ok (.ofInt w.toNat)
  | .signed w => .ok (.ofInt w.toInt)
  | .float x => .ok x
  | .bool b => .ok (.ofInt b.toNat)
  | .char c => .ok (.ofInt c.toNat)
  | .string _ | .pattern _ => .error (.invalidCast v.type.name "float")

/-- Whether the value differs from the zero of its type. -/
def toBool (v : Value) : Except Fault Bool :=
  match v with
  | .unsigned w | .signed w => .ok (w != 0)
  | .float x => .ok (!x.equals (.zero false))
  | .bool b => .ok b
  | .char c => .ok (c != Char.ofNat 0)
  | .string _ | .pattern _ => .error (.invalidCast v.type.name "bool")

/-- What a pattern with this content is decoded to beside an operand of the kind. -/
def castTo (v : Value) : NumericKind → Except Fault Numeric
  | .unsigned => v.toUnsigned.map .unsigned
  | .signed | .char => v.toSigned.map .signed
  | .float => v.toFloat.map .float
  | .bool => v.toBool.map .bool

section

variable (n : Numeric)

theorem toUnsigned_numeric : (numeric n).toUnsigned = .ok n.toUnsigned := by
  cases n with
  | bool b => cases b <;> rfl
  | _ => rfl

theorem toSigned_numeric : (numeric n).toSigned = .ok n.toSigned := by
  cases n with
  | bool b => cases b <;> rfl
  | _ => rfl

theorem toFloat_numeric : (numeric n).toFloat = .ok n.toFloat := by
  cases n with
  | bool b => cases b <;> rfl
  | _ => rfl

theorem toBool_numeric : (numeric n).toBool = .ok n.toBool := by
  cases n with
  | float x => exact congrArg (fun b => Except.ok !b) x.equals_zero
  | char c => exact congrArg Except.ok (Numeric.toBool_char c).symm
  | _ => rfl

/-- A number converts as it is cast among the numbers. -/
theorem castTo_numeric (k : NumericKind) : (numeric n).castTo k = .ok (n.castTo k) := by
  cases k with
  | unsigned => exact congrArg (Except.map _) (toUnsigned_numeric n)
  | signed | char => exact congrArg (Except.map _) (toSigned_numeric n)
  | float => exact congrArg (Except.map _) (toFloat_numeric n)
  | bool => exact congrArg (Except.map _) (toBool_numeric n)

end

theorem castTo_of_numericKind?_eq_none {v : Value} (h : v.numericKind? = none)
    (k : NumericKind) : v.castTo k = .error (.invalidCast v.type.name k.castTarget.typeName) := by
  cases v with
  | numeric n => cases h
  | string s | pattern p => cases k <;> rfl

theorem castTo_eq_ok_iff {v : Value} {k : NumericKind} {n : Numeric} :
    v.castTo k = .ok n ↔ ∃ m, v = .numeric m ∧ n = m.castTo k := by
  cases v with
  | numeric m => simp [castTo_numeric, eq_comm]
  | string s | pattern p =>
    rw [castTo_of_numericKind?_eq_none rfl]
    exact ⟨nofun, nofun⟩

end Value
end PatternExpr
