import PatternExpr.Number.Binary64.Arithmetic
import PatternExpr.Number.Binary64.Decimal

/-! The values that convert into one another: integers, floats, truth values and characters. Integer
conversions keep the 128 bits, floats narrow by truncation and clamping, and every nonzero value is
true. -/
namespace PatternExpr

/-- The 128 bits of an integer of either signedness. -/
abbrev Word := BitVec 128

def Word.minSigned : Int := -Int.pow 2 127
def Word.maxSigned : Int := Int.pow 2 127 - 1
def Word.maxUnsigned : Int := Int.pow 2 128 - 1

inductive NumericKind
  | unsigned | signed | float | bool | char
deriving DecidableEq

namespace NumericKind

def all : List NumericKind := [.unsigned, .signed, .float, .bool, .char]

/-- The kind in which an operator works on operands of two kinds. -/
def promote : NumericKind → NumericKind → NumericKind
  | .float, _ | _, .float => .float
  | .unsigned, _ | _, .unsigned => .unsigned
  | .bool, .bool => .bool
  | _, _ => .signed

theorem promote_comm (a b : NumericKind) : a.promote b = b.promote a := by cases a <;> cases b <;> rfl

theorem promote_ne_char (a b : NumericKind) : a.promote b ≠ .char := by
  cases a <;> cases b <;> decide

end NumericKind

inductive Numeric
  | unsigned (w : Word)
  | signed (w : Word)
  | float (x : Binary64)
  | bool (b : Bool)
  | char (c : Char)
deriving DecidableEq

namespace Numeric

def kind : Numeric → NumericKind
  | .unsigned _ => .unsigned
  | .signed _ => .signed
  | .float _ => .float
  | .bool _ => .bool
  | .char _ => .char

def toUnsigned : Numeric → Word
  | .unsigned w | .signed w => w
  | .float x => BitVec.ofInt 128 (x.truncate 0 Word.maxUnsigned)
  | .bool b => if b then 1 else 0
  | .char c => BitVec.ofNat 128 c.toNat

def toSigned : Numeric → Word
  | .unsigned w | .signed w => w
  | .float x => BitVec.ofInt 128 (x.truncate Word.minSigned Word.maxSigned)
  | .bool b => if b then 1 else 0
  | .char c => BitVec.ofNat 128 c.toNat

def toFloat : Numeric → Binary64
  | .unsigned w => .ofInt w.toNat
  | .signed w => .ofInt w.toInt
  | .float x => x
  | .bool b => .ofInt (if b then 1 else 0)
  | .char c => .ofInt c.toNat

def toBool : Numeric → Bool
  | .unsigned w | .signed w => w != 0
  | .float x => !x.isZero
  | .bool b => b
  | .char c => c.toNat != 0

theorem toBool_char (c : Char) : (char c).toBool = (c != Char.ofNat 0) := by
  rw [Bool.eq_iff_iff, bne_iff_ne, ne_eq, ← Char.toNat_inj]
  exact bne_iff_ne

/-- The 32-bit number that a character on the left is compared with. -/
def toCodePoint : Numeric → Nat
  | .unsigned w | .signed w => w.toNat % Nat.pow 2 32
  | .float x => (x.truncate 0 (Int.pow 2 32 - 1)).toNat
  | .bool b => if b then 1 else 0
  | .char c => c.toNat

/-- The value converted to a kind; no value converts to a character, so those count as signed. -/
def castTo (n : Numeric) : NumericKind → Numeric
  | .unsigned => .unsigned n.toUnsigned
  | .signed | .char => .signed n.toSigned
  | .float => .float n.toFloat
  | .bool => .bool n.toBool

/-- The order of two values, the right one read in the kind of the left one. -/
def compare? : Numeric → Numeric → Option Ordering
  | .unsigned a, r => some (compare a.toNat r.toUnsigned.toNat)
  | .signed a, r => some (compare a.toInt r.toSigned.toInt)
  | .float a, r => a.compare? r.toFloat
  | .bool a, r => some (compare a r.toBool)
  | .char a, r => some (compare a.toNat r.toCodePoint)

/-- Equality within a kind; floats compare by value. -/
def equals : Numeric → Numeric → Bool
  | .unsigned a, .unsigned b | .signed a, .signed b => a == b
  | .float a, .float b => a.equals b
  | .bool a, .bool b => a == b
  | .char a, .char b => a == b
  | _, _ => false

def toText : Numeric → String
  | .unsigned w => toString w.toNat
  | .signed w => toString w.toInt
  | .float x => x.toText
  | .bool b => if b then "true" else "false"
  | .char c => c.toString

end Numeric
end PatternExpr
