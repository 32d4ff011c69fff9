/-! IEEE 754 binary64 data as 64-bit words. A finite datum is a whole number of units, one unit being
the smallest positive datum `2⁻¹⁰⁷⁴`, so order, rounding and arithmetic all stay in the integers. -/
namespace PatternExpr

/-- A binary64 datum, NaN payloads included. -/
structure Binary64 where
  bits : BitVec 64
deriving DecidableEq

namespace Binary64

/-- The word without its sign bit; it orders the data of one sign by size. -/
def magnitude (x : Binary64) : Nat := x.bits.toNat % Nat.pow 2 63

def isNegative (x : Binary64) : Bool := x.bits.msb

/-- Every larger magnitude is a NaN. -/
def infinityMagnitude : Nat := 2047 * Nat.pow 2 52

def ofMagnitude (negative : Bool) (m : Nat) : Binary64 :=
  ⟨BitVec.ofNat 64 (if negative then Nat.pow 2 63 + m else m)⟩

def zero (negative : Bool) : Binary64 := ofMagnitude negative 0

def infinity (negative : Bool) : Binary64 := ofMagnitude negative infinityMagnitude

/-- The quiet NaN with no payload, which is every NaN that arithmetic makes. -/
def nan : Binary64 := ofMagnitude false (infinityMagnitude + Nat.pow 2 51)

def isNaN (x : Binary64) : Bool := infinityMagnitude < x.magnitude

def isInfinite (x : Binary64) : Bool := x.magnitude == infinityMagnitude

def isZero (x : Binary64) : Bool := x.magnitude == 0

/-- Below `2 ^ 52` a magnitude is its number of units; above, the top bits scale a significand
with a hidden leading bit. -/
def unitsOfMagnitude (m : Nat) : Nat :=
  let hidden := Nat.pow 2 52
  if m < hidden then m else (hidden + m % hidden) * Nat.pow 2 (m / hidden - 1)

/-- The absolute value of a finite datum in units. -/
def units (x : Binary64) : Nat := unitsOfMagnitude x.magnitude

def unitsPerOne : Nat := Nat.pow 2 1074

def signed (negative : Bool) (n : Nat) : Int := if negative then -n else n

def signedUnits (x : Binary64) : Int := signed x.isNegative x.units

/-- An integer that grows with the datum and is zero for both zeros. -/
def orderKey (x : Binary64) : Int := signed x.isNegative x.magnitude

/-- The order of two data; NaN is unordered. -/
def compare? (x y : Binary64) : Option Ordering :=
  if x.isNaN || y.isNaN then none else some (compare x.orderKey y.orderKey)

/-- Equality of values: the zeros are equal and NaN equals nothing. -/
def equals (x y : Binary64) : Bool := x.compare? y == some .eq

theorem compare?_swap (x y : Binary64) : y.compare? x = (x.compare? y).map Ordering.swap := by
  unfold compare?
  rw [Bool.or_comm]
  split <;> simp [Std.OrientedOrd.eq_swap (a := y.orderKey) (b := x.orderKey)]

theorem equals_zero (x : Binary64) : x.equals (zero false) = x.isZero := by
  have hzero : (zero false).isNaN = false ∧ (zero false).orderKey = 0 := by decide
  have hkey : x.orderKey = 0 ↔ x.magnitude = 0 := by
    unfold orderKey signed
    split <;> omega
  unfold equals compare? isZero
  rw [hzero.1, hzero.2, Bool.or_false]
  cases hnan : x.isNaN with
  | true =>
    have hlarge : infinityMagnitude < x.magnitude := by simpa [isNaN] using hnan
    simp [Nat.ne_of_gt (Nat.zero_lt_of_lt hlarge)]
  | false =>
    rw [if_neg Bool.false_ne_true, Bool.eq_iff_iff]
    simp [hkey]

end Binary64
end PatternExpr
