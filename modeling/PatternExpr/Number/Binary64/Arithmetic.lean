import PatternExpr.Number.Binary64.Rounding

/-! The five binary64 operations, each an exact integer computation followed by one rounding. -/
namespace PatternExpr.Binary64

def neg (x : Binary64) : Binary64 := ⟨x.bits ^^^ BitVec.ofNat 64 (Nat.pow 2 63)⟩

/-- An exact zero sum is negative only if both operands are. -/
def add (x y : Binary64) : Binary64 :=
  if x.isNaN || y.isNaN then nan
  else if x.isInfinite then
    if y.isInfinite && x.isNegative != y.isNegative then nan else infinity x.isNegative
  else if y.isInfinite then infinity y.isNegative
  else
    let sum := x.signedUnits + y.signedUnits
    ofRatio (if sum = 0 then x.isNegative && y.isNegative else sum < 0) sum.natAbs 1

def sub (x y : Binary64) : Binary64 := x.add y.neg

def mul (x y : Binary64) : Binary64 :=
  let negative := x.isNegative != y.isNegative
  if x.isNaN || y.isNaN then nan
  else if x.isInfinite || y.isInfinite then
    if x.isZero || y.isZero then nan else infinity negative
  else ofRatio negative (x.units * y.units) unitsPerOne

def div (x y : Binary64) : Binary64 :=
  let negative := x.isNegative != y.isNegative
  if x.isNaN || y.isNaN then nan
  else if x.isInfinite then if y.isInfinite then nan else infinity negative
  else if y.isInfinite then zero negative
  else if y.isZero then if x.isZero then nan else infinity negative
  else ofRatio negative (x.units * unitsPerOne) y.units

/-- The remainder of the truncated quotient; it has the sign of `x`, also when it is zero. -/
def rem (x y : Binary64) : Binary64 :=
  if x.isNaN || y.isNaN || x.isInfinite || y.isZero then nan
  else if y.isInfinite then x
  else ofRatio x.isNegative (x.units % y.units) 1

end PatternExpr.Binary64
