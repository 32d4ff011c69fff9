import PatternExpr.Number.Binary64

/-! Rounding to binary64, to nearest with ties to even, and truncation to integers. -/
namespace PatternExpr

/-- The integer nearest to `n / d`, the even one at a midpoint. -/
def roundEven (n d : Nat) : Nat :=
  let q := n / d
  let r := 2 * (n % d)
  if r < d then q else if d < r then q + 1 else q + q % 2

namespace Binary64

/-- The magnitude nearest to `n / d` units. The quotient keeps its 53 leading bits; a carry out of
them runs into the exponent field, and past the largest finite magnitude lies infinity. -/
def magnitudeOfRatio (n d : Nat) : Nat :=
  let shift := (n / d).log2 - 52
  min infinityMagnitude (shift * Nat.pow 2 52 + roundEven n (d * Nat.pow 2 shift))

def ofRatio (negative : Bool) (n d : Nat) : Binary64 := ofMagnitude negative (magnitudeOfRatio n d)

def ofInt (z : Int) : Binary64 := ofRatio (z < 0) (z.natAbs * unitsPerOne) 1

/-- Truncation toward zero, clamped to `[lo, hi]`; NaN becomes zero. -/
def truncate (lo hi : Int) (x : Binary64) : Int :=
  if x.isNaN then 0
  else if x.isInfinite then if x.isNegative then lo else hi
  else max lo (min hi (signed x.isNegative (x.units / unitsPerOne)))

end Binary64
end PatternExpr
