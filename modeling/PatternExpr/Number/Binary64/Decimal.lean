import PatternExpr.Number.Binary64

/-! The decimal text of a binary64 datum: the fewest digits that read back as the datum, the nearest
such number, and the larger one of two that are equally near. The text is always positional. -/
namespace PatternExpr.Binary64

/-- The decimal number `digits * 10 ^ exponent`. -/
structure Decimal where
  digits : Nat
  exponent : Int
deriving DecidableEq

/-- The reals that round to a magnitude, in quarter units: `center - below` to `center + above`. -/
structure RoundingInterval where
  center : Nat
  below : Nat
  above : Nat
  closed : Bool

/-- Half a step on both sides, but half of the smaller step below a power of two; the ends round
to the even significand. -/
def roundingInterval (m : Nat) : RoundingInterval :=
  let hidden := Nat.pow 2 52
  let half := 2 * Nat.pow 2 (m / hidden - 1)
  { center := 4 * unitsOfMagnitude m
    below := if m % hidden = 0 ∧ hidden < m then half / 2 else half
    above := half
    closed := m % 2 = 0 }

/-- The multiple of `10 ^ exponent` nearest to the center that lies in the interval. -/
def RoundingInterval.nearestOnGrid? (i : RoundingInterval) (exponent : Int) : Option Decimal :=
  let scale := Nat.pow 10 (-exponent).toNat
  let grid := 4 * unitsPerOne * Nat.pow 10 exponent.toNat
  let inside (distance reach : Nat) : Bool :=
    distance < reach * scale || i.closed && distance == reach * scale
  let down := i.center * scale % grid
  let up := grid - down
  let low : Decimal := ⟨i.center * scale / grid, exponent⟩
  let high : Decimal := ⟨i.center * scale / grid + 1, exponent⟩
  match inside down i.below, inside up i.above with
  | true, true => some (if down < up then low else high)
  | true, false => some low
  | false, true => some high
  | false, false => none

/-- The coarsest grid that meets the interval gives the fewest digits. The search starts above the
leading digit; every datum is itself on the grid `10 ^ (-1074)`. -/
def shortest (m : Nat) : Decimal :=
  let leading : Int := ((unitsOfMagnitude m).log2 - 1074) * 30103 / 100000
  let grids := (List.range 24).map fun (n : Nat) => leading + 2 - n
  (grids.findSome? (roundingInterval m).nearestOnGrid?).getD
    ⟨unitsOfMagnitude m * Nat.pow 5 1074, -1074⟩

def Decimal.toText (d : Decimal) : String :=
  if 0 ≤ d.exponent then toString (d.digits * Nat.pow 10 d.exponent.toNat)
  else
    let places := (-d.exponent).toNat
    let scale := Nat.pow 10 places
    let fraction := toString (d.digits % scale)
    toString (d.digits / scale) ++ "." ++ "".pushn '0' (places - fraction.length) ++ fraction

def toText (x : Binary64) : String :=
  if x.isNaN then "NaN"
  else
    (if x.isNegative then "-" else "") ++
      (if x.isInfinite then "inf" else if x.isZero then "0" else (shortest x.magnitude).toText)

end PatternExpr.Binary64
