import PatternExpr.Fault.Basic

/-! Repeating a string under limits. -/
namespace PatternExpr

/-- What one evaluation may use: copies in one repetition, bytes of a repeated string, and nested
expressions (without bound if absent). -/
structure Limits where
  maxRepeatCount : Nat
  maxStringLength : Nat
  maxDepth : Option Nat
deriving DecidableEq

namespace Limits

def default : Limits := ⟨Nat.pow 2 20, Nat.pow 2 24, none⟩

/-- The most copies of a string of so many bytes. -/
def repeatLimit (l : Limits) (size : Nat) : Nat :=
  if size = 0 then l.maxRepeatCount else min l.maxRepeatCount (l.maxStringLength / size)

end Limits

/-- No text and no buffer of this many bytes can be held in memory. Smaller ones are taken to fit. -/
def memoryBound : Nat := Nat.pow 2 63

/-- Copies of the empty string are not counted out. -/
def repeatText (s : String) (count : Nat) : String :=
  if s.isEmpty then "" else Nat.repeat (· ++ s) count ""

def repeatString (limits : Limits) (s : String) (count : Int) : Except Fault String :=
  let limit := limits.repeatLimit s.utf8ByteSize
  if count < 0 then .error .negativeRepeatCount
  else if limit < count.toNat ∨ memoryBound ≤ count.toNat * s.utf8ByteSize then
    .error (.repeatLimitExceeded count limit)
  else .ok (repeatText s count.toNat)

end PatternExpr
