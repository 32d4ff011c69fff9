import PatternExpr.Operation.Repetition

/-! How long repeated text gets. -/
namespace PatternExpr

theorem utf8ByteSize_repeatText (s : String) (count : Nat) :
    (repeatText s count).utf8ByteSize = count * s.utf8ByteSize := by
  unfold repeatText
  split
  case isTrue h =>
    have hs : s = "" := by simpa using h
    simp [hs]
  case isFalse =>
    induction count with
    | zero => simp [Nat.repeat]
    | succ n ih =>
      rw [Nat.repeat, String.utf8ByteSize_append, ih]
      exact (Nat.succ_mul n s.utf8ByteSize).symm

theorem Limits.repeatLimit_mul_le (l : Limits) (size : Nat) :
    l.repeatLimit size * size ≤ l.maxStringLength := by
  unfold repeatLimit
  by_cases hs : size = 0
  · simp [hs]
  · rw [if_neg hs]
    calc
      min l.maxRepeatCount (l.maxStringLength / size) * size
          ≤ l.maxStringLength / size * size := Nat.mul_le_mul_right size (Nat.min_le_right _ _)
      _ ≤ l.maxStringLength := Nat.div_mul_le_self _ _

theorem repeatString_eq_ok {limits : Limits} {s text : String} {count : Int}
    (h : repeatString limits s count = .ok text) :
    count.toNat ≤ limits.repeatLimit s.utf8ByteSize ∧ text = repeatText s count.toNat := by
  unfold repeatString at h
  dsimp only at h
  split at h
  · cases h
  · split at h
    · cases h
    next hl =>
      cases h
      exact ⟨Nat.not_lt.1 fun hlt => hl (.inl hlt), rfl⟩

theorem utf8ByteSize_of_repeatString {limits : Limits} {s text : String} {count : Int}
    (h : repeatString limits s count = .ok text) :
    text.utf8ByteSize ≤ limits.maxStringLength := by
  obtain ⟨hcount, rfl⟩ := repeatString_eq_ok h
  calc
    (repeatText s count.toNat).utf8ByteSize = count.toNat * s.utf8ByteSize :=
      utf8ByteSize_repeatText s count.toNat
    _ ≤ limits.repeatLimit s.utf8ByteSize * s.utf8ByteSize := Nat.mul_le_mul_right _ hcount
    _ ≤ limits.maxStringLength := limits.repeatLimit_mul_le s.utf8ByteSize

end PatternExpr
