import PatternExpr.Proofs.Operation.Regrouping

/-! Operators in the two kinds of integers. An operand takes part with its word in the promoted kind,
and the result is the integer of that kind with the computed word, so that what an operator computes
can be told of words alone. -/
namespace PatternExpr

/-- The kind of the integers of one signedness. -/
def NumericKind.ofUnsigned (unsigned : Bool) : NumericKind := if unsigned then .unsigned else .signed

theorem NumericKind.ofUnsigned_ne_float (unsigned : Bool) : ofUnsigned unsigned ≠ .float := by
  cases unsigned <;> decide

theorem NumericKind.ofUnsigned_cases (unsigned : Bool) :
    ofUnsigned unsigned = .unsigned ∨ ofUnsigned unsigned = .signed := by
  cases unsigned <;> decide

theorem NumericKind.exists_ofUnsigned {k : NumericKind} (h : k = .unsigned ∨ k = .signed) :
    ∃ unsigned, k = .ofUnsigned unsigned := by
  rcases h with rfl | rfl
  · exact ⟨true, rfl⟩
  · exact ⟨false, rfl⟩

/-- The number that a word stands for in one signedness. -/
def Word.value (unsigned : Bool) (w : Word) : Int := if unsigned then w.toNat else w.toInt

theorem Word.value_eq_zero_iff {unsigned : Bool} {w : Word} : w.value unsigned = 0 ↔ w = 0 := by
  cases unsigned with
  | true =>
    change (w.toNat : Int) = 0 ↔ w = 0
    rw [BitVec.toNat_eq]
    exact Int.natCast_eq_zero
  | false =>
    change w.toInt = 0 ↔ w = 0
    exact BitVec.toInt_inj (y := 0)

namespace Numeric

theorem toNat_toSigned_char (c : Char) : (char c).toSigned.toNat = c.toNat := by
  change (BitVec.ofNat 128 c.toNat).toNat = c.toNat
  have hcode : c.toNat < UInt32.size := c.val.toNat_lt
  rw [BitVec.toNat_ofNat]
  exact Nat.mod_eq_of_lt (Nat.lt_trans hcode (by decide))

/-- The number that an integer, a truth value or a character stands for. -/
def toInt? : Numeric → Option Int
  | .unsigned w => some w.toNat
  | .signed w => some w.toInt
  | .bool b => some b.toNat
  | .char c => some c.toNat
  | .float _ => none

/-- The word with which a value takes part among integers of one signedness. -/
def word (unsigned : Bool) (n : Numeric) : Word := if unsigned then n.toUnsigned else n.toSigned

@[simp] theorem kind_ofWord (unsigned : Bool) (w : Word) :
    (ofWord unsigned w).kind = .ofUnsigned unsigned := by
  cases unsigned <;> rfl

@[simp] theorem word_ofWord (unsigned : Bool) (w : Word) : (ofWord unsigned w).word unsigned = w := by
  cases unsigned <;> rfl

@[simp] theorem toInt?_ofWord (unsigned : Bool) (w : Word) :
    (ofWord unsigned w).toInt? = some (w.value unsigned) := by
  cases unsigned <;> rfl

theorem castTo_ofUnsigned (unsigned : Bool) (n : Numeric) :
    n.castTo (.ofUnsigned unsigned) = ofWord unsigned (n.word unsigned) := by
  cases unsigned <;> rfl

/-- Two values compute as floats, as integers, or as the truth values that they both are. -/
theorem promotedKind_cases (l r : Numeric) :
    promotedKind l r = .float ∨ (l.kind = .bool ∧ r.kind = .bool) ∨
      ∃ unsigned, promotedKind l r = .ofUnsigned unsigned := by
  unfold promotedKind
  cases l.kind <;> cases r.kind <;> decide

section

variable {unsigned : Bool} {l r : Numeric}

theorem kind_ne_float_of_integers (h : promotedKind l r = .ofUnsigned unsigned) :
    r.kind ≠ .float := by
  intro hr
  have hfloat : promotedKind l r = .float := by
    rw [promotedKind, hr]
    cases l.kind <;> rfl
  exact NumericKind.ofUnsigned_ne_float unsigned (h.symm.trans hfloat)

theorem promotedKind_ofWord_left (h : promotedKind l r = .ofUnsigned unsigned) (w : Word) :
    promotedKind (ofWord unsigned w) r = .ofUnsigned unsigned := by
  unfold promotedKind at h ⊢
  rw [kind_ofWord]
  revert h
  cases unsigned <;> cases l.kind <;> cases r.kind <;> decide

theorem promotedKind_ofWord_ofWord (unsigned : Bool) (v w : Word) :
    promotedKind (ofWord unsigned v) (ofWord unsigned w) = .ofUnsigned unsigned := by
  cases unsigned <;> rfl

theorem apply_of_operate? {op : Operator} {w : Word}
    (h : promotedKind l r = .ofUnsigned unsigned)
    (hw : Word.operate? (!unsigned) (l.word unsigned) (r.word unsigned) r.shiftAmount op = some w) :
    apply op l r = .ok (ofWord unsigned w) := by
  have happly : apply op l r = orInvalid op l r (applyInKind? (promotedKind l r) op l r) := by
    cases op with
    | add | sub | mul | shl | shr | bitAnd | bitXor | bitOr => rfl
    | _ => cases hw
  have hin : applyInKind? (promotedKind l r) op l r = some (ofWord unsigned w) := by
    rw [h]
    cases unsigned <;> exact congrArg (Option.map _) hw
  rw [happly, hin]
  rfl

end

end Numeric
end PatternExpr
