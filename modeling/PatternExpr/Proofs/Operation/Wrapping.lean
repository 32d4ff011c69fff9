import Mathlib.Data.Int.ModEq
import PatternExpr.Proofs.Operation.Integers
import PatternExpr.Tree.Evaluation

/-! Integer operators are those of numbers, wrapped to 128 bits. Whatever the signedness, an operand
takes part with the number it stands for and the result is the one integer of the promoted kind that is
congruent to what the operator comes to on the numbers, so that the bits of a result never depend on
the signedness of the operands. -/
namespace PatternExpr

/-- What an operator comes to on two numbers. The bitwise operators work on the 128 bits of the numbers
in two's complement. -/
def Operator.onNumbers? (a b : Int) : Operator → Option Int
  | .add => some (a + b)
  | .sub => some (a - b)
  | .mul => some (a * b)
  | .bitAnd => some (BitVec.ofInt 128 a &&& BitVec.ofInt 128 b).toInt
  | .bitXor => some (BitVec.ofInt 128 a ^^^ BitVec.ofInt 128 b).toInt
  | .bitOr => some (BitVec.ofInt 128 a ||| BitVec.ofInt 128 b).toInt
  | .bitNot => some (-1 - b)
  | _ => none

namespace Word

def count : Int := Int.pow 2 128

theorem ofInt_value (unsigned : Bool) (w : Word) : BitVec.ofInt 128 (w.value unsigned) = w := by
  cases unsigned with
  | true =>
    change BitVec.ofInt 128 (w.toNat : Int) = w
    rw [BitVec.ofInt_natCast, BitVec.ofNat_toNat, BitVec.setWidth_eq]
  | false => exact BitVec.ofInt_toInt

theorem toNat_ofInt (z : Int) : ((BitVec.ofInt 128 z : Word).toNat : Int) = z % count := by
  have hnonneg : 0 ≤ z % count := Int.emod_nonneg z (by decide)
  rw [BitVec.toNat_ofInt]
  exact Int.toNat_of_nonneg hnonneg

theorem value_ofInt_modEq (unsigned : Bool) (z : Int) :
    value unsigned (BitVec.ofInt 128 z) ≡ z [ZMOD count] := by
  cases unsigned with
  | true =>
    change ((BitVec.ofInt 128 z).toNat : Int) % count = z % count
    rw [toNat_ofInt, Int.emod_emod]
  | false =>
    change (BitVec.ofInt 128 z).toInt % count = z % count
    rw [BitVec.toInt_ofInt]
    exact Int.bmod_emod

theorem ofInt_eq_of_modEq {x z : Int} (h : x ≡ z [ZMOD count]) :
    (BitVec.ofInt 128 x : Word) = BitVec.ofInt 128 z := by
  apply BitVec.eq_of_toNat_eq
  rw [BitVec.toNat_ofInt, BitVec.toNat_ofInt]
  exact congrArg Int.toNat h

theorem not_ofInt (b : Int) : ~~~(BitVec.ofInt 128 b : Word) = BitVec.ofInt 128 (-1 - b) := by
  have hminus : (-1 : Int) - b = -b + -1 := by omega
  rw [BitVec.not_eq_neg_add, hminus, BitVec.ofInt_add, BitVec.ofInt_neg, BitVec.sub_eq_add_neg]
  rfl

/-- On wrapped numbers the operators on words wrap what the operators on numbers come to. -/
theorem operate?_ofInt {op : Operator} {a b z : Int} (h : op.onNumbers? a b = some z)
    (hop : op ≠ .bitNot) (signed : Bool) (shift : Nat) :
    operate? signed (BitVec.ofInt 128 a) (BitVec.ofInt 128 b) shift op =
      some (BitVec.ofInt 128 z) := by
  cases op with
  | add =>
    cases h
    exact congrArg some (BitVec.ofInt_add a b).symm
  | sub =>
    cases h
    rw [Int.sub_eq_add_neg, BitVec.ofInt_add, BitVec.ofInt_neg, ← BitVec.sub_eq_add_neg]
    rfl
  | mul =>
    cases h
    exact congrArg some (BitVec.ofInt_mul a b).symm
  | bitAnd | bitXor | bitOr =>
    -- the number was read off the very word, which it gives back
    cases h
    exact congrArg some BitVec.ofInt_toInt.symm
  | bitNot => exact absurd rfl hop
  | _ => cases h

end Word

namespace Numeric

/-- The value is of the kind and congruent to the number modulo the number of words. -/
structure IsResidue (n : Numeric) (k : NumericKind) (z : Int) : Prop where
  kind : n.kind = k
  congruent : ∃ x, n.toInt? = some x ∧ x ≡ z [ZMOD Word.count]

theorem exists_word_of_kind {n : Numeric} {unsigned : Bool} (h : n.kind = .ofUnsigned unsigned) :
    ∃ w, n = ofWord unsigned w := by
  cases unsigned with
  | true =>
    cases n with
    | unsigned w => exact ⟨w, rfl⟩
    | _ => cases h
  | false =>
    cases n with
    | signed w => exact ⟨w, rfl⟩
    | _ => cases h

theorem isResidue_ofUnsigned_iff {n : Numeric} {unsigned : Bool} {z : Int} :
    n.IsResidue (.ofUnsigned unsigned) z ↔ n = ofWord unsigned (BitVec.ofInt 128 z) := by
  constructor
  · rintro ⟨hkind, x, hx, hmod⟩
    obtain ⟨w, rfl⟩ := exists_word_of_kind hkind
    rw [toInt?_ofWord] at hx
    cases hx
    rw [← Word.ofInt_eq_of_modEq hmod, Word.ofInt_value]
  · rintro rfl
    exact ⟨kind_ofWord _ _, _, toInt?_ofWord _ _, Word.value_ofInt_modEq unsigned z⟩

theorem word_of_toInt? {n : Numeric} {z : Int} (h : n.toInt? = some z) (unsigned : Bool) :
    n.word unsigned = BitVec.ofInt 128 z := by
  cases n with
  | unsigned w =>
    cases h
    cases unsigned <;> exact (Word.ofInt_value true w).symm
  | signed w =>
    cases h
    cases unsigned <;> exact (Word.ofInt_value false w).symm
  | float x => cases h
  | bool b =>
    cases h
    cases b <;> cases unsigned <;> rfl
  | char c =>
    cases h
    cases unsigned <;> exact (BitVec.ofInt_natCast 128 c.toNat).symm

theorem exists_toInt? {n : Numeric} (h : n.kind ≠ .float) : ∃ z, n.toInt? = some z := by
  cases n with
  | float x => exact absurd rfl h
  | unsigned | signed | bool | char => exact ⟨_, rfl⟩

/-- The values are the same, or integers with the same bits that differ in their signedness. -/
inductive SameBits : Numeric → Numeric → Prop
  | refl (n : Numeric) : SameBits n n
  | signed (w : Word) : SameBits (.unsigned w) (.signed w)
  | unsigned (w : Word) : SameBits (.signed w) (.unsigned w)

namespace SameBits

variable {n n' : Numeric}

theorem word_eq (h : SameBits n n') (unsigned : Bool) : n'.word unsigned = n.word unsigned := by
  cases h with
  | refl => rfl
  | signed w | unsigned w => cases unsigned <;> rfl

theorem kind_eq_iff (h : SameBits n n') {k : NumericKind} (hk : k = .float ∨ k = .bool) :
    n'.kind = k ↔ n.kind = k := by
  cases h with
  | refl => rfl
  | signed w | unsigned w => rcases hk with rfl | rfl <;> exact ⟨nofun, nofun⟩

end SameBits

section

variable {l r : Numeric}

theorem kind_eq_float_of_promotedKind (h : promotedKind l r = .float) :
    l.kind = .float ∨ r.kind = .float := by
  revert h
  unfold promotedKind
  cases l.kind <;> cases r.kind <;> decide

theorem promotedKind_eq_unsigned_iff (hl : l.kind ≠ .float) (hr : r.kind ≠ .float) :
    promotedKind l r = .unsigned ↔ l.kind = .unsigned ∨ r.kind = .unsigned := by
  revert hl hr
  unfold promotedKind
  cases l.kind <;> cases r.kind <;> decide

/-- Operands among the integers, the characters and, but for two of them, the truth values compute as
integers. -/
theorem exists_promotedKind_eq (hl : l.kind ≠ .float) (hr : r.kind ≠ .float)
    (hbools : ¬ (l.kind = .bool ∧ r.kind = .bool)) :
    ∃ unsigned, promotedKind l r = .ofUnsigned unsigned := by
  rcases promotedKind_cases l r with hk | hk | hk
  · rcases kind_eq_float_of_promotedKind hk with hfloat | hfloat
    · exact absurd hfloat hl
    · exact absurd hfloat hr
  · exact absurd hk hbools
  · exact hk

theorem apply_bitNot_of_integers {unsigned : Bool} (hk : promotedKind l r = .ofUnsigned unsigned) :
    apply .bitNot l r = .ok (ofWord unsigned (~~~r.word unsigned)) := by
  change orInvalid .bitNot l r (complement? (promotedKind l r) r) = _
  rw [hk]
  cases unsigned <;> rfl

theorem apply_bitNot_congr {l' : Numeric} (h : l'.kind = l.kind) :
    apply .bitNot l' r = apply .bitNot l r := by
  change orInvalid .bitNot l' r (complement? (promotedKind l' r) r) =
    orInvalid .bitNot l r (complement? (promotedKind l r) r)
  unfold promotedKind orInvalid
  rw [h]

/-- Operands with the bits of two numbers yield the bits of what the operator comes to on these. -/
theorem apply_of_onNumbers? {op : Operator} {unsigned : Bool} {a b z : Int}
    (hk : promotedKind l r = .ofUnsigned unsigned)
    (hl : l.word unsigned = BitVec.ofInt 128 a) (hr : r.word unsigned = BitVec.ofInt 128 b)
    (hz : op.onNumbers? a b = some z) :
    apply op l r = .ok (ofWord unsigned (BitVec.ofInt 128 z)) := by
  by_cases hop : op = .bitNot
  · subst hop
    cases hz
    rw [apply_bitNot_of_integers hk, hr, Word.not_ofInt]
  · apply apply_of_operate? hk
    rw [hl, hr]
    exact Word.operate?_ofInt hz hop _ _

end

end Numeric

def computed (ctx : Context) (m : Machine) (op : Operator) (l r : Numeric) : Except Stop Value :=
  ((applyOperator ctx op (.numeric l) (.numeric r)).run m).1

theorem computed_of_apply {op : Operator} {l r n : Numeric} (h : Numeric.apply op l r = .ok n)
    (ctx : Context) (m : Machine) : computed ctx m op l r = .ok (.numeric n) := by
  change Stop.ofExcept ((Numeric.apply op l r).map Value.numeric) = _
  rw [h]
  rfl

open Numeric in
/-- An integer operator yields the one integer of the promoted kind that is congruent to what it comes
to on the numbers that the operands stand for; that kind is unsigned if one of the operands is, else
signed. The complement asks nothing of its left operand but the
kind, and integers may trade their signedness for the other one without a change of the result's
bits. -/
theorem wrapping_law (ctx : Context) (m m' : Machine) {l r : Numeric} (hl : l.kind ≠ .float)
    (hr : r.kind ≠ .float) (hbools : ¬ (l.kind = .bool ∧ r.kind = .bool)) :
    let kind := promotedKind l r
    (kind = .unsigned ∨ kind = .signed) ∧
    (kind = .unsigned ↔ l.kind = .unsigned ∨ r.kind = .unsigned) ∧
    ∃ a b : Int, l.toInt? = some a ∧ r.toInt? = some b ∧
      (∀ op z, op.onNumbers? a b = some z → ∃ n, computed ctx m op l r = .ok (.numeric n) ∧
        ∀ n', n'.IsResidue kind z ↔ n' = n) ∧
      (∀ l', l'.kind = l.kind → computed ctx m' .bitNot l' r = computed ctx m .bitNot l r) ∧
      ∀ op z, op.onNumbers? a b = some z → ∃ w, ∀ l' r', SameBits l l' → SameBits r r' →
        ∃ unsigned, computed ctx m' op l' r' = .ok (.numeric (ofWord unsigned w)) := by
  intro kind
  obtain ⟨unsigned, hk⟩ := exists_promotedKind_eq hl hr hbools
  obtain ⟨a, ha⟩ := exists_toInt? hl
  obtain ⟨b, hb⟩ := exists_toInt? hr
  have hkind : kind = .ofUnsigned unsigned := hk
  refine ⟨?_, promotedKind_eq_unsigned_iff hl hr, a, b, ha, hb, fun op z hz => ?_,
    fun l' hl' => ?_, fun op z hz => ?_⟩
  · rw [hkind]
    exact NumericKind.ofUnsigned_cases unsigned
  · have happly := apply_of_onNumbers? hk (word_of_toInt? ha unsigned) (word_of_toInt? hb unsigned) hz
    refine ⟨_, computed_of_apply happly ctx m, fun n' => ?_⟩
    rw [hkind]
    exact isResidue_ofUnsigned_iff
  · change Stop.ofExcept ((apply .bitNot l' r).map Value.numeric) =
      Stop.ofExcept ((apply .bitNot l r).map Value.numeric)
    rw [apply_bitNot_congr hl']
  · -- the promoted kind may change along with the operands, but not the words they take part with
    refine ⟨BitVec.ofInt 128 z, fun l' r' hleft hright => ?_⟩
    have hl' : l'.kind ≠ .float := mt (hleft.kind_eq_iff (.inl rfl)).1 hl
    have hr' : r'.kind ≠ .float := mt (hright.kind_eq_iff (.inl rfl)).1 hr
    have hbools' : ¬ (l'.kind = .bool ∧ r'.kind = .bool) := by
      rw [hleft.kind_eq_iff (.inr rfl), hright.kind_eq_iff (.inr rfl)]
      exact hbools
    obtain ⟨unsigned', hk'⟩ := exists_promotedKind_eq hl' hr' hbools'
    have hlword := (hleft.word_eq unsigned').trans (word_of_toInt? ha unsigned')
    have hrword := (hright.word_eq unsigned').trans (word_of_toInt? hb unsigned')
    exact ⟨unsigned', computed_of_apply (apply_of_onNumbers? hk' hlword hrword hz) ctx m'⟩

/-- The greatest unsigned integer times minus one. -/
theorem wrapping_law_minusOne :
    computed ⟨none, .default⟩ ⟨.empty none, #[]⟩ .mul (.unsigned (-1)) (.signed (-1)) =
        .ok (.unsigned 1) ∧
      computed ⟨none, .default⟩ ⟨.empty none, #[]⟩ .bitNot (.unsigned 5) (.signed (-1)) =
        computed ⟨none, .default⟩ ⟨.empty none, #[]⟩ .bitNot (.unsigned (-1)) (.signed (-1)) := by
  obtain ⟨-, -, a, b, ha, hb, hnumbers, hcomplement, -⟩ :=
    wrapping_law ⟨none, .default⟩ ⟨.empty none, #[]⟩ ⟨.empty none, #[]⟩ (l := .unsigned (-1))
      (r := .signed (-1)) nofun nofun (by decide)
  cases ha
  cases hb
  obtain ⟨n, hn, hresidue⟩ := hnumbers .mul _ rfl
  have hone : Numeric.unsigned 1 = n := (hresidue _).1 ⟨rfl, 1, rfl, by decide⟩
  rw [← hone] at hn
  exact ⟨hn, hcomplement (.unsigned 5) rfl⟩

end PatternExpr
