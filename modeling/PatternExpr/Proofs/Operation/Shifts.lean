import PatternExpr.Proofs.Operation.Wrapping

/-! Shifts of integers. The distance is the number that the right operand stands for, modulo the width
of a word, whatever its kind. A shift to the left multiplies by a power of two and wraps, one to the
right divides by it and rounds down, so that the sign is kept where the promoted kind has one. -/
namespace PatternExpr

theorem fdiv_two_pow_neg_iff (a : Int) (k : Nat) : a.fdiv (2 ^ k) < 0 ↔ a < 0 := by
  have hpower : (0 : Int) < 2 ^ k := Int.pow_pos (by decide)
  rw [Int.fdiv_eq_ediv_of_nonneg _ (Int.le_of_lt hpower)]
  have hnonneg : 0 ≤ a / 2 ^ k ↔ 0 ≤ a := Int.ediv_nonneg_iff_of_pos hpower
  omega

theorem fdiv_two_pow_lt {a : Int} {width k : Nat} (ha : a < 2 ^ width) (hk : k ≤ width) :
    a.fdiv (2 ^ k) < 2 ^ (width - k) := by
  have hpower : (0 : Int) < 2 ^ k := Int.pow_pos (by decide)
  rw [Int.fdiv_eq_ediv_of_nonneg _ (Int.le_of_lt hpower)]
  apply Int.ediv_lt_of_lt_mul hpower
  rwa [pow_sub_mul_pow 2 hk]

namespace Word

theorem shiftLeft_eq_ofInt (unsigned : Bool) (w : Word) (k : Nat) :
    w <<< k = BitVec.ofInt 128 (w.value unsigned * 2 ^ k) := by
  have hpower : (BitVec.ofInt 128 (2 ^ k) : Word) = BitVec.twoPow 128 k := by
    rw [← BitVec.toNat_inj, BitVec.toNat_twoPow]
    norm_cast
  rw [BitVec.shiftLeft_eq_mul_twoPow, BitVec.ofInt_mul, ofInt_value, hpower]

theorem value_shiftRight (unsigned : Bool) (w : Word) (k : Nat) :
    value unsigned (if !unsigned then w.sshiftRight k else w >>> k) =
      (w.value unsigned).fdiv (2 ^ k) := by
  have hpower : (0 : Int) ≤ 2 ^ k := Int.le_of_lt (Int.pow_pos (by decide))
  rw [Int.fdiv_eq_ediv_of_nonneg _ hpower]
  cases unsigned with
  | true =>
    change ((w >>> k).toNat : Int) = (w.toNat : Int) / 2 ^ k
    rw [BitVec.toNat_ushiftRight, Nat.shiftRight_eq_div_pow]
    push_cast
    rfl
  | false =>
    change (w.sshiftRight k).toInt = w.toInt / 2 ^ k
    rw [BitVec.toInt_sshiftRight, Int.shiftRight_eq_div_pow]
    push_cast
    rfl

end Word

namespace Numeric

/-- The cast to a signed integer may change the sign of the distance, but not its remainder. -/
theorem shiftAmount_of_toInt? {r : Numeric} {b : Int} (h : r.toInt? = some b) :
    r.shiftAmount = (b % 128).toNat := by
  have hword : r.toSigned = BitVec.ofInt 128 b := word_of_toInt? h false
  have hnat : (r.toSigned.toNat : Int) = b % Word.count := by rw [hword, Word.toNat_ofInt]
  -- a word holds a multiple of the distances, so wrapping the number keeps the remainder
  have hdvd : b % Word.count % 128 = b % 128 := Int.emod_emod_of_dvd b (by decide)
  unfold shiftAmount
  omega

section

variable {l r : Numeric} {unsigned : Bool} {b : Int}

theorem apply_shl_of_integers (hk : promotedKind l r = .ofUnsigned unsigned)
    (hb : r.toInt? = some b) :
    apply .shl l r = .ok (ofWord unsigned
      (BitVec.ofInt 128 ((l.word unsigned).value unsigned * 2 ^ (b % 128).toNat))) := by
  apply apply_of_operate? hk
  rw [shiftAmount_of_toInt? hb, ← Word.shiftLeft_eq_ofInt]
  rfl

theorem apply_shr_of_integers (hk : promotedKind l r = .ofUnsigned unsigned)
    (hb : r.toInt? = some b) :
    ∃ w, apply .shr l r = .ok (ofWord unsigned w) ∧
      w.value unsigned = ((l.word unsigned).value unsigned).fdiv (2 ^ (b % 128).toNat) := by
  refine ⟨_, apply_of_operate? hk rfl, ?_⟩
  rw [shiftAmount_of_toInt? hb]
  exact Word.value_shiftRight unsigned _ _

end

end Numeric

open Numeric in
/-- A shift goes by the number that the right operand stands for, modulo 128. To the left it yields the
one integer of the promoted kind, unsigned if one of the operands is and else signed, that is congruent
to the left operand, cast to that kind, times the power of two; to the right it yields the floor of the
quotient. That has the sign of a signed operand, and from an unsigned one it has no more bits than are
left. -/
theorem shift_law (ctx : Context) (m : Machine) {l r : Numeric} (hl : l.kind ≠ .float)
    (hr : r.kind ≠ .float) (hbools : ¬ (l.kind = .bool ∧ r.kind = .bool)) :
    let kind := promotedKind l r
    (kind = .unsigned ∨ kind = .signed) ∧
    (kind = .unsigned ↔ l.kind = .unsigned ∨ r.kind = .unsigned) ∧
    ∃ a b : Int, (l.castTo kind).toInt? = some a ∧ r.toInt? = some b ∧
      let distance := (b % 128).toNat
      (∃ n, computed ctx m .shl l r = .ok (.numeric n) ∧
        ∀ n', n'.IsResidue kind (a * 2 ^ distance) ↔ n' = n) ∧
      ∃ n, computed ctx m .shr l r = .ok (.numeric n) ∧ n.kind = kind ∧
        n.toInt? = some (a.fdiv (2 ^ distance)) ∧
        (kind = .signed → (a.fdiv (2 ^ distance) < 0 ↔ a < 0)) ∧
        (kind = .unsigned → 0 ≤ a ∧ a.fdiv (2 ^ distance) < 2 ^ (128 - distance)) := by
  intro kind
  obtain ⟨unsigned, hk⟩ := exists_promotedKind_eq hl hr hbools
  obtain ⟨b, hb⟩ := exists_toInt? hr
  have hkind : kind = .ofUnsigned unsigned := hk
  have ha : (l.castTo kind).toInt? = some ((l.word unsigned).value unsigned) := by
    rw [hkind, castTo_ofUnsigned, toInt?_ofWord]
  obtain ⟨w, hshr, hvalue⟩ := apply_shr_of_integers hk hb
  refine ⟨?_, promotedKind_eq_unsigned_iff hl hr, _, b, ha, hb,
    ⟨_, computed_of_apply (apply_shl_of_integers hk hb) ctx m, fun n' => ?_⟩,
    _, computed_of_apply hshr ctx m, ?_, ?_, fun hsigned => ?_, fun hunsigned => ?_⟩
  · rw [hkind]
    exact NumericKind.ofUnsigned_cases unsigned
  · rw [hkind]
    exact isResidue_ofUnsigned_iff
  · rw [kind_ofWord, hkind]
  · rw [toInt?_ofWord, hvalue]
  · exact fdiv_two_pow_neg_iff _ _
  · cases unsigned with
    | false => exact absurd (hkind.symm.trans hunsigned) (by decide)
    | true =>
      have hbits : ((l.word true).toNat : Int) < 2 ^ 128 := by exact_mod_cast (l.word true).isLt
      have hdistance : (b % 128).toNat ≤ 128 := by omega
      exact ⟨Int.natCast_nonneg _, fdiv_two_pow_lt hbits hdistance⟩

/-- A distance that is negative once it is cast to a signed integer; it is three modulo 128. -/
def wideDistance : Numeric := .unsigned (BitVec.twoPow 128 127 + 3)

theorem shift_law_wideDistance :
    computed ⟨none, .default⟩ ⟨.empty none, #[]⟩ .shl (.signed (-8)) wideDistance =
        .ok (.unsigned (-64)) ∧
      ∃ n, computed ⟨none, .default⟩ ⟨.empty none, #[]⟩ .shr (.signed (-8)) wideDistance =
        .ok (.numeric n) ∧ n.kind = .unsigned ∧ n.toInt? = some (2 ^ 125 - 1) := by
  obtain ⟨-, -, a, b, ha, hb, ⟨n, hshl, hresidue⟩, n', hshr, hkind, hfloor, -⟩ :=
    shift_law ⟨none, .default⟩ ⟨.empty none, #[]⟩ (l := .signed (-8)) (r := wideDistance)
      nofun nofun (by decide)
  cases ha
  cases hb
  have hproduct : Numeric.unsigned (-64) = n := (hresidue _).1 ⟨rfl, _, rfl, by decide +kernel⟩
  rw [← hproduct] at hshl
  refine ⟨hshl, n', hshr, hkind, hfloor.trans (congrArg some ?_)⟩
  decide +kernel

end PatternExpr
