import PatternExpr.Proofs.Operation.Integers
import PatternExpr.Tree.Evaluation

/-! Division. Quotient and remainder fail alike. Those of integers are the ones of division truncated
toward zero, and multiplying back gives the dividend for every divisor but zero, also where the
quotient wraps. -/
namespace PatternExpr

def DivisionPart.operator : DivisionPart → Operator
  | .quotient => .div
  | .remainder => .mod

namespace Word

theorem divide_mul_add_divide (signed : Bool) (a b : Word) :
    divide signed a b .quotient * b + divide signed a b .remainder = a := by
  cases signed with
  | false =>
    apply BitVec.eq_of_toNat_eq
    change (a / b * b + a % b).toNat = a.toNat
    have hquotient : (a / b * b).toNat = a.toNat / b.toNat * b.toNat := by
      rw [BitVec.toNat_mul, BitVec.toNat_udiv]
      exact Nat.mod_eq_of_lt (Nat.lt_of_le_of_lt (Nat.div_mul_le_self _ _) a.isLt)
    rw [BitVec.toNat_add, hquotient, BitVec.toNat_umod, Nat.div_add_mod']
    exact Nat.mod_eq_of_lt a.isLt
  | true =>
    -- the quotient may have wrapped, but sums and products are only looked at modulo the width
    apply BitVec.eq_of_toInt_eq
    change (a.sdiv b * b + a.srem b).toInt = a.toInt
    rw [BitVec.toInt_add, BitVec.toInt_mul, BitVec.toInt_sdiv, BitVec.toInt_srem,
      Int.bmod_mul_bmod, Int.bmod_add_bmod, Int.tdiv_mul_add_tmod, BitVec.toInt_bmod_cancel]

theorem value_remainder (unsigned : Bool) (a b : Word) :
    (divide (!unsigned) a b .remainder).value unsigned =
      (a.value unsigned).tmod (b.value unsigned) := by
  cases unsigned with
  | true =>
    change ((a % b).toNat : Int) = (a.toNat : Int).tmod b.toNat
    rw [BitVec.toNat_umod]
    exact Int.ofNat_tmod _ _
  | false => exact BitVec.toInt_srem a b

/-- The one quotient that does not fit wraps. -/
theorem value_quotient (unsigned : Bool) (a b : Word) :
    (divide (!unsigned) a b .quotient).value unsigned =
      if a.value unsigned = minSigned ∧ b.value unsigned = -1 then minSigned
      else (a.value unsigned).tdiv (b.value unsigned) := by
  cases unsigned with
  | true =>
    have hfits : ¬ ((a.toNat : Int) = minSigned ∧ (b.toNat : Int) = -1) := by
      rintro ⟨-, hb⟩
      omega
    change ((a / b).toNat : Int) = if (a.toNat : Int) = minSigned ∧ (b.toNat : Int) = -1 then _ else _
    rw [if_neg hfits, BitVec.toNat_udiv]
    exact Int.ofNat_tdiv _ _
  | false =>
    change (a.sdiv b).toInt = if a.toInt = minSigned ∧ b.toInt = -1 then _ else a.toInt.tdiv b.toInt
    split
    next h =>
      have ha : a = BitVec.intMin 128 := BitVec.eq_of_toInt_eq (h.1.trans rfl)
      have hb : b = -1#128 := BitVec.eq_of_toInt_eq (h.2.trans rfl)
      rw [ha, hb, BitVec.intMin_sdiv_neg_one]
      rfl
    next h =>
      apply BitVec.toInt_sdiv_of_ne_or_ne
      by_contra! hab
      exact h ⟨congrArg BitVec.toInt hab.1, congrArg BitVec.toInt hab.2⟩

theorem divide?_of_ne_zero {b : Word} (hb : b ≠ 0) (signed : Bool) (a : Word) (part : DivisionPart) :
    divide? signed a b part = some (divide signed a b part) := if_neg hb

end Word

def NumericKind.zero : NumericKind → Numeric
  | .unsigned => .unsigned 0
  | .signed => .signed 0
  | .float => .float (.zero false)
  | .bool => .bool false
  | .char => .char (Char.ofNat 0)

namespace Numeric

theorem equals_zero (n : Numeric) : n.equals n.kind.zero = !n.toBool := by
  cases n with
  | unsigned w | signed w => exact (Bool.not_not _).symm
  | float x => exact (Binary64.equals_zero x).trans (Bool.not_not _).symm
  | bool b => cases b <;> rfl
  | char c =>
    rw [toBool_char]
    exact (Bool.not_not _).symm

theorem word_ne_zero {n : Numeric} (hk : n.kind ≠ .float) (h : n.toBool = true) (unsigned : Bool) :
    n.word unsigned ≠ 0 := by
  cases n with
  | unsigned w | signed w =>
    have hw : w ≠ 0 := bne_iff_ne.1 h
    cases unsigned <;> exact hw
  | float x => exact absurd rfl hk
  | bool b =>
    have hb : b = true := h
    subst hb
    cases unsigned <;> decide
  | char c =>
    have hc : c.toNat ≠ 0 := bne_iff_ne.1 h
    have hword : (char c).toSigned ≠ 0 := by
      intro hz
      have hcode := congrArg BitVec.toNat hz
      rw [toNat_toSigned_char] at hcode
      exact hc hcode
    cases unsigned <;> exact hword

section

variable {l r : Numeric}

theorem promotedKind_of_bools (h : l.kind = .bool ∧ r.kind = .bool) : promotedKind l r = .bool := by
  rw [promotedKind, h.1, h.2]
  rfl

theorem divide_of_zero (h : r.toBool = false) (part : DivisionPart) :
    divide part l r = .error .divisionByZero := by
  rw [divide, h]
  rfl

theorem divide_of_bools (h : r.toBool = true) (hk : l.kind = .bool ∧ r.kind = .bool)
    (part : DivisionPart) : divide part l r = .error .booleanArithmetic := by
  rw [divide, h, promotedKind_of_bools hk]
  rfl

theorem divide_of_float (h : r.toBool = true) (hk : promotedKind l r = .float)
    (part : DivisionPart) :
    divide part l r = .ok (.float (Binary64.divide l.toFloat r.toFloat part)) := by
  rw [divide, h, hk]
  rfl

theorem divide_of_integers {unsigned : Bool} (h : r.toBool = true)
    (hk : promotedKind l r = .ofUnsigned unsigned) (part : DivisionPart) :
    divide part l r =
      .ok (ofWord unsigned (Word.divide (!unsigned) (l.word unsigned) (r.word unsigned) part)) := by
  have hne : r.word unsigned ≠ 0 := word_ne_zero (kind_ne_float_of_integers hk) h unsigned
  have hword := Word.divide?_of_ne_zero hne (!unsigned) (l.word unsigned) part
  rw [divide, h, hk]
  cases unsigned with
  | true => exact congrArg (fun w => orZeroDivisor (w.map .unsigned)) hword
  | false => exact congrArg (fun w => orZeroDivisor (w.map .signed)) hword

theorem apply_add_of_division {unsigned : Bool} (hk : promotedKind l r = .ofUnsigned unsigned)
    {quotient remainder : Word}
    (hword : quotient * r.word unsigned + remainder = l.word unsigned) :
    ∃ product, apply .mul (ofWord unsigned quotient) r = .ok product ∧
      apply .add product (ofWord unsigned remainder) = .ok (l.castTo (.ofUnsigned unsigned)) := by
  have hmul : apply .mul (ofWord unsigned quotient) r =
      .ok (ofWord unsigned (quotient * r.word unsigned)) := by
    apply apply_of_operate? (promotedKind_ofWord_left hk quotient)
    rw [word_ofWord]
    rfl
  have hadd : apply .add (ofWord unsigned (quotient * r.word unsigned)) (ofWord unsigned remainder) =
      .ok (ofWord unsigned (quotient * r.word unsigned + remainder)) := by
    apply apply_of_operate? (promotedKind_ofWord_ofWord unsigned _ _)
    rw [word_ofWord, word_ofWord]
    rfl
  refine ⟨_, hmul, ?_⟩
  rw [hadd, hword, castTo_ofUnsigned]

theorem exists_division_of_integers {unsigned : Bool} (h : r.toBool = true)
    (hk : promotedKind l r = .ofUnsigned unsigned) :
    ∃ (quotient remainder : Numeric) (a b : Int),
      divide .quotient l r = .ok quotient ∧ divide .remainder l r = .ok remainder ∧
      quotient.kind = .ofUnsigned unsigned ∧ remainder.kind = .ofUnsigned unsigned ∧
      (l.castTo (.ofUnsigned unsigned)).toInt? = some a ∧
      (r.castTo (.ofUnsigned unsigned)).toInt? = some b ∧ b ≠ 0 ∧
      quotient.toInt? = some (if a = Word.minSigned ∧ b = -1 then Word.minSigned else a.tdiv b) ∧
      remainder.toInt? = some (a.tmod b) ∧
      ∃ product, apply .mul quotient r = .ok product ∧
        apply .add product remainder = .ok (l.castTo (.ofUnsigned unsigned)) := by
  have hcast (n : Numeric) :
      (n.castTo (.ofUnsigned unsigned)).toInt? = some ((n.word unsigned).value unsigned) := by
    rw [castTo_ofUnsigned, toInt?_ofWord]
  have hb : (r.word unsigned).value unsigned ≠ 0 :=
    mt Word.value_eq_zero_iff.1 (word_ne_zero (kind_ne_float_of_integers hk) h unsigned)
  refine ⟨_, _, _, _, divide_of_integers h hk .quotient, divide_of_integers h hk .remainder,
    kind_ofWord .., kind_ofWord .., hcast l, hcast r, hb, ?_, ?_, apply_add_of_division hk ?_⟩
  · rw [toInt?_ofWord, Word.value_quotient]
  · rw [toInt?_ofWord, Word.value_remainder]
  · exact Word.divide_mul_add_divide (!unsigned) (l.word unsigned) (r.word unsigned)

end

end Numeric

theorem tmod_lt_and_sign {b : Int} (hb : b ≠ 0) (a : Int) :
    (a.tmod b).natAbs < b.natAbs ∧ (a.tmod b = 0 ∨ (a.tmod b).sign = a.sign) := by
  constructor
  · rw [Int.natAbs_tmod]
    exact Nat.mod_lt _ (by omega)
  · by_cases hdvd : b ∣ a
    · exact .inl (Int.tmod_eq_zero_of_dvd hdvd)
    · right
      rw [Int.sign_tmod, if_neg hdvd]

theorem fst_run_applyOperator_numeric (ctx : Context) (op : Operator) (l r : Numeric) (m : Machine) :
    ((applyOperator ctx op (.numeric l) (.numeric r)).run m).1 =
      Stop.ofExcept ((Numeric.apply op l r).map .numeric) := rfl

def divided (ctx : Context) (m : Machine) (l r : Numeric) (part : DivisionPart) :
    Except Stop Value :=
  ((applyOperator ctx part.operator (.numeric l) (.numeric r)).run m).1

section

variable (ctx : Context) (m : Machine) (l r : Numeric)

theorem divided_eq (part : DivisionPart) :
    divided ctx m l r part = Stop.ofExcept ((Numeric.divide part l r).map .numeric) := by
  cases part <;> rfl

/-- Whichever part is asked for, a division ends in one of three ways. -/
theorem divided_cases (part : DivisionPart) :
    (divided ctx m l r part = .error Fault.divisionByZero ∧ r.toBool = false) ∨
      (divided ctx m l r part = .error Fault.booleanArithmetic ∧ r.toBool = true ∧
        l.kind = .bool ∧ r.kind = .bool) ∨
      ((∃ n, divided ctx m l r part = .ok (.numeric n)) ∧ r.toBool = true ∧
        ¬ (l.kind = .bool ∧ r.kind = .bool)) := by
  rw [divided_eq]
  cases h : r.toBool with
  | false =>
    rw [Numeric.divide_of_zero h]
    exact .inl ⟨rfl, rfl⟩
  | true =>
    rcases Numeric.promotedKind_cases l r with hk | hk | ⟨unsigned, hk⟩
    · have hne : Numeric.promotedKind l r ≠ .bool := by
        rw [hk]
        decide
      rw [Numeric.divide_of_float h hk]
      exact .inr (.inr ⟨⟨_, rfl⟩, rfl, mt Numeric.promotedKind_of_bools hne⟩)
    · rw [Numeric.divide_of_bools h hk]
      exact .inr (.inl ⟨rfl, rfl, hk⟩)
    · have hne : Numeric.promotedKind l r ≠ .bool := by
        rw [hk]
        cases unsigned <;> decide
      rw [Numeric.divide_of_integers h hk]
      exact .inr (.inr ⟨⟨_, rfl⟩, rfl, mt Numeric.promotedKind_of_bools hne⟩)

/-- Quotient and remainder of two values both fail for a zero divisor, else both for two truth values,
and else both are there. A divisor that is not zero is not cast to zero either. Quotients of integers
are truncated toward zero, save the one that wraps; remainders are smaller than the divisor and on the
side of the dividend; and the operators put the dividend together again. -/
theorem division_law :
    let kind := Numeric.promotedKind l r
    (∀ part, divided ctx m l r part = .error Fault.divisionByZero ↔ r.equals r.kind.zero = true) ∧
    (r.equals r.kind.zero = true ↔ r.toBool = false) ∧
    (∀ part, divided ctx m l r part = .error Fault.booleanArithmetic ↔
      r.toBool = true ∧ l.kind = .bool ∧ r.kind = .bool) ∧
    (∀ part, (∃ n, divided ctx m l r part = .ok (.numeric n)) ↔
      r.toBool = true ∧ ¬ (l.kind = .bool ∧ r.kind = .bool)) ∧
    (r.toBool = true →
      (kind = .unsigned → r.toUnsigned ≠ 0) ∧ (kind = .signed → r.toSigned ≠ 0)) ∧
    (r.toBool = true → kind = .unsigned ∨ kind = .signed →
      ∃ (quotient remainder : Numeric) (a b : Int),
        divided ctx m l r .quotient = .ok (.numeric quotient) ∧
        divided ctx m l r .remainder = .ok (.numeric remainder) ∧
        quotient.kind = kind ∧ remainder.kind = kind ∧
        (l.castTo kind).toInt? = some a ∧ (r.castTo kind).toInt? = some b ∧
        quotient.toInt? = some (if a = Word.minSigned ∧ b = -1 then Word.minSigned else a.tdiv b) ∧
        remainder.toInt? = some (a.tmod b) ∧
        (a.tmod b).natAbs < b.natAbs ∧ (a.tmod b = 0 ∨ (a.tmod b).sign = a.sign) ∧
        (a = Word.minSigned ∧ b = -1 → a.tmod b = 0) ∧
        ∀ m₁ m₂, ∃ product,
          ((applyOperator ctx .mul (.numeric quotient) (.numeric r)).run m₁).1 = .ok product ∧
          ((applyOperator ctx .add product (.numeric remainder)).run m₂).1 =
            .ok (.numeric (l.castTo kind))) := by
  intro kind
  have hzero : r.equals r.kind.zero = true ↔ r.toBool = false := by simp [Numeric.equals_zero]
  have hne : Fault.booleanArithmetic ≠ Fault.divisionByZero := by decide
  have hparts := divided_cases ctx m l r
  refine ⟨fun part => ?_, hzero, fun part => ?_, fun part => ?_, fun h => ⟨fun hk => ?_, fun hk => ?_⟩,
    fun h hkind => ?_⟩
  · rw [hzero]
    rcases hparts part with ⟨hx, h⟩ | ⟨hx, h, -⟩ | ⟨⟨n, hx⟩, h, -⟩ <;> simp [hx, h, hne]
  · rcases hparts part with ⟨hx, h⟩ | ⟨hx, h⟩ | ⟨⟨n, hx⟩, h, hbools⟩
    · simp [hx, h, hne.symm]
    · simp [hx, h]
    · simp [hx, hbools]
  · rcases hparts part with ⟨hx, h⟩ | ⟨hx, h, hbools⟩ | ⟨hx, h, hbools⟩
    · simp [hx, h]
    · simp [hx, hbools]
    · exact iff_of_true hx ⟨h, hbools⟩
  · have hunsigned : kind = .ofUnsigned true := hk
    exact Numeric.word_ne_zero (Numeric.kind_ne_float_of_integers hunsigned) h true
  · have hsigned : kind = .ofUnsigned false := hk
    exact Numeric.word_ne_zero (Numeric.kind_ne_float_of_integers hsigned) h false
  · obtain ⟨unsigned, hk⟩ := NumericKind.exists_ofUnsigned hkind
    rw [hk]
    obtain ⟨quotient, remainder, a, b, hq, hr, hqk, hrk, ha, hb, hb0, hqv, hrv, product, hmul, hadd⟩ :=
      Numeric.exists_division_of_integers h hk
    obtain ⟨hlt, hsign⟩ := tmod_lt_and_sign hb0 a
    refine ⟨quotient, remainder, a, b, by rw [divided_eq, hq]; rfl, by rw [divided_eq, hr]; rfl, hqk,
      hrk, ha, hb, hqv, hrv, hlt, hsign, ?_, fun m₁ m₂ => ⟨.numeric product, ?_, ?_⟩⟩
    · rintro ⟨-, rfl⟩
      rw [Int.tmod_neg, Int.tmod_one]
    · rw [fst_run_applyOperator_numeric, hmul]
      rfl
    · rw [fst_run_applyOperator_numeric, hadd]
      rfl

end

def leastSigned : Numeric := .signed (BitVec.ofInt 128 Word.minSigned)

theorem division_law_leastSigned :
    ∃ quotient remainder : Numeric,
      divided ⟨none, .default⟩ ⟨.empty none, #[]⟩ leastSigned (.signed (-1)) .quotient =
        .ok (.numeric quotient) ∧
      divided ⟨none, .default⟩ ⟨.empty none, #[]⟩ leastSigned (.signed (-1)) .remainder =
        .ok (.numeric remainder) ∧
      quotient.toInt? = some Word.minSigned ∧ remainder.toInt? = some 0 := by
  obtain ⟨-, -, -, -, -, hintegers⟩ :=
    division_law ⟨none, .default⟩ ⟨.empty none, #[]⟩ leastSigned (.signed (-1))
  obtain ⟨quotient, remainder, a, b, hq, hr, -, -, ha, hb, hqv, hrv, -, -, hwraps, -⟩ :=
    hintegers rfl (.inr rfl)
  have ha' : Word.minSigned = a := Option.some.inj ha
  have hb' : -1 = b := Option.some.inj hb
  rw [if_pos ⟨ha'.symm, hb'.symm⟩] at hqv
  rw [hwraps ⟨ha'.symm, hb'.symm⟩] at hrv
  exact ⟨quotient, remainder, hq, hr, hqv, hrv⟩

end PatternExpr
