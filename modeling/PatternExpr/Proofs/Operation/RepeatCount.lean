import Mathlib.Order.Bounds.Defs
import PatternExpr.Proofs.Operation.Repetition
import PatternExpr.Tree.Evaluation

/-! The counts that a repetition accepts. The limit it goes by comes from a division, but it is the
greatest count for which neither the copies nor their bytes are too many. -/
namespace PatternExpr

theorem repeatText_eq_join (s : String) (count : Nat) :
    repeatText s count = String.join (List.replicate count s) := by
  unfold repeatText
  split
  case isTrue h =>
    have hs : s = "" := by simpa using h
    subst hs
    induction count with
    | zero => rfl
    | succ n ih => rw [List.replicate_succ, String.join_cons, ← ih, String.append_empty]
  case isFalse =>
    induction count with
    | zero => rfl
    | succ n ih =>
      rw [Nat.repeat, ih, List.replicate_succ', String.join_append]
      simp

/-- So many copies of a string of so many bytes are not too many, and their bytes are not either. -/
def Limits.Allows (l : Limits) (size copies : Nat) : Prop :=
  copies ≤ l.maxRepeatCount ∧ copies * size ≤ l.maxStringLength

theorem Limits.allows_iff_le_repeatLimit {l : Limits} {size copies : Nat} :
    l.Allows size copies ↔ copies ≤ l.repeatLimit size := by
  unfold Allows repeatLimit
  by_cases hs : size = 0
  · rw [if_pos hs, hs]
    omega
  · rw [if_neg hs, Nat.le_min, Nat.le_div_iff_mul_le (Nat.pos_of_ne_zero hs)]

theorem Fault.repeatLimitExceeded_ne_negative (count : Int) (limit : Nat) :
    repeatLimitExceeded count limit ≠ negativeRepeatCount :=
  fun h => nomatch congrArg cause h

section

variable {limits : Limits} {s : String} {count : Int}

theorem repeatString_of_neg (h : count < 0) :
    repeatString limits s count = .error .negativeRepeatCount := if_pos h

theorem repeatString_of_allows (h : 0 ≤ count)
    (hallows : limits.Allows s.utf8ByteSize count.toNat)
    (hfits : count.toNat * s.utf8ByteSize < memoryBound) :
    repeatString limits s count = .ok (String.join (List.replicate count.toNat s)) := by
  have hle := Limits.allows_iff_le_repeatLimit.1 hallows
  unfold repeatString
  dsimp only
  rw [if_neg (by omega), if_neg (by omega), repeatText_eq_join]

theorem repeatString_of_not_allows (h : 0 ≤ count)
    (hallows : ¬ limits.Allows s.utf8ByteSize count.toNat) :
    repeatString limits s count =
      .error (.repeatLimitExceeded count (limits.repeatLimit s.utf8ByteSize)) := by
  have hlt := mt Limits.allows_iff_le_repeatLimit.2 hallows
  unfold repeatString
  dsimp only
  rw [if_neg (by omega), if_pos (by omega)]

end

def repeated (ctx : Context) (m : Machine) (s : String) (n : Numeric) : Except Stop Value :=
  ((applyOperator ctx .mul (.string s) (.numeric n)).run m).1

theorem repeated_eq {n : Numeric} (hn : n.kind ≠ .char) (ctx : Context) (m : Machine) (s : String) :
    repeated ctx m s n =
      Stop.ofExcept ((repeatString ctx.limits s n.toSigned.toInt).map .string) :=
  congrArg Stop.ofExcept (applyText_repetition ctx.limits s hn)

section

variable {ctx : Context} {m : Machine} {s : String} {n : Numeric} (hn : n.kind ≠ .char)
include hn

theorem repeated_eq_negative_iff :
    repeated ctx m s n = .error Fault.negativeRepeatCount ↔ n.toSigned.toInt < 0 := by
  rw [repeated_eq hn]
  unfold repeatString
  dsimp only
  split
  next h => exact iff_of_true rfl h
  next h =>
    split
    · refine iff_of_false (fun hx => ?_) h
      exact Fault.repeatLimitExceeded_ne_negative _ _ (Stop.fault.inj (Except.error.inj hx))
    · exact iff_of_false nofun h

theorem repeated_of_allows (h : 0 ≤ n.toSigned.toInt)
    (hallows : ctx.limits.Allows s.utf8ByteSize n.toSigned.toInt.toNat)
    (hfits : n.toSigned.toInt.toNat * s.utf8ByteSize < memoryBound) :
    repeated ctx m s n = .ok (.string (String.join (List.replicate n.toSigned.toInt.toNat s))) := by
  rw [repeated_eq hn, repeatString_of_allows h hallows hfits]
  rfl

theorem repeated_of_not_allows (h : 0 ≤ n.toSigned.toInt)
    (hallows : ¬ ctx.limits.Allows s.utf8ByteSize n.toSigned.toInt.toNat) :
    repeated ctx m s n = .error
      (Fault.repeatLimitExceeded n.toSigned.toInt (ctx.limits.repeatLimit s.utf8ByteSize)) := by
  rw [repeated_eq hn, repeatString_of_not_allows h hallows]
  rfl

theorem of_repeated_eq_ok {v : Value} (hv : repeated ctx m s n = .ok v) :
    0 ≤ n.toSigned.toInt ∧ ctx.limits.Allows s.utf8ByteSize n.toSigned.toInt.toNat ∧
      v = .string (String.join (List.replicate n.toSigned.toInt.toNat s)) := by
  rw [repeated_eq hn] at hv
  cases hx : repeatString ctx.limits s n.toSigned.toInt with
  | error f =>
    rw [hx] at hv
    cases hv
  | ok text =>
    obtain ⟨hle, htext⟩ := repeatString_eq_ok hx
    have h : 0 ≤ n.toSigned.toInt := by
      refine Int.not_lt.1 fun hneg => ?_
      cases hx.symm.trans (repeatString_of_neg hneg)
    rw [hx] at hv
    cases hv
    exact ⟨h, Limits.allows_iff_le_repeatLimit.2 hle, by rw [htext, repeatText_eq_join]⟩

end

/-- Every count that a limit can be is the signed cast of some value. -/
theorem exists_count {k : Nat} (hk : k ≤ UInt64.size) :
    ∃ n : Numeric, n.kind ≠ .char ∧ n.toSigned.toInt = k := by
  refine ⟨.signed (BitVec.ofInt 128 k), nofun, ?_⟩
  have hsize : UInt64.size = 18446744073709551616 := rfl
  apply BitVec.toInt_ofInt_eq_self <;> omega

/-- A string is not repeated a negative number of times. Other counts succeed if neither the copies
nor their bytes in all exceed the limits, and as long as the bytes can be held in memory yield that many
copies. The limit that a refusal names is the greatest count that succeeds, and up to it no number of
bytes leaves the 64-bit words. -/
theorem repetition_law (ctx : Context) (m : Machine) (s : String)
    (hcount : ctx.limits.maxRepeatCount < UInt64.size)
    (hlength : ctx.limits.maxStringLength < UInt64.size) :
    let size := s.utf8ByteSize
    let limit := ctx.limits.repeatLimit size
    (∀ n : Numeric, n.kind ≠ .char →
      let count := n.toSigned.toInt
      (repeated ctx m s n = .error Fault.negativeRepeatCount ↔ count < 0) ∧
      (count.toNat * size < memoryBound →
        ((∃ v, repeated ctx m s n = .ok v) ↔ 0 ≤ count ∧
          count ≤ ctx.limits.maxRepeatCount ∧ count * size ≤ ctx.limits.maxStringLength)) ∧
      (∀ v, repeated ctx m s n = .ok v →
        v = .string (String.join (List.replicate count.toNat s))) ∧
      (0 ≤ count → ¬ (count ≤ ctx.limits.maxRepeatCount ∧ count * size ≤ ctx.limits.maxStringLength) →
        repeated ctx m s n = .error (Fault.repeatLimitExceeded count limit)) ∧
      (0 ≤ count → count ≤ limit → count.toNat * size < memoryBound →
        ∃ v, repeated ctx m s n = .ok v) ∧
      (count = limit + 1 → repeated ctx m s n = .error (Fault.repeatLimitExceeded count limit))) ∧
    (limit * size < memoryBound →
      IsGreatest {k : Int | ∃ n : Numeric, n.kind ≠ .char ∧ n.toSigned.toInt = k ∧
        ∃ v, repeated ctx m s n = .ok v} limit) ∧
    (∀ count, (Fault.repeatLimitExceeded count limit).cause.suggestion =
      some ("keep the repetition count at or below " ++ toString limit)) ∧
    (∀ copies ≤ limit, copies * size < UInt64.size) := by
  intro size limit
  have hallows {count : Int} (h : 0 ≤ count) : ctx.limits.Allows size count.toNat ↔
      count ≤ ctx.limits.maxRepeatCount ∧ count * size ≤ ctx.limits.maxStringLength := by
    obtain ⟨k, rfl⟩ := Int.eq_ofNat_of_zero_le h
    rw [Int.toNat_natCast]
    unfold Limits.Allows
    omega
  have hlimit {count : Int} (h : 0 ≤ count) : ctx.limits.Allows size count.toNat ↔ count ≤ limit := by
    rw [Limits.allows_iff_le_repeatLimit]
    omega
  refine ⟨fun n hn => ⟨repeated_eq_negative_iff hn, fun hfits => ⟨?_, ?_⟩, fun v hv => ?_,
    fun h hn' => ?_, fun h hle hfits => ?_, fun h => ?_⟩, fun hfits => ⟨?_, ?_⟩, fun _ => rfl, ?_⟩
  · rintro ⟨v, hv⟩
    obtain ⟨h, ha, -⟩ := of_repeated_eq_ok hn hv
    exact ⟨h, (hallows h).1 ha⟩
  · rintro ⟨h, ha⟩
    exact ⟨_, repeated_of_allows hn h ((hallows h).2 ha) hfits⟩
  · exact (of_repeated_eq_ok hn hv).2.2
  · exact repeated_of_not_allows hn h (mt (hallows h).1 hn')
  · exact ⟨_, repeated_of_allows hn h ((hlimit h).2 hle) hfits⟩
  · have h0 : 0 ≤ n.toSigned.toInt := by omega
    exact repeated_of_not_allows hn h0 (mt (hlimit h0).1 (by omega))
  · have hsize : limit ≤ UInt64.size :=
      Nat.le_trans (Limits.allows_iff_le_repeatLimit.2 (Nat.le_refl limit)).1 (Nat.le_of_lt hcount)
    obtain ⟨n, hn, hk⟩ := exists_count hsize
    have h0 : 0 ≤ n.toSigned.toInt := by omega
    have hk' : n.toSigned.toInt.toNat = limit := by omega
    exact ⟨n, hn, hk, _, repeated_of_allows hn h0 ((hlimit h0).2 (by omega)) (by rw [hk']; exact hfits)⟩
  · rintro k ⟨n, hn, rfl, v, hv⟩
    obtain ⟨h, ha, -⟩ := of_repeated_eq_ok hn hv
    exact (hlimit h).1 ha
  · intro copies hle
    calc
      copies * size ≤ limit * size := Nat.mul_le_mul_right size hle
      _ ≤ ctx.limits.maxStringLength := ctx.limits.repeatLimit_mul_le size
      _ < UInt64.size := hlength

/-- Five copies of two bytes, however many copies there could be. -/
def tenBytes : Context := ⟨none, ⟨UInt64.size - 1, 10, none⟩⟩

theorem repetition_law_tenBytes :
    repeated tenBytes ⟨.empty none, #[]⟩ "é" (.float (.ofInt 5)) = .ok (.string "ééééé") ∧
      repeated tenBytes ⟨.empty none, #[]⟩ "é" (.signed 6) = .error (Fault.repeatLimitExceeded 6 5) ∧
      repeated tenBytes ⟨.empty none, #[]⟩ "é" (.unsigned (-1)) = .error Fault.negativeRepeatCount ∧
      IsGreatest {k : Int | ∃ n : Numeric, n.kind ≠ .char ∧ n.toSigned.toInt = k ∧
        ∃ v, repeated tenBytes ⟨.empty none, #[]⟩ "é" n = .ok v} 5 := by
  have hsize : "é".utf8ByteSize = 2 := by decide
  have hlimit : tenBytes.limits.repeatLimit 2 = 5 := by decide
  obtain ⟨hcounts, hgreatest, -, -⟩ :=
    repetition_law tenBytes ⟨.empty none, #[]⟩ "é" (by decide) (by decide)
  rw [hsize] at hcounts hgreatest
  rw [hlimit] at hcounts hgreatest
  have hfive : (Numeric.float (.ofInt 5)).toSigned.toInt = 5 := by decide +kernel
  have hsix : (Numeric.signed 6).toSigned.toInt = 6 := by decide
  have hminus : (Numeric.unsigned (-1)).toSigned.toInt = -1 := by decide
  obtain ⟨-, -, hcopies, -, hbelow, -⟩ := hcounts (.float (.ofInt 5)) nofun
  rw [hfive] at hcopies hbelow
  obtain ⟨v, hv⟩ := hbelow (by decide) (by decide) (by decide)
  obtain ⟨-, -, -, -, -, habove⟩ := hcounts (.signed 6) nofun
  rw [hsix] at habove
  obtain ⟨hnegative, -⟩ := hcounts (.unsigned (-1)) nofun
  rw [hminus] at hnegative
  refine ⟨?_, habove (by decide), hnegative.2 (by decide), hgreatest (by decide)⟩
  rw [hv, hcopies v hv]
  rfl

end PatternExpr
