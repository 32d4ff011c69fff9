import PatternExpr.Proofs.Operation.Joining
import PatternExpr.Proofs.Operation.RepeatCount

/-! Repetitions taken apart. A repetition that succeeds can be put together from fewer copies in either
order, and repeating twice is repeating by the product of the counts; but a limit on the copies bounds
each repetition on its own, so it has to be asked about the product once more. -/
namespace PatternExpr

theorem repeatText_add (s : String) (i j : Nat) :
    repeatText s (i + j) = repeatText s i ++ repeatText s j := by
  simp only [repeatText_eq_join]
  rw [← List.replicate_append_replicate, String.join_append]

theorem repeatText_repeatText (s : String) (i j : Nat) :
    repeatText (repeatText s i) j = repeatText s (i * j) := by
  induction j with
  | zero => simp only [repeatText_eq_join, Nat.mul_zero, List.replicate_zero]
  | succ j ih =>
    have hone (t : String) : repeatText t 1 = t := by simp [repeatText_eq_join, String.join_cons]
    rw [repeatText_add, ih, hone, Nat.mul_succ, repeatText_add]

namespace Limits

variable {l : Limits} {size i j : Nat}

theorem allows_of_allows_add (h : l.Allows size (i + j)) : l.Allows size i ∧ l.Allows size j := by
  obtain ⟨hcopies, hbytes⟩ := h
  rw [Nat.add_mul] at hbytes
  exact ⟨⟨by omega, by omega⟩, ⟨by omega, by omega⟩⟩

/-- Copies of copies have the bytes of all of them, but only the outer ones are counted. -/
theorem allows_mul_iff (hi : 0 < i) (hj : 0 < j) :
    l.Allows size (i * j) ↔
      l.Allows size i ∧ l.Allows (i * size) j ∧ i * j ≤ l.maxRepeatCount := by
  have hbytes : j * (i * size) = i * j * size := by
    rw [← Nat.mul_assoc, Nat.mul_comm j i]
  have hleft : i ≤ i * j := Nat.le_mul_of_pos_right i hj
  have hright : j ≤ i * j := Nat.le_mul_of_pos_left j hi
  have hinner : i * size ≤ i * j * size := Nat.mul_le_mul_right size hleft
  unfold Allows
  rw [hbytes]
  omega

/-- The same limits where besides no text is as long as `memoryBound`. -/
def withinMemory (l : Limits) : Limits :=
  { l with maxStringLength := min l.maxStringLength (memoryBound - 1) }

theorem allows_withinMemory_iff :
    l.withinMemory.Allows size i ↔ l.Allows size i ∧ i * size < memoryBound := by
  have hpos : 0 < memoryBound := by decide
  unfold Allows withinMemory
  dsimp only
  omega

end Limits

/-- The value, as a number of copies, is this number. -/
def Numeric.Counts (n : Numeric) (k : Nat) : Prop := n.kind ≠ .char ∧ n.toSigned.toInt = k

theorem repeatString_natCast_eq_ok_iff {limits : Limits} {s text : String} {k : Nat} :
    repeatString limits s k = .ok text ↔
      limits.withinMemory.Allows s.utf8ByteSize k ∧ text = repeatText s k := by
  have hk : ¬ (k : Int) < 0 := by omega
  rw [Limits.allows_withinMemory_iff, Limits.allows_iff_le_repeatLimit]
  unfold repeatString
  dsimp only
  rw [if_neg hk, Int.toNat_natCast]
  split
  next h => exact ⟨nofun, fun ⟨⟨hlimit, hfits⟩, _⟩ => by omega⟩
  next h =>
    rw [Except.ok.injEq]
    constructor
    · rintro rfl
      exact ⟨by omega, rfl⟩
    · rintro ⟨-, rfl⟩
      rfl

section

variable {ctx : Context} {m : Machine} {s : String} {a b c : Numeric} {i j k : Nat} {v : Value}

theorem repeated_eq_ok_iff (ha : a.Counts k) :
    repeated ctx m s a = .ok v ↔
      ctx.limits.withinMemory.Allows s.utf8ByteSize k ∧ v = .string (repeatText s k) := by
  rw [repeated_eq ha.1, ha.2]
  cases hrun : repeatString ctx.limits s k with
  | error f =>
    refine iff_of_false nofun fun ⟨hallows, _⟩ => ?_
    cases hrun.symm.trans (repeatString_natCast_eq_ok_iff.2 ⟨hallows, rfl⟩)
  | ok text =>
    obtain ⟨hallows, rfl⟩ := repeatString_natCast_eq_ok_iff.1 hrun
    exact ⟨fun h => ⟨hallows, (Except.ok.inj h).symm⟩, fun h => congrArg Except.ok h.2.symm⟩

theorem repeated_add (ha : a.Counts i) (hb : b.Counts j) (hc : c.Counts (i + j))
    (h : repeated ctx m s c = .ok v) :
    ∃ first second, repeated ctx m s a = .ok first ∧ repeated ctx m s b = .ok second ∧
      joined ctx m first second = .ok v ∧ joined ctx m second first = .ok v := by
  obtain ⟨hallows, rfl⟩ := (repeated_eq_ok_iff hc).1 h
  obtain ⟨hi, hj⟩ := Limits.allows_of_allows_add hallows
  refine ⟨_, _, (repeated_eq_ok_iff ha).2 ⟨hi, rfl⟩, (repeated_eq_ok_iff hb).2 ⟨hj, rfl⟩, ?_, ?_⟩
  · rw [joined_strings, ← repeatText_add]
  · rw [joined_strings, ← repeatText_add, Nat.add_comm j i]

/-- Copies of copies are copies, as long as the limit on copies lets all of them through at once. -/
theorem repeated_mul_eq_ok_iff (ha : a.Counts i) (hb : b.Counts j) (hc : c.Counts (i * j))
    (hi : 0 < i) (hj : 0 < j) :
    repeated ctx m s c = .ok v ↔
      (∃ inner, repeated ctx m s a = .ok (.string inner) ∧ repeated ctx m inner b = .ok v) ∧
        i * j ≤ ctx.limits.maxRepeatCount := by
  have hbytes : (repeatText s i).utf8ByteSize = i * s.utf8ByteSize := utf8ByteSize_repeatText s i
  rw [repeated_eq_ok_iff hc, Limits.allows_mul_iff hi hj, ← hbytes, ← repeatText_repeatText]
  constructor
  · rintro ⟨⟨hfirst, hsecond, hcopies⟩, rfl⟩
    exact ⟨⟨_, (repeated_eq_ok_iff ha).2 ⟨hfirst, rfl⟩, (repeated_eq_ok_iff hb).2 ⟨hsecond, rfl⟩⟩,
      hcopies⟩
  · rintro ⟨⟨inner, hfirst, hsecond⟩, hcopies⟩
    obtain ⟨hallows, htext⟩ := (repeated_eq_ok_iff ha).1 hfirst
    cases htext
    obtain ⟨hallows', rfl⟩ := (repeated_eq_ok_iff hb).1 hsecond
    exact ⟨⟨hallows, hallows', hcopies⟩, rfl⟩

end

/-- If a string can be repeated so often, it can be repeated less often, and the copies so made join to
what all of them would be, whichever come first. Repeating a string and then the result yields what a
single repetition by the product would; the single one succeeds exactly if the other does and the product
is no more than the limit on copies. -/
theorem repetitions_compose (ctx : Context) (m : Machine) (s : String) {a b : Numeric} {i j : Nat}
    (ha : a.Counts i) (hb : b.Counts j) :
    (∀ c : Numeric, c.Counts (i + j) → ∀ whole, repeated ctx m s c = .ok whole →
      ∃ first second, repeated ctx m s a = .ok first ∧ repeated ctx m s b = .ok second ∧
        joined ctx m first second = .ok whole ∧ joined ctx m second first = .ok whole) ∧
    (0 < i → 0 < j → ∀ c : Numeric, c.Counts (i * j) →
      ((∃ whole, repeated ctx m s c = .ok whole) ↔
        (∃ inner twice, repeated ctx m s a = .ok (.string inner) ∧
          repeated ctx m inner b = .ok twice) ∧ i * j ≤ ctx.limits.maxRepeatCount) ∧
      ∀ inner twice whole, repeated ctx m s a = .ok (.string inner) →
        repeated ctx m inner b = .ok twice → repeated ctx m s c = .ok whole → twice = whole) := by
  refine ⟨fun c hc whole => repeated_add ha hb hc, fun hi hj c hc => ⟨⟨?_, ?_⟩, ?_⟩⟩
  · rintro ⟨whole, hwhole⟩
    obtain ⟨⟨inner, hinner, htwice⟩, hcopies⟩ := (repeated_mul_eq_ok_iff ha hb hc hi hj).1 hwhole
    exact ⟨⟨inner, whole, hinner, htwice⟩, hcopies⟩
  · rintro ⟨⟨inner, twice, hinner, htwice⟩, hcopies⟩
    exact ⟨twice, (repeated_mul_eq_ok_iff ha hb hc hi hj).2 ⟨⟨inner, hinner, htwice⟩, hcopies⟩⟩
  · intro inner twice whole hinner htwice hwhole
    obtain ⟨⟨inner', hinner', htwice'⟩, -⟩ := (repeated_mul_eq_ok_iff ha hb hc hi hj).1 hwhole
    cases hinner.symm.trans hinner'
    cases htwice.symm.trans htwice'
    rfl

/-- Five copies at a time, and more bytes than they could have. -/
def fiveCopies : Context := ⟨none, ⟨5, 100, none⟩⟩

/-- Twice three copies are two repetitions within the limit, and six copies are one beyond it. -/
theorem repetitions_compose_fiveCopies :
    let copies := repeated fiveCopies ⟨.empty none, #[]⟩
    (∃ first second, copies "é" (.unsigned 3) = .ok first ∧ copies "é" (.signed 2) = .ok second ∧
      joined fiveCopies ⟨.empty none, #[]⟩ second first = .ok (.string "ééééé")) ∧
    (∃ inner twice, copies "é" (.unsigned 3) = .ok (.string inner) ∧
      copies inner (.signed 2) = .ok twice) ∧
    ¬ ∃ whole, copies "é" (.signed 6) = .ok whole := by
  intro copies
  have hthree : (Numeric.unsigned 3).Counts 3 := ⟨nofun, by decide⟩
  have htwo : (Numeric.signed 2).Counts 2 := ⟨nofun, by decide⟩
  have hfive : (Numeric.signed 5).Counts (3 + 2) := ⟨nofun, by decide⟩
  have hsix : (Numeric.signed 6).Counts (3 * 2) := ⟨nofun, by decide⟩
  obtain ⟨hadd, hmul⟩ := repetitions_compose fiveCopies ⟨.empty none, #[]⟩ "é" hthree htwo
  obtain ⟨first, second, hfirst, hsecond, -, hjoined⟩ := hadd (.signed 5) hfive (.string "ééééé") rfl
  obtain ⟨honce, -⟩ := hmul (by decide) (by decide) (.signed 6) hsix
  refine ⟨⟨first, second, hfirst, hsecond, hjoined⟩, ⟨"ééé", .string "éééééé", rfl, rfl⟩, ?_⟩
  intro hwhole
  exact absurd (honce.1 hwhole).2 (by decide)

end PatternExpr
