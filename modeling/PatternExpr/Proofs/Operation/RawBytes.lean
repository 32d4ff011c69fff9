import PatternExpr.Proofs.Data.Ranges
import PatternExpr.Proofs.Operation.Comparison

/-! Two patterns over sections in memory. They are compared by the bytes of their ranges and by nothing
else of them, so to be equal is an equivalence of the patterns that can be read. -/
namespace PatternExpr

/-- What an operator makes of two patterns when the bytes are in memory. -/
def rawAnswer (store : Store) (limits : Limits) (m : Machine) (op : Operator) (p q : Pattern) :
    Except Stop Value :=
  ((applyOperator ⟨some store.read, limits⟩ op (.pattern p) (.pattern q)).run m).1

/-- The bytes of the pattern are there, and a buffer for them can be. -/
def Store.Reads (store : Store) (p : Pattern) : Prop := p.Fits ∧ store.Holds p.range

section

variable {store : Store} {limits : Limits} {m : Machine} {op : Operator} {p q r : Pattern}

theorem bytes_of_reads (limits : Limits) (h : store.Reads p) :
    ∃ bytes, store.read p.range = .ok bytes ∧
      Context.bytes ⟨some store.read, limits⟩ p = .ok bytes := by
  obtain ⟨bytes, hread, -⟩ := Store.exists_read_of_holds h.2
  refine ⟨bytes, hread, ?_⟩
  rw [Context.bytes_of_fits rfl h.1, hread]
  rfl

theorem bytes_of_not_holds (limits : Limits) (hfits : p.Fits) (h : ¬ store.Holds p.range) :
    Context.bytes ⟨some store.read, limits⟩ p =
      .error (Fault.dataRead (store.failure p.range)) := by
  rw [Context.bytes_of_fits rfl hfits, Store.read_of_not_holds h]
  rfl

theorem bytes_of_not_reads (limits : Limits) (h : ¬ store.Reads p) :
    ∃ s, Context.bytes ⟨some store.read, limits⟩ p = .error s := by
  by_cases hfits : p.Fits
  · exact ⟨_, bytes_of_not_holds limits hfits fun hp => h ⟨hfits, hp⟩⟩
  · exact Context.bytes_of_not_fits hfits

theorem rawAnswer_eq : rawAnswer store limits m op p q = (do
    let a ← Context.bytes ⟨some store.read, limits⟩ p
    let b ← Context.bytes ⟨some store.read, limits⟩ q
    match op with
    | .relation .eq => .ok (.bool (a == b))
    | .relation .ne => .ok (.bool (a != b))
    | _ => .error (Fault.invalidOperand op .pattern .pattern)) :=
  fst_run_applyOperator_patterns _ m op p q

theorem rawAnswer_of_bytes_left {s : Stop}
    (hp : Context.bytes ⟨some store.read, limits⟩ p = .error s) :
    rawAnswer store limits m op p q = .error s := by
  rw [rawAnswer_eq, hp]
  rfl

theorem rawAnswer_of_bytes_right {s : Stop} (hp : store.Reads p)
    (hq : Context.bytes ⟨some store.read, limits⟩ q = .error s) :
    rawAnswer store limits m op p q = .error s := by
  obtain ⟨a, -, ha⟩ := bytes_of_reads limits hp
  rw [rawAnswer_eq, ha, hq]
  rfl

theorem rawAnswer_of_not_isEquality (hp : store.Reads p) (hq : store.Reads q)
    (hop : op.isEquality = false) :
    rawAnswer store limits m op p q = .error (Fault.invalidOperand op .pattern .pattern) := by
  obtain ⟨a, -, ha⟩ := bytes_of_reads limits hp
  obtain ⟨b, -, hb⟩ := bytes_of_reads limits hq
  rw [rawAnswer_eq, ha, hb]
  cases op with
  | relation rel =>
    cases rel with
    | eq | ne => cases hop
    | _ => rfl
  | _ => rfl

theorem rawAnswer_of_reads (hp : store.Reads p) (hq : store.Reads q) :
    ∃ same : Bool, (same = true ↔ store.SameBytes p.range q.range) ∧
      rawAnswer store limits m (.relation .eq) p q = .ok (.bool same) ∧
      rawAnswer store limits m (.relation .ne) p q = .ok (.bool !same) := by
  obtain ⟨a, hpa, ha⟩ := bytes_of_reads limits hp
  obtain ⟨b, hqb, hb⟩ := bytes_of_reads limits hq
  refine ⟨a == b, ?_, ?_, ?_⟩
  · obtain ⟨a', b', hpa', hqb', hsame⟩ := Store.exists_reads_of_holds hp.2 hq.2
    cases hpa.symm.trans hpa'
    cases hqb.symm.trans hqb'
    exact beq_iff_eq.trans hsame
  · rw [rawAnswer_eq, ha, hb]
    rfl
  · rw [rawAnswer_eq, ha, hb]
    rfl

theorem rawAnswer_of_not_reads (h : ¬ (store.Reads p ∧ store.Reads q)) :
    ∃ s, rawAnswer store limits m op p q = .error s := by
  by_cases hp : store.Reads p
  · obtain ⟨s, hs⟩ := bytes_of_not_reads limits fun hq => h ⟨hp, hq⟩
    exact ⟨s, rawAnswer_of_bytes_right hp hs⟩
  · obtain ⟨s, hs⟩ := bytes_of_not_reads limits hp
    exact ⟨s, rawAnswer_of_bytes_left hs⟩

theorem exists_fault_iff_not_holds (hp : p.Fits) (hq : q.Fits) :
    (∃ f : Fault, rawAnswer store limits m (.relation .eq) p q = .error f) ↔
      ¬ (store.Holds p.range ∧ store.Holds q.range) := by
  constructor
  · rintro ⟨f, hf⟩ ⟨hholds, hholds'⟩
    obtain ⟨same, -, hsame, -⟩ := rawAnswer_of_reads ⟨hp, hholds⟩ ⟨hq, hholds'⟩
    cases hf.symm.trans hsame
  · intro h
    by_cases hholds : store.Holds p.range
    · exact ⟨_, rawAnswer_of_bytes_right ⟨hp, hholds⟩
        (bytes_of_not_holds limits hq fun hholds' => h ⟨hholds, hholds'⟩)⟩
    · exact ⟨_, rawAnswer_of_bytes_left (bytes_of_not_holds limits hp hholds)⟩

theorem rawAnswer_eq_true_iff :
    rawAnswer store limits m (.relation .eq) p q = .ok (.bool true) ↔
      (store.Reads p ∧ store.Reads q) ∧ store.SameBytes p.range q.range := by
  by_cases h : store.Reads p ∧ store.Reads q
  · obtain ⟨same, hiff, hsame, -⟩ := rawAnswer_of_reads h.1 h.2
    rw [hsame, ← hiff]
    constructor
    · intro htrue
      cases htrue
      exact ⟨h, rfl⟩
    · rintro ⟨-, rfl⟩
      rfl
  · obtain ⟨s, hs⟩ := rawAnswer_of_not_reads h
    rw [hs]
    exact iff_of_false nofun fun hboth => h hboth.1

theorem rawAnswer_congr {m' : Machine} {p' q' : Pattern} (hp : p'.range = p.range)
    (hq : q'.range = q.range) :
    rawAnswer store limits m' op p' q' = rawAnswer store limits m op p q := by
  rw [rawAnswer_eq, rawAnswer_eq, Context.bytes, Context.bytes, hp, hq]
  rfl

/-- The buffer for the right pattern is set up once the left one has been read. -/
theorem rawAnswer_eq_overflow_iff :
    rawAnswer store limits m op p q = .error .capacityOverflow ↔
      p.Overflows ∨ (store.Reads p ∧ q.Overflows) := by
  by_cases hp : store.Reads p
  · have hleft : ¬ p.Overflows := hp.1.not_overflows
    rw [or_iff_right hleft, and_iff_right hp,
      ← Context.bytes_eq_overflow_iff ⟨some store.read, limits⟩]
    cases hq : Context.bytes ⟨some store.read, limits⟩ q with
    | error s =>
      rw [rawAnswer_of_bytes_right hp hq]
      simp
    | ok b =>
      obtain ⟨a, -, ha⟩ := bytes_of_reads limits hp
      rw [rawAnswer_eq, ha, hq]
      refine iff_of_false ?_ nofun
      cases op with
      | relation rel => cases rel <;> exact nofun
      | _ => exact nofun
  · rw [← Context.bytes_eq_overflow_iff ⟨some store.read, limits⟩]
    obtain ⟨s, hs⟩ := bytes_of_not_reads limits hp
    rw [rawAnswer_of_bytes_left hs, hs]
    simp [hp]

end

/-- Whatever the operator, both patterns are read, and the first of them that the store does not hold is
what fails. Patterns that can be read are the same if their bytes are, and nothing else can be asked of
them. Their ranges alone decide, so to be the same is an equivalence of the patterns that can be read,
and patterns that cannot be compared cannot be in the other order either. All that is so where there can
be buffers for the bytes; a pattern too large for one overflows instead of being found unreadable. -/
theorem patterns_compare_by_bytes (store : Store) (limits : Limits) (m : Machine)
    (p q r : Pattern) :
    let answer := rawAnswer store limits m
    (p.Fits → ∀ op, ¬ store.Holds p.range →
      answer op p q = .error (Fault.dataRead (store.failure p.range))) ∧
    (p.Fits → q.Fits →
      (∀ op, store.Holds p.range → ¬ store.Holds q.range →
        answer op p q = .error (Fault.dataRead (store.failure q.range))) ∧
      (∀ op, store.Holds p.range → store.Holds q.range → op.isEquality = false →
        answer op p q = .error (Fault.invalidOperand op .pattern .pattern)) ∧
      (store.Holds p.range → store.Holds q.range →
        ∃ same : Bool, (same = true ↔ store.SameBytes p.range q.range) ∧
          answer (.relation .eq) p q = .ok (.bool same) ∧
          answer (.relation .ne) p q = .ok (.bool !same)) ∧
      ((∃ f : Fault, answer (.relation .eq) p q = .error f) ↔
        ∃ f : Fault, answer (.relation .eq) q p = .error f)) ∧
    (∀ m' op p' q', p'.range = p.range → q'.range = q.range →
      rawAnswer store limits m' op p' q' = answer op p q) ∧
    (p.Fits → store.Holds p.range → answer (.relation .eq) p p = .ok (.bool true)) ∧
    (answer (.relation .eq) p q = .ok (.bool true) →
      answer (.relation .eq) q p = .ok (.bool true)) ∧
    (answer (.relation .eq) p q = .ok (.bool true) → answer (.relation .eq) q r = .ok (.bool true) →
      answer (.relation .eq) p r = .ok (.bool true)) ∧
    (p.range.size ≠ q.range.size → answer (.relation .eq) p q ≠ .ok (.bool true)) ∧
    ∀ op, answer op p q = .error .capacityOverflow ↔
      p.Overflows ∨ (p.Fits ∧ store.Holds p.range) ∧ q.Overflows := by
  intro answer
  refine ⟨fun hp op h => rawAnswer_of_bytes_left (bytes_of_not_holds limits hp h),
    fun hp hq => ⟨?_, ?_, ?_, ?_⟩, fun m' op p' q' => rawAnswer_congr, fun hp h => ?_,
    fun hpq => ?_, fun hpq hqr => ?_, fun hsize hpq => ?_, fun op => rawAnswer_eq_overflow_iff⟩
  · exact fun op h h' => rawAnswer_of_bytes_right ⟨hp, h⟩ (bytes_of_not_holds limits hq h')
  · exact fun op h h' => rawAnswer_of_not_isEquality ⟨hp, h⟩ ⟨hq, h'⟩
  · exact fun h h' => rawAnswer_of_reads ⟨hp, h⟩ ⟨hq, h'⟩
  · rw [exists_fault_iff_not_holds hp hq, exists_fault_iff_not_holds hq hp, and_comm]
  · exact rawAnswer_eq_true_iff.2 ⟨⟨⟨hp, h⟩, ⟨hp, h⟩⟩, .refl store p.range⟩
  · obtain ⟨hreads, hsame⟩ := rawAnswer_eq_true_iff.1 hpq
    exact rawAnswer_eq_true_iff.2 ⟨hreads.symm, hsame.symm⟩
  · obtain ⟨⟨hp, -⟩, hsame⟩ := rawAnswer_eq_true_iff.1 hpq
    obtain ⟨⟨-, hr⟩, hsame'⟩ := rawAnswer_eq_true_iff.1 hqr
    exact rawAnswer_eq_true_iff.2 ⟨⟨hp, hr⟩, hsame.trans hsame'⟩
  · obtain ⟨-, hsame⟩ := rawAnswer_eq_true_iff.1 hpq
    exact hsize hsame.1

/-- Two sections with bytes in common. -/
def twoSections : Store := .ofSections [(.main, [1, 2, 1, 2, 7]), (⟨3⟩, [0, 1, 2])]

/-- A pattern that is decoded to its handle, so that no two are alike. -/
def patternAt (handle : Nat) (range : ByteRange) : Pattern :=
  ⟨handle, range, .unsigned handle, some (toString handle), .synthetic⟩

/-- Equal bytes in two sections, a range that ends past its section, and one of a section that is not
there. -/
theorem patterns_compare_by_bytes_twoSections :
    let answer := rawAnswer twoSections .default ⟨.empty none, #[]⟩
    let first := patternAt 0 ⟨.main, 2, 2⟩
    let second := patternAt 1 ⟨⟨3⟩, 1, 2⟩
    let beyond := patternAt 2 ⟨.main, 4, 2⟩
    let nowhere := patternAt 3 ⟨⟨9⟩, 0, 0⟩
    answer (.relation .eq) first second = .ok (.bool true) ∧
      answer .add first second = .error (Fault.invalidOperand .add .pattern .pattern) ∧
      answer .add first beyond = .error (Fault.dataRead (.outOfBounds ⟨.main, 4, 2⟩ 5)) ∧
      answer .add nowhere beyond = .error (Fault.dataRead (.unknownSection ⟨9⟩)) := by
  intro answer first second beyond nowhere
  have hfirst : twoSections.Holds first.range := ⟨[1, 2, 1, 2, 7], rfl, by decide⟩
  have hsecond : twoSections.Holds second.range := ⟨[0, 1, 2], rfl, by decide⟩
  have hbeyond : ¬ twoSections.Holds beyond.range := by
    rintro ⟨bytes, hbytes, hle⟩
    cases hbytes
    exact absurd hle (by decide)
  have hnowhere : ¬ twoSections.Holds nowhere.range := by
    rintro ⟨bytes, hbytes, -⟩
    cases hbytes
  have hbytes : twoSections.SameBytes first.range second.range := ⟨rfl, by decide⟩
  obtain ⟨-, hboth, -⟩ :=
    patterns_compare_by_bytes twoSections .default ⟨.empty none, #[]⟩ first second first
  obtain ⟨-, hinvalid, hcompared, -⟩ := hboth (by decide) (by decide)
  obtain ⟨-, hmixed, -⟩ :=
    patterns_compare_by_bytes twoSections .default ⟨.empty none, #[]⟩ first beyond first
  obtain ⟨hright, -⟩ := hmixed (by decide) (by decide)
  obtain ⟨hleft, -⟩ :=
    patterns_compare_by_bytes twoSections .default ⟨.empty none, #[]⟩ nowhere beyond first
  obtain ⟨same, hiff, hanswer, -⟩ := hcompared hfirst hsecond
  rw [hiff.2 hbytes] at hanswer
  exact ⟨hanswer, hinvalid .add hfirst hsecond rfl, hright .add hfirst hbeyond,
    hleft (by decide) .add hnowhere⟩

/-- No section holds a pattern of the largest size, and yet it is not found unreadable. -/
theorem unreadable_pattern_overflows :
    let largest := patternAt 0 ⟨.main, 0, addressBound - 1⟩
    ¬ twoSections.Holds largest.range ∧
      rawAnswer twoSections .default ⟨.empty none, #[]⟩ (.relation .eq) largest largest =
        .error .capacityOverflow := by
  intro largest
  constructor
  · rintro ⟨bytes, hbytes, hle⟩
    cases hbytes
    exact absurd hle (by decide)
  · exact rawAnswer_eq_overflow_iff.2 (.inl (by decide))

end PatternExpr
