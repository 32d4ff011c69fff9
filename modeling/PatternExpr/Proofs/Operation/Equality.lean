import PatternExpr.Proofs.Operation.RawBytes
import PatternExpr.Proofs.Operation.TextOrder

/-! Equality as a notion of values and equality as an operator. Values of one type are equal exactly if the
operator says so, NaN and the two zeros included. Patterns are equal if they are one pattern, while the
operator compares their bytes, so it cannot tell a pattern from itself; but it can fail to read it. -/
namespace PatternExpr

theorem Relation.eq_holds_compare {α : Type} [Ord α] [Std.LawfulEqOrd α] [BEq α] [LawfulBEq α]
    (x y : α) : eq.holds (some (compare x y)) = (x == y) := by
  rw [Bool.eq_iff_iff, eq_holds_iff, Std.LawfulEqOrd.compare_eq_iff_eq, beq_iff_eq]

theorem Binary64.holds_compare? (x y : Binary64) :
    Relation.eq.holds (x.compare? y) = x.equals y := by
  unfold equals
  rcases x.compare? y with _ | _ | _ | _ <;> rfl

theorem Numeric.holds_compare?_of_kind {a b : Numeric} (h : a.kind = b.kind) :
    Relation.eq.holds (a.compare? b) = a.equals b := by
  cases a with
  | unsigned v =>
    cases b with
    | unsigned w =>
      have hword : (v.toNat == w.toNat) = (v == w) := by
        rw [Bool.eq_iff_iff, beq_iff_eq, beq_iff_eq, BitVec.toNat_inj]
      exact (Relation.eq_holds_compare v.toNat w.toNat).trans hword
    | signed | float | bool | char => cases h
  | signed v =>
    cases b with
    | signed w =>
      have hword : (v.toInt == w.toInt) = (v == w) := by
        rw [Bool.eq_iff_iff, beq_iff_eq, beq_iff_eq, BitVec.toInt_inj]
      exact (Relation.eq_holds_compare v.toInt w.toInt).trans hword
    | unsigned | float | bool | char => cases h
  | float x =>
    cases b with
    | float y => exact x.holds_compare? y
    | unsigned | signed | bool | char => cases h
  | bool s =>
    cases b with
    | bool t => exact Relation.eq_holds_compare s t
    | unsigned | signed | float | char => cases h
  | char c =>
    cases b with
    | char d =>
      have hcode : (c.toNat == d.toNat) = (c == d) := by
        rw [Bool.eq_iff_iff, beq_iff_eq, beq_iff_eq, Char.toNat_inj]
      exact (Relation.eq_holds_compare c.toNat d.toNat).trans hcode
    | unsigned | signed | float | bool => cases h

theorem Numeric.kind_of_equals {a b : Numeric} (h : a.equals b = true) : a.kind = b.kind := by
  unfold equals at h
  split at h
  next => rfl
  next => rfl
  next => rfl
  next => rfl
  next => rfl
  next => cases h

namespace Value

variable {a b : Value}

theorem type_of_equals (h : a.equals b = true) : a.type = b.type := by
  unfold equals at h
  split at h
  next => exact congrArg ValueType.numeric (Numeric.kind_of_equals h)
  next => rfl
  next => rfl
  next => cases h

/-- Patterns are told apart by their handles: no two of them have the same. -/
def OnePatternPerHandle (a b : Value) : Prop :=
  ∀ p q, a = .pattern p → b = .pattern q → p.handle = q.handle → p = q

theorem eq_of_equals {p q : Pattern} (h : (pattern p).equals (.pattern q) = true)
    (hone : OnePatternPerHandle (.pattern p) (.pattern q)) : p = q := by
  have hhandle : (p.handle == q.handle) = true := h
  exact hone p q rfl rfl (beq_iff_eq.1 hhandle)

end Value

/-- A reader is there and yields these bytes for the range. -/
def Context.Yields (ctx : Context) (range : ByteRange) (bytes : List UInt8) : Prop :=
  ∃ reader, ctx.reader = some reader ∧ reader range = .ok bytes

namespace Context

variable {ctx : Context} {p : Pattern}

theorem bytes_of_yields {bytes : List UInt8} (hfits : p.Fits) (h : ctx.Yields p.range bytes) :
    ctx.bytes p = .ok bytes := by
  obtain ⟨reader, hreader, hbytes⟩ := h
  rw [bytes_of_fits hreader hfits, hbytes]
  rfl

theorem bytes_of_not_yields (hfits : p.Fits) (h : ¬ ∃ bytes, ctx.Yields p.range bytes) :
    ∃ e, ctx.bytes p = .error (Fault.dataRead e) := by
  cases hreader : ctx.reader with
  | none =>
    rw [bytes, if_neg hfits.not_addressBound_le, if_neg (Nat.not_le.2 hfits), hreader]
    exact ⟨_, rfl⟩
  | some reader =>
    cases hread : reader p.range with
    | error e =>
      rw [bytes_of_fits hreader hfits, hread]
      exact ⟨e, rfl⟩
    | ok bytes => exact absurd ⟨bytes, reader, hreader, hread⟩ h

end Context

section

variable {ctx : Context} {m : Machine} {a b : Value}

theorem related_eq_of_type (h : a.type = b.type) (hpattern : a.type ≠ .pattern) :
    related ctx m .eq a b = .ok (.bool (a.equals b)) := by
  cases a with
  | numeric n =>
    cases b with
    | numeric k =>
      rw [related_of_hasOrder rfl rfl (.numbers n k),
        Numeric.holds_compare?_of_kind (ValueType.numeric.inj h)]
      rfl
    | string | pattern => cases h
  | string s =>
    cases b with
    | string t =>
      rw [related_of_hasOrder rfl rfl (.strings s t), Relation.eq_holds_compare]
      rfl
    | numeric | pattern => cases h
  | pattern p => exact absurd rfl hpattern

/-- The bytes of a pattern are read twice, so they differ neither in the bytes nor in the fault. -/
theorem related_eq_self (p : Pattern) :
    related ctx m .eq (.pattern p) (.pattern p) = (ctx.bytes p).map fun _ => .bool true := by
  rw [related_patterns]
  cases ctx.bytes p with
  | error s => rfl
  | ok bytes =>
    change Except.ok (Value.bool (bytes == bytes)) = _
    rw [beq_self_eq_true]
    rfl

end

/-- Two values of one type that are no patterns are the same for the operator exactly if they are equal,
and equal values are never different for it: if they are no patterns it says that they are the same, and
a pattern is the same as itself if its bytes can be read. One too large for a buffer overflows, whether
or not its bytes are there. -/
theorem equality_agrees (ctx : Context) (m : Machine) (a b : Value) :
    let answer := related ctx m .eq a b
    (a.type = b.type → a.type ≠ .pattern → answer = .ok (.bool (a.equals b))) ∧
    (a.equals b = true → a.OnePatternPerHandle b →
      answer ≠ .ok (.bool false) ∧ (a.type ≠ .pattern → answer = .ok (.bool true)) ∧
      ∀ p, a = .pattern p →
        (p.Fits → ((∃ bytes, ctx.Yields p.range bytes) → answer = .ok (.bool true)) ∧
          ((¬ ∃ bytes, ctx.Yields p.range bytes) → ∃ e, answer = .error (Fault.dataRead e))) ∧
        (p.Overflows → answer = .error .capacityOverflow)) := by
  intro answer
  refine ⟨related_eq_of_type, fun hequal hone => ?_⟩
  have htype := Value.type_of_equals hequal
  by_cases hpattern : a.type = .pattern
  · obtain ⟨p, rfl⟩ := Value.exists_pattern_of_type hpattern
    obtain ⟨q, rfl⟩ := Value.exists_pattern_of_type (htype.symm.trans hpattern)
    obtain rfl := Value.eq_of_equals hequal hone
    have hanswer : answer = (ctx.bytes p).map fun _ => .bool true := related_eq_self p
    rw [hanswer]
    refine ⟨?_, fun h => absurd hpattern h, fun p' hp => ?_⟩
    · cases ctx.bytes p with
      | error s => exact nofun
      | ok bytes => exact nofun
    · cases hp
      refine ⟨fun hfits => ⟨?_, fun hunread => ?_⟩, fun hoverflows => ?_⟩
      · rintro ⟨bytes, hbytes⟩
        rw [Context.bytes_of_yields hfits hbytes]
        rfl
      · obtain ⟨e, he⟩ := Context.bytes_of_not_yields hfits hunread
        rw [he]
        exact ⟨e, rfl⟩
      · rw [(Context.bytes_eq_overflow_iff ctx).2 hoverflows]
        rfl
  · have hanswer : answer = .ok (.bool true) := by
      rw [← hequal]
      exact related_eq_of_type htype hpattern
    refine ⟨?_, fun _ => hanswer, ?_⟩
    · rw [hanswer]
      exact nofun
    · rintro p rfl
      exact absurd rfl hpattern

/-- NaN differs from itself, the zeros are the same, and so is a pattern and itself, unless its section is
not there. -/
theorem equality_agrees_nanAndPattern :
    let answer := related ⟨some twoSections.read, .default⟩ ⟨.empty none, #[]⟩ .eq
    let here := Value.pattern (patternAt 0 ⟨.main, 2, 2⟩)
    let nowhere := Value.pattern (patternAt 3 ⟨⟨9⟩, 0, 0⟩)
    answer (.float .nan) (.float .nan) = .ok (.bool false) ∧
      answer (.float (.zero false)) (.float (.zero true)) = .ok (.bool true) ∧
      answer here here = .ok (.bool true) ∧
      ∃ e, answer nowhere nowhere = .error (Fault.dataRead e) := by
  intro answer here nowhere
  let ctx : Context := ⟨some twoSections.read, .default⟩
  obtain ⟨hnan, -⟩ := equality_agrees ctx ⟨.empty none, #[]⟩ (.float .nan) (.float .nan)
  obtain ⟨-, hzero⟩ :=
    equality_agrees ctx ⟨.empty none, #[]⟩ (.float (.zero false)) (.float (.zero true))
  obtain ⟨-, hhere⟩ := equality_agrees ctx ⟨.empty none, #[]⟩ here here
  obtain ⟨-, hnowhere⟩ := equality_agrees ctx ⟨.empty none, #[]⟩ nowhere nowhere
  have hone (v : Value) : v.OnePatternPerHandle v := by
    rintro p q rfl hq -
    cases hq
    rfl
  obtain ⟨-, hscalar, -⟩ := hzero (by decide) nofun
  obtain ⟨-, -, hread⟩ := hhere (by decide) (hone here)
  obtain ⟨-, -, hunread⟩ := hnowhere (by decide) (hone nowhere)
  obtain ⟨hreadable, -⟩ := (hread _ rfl).1 (by decide)
  obtain ⟨-, hunreadable⟩ := (hunread _ rfl).1 (by decide)
  refine ⟨hnan rfl nofun, hscalar nofun, hreadable ⟨[1, 2], twoSections.read, rfl, by decide⟩,
    hunreadable ?_⟩
  rintro ⟨bytes, reader, hreader, hbytes⟩
  cases hreader
  cases hbytes

/-- A pattern of the largest size equals itself and has no bytes to be read, but nothing says so. -/
theorem equal_patterns_overflow :
    let ctx : Context := ⟨some twoSections.read, .default⟩
    let largest := patternAt 0 ⟨.main, 0, addressBound - 1⟩
    (Value.pattern largest).equals (.pattern largest) = true ∧
      (¬ ∃ bytes, ctx.Yields largest.range bytes) ∧
      related ctx ⟨.empty none, #[]⟩ .eq (.pattern largest) (.pattern largest) =
        .error .capacityOverflow := by
  intro ctx largest
  refine ⟨by decide, ?_, ?_⟩
  · rintro ⟨bytes, reader, hreader, hbytes⟩
    cases hreader
    cases hbytes
  · rw [related_eq_self, (Context.bytes_eq_overflow_iff ctx).2 (by decide)]
    rfl

end PatternExpr
