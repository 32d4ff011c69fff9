import PatternExpr.Proofs.Operation.Decoding
import PatternExpr.Proofs.Operation.Effects

/-! The six relations between two values. All of them go by one order of the operands, so that one
answers exactly if the others do and the answers fit together. The order is that of what the operands are
decoded to; only floats may have none. Two patterns have no order either, but they are the same or
different. -/
namespace PatternExpr

namespace Relation

theorem holds_ne (o : Option Ordering) : ne.holds o = !eq.holds o := by
  rcases o with _ | _ | _ | _ <;> rfl

theorem holds_le (o : Option Ordering) : le.holds o = (lt.holds o || eq.holds o) := by
  rcases o with _ | _ | _ | _ <;> rfl

theorem holds_ge (o : Option Ordering) : ge.holds o = (gt.holds o || eq.holds o) := by
  rcases o with _ | _ | _ | _ <;> rfl

theorem count_holds {o : Option Ordering} (h : o ≠ none) :
    [lt.holds o, eq.holds o, gt.holds o].count true = 1 := by
  rcases o with _ | _ | _ | _
  · exact absurd rfl h
  all_goals rfl

theorem holds_none (rel : Relation) : rel.holds none = (rel == .ne) := by
  cases rel <;> rfl

end Relation

theorem Binary64.compare?_eq_none_iff {x y : Binary64} :
    x.compare? y = none ↔ x.isNaN = true ∨ y.isNaN = true := by
  rw [← Bool.or_eq_true]
  unfold compare?
  split
  next h => exact iff_of_true rfl h
  next h => exact iff_of_false nofun h

/-- A float on the left may be unordered, every other value on the left is ordered with the right one. -/
theorem Numeric.compare?_eq_none_iff {a b : Numeric} :
    a.compare? b = none ↔ ∃ x, a = .float x ∧ (x.isNaN = true ∨ b.toFloat.isNaN = true) := by
  cases a with
  | float x =>
    rw [show (Numeric.float x).compare? b = x.compare? b.toFloat from rfl,
      Binary64.compare?_eq_none_iff]
    constructor
    · intro hnan
      exact ⟨x, rfl, hnan⟩
    · rintro ⟨y, hy, hnan⟩
      cases hy
      exact hnan
  | unsigned | signed | bool | char => exact ⟨nofun, nofun⟩

namespace Value

/-- Numbers and strings are ordered among themselves, patterns as what they can be decoded to. -/
def isComparable : Value → Value → Bool
  | .numeric _, .numeric _ | .string _, .string _ | .string _, .pattern _ | .pattern _, .string _ => true
  | .numeric _, .pattern p | .pattern p, .numeric _ => p.content.numericKind?.isSome
  | _, _ => false

/-- The left operand is a float once it is decoded, and it or the right operand cast to a float is
NaN. -/
def AreUnordered (l r : Value) : Prop :=
  ∃ x n, l.decodedFor r = .ok (.float x) ∧ r.decodedFor l = .ok (.numeric n) ∧
    (x.isNaN = true ∨ n.toFloat.isNaN = true)

/-- The order of two numbers or of two strings. -/
inductive HasOrder : Value → Value → Option Ordering → Prop
  | numbers (a b : Numeric) : HasOrder (.numeric a) (.numeric b) (a.compare? b)
  | strings (a b : String) : HasOrder (.string a) (.string b) (some (compare a b))

variable {l r l' r' : Value} {order : Option Ordering}

theorem exists_pattern_of_type {v : Value} (h : v.type = .pattern) : ∃ p, v = .pattern p := by
  cases v with
  | numeric n => cases h
  | string s => cases h
  | pattern p => exact ⟨p, rfl⟩

theorem HasOrder.eq_none_iff (h : HasOrder l' r' order) (hl : l.decodedFor r = .ok l')
    (hr : r.decodedFor l = .ok r') : order = none ↔ l.AreUnordered r := by
  unfold AreUnordered
  rw [hl, hr]
  cases h with
  | numbers a b =>
    rw [Numeric.compare?_eq_none_iff]
    constructor
    · rintro ⟨x, rfl, hnan⟩
      exact ⟨x, b, rfl, rfl, hnan⟩
    · rintro ⟨x, n, hx, hn, hnan⟩
      cases hx
      cases hn
      exact ⟨x, rfl, hnan⟩
  | strings a b => exact ⟨nofun, nofun⟩

theorem exists_hasOrder (h : l.isComparable r = true) :
    ∃ l' r' order, l.decodedFor r = .ok l' ∧ r.decodedFor l = .ok r' ∧ HasOrder l' r' order := by
  cases l with
  | numeric a =>
    cases r with
    | numeric b => exact ⟨_, _, _, rfl, rfl, .numbers a b⟩
    | string b => cases h
    | pattern q =>
      obtain ⟨n, hq⟩ := exists_numeric_of_kind (Option.isSome_iff_ne_none.1 h)
      exact ⟨_, _, _, rfl, decodedFor_numeric hq a, .numbers a _⟩
  | string a =>
    cases r with
    | numeric b => cases h
    | string b => exact ⟨_, _, _, rfl, rfl, .strings a b⟩
    | pattern q => exact ⟨_, _, _, rfl, rfl, .strings a _⟩
  | pattern p =>
    cases r with
    | numeric b =>
      obtain ⟨n, hp⟩ := exists_numeric_of_kind (Option.isSome_iff_ne_none.1 h)
      exact ⟨_, _, _, decodedFor_numeric hp b, rfl, .numbers _ b⟩
    | string b => exact ⟨_, _, _, rfl, rfl, .strings _ b⟩
    | pattern q => cases h

end Value

section

variable {ctx : Context} {m : Machine} {rel : Relation} {l r l' r' : Value} {order : Option Ordering}

theorem related_of_hasOrder (hl : l.decodedFor r = .ok l') (hr : r.decodedFor l = .ok r')
    (h : l'.HasOrder r' order) : related ctx m rel l r = .ok (.bool (rel.holds order)) := by
  have hpatterns : ¬ (l.type = .pattern ∧ r.type = .pattern) := by
    rintro ⟨hlt, hrt⟩
    obtain ⟨p, rfl⟩ := Value.exists_pattern_of_type hlt
    obtain ⟨q, rfl⟩ := Value.exists_pattern_of_type hrt
    cases hl
    cases h
  unfold related
  rw [applyOperator_decoded ctx rel hpatterns, hl, hr]
  cases h with
  | numbers a b => rfl
  | strings a b => rfl

theorem related_of_not_isComparable (h : l.isComparable r = false)
    (hpatterns : ¬ (l.type = .pattern ∧ r.type = .pattern)) :
    ∃ f, related ctx m rel l r = .error f := by
  cases l with
  | numeric a =>
    cases r with
    | numeric b => cases h
    | string b => exact ⟨_, rfl⟩
    | pattern q =>
      have hcontent : q.content.numericKind? = none :=
        Option.not_isSome_iff_eq_none.1 (ne_true_of_eq_false h)
      obtain ⟨hright, -⟩ := applyOperator_of_not_numeric ctx rel q hcontent a
      exact ⟨_, congrArg (fun e => (e.run m).1) hright⟩
  | string a =>
    cases r with
    | numeric b => exact ⟨_, rfl⟩
    | string b | pattern q => cases h
  | pattern p =>
    cases r with
    | numeric b =>
      have hcontent : p.content.numericKind? = none :=
        Option.not_isSome_iff_eq_none.1 (ne_true_of_eq_false h)
      obtain ⟨-, hleft⟩ := applyOperator_of_not_numeric ctx rel p hcontent b
      exact ⟨_, congrArg (fun e => (e.run m).1) hleft⟩
    | string b => cases h
    | pattern q => exact absurd ⟨rfl, rfl⟩ hpatterns

end

/-- The bytes of a pattern, for an evaluation that needs them. -/
def Context.bytes (ctx : Context) (p : Pattern) : Except Stop (List UInt8) :=
  if addressBound ≤ p.range.size then
    .error (Fault.dataRead (.other s!"pattern of {p.range.size} bytes does not fit in memory"))
  else if memoryBound ≤ p.range.size then .error .capacityOverflow
  else
    match ctx.reader with
    | none => .error (Fault.dataRead (.other "no data source attached"))
    | some reader => Stop.ofExcept ((reader p.range).mapError .dataRead)

namespace Context

variable {ctx : Context} {reader : Reader} {p : Pattern}

theorem bytes_of_fits (hreader : ctx.reader = some reader) (h : p.Fits) :
    ctx.bytes p = Stop.ofExcept ((reader p.range).mapError .dataRead) := by
  rw [bytes, if_neg h.not_addressBound_le, if_neg (Nat.not_le.2 h), hreader]

theorem bytes_of_not_fits (h : ¬ p.Fits) : ∃ s, ctx.bytes p = .error s := by
  unfold bytes
  split
  · exact ⟨_, rfl⟩
  · rw [if_pos (Nat.not_lt.1 h)]
    exact ⟨_, rfl⟩

theorem bytes_eq_overflow_iff (ctx : Context) : ctx.bytes p = .error .capacityOverflow ↔ p.Overflows := by
  unfold bytes Placed.Overflows
  split
  next h => exact iff_of_false nofun fun ho => Nat.not_le.2 ho.2 h
  next h =>
    split
    next h' => exact iff_of_true rfl ⟨h', Nat.not_le.1 h⟩
    next h' =>
      refine iff_of_false ?_ fun ho => h' ho.1
      cases ctx.reader with
      | none => exact nofun
      | some reader =>
        dsimp only
        cases reader p.range <;> exact nofun

end Context

theorem fst_run_readPattern (ctx : Context) (p : Pattern) (m : Machine) :
    ((Evaluation.readPattern ctx p).run m).1 = ctx.bytes p := by
  unfold Evaluation.readPattern Context.bytes
  split
  · rfl
  · split
    · rfl
    · unfold Evaluation.read
      cases ctx.reader <;> rfl

theorem fst_run_readPattern_bind {α : Type} (ctx : Context) (p : Pattern)
    {next : List UInt8 → Evaluation α} {answer : List UInt8 → Except Stop α}
    (h : ∀ bytes m, ((next bytes).run m).1 = answer bytes) (m : Machine) :
    ((Evaluation.readPattern ctx p >>= next).run m).1 = ctx.bytes p >>= answer := by
  rw [← fst_run_readPattern ctx p m, Evaluation.run_bind]
  rcases (Evaluation.readPattern ctx p).run m with ⟨s | bytes, after⟩
  · rfl
  · exact h bytes after

/-- Every operator reads the bytes of both patterns, those of the left one first, and only then turns out
to apply to them or not. -/
theorem fst_run_applyOperator_patterns (ctx : Context) (m : Machine) (op : Operator) (p q : Pattern) :
    ((applyOperator ctx op (.pattern p) (.pattern q)).run m).1 = (do
      let a ← ctx.bytes p
      let b ← ctx.bytes q
      match op with
      | .relation .eq => .ok (.bool (a == b))
      | .relation .ne => .ok (.bool (a != b))
      | _ => .error (Fault.invalidOperand op .pattern .pattern)) := by
  refine fst_run_readPattern_bind ctx p (fun a => fst_run_readPattern_bind ctx q fun b _ => ?_) m
  cases op with
  | relation rel => cases rel <;> rfl
  | _ => rfl

theorem related_patterns (ctx : Context) (m : Machine) (rel : Relation) (p q : Pattern) :
    related ctx m rel (.pattern p) (.pattern q) = (do
      let a ← ctx.bytes p
      let b ← ctx.bytes q
      match rel with
      | .eq => .ok (.bool (a == b))
      | .ne => .ok (.bool (a != b))
      | _ => .error (Fault.invalidOperand (.relation rel) .pattern .pattern)) := by
  unfold related
  rw [fst_run_applyOperator_patterns]
  cases rel <;> rfl

theorem related_patterns_cases (ctx : Context) (p q : Pattern) :
    (∃ f, ∀ m rel, related ctx m rel (.pattern p) (.pattern q) = .error f) ∨
      ∃ same : Bool, ∀ m, related ctx m .eq (.pattern p) (.pattern q) = .ok (.bool same) ∧
        related ctx m .ne (.pattern p) (.pattern q) = .ok (.bool !same) ∧
        ∀ rel, rel ≠ .eq → rel ≠ .ne → ∃ f, related ctx m rel (.pattern p) (.pattern q) = .error f := by
  cases hp : ctx.bytes p with
  | error f =>
    refine .inl ⟨f, fun m rel => ?_⟩
    rw [related_patterns, hp]
    rfl
  | ok a =>
    cases hq : ctx.bytes q with
    | error f =>
      refine .inl ⟨f, fun m rel => ?_⟩
      rw [related_patterns, hp, hq]
      rfl
    | ok b =>
      refine .inr ⟨a == b, fun m => ⟨?_, ?_, fun rel heq hne => ?_⟩⟩
      · rw [related_patterns, hp, hq]
        rfl
      · rw [related_patterns, hp, hq]
        rfl
      · rw [related_patterns, hp, hq]
        cases rel with
        | eq => exact absurd rfl heq
        | ne => exact absurd rfl hne
        | gt | lt | ge | le => exact ⟨_, rfl⟩

/-- Two values are related by one order, or as two patterns, or not at all. -/
theorem relations_cases (ctx : Context) (l r : Value) :
    (l.isComparable r = true ∧ ∃ order, (order = none ↔ l.AreUnordered r) ∧
      ∀ m rel, related ctx m rel l r = .ok (.bool (rel.holds order))) ∨
    (l.isComparable r = false ∧ ∃ same : Bool, ∀ m,
      related ctx m .eq l r = .ok (.bool same) ∧ related ctx m .ne l r = .ok (.bool !same) ∧
      ∀ rel, rel ≠ .eq → rel ≠ .ne → ∃ f, related ctx m rel l r = .error f) ∨
    (l.isComparable r = false ∧ ∀ m rel, ∃ f, related ctx m rel l r = .error f) := by
  cases hc : l.isComparable r with
  | true =>
    obtain ⟨l', r', order, hl, hr, horder⟩ := Value.exists_hasOrder hc
    exact .inl ⟨rfl, order, horder.eq_none_iff hl hr, fun m rel => related_of_hasOrder hl hr horder⟩
  | false =>
    -- of the pairs without an order only two patterns can be told apart
    by_cases hpatterns : l.type = .pattern ∧ r.type = .pattern
    · obtain ⟨p, rfl⟩ := Value.exists_pattern_of_type hpatterns.1
      obtain ⟨q, rfl⟩ := Value.exists_pattern_of_type hpatterns.2
      rcases related_patterns_cases ctx p q with ⟨f, hf⟩ | hsame
      · exact .inr (.inr ⟨rfl, fun m rel => ⟨f, hf m rel⟩⟩)
      · exact .inr (.inl ⟨rfl, hsame⟩)
    · exact .inr (.inr ⟨rfl, fun m rel => related_of_not_isComparable hc hpatterns⟩)

theorem equality_cases (ctx : Context) (l r : Value) :
    (∃ same : Bool, ∀ m, related ctx m .eq l r = .ok (.bool same) ∧
      related ctx m .ne l r = .ok (.bool !same)) ∨
    ∀ m, (∃ f, related ctx m .eq l r = .error f) ∧ ∃ f, related ctx m .ne l r = .error f := by
  rcases relations_cases ctx l r with ⟨-, order, -, hanswer⟩ | ⟨-, same, hsame⟩ | ⟨-, hfails⟩
  · refine .inl ⟨Relation.eq.holds order, fun m => ⟨hanswer m .eq, ?_⟩⟩
    rw [hanswer m .ne, Relation.holds_ne]
  · exact .inl ⟨same, fun m => ⟨(hsame m).1, (hsame m).2.1⟩⟩
  · exact .inr fun m => ⟨hfails m .eq, hfails m .ne⟩

theorem order_cases (ctx : Context) (l r : Value) :
    (l.isComparable r = true ∧ ∃ order, (order = none ↔ l.AreUnordered r) ∧
      ∀ m rel, related ctx m rel l r = .ok (.bool (rel.holds order))) ∨
    (l.isComparable r = false ∧ ∀ m rel, rel ≠ .eq → rel ≠ .ne →
      ∃ f, related ctx m rel l r = .error f) := by
  rcases relations_cases ctx l r with h | ⟨hc, same, hsame⟩ | ⟨hc, hfails⟩
  · exact .inl h
  · exact .inr ⟨hc, fun m => (hsame m).2.2⟩
  · exact .inr ⟨hc, fun m rel _ _ => hfails m rel⟩

/-- Each of equality and inequality answers if the other does, with the opposite. If one of the other
relations answers then all six do, the weak ones as the strict ones and equality together, and just one
of less, equal and greater holds; but of unordered floats nothing holds but that they are unequal. The
operands for which the four answer are the comparable ones. -/
theorem relations_consistent (ctx : Context) (m : Relation → Machine) (l r : Value) :
    let answer (rel : Relation) := related ctx (m rel) rel l r
    (∀ v, answer .eq = .ok v → ∃ b, v = .bool b ∧ answer .ne = .ok (.bool !b)) ∧
    (∀ v, answer .ne = .ok v → ∃ b, v = .bool b ∧ answer .eq = .ok (.bool !b)) ∧
    ∀ rel, rel ≠ .eq → rel ≠ .ne →
      ((∃ v, answer rel = .ok v) ↔ l.isComparable r = true) ∧
      ∀ v, answer rel = .ok v →
        ∃ holds : Relation → Bool, (∀ rel, answer rel = .ok (.bool (holds rel))) ∧
          holds .le = (holds .lt || holds .eq) ∧ holds .ge = (holds .gt || holds .eq) ∧
          (¬ l.AreUnordered r → [holds .lt, holds .eq, holds .gt].count true = 1) ∧
          (l.AreUnordered r → ∀ rel, holds rel = (rel == .ne)) := by
  intro answer
  have hequality := equality_cases ctx l r
  refine ⟨fun v hv => ?_, fun v hv => ?_, fun rel heq hne => ?_⟩
  · rcases hequality with ⟨same, hsame⟩ | hfails
    · cases hv.symm.trans (hsame (m .eq)).1
      exact ⟨same, rfl, (hsame (m .ne)).2⟩
    · obtain ⟨⟨f, hf⟩, -⟩ := hfails (m .eq)
      cases hv.symm.trans hf
  · rcases hequality with ⟨same, hsame⟩ | hfails
    · cases hv.symm.trans (hsame (m .ne)).2
      refine ⟨!same, rfl, ?_⟩
      rw [Bool.not_not]
      exact (hsame (m .eq)).1
    · obtain ⟨-, f, hf⟩ := hfails (m .ne)
      cases hv.symm.trans hf
  · rcases order_cases ctx l r with ⟨hc, order, hnone, hanswer⟩ | ⟨hc, hfails⟩
    · refine ⟨iff_of_true ⟨_, hanswer (m rel) rel⟩ hc, fun v _ => ⟨fun rel => rel.holds order,
        fun rel => hanswer (m rel) rel, Relation.holds_le order, Relation.holds_ge order, ?_, ?_⟩⟩
      · intro hordered
        exact Relation.count_holds (mt hnone.1 hordered)
      · intro hunordered rel
        cases hnone.2 hunordered
        exact Relation.holds_none rel
    · obtain ⟨f, hf⟩ := hfails (m rel) rel heq hne
      have hanswer (v : Value) : answer rel ≠ .ok v := by
        intro hv
        cases hv.symm.trans hf
      exact ⟨iff_of_false (fun ⟨v, hv⟩ => hanswer v hv) (ne_true_of_eq_false hc),
        fun v hv => absurd hv (hanswer v)⟩

/-- Beside a NaN a pattern is decoded to a float, beside an integer it is in order. -/
theorem relations_consistent_minusOne :
    (∀ rel, compared rel (.pattern minusOne) (.float .nan) = .ok (.bool (rel == .ne))) ∧
      ∃ holds : Relation → Bool,
        (∀ rel, compared rel (.pattern minusOne) (.unsigned 3) = .ok (.bool (holds rel))) ∧
        [holds .lt, holds .eq, holds .gt].count true = 1 := by
  let machine (_ : Relation) : Machine := ⟨.empty none, #[]⟩
  constructor
  · obtain ⟨-, -, hrelations⟩ :=
      relations_consistent ⟨none, .default⟩ machine (.pattern minusOne) (.float .nan)
    obtain ⟨hcomparable, hanswers⟩ := hrelations .lt nofun nofun
    obtain ⟨v, hv⟩ := hcomparable.2 rfl
    obtain ⟨holds, hholds, -, -, -, hunordered⟩ := hanswers v hv
    have hnan : (Value.pattern minusOne).AreUnordered (.float .nan) :=
      ⟨_, _, rfl, rfl, .inr (by decide)⟩
    intro rel
    rw [← hunordered hnan rel]
    exact hholds rel
  · obtain ⟨-, -, hrelations⟩ :=
      relations_consistent ⟨none, .default⟩ machine (.pattern minusOne) (.unsigned 3)
    obtain ⟨hcomparable, hanswers⟩ := hrelations .lt nofun nofun
    obtain ⟨v, hv⟩ := hcomparable.2 rfl
    obtain ⟨holds, hholds, -, -, hordered, -⟩ := hanswers v hv
    refine ⟨holds, hholds, hordered ?_⟩
    rintro ⟨x, n, hx, -⟩
    cases hx

end PatternExpr
