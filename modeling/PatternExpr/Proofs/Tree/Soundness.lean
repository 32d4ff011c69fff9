import PatternExpr.Proofs.Operation.Typing
import PatternExpr.Proofs.Tree.Rules
import PatternExpr.Tree.Shape

/-! Static types are sound. Evaluation keeps the type of a tree, and a tree that has a type never fails
over the types of its operands. -/
namespace PatternExpr

def Reduct.type? : Reduct → Option ValueType
  | .literal l => some l.value.type
  | .nothing | .irreducible _ => none

theorem conforms_applyReducts {ctx : Context} {op : Operator} {l r : Reduct} {m after : Machine}
    {x : Except Stop Value} (h : (applyReducts ctx op l r).run m = (x, after)) :
    Conforms (do op.result? (← l.type?) (← r.type?))
      (l.type? = some .pattern ∨ r.type? = some .pattern) x := by
  have hx : x = ((applyReducts ctx op l r).run m).1 := by rw [h]
  rw [hx]
  cases l with
  | nothing | irreducible => exact conforms_fault _ _
  | literal a =>
    cases r with
    | nothing | irreducible => exact conforms_fault _ _
    | literal b =>
      have hc := conforms_applyOperator ctx op a.value b.value m
      exact hc.mono fun hp => hp.imp (congrArg some) (congrArg some)

namespace Expr

variable {ctx : Context} {t : Expr} {m after : Machine}

/-- Evaluation keeps types: what a tree yields has the tree's type, or neither has one. -/
theorem type?_of_evaluates {r : Reduct} (h : t.Evaluates ctx m (.ok r) after) :
    r.type? = t.type? := by
  generalize hx : Except.ok r = x at h
  induction h generalizing r with
  | literal | void | irreducible =>
    cases hx
    rfl
  | failing | refused | incomplete | left | right | failed => cases hx
  | probe _ ih => exact ih hx
  | value _ _ _ hv hl hr =>
    cases hx
    have hc := conforms_applyReducts hv
    rw [hl rfl, hr rfl] at hc
    exact hc.symm

theorem operand_types {op : Operator} {left right : Expr} {location : Location} {type : ValueType}
    (h : (binary op (some left) (some right) location).type? = some type) :
    ∃ a b, left.type? = some a ∧ right.type? = some b ∧ op.result? a b = some type := by
  change (left.type? >>= fun a => right.type? >>= fun b => op.result? a b) = some type at h
  obtain ⟨a, ha, h⟩ := Option.bind_eq_some_iff.1 h
  obtain ⟨b, hb, h⟩ := Option.bind_eq_some_iff.1 h
  exact ⟨a, b, ha, hb, h⟩

theorem type?_incomplete (op : Operator) {left right : Option Expr} (location : Location)
    (hn : left = none ∨ right = none) : (binary op left right location).type? = none := by
  rcases hn with rfl | rfl
  · rfl
  · cases left <;> rfl

def HasPattern (t : Expr) : Prop := ∃ leaf ∈ t.leaves, leaf.value.type = .pattern

theorem hasPattern_binary {op : Operator} {left right : Expr} {location : Location} :
    (binary op (some left) (some right) location).HasPattern ↔ left.HasPattern ∨ right.HasPattern := by
  simp only [HasPattern, leaves_binary, List.mem_append, or_and_right, exists_or]

theorem hasPattern_of_type? (h : t.type? = some .pattern) : t.HasPattern := by
  induction t with
  | literal l => exact ⟨l, List.mem_singleton_self l, Option.some.inj h⟩
  | binary op left right location =>
    obtain ⟨a, b, -, -, h⟩ := operand_types h
    exact absurd h (op.result?_ne_pattern a b)
  | incomplete op left right location hn => cases (type?_incomplete op location hn).symm.trans h
  | void | irreducible | failing => cases h
  | probe id inner ih => exact ih h

/-- A tree with a type fails over something else than types. Only the last step of an expression could
complain about them, and its operands have kept theirs. -/
theorem fault_of_type? {f : Fault} {type : ValueType} (h : t.Evaluates ctx m (.error f) after)
    (ht : t.type? = some type) :
    f.cause.isTypeFault = false ∧ (f.cause.isDecodingFault = true → t.HasPattern) := by
  generalize hx : Except.error (Stop.fault f) = x at h
  induction h generalizing f type with
  | literal | void | irreducible | value => cases hx
  | failing => cases ht
  | probe _ ih => exact ih ht hx
  | refused hp =>
    cases hx
    obtain ⟨limit, -, rfl⟩ := FrameStack.eq_of_push_error hp
    rw [Fault.cause_locate]
    exact ⟨rfl, nofun⟩
  | incomplete _ hn => cases (type?_incomplete _ _ hn).symm.trans ht
  | left _ _ ih =>
    obtain ⟨inner, rfl, rfl⟩ := Stop.map_eq_fault_iff.1 (Except.error.inj hx).symm
    obtain ⟨a, b, ha, -, -⟩ := operand_types ht
    obtain ⟨htype, hdecoding⟩ := ih ha rfl
    rw [Fault.cause_locate]
    exact ⟨htype, fun hd => hasPattern_binary.2 (.inl (hdecoding hd))⟩
  | right _ _ _ _ ih =>
    obtain ⟨inner, rfl, rfl⟩ := Stop.map_eq_fault_iff.1 (Except.error.inj hx).symm
    obtain ⟨a, b, -, hb, -⟩ := operand_types ht
    obtain ⟨htype, hdecoding⟩ := ih hb rfl
    rw [Fault.cause_locate]
    exact ⟨htype, fun hd => hasPattern_binary.2 (.inr (hdecoding hd))⟩
  | failed _ hl hr hf =>
    obtain ⟨inner, rfl, rfl⟩ := Stop.map_eq_fault_iff.1 (Except.error.inj hx).symm
    obtain ⟨a, b, ha, hb, hab⟩ := operand_types ht
    have hc := conforms_applyReducts hf
    rw [type?_of_evaluates hl, type?_of_evaluates hr, ha, hb] at hc
    obtain ⟨htype, hpattern⟩ := hc (by simp [hab])
    rw [Fault.cause_locate]
    refine ⟨htype, fun hd => hasPattern_binary.2 ?_⟩
    rcases hpattern hd with hp | hp
    · exact .inl (hasPattern_of_type? (ha.trans hp))
    · exact .inr (hasPattern_of_type? (hb.trans hp))

theorem hasPattern_of_overflow (h : t.Evaluates ctx m (.error .capacityOverflow) after) :
    t.HasPattern := by
  generalize hx : Except.error Stop.capacityOverflow = x at h
  induction h with
  | literal | void | irreducible | failing | refused | incomplete | value => cases hx
  | probe _ ih => exact ih hx
  | left _ _ ih =>
    obtain rfl := Stop.map_eq_capacityOverflow_iff.1 (Except.error.inj hx).symm
    exact hasPattern_binary.2 (.inl (ih rfl))
  | right _ _ _ _ ih =>
    obtain rfl := Stop.map_eq_capacityOverflow_iff.1 (Except.error.inj hx).symm
    exact hasPattern_binary.2 (.inr (ih rfl))
  | failed _ hl hr hf =>
    obtain rfl := Stop.map_eq_capacityOverflow_iff.1 (Except.error.inj hx).symm
    rcases conforms_applyReducts hf with hp | hp
    · exact hasPattern_binary.2 (.inl (hasPattern_of_type? ((type?_of_evaluates hl).symm.trans hp)))
    · exact hasPattern_binary.2 (.inr (hasPattern_of_type? ((type?_of_evaluates hr).symm.trans hp)))

/-- A value that a tree evaluates to has the tree's type. A tree with a type evaluates to a literal
or fails over something else than the types of operands; only one with a pattern among its leaves can
fail to decode or to read it, or overflow. -/
theorem type_sound (ctx : Context) (t : Expr) (m : Machine) :
    (∀ v place after, (t.evaluate ctx).run m = (.ok (.literal ⟨v, place⟩), after) →
      t.type? = some v.type) ∧
    (∀ type, t.type? = some type →
      (∀ r after, (t.evaluate ctx).run m = (.ok r, after) → ∃ l, r = .literal l ∧ l.value.type = type) ∧
      ∀ (f : Fault) after, (t.evaluate ctx).run m = (.error f, after) →
        f.cause.isTypeFault = false ∧ (f.cause.isDecodingFault = true → t.HasPattern)) ∧
    ∀ after, (t.evaluate ctx).run m = (.error .capacityOverflow, after) → t.HasPattern := by
  refine ⟨fun v place after h => (type?_of_evaluates (evaluates_iff.2 h)).symm, fun type ht => ⟨?_, ?_⟩,
    fun after h => hasPattern_of_overflow (evaluates_iff.2 h)⟩
  · intro r after h
    have hr := (type?_of_evaluates (evaluates_iff.2 h)).trans ht
    cases r with
    | nothing | irreducible => cases hr
    | literal l => exact ⟨l, rfl, Option.some.inj hr⟩
  · intro f after h
    exact fault_of_type? (evaluates_iff.2 h) ht

/-- A character and a number added, compared with a pattern. -/
def sumBelowPattern : Expr :=
  .binary (.relation .lt)
    (some (.binary .add (some (.literal ⟨.char 'a', .synthetic⟩)) (some (number 3)) .synthetic))
    (some (.literal ⟨.pattern ⟨0, ⟨.main, 0, 1⟩, .signed 200, none, .synthetic⟩, .synthetic⟩))
    .synthetic

def negativeRepetition : Expr :=
  .binary .mul (some (.literal ⟨.string "ab", .synthetic⟩))
    (some (.literal ⟨.signed (-1), .synthetic⟩)) .synthetic

theorem type_sound_sum_and_repetition :
    (∃ v place after, (sumBelowPattern.evaluate ⟨none, .default⟩).run ⟨.empty none, #[]⟩ =
        (.ok (.literal ⟨v, place⟩), after) ∧ sumBelowPattern.type? = some v.type) ∧
      ∃ (f : Fault) (after : Machine),
        (negativeRepetition.evaluate ⟨none, .default⟩).run ⟨.empty none, #[]⟩ =
          (.error f, after) ∧ negativeRepetition.type? = some .string ∧
        f.cause.isTypeFault = false ∧ ¬ f.cause.isDecodingFault = true := by
  obtain ⟨hvalue, -⟩ := type_sound ⟨none, .default⟩ sumBelowPattern ⟨.empty none, #[]⟩
  obtain ⟨-, hfault, -⟩ := type_sound ⟨none, .default⟩ negativeRepetition ⟨.empty none, #[]⟩
  refine ⟨⟨.bool true, _, _, rfl, hvalue _ _ _ rfl⟩, ⟨_, _, rfl, rfl, ?_⟩⟩
  obtain ⟨htype, hdecoding⟩ := (hfault .string rfl).2 _ _ rfl
  have hpattern : ¬ negativeRepetition.HasPattern := by
    unfold HasPattern
    decide
  exact ⟨htype, mt hdecoding hpattern⟩

end Expr
end PatternExpr
