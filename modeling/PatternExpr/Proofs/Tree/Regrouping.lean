import PatternExpr.Proofs.Operation.Regrouping
import PatternExpr.Proofs.Tree.Outcome
import PatternExpr.Tree.Shape
import PatternExpr.Tree.Site

/-! Trees of one operator over integers. Where the operator is associative and commutative on words,
such a tree can be regrouped and its leaves reordered without changing what it evaluates to. -/
namespace PatternExpr

def Value.numeric? : Value → Option Numeric
  | .numeric n => some n
  | _ => none

def Value.isIntegral (v : Value) : Bool := v.numeric?.any Numeric.isIntegral

def Value.isUnsigned (v : Value) : Bool := v.numeric?.any Numeric.isUnsigned

namespace Expr

/-- Every expression of the tree has both operands and carries the operator, and the leaves are
literals of these values. -/
inductive Uniform (op : Operator) (leaf : Value → Prop) : Expr → Prop
  | literal (l : Literal) (h : leaf l.value) : Uniform op leaf (.literal l)
  | binary {left right : Expr} {location : Location} (hl : Uniform op leaf left)
      (hr : Uniform op leaf right) :
      Uniform op leaf (.binary op (some left) (some right) location)

def numbers (t : Expr) : List Numeric := t.leaves.filterMap fun l => l.value.numeric?

/-- The kind that the integers among the leaves combine to. -/
def integerKind (t : Expr) : NumericKind :=
  if t.leaves.any fun l => l.value.isUnsigned then .unsigned else .signed

variable {op : Operator} {f : Word → Word → Word} {unit : Word} {t : Expr}
  {stack : FrameStack}

@[simp] theorem numbers_binary (op : Operator) (left right : Expr) (location : Location) :
    (binary op (some left) (some right) location).numbers = left.numbers ++ right.numbers := by
  simp [numbers]

theorem applied_numeric (ctx : Context) (op : Operator) (a b : Numeric) (p q : Location) :
    applied ctx op (.literal ⟨.numeric a, p⟩) (.literal ⟨.numeric b, q⟩) =
      Stop.ofExcept ((Numeric.apply op a b).map .numeric) := rfl

/-- What a tree of one operator evaluates to stands for its leaves combined. -/
theorem outcome_of_uniform (ctx : Context) (h : op.Regroups f unit)
    (ht : t.Uniform op (·.isIntegral = true)) (hs : stack.maxDepth = none) :
    ∃ n, t.outcome ctx stack = .ok (.literal ⟨.numeric n, t.location⟩) ∧
      Numeric.Combines f unit n t.numbers ∧
      (t.operators ≠ [] → n = Numeric.combined f unit t.numbers) := by
  induction ht generalizing stack with
  | literal l hl =>
    obtain ⟨v, place⟩ := l
    cases v with
    | numeric n => exact ⟨n, rfl, Numeric.combines_singleton h hl, fun hn => absurd rfl hn⟩
    | string | pattern => cases hl
  | @binary left right location _ _ ihl ihr =>
    obtain ⟨inner, hp, hi⟩ := FrameStack.exists_push hs ⟨binaryName, location⟩
    obtain ⟨a, hla, ha, -⟩ := ihl hi
    obtain ⟨b, hrb, hb, -⟩ := ihr hi
    have hab : applied ctx op (.literal ⟨.numeric a, left.location⟩)
        (.literal ⟨.numeric b, right.location⟩) =
          .ok (.numeric (Numeric.combined f unit (left.numbers ++ right.numbers))) := by
      rw [applied_numeric, Numeric.apply_of_combines h ha hb]
      rfl
    rw [numbers_binary]
    refine ⟨Numeric.combined f unit (left.numbers ++ right.numbers), ?_,
      Numeric.combines_combined f unit _, fun _ => rfl⟩
    rw [outcome_binary_eq_ok_iff hp]
    exact ⟨_, _, _, hla, hrb, hab, rfl⟩

theorem kind_combined (f : Word → Word → Word) (unit : Word) (t : Expr) :
    (Numeric.combined f unit t.numbers).kind = t.integerKind := by
  have hany : t.numbers.any Numeric.isUnsigned = t.leaves.any fun l => l.value.isUnsigned :=
    List.any_filterMap
  unfold Numeric.combined integerKind
  rw [hany]
  cases t.leaves.any fun l => l.value.isUnsigned <;> rfl

theorem numbers_perm {t u : Expr}
    (h : (t.leaves.map Literal.value).Perm (u.leaves.map Literal.value)) :
    t.numbers.Perm u.numbers := by
  have hn := h.filterMap Value.numeric?
  rwa [List.filterMap_map, List.filterMap_map] at hn

/-- Two trees of one such operator with the same integers and characters at their leaves, in whatever
order and grouping, evaluate to the same integer, which is unsigned if one of the leaves is. -/
theorem evaluate_of_perm {t u : Expr} (hop : op ∈ Operator.regroupable)
    (ht : t.Uniform op (·.isIntegral = true)) (hu : u.Uniform op (·.isIntegral = true))
    (hte : t.operators ≠ []) (hue : u.operators ≠ [])
    (hleaves : (t.leaves.map Literal.value).Perm (u.leaves.map Literal.value)) :
    ∃ n : Numeric, n.kind = t.integerKind ∧ ∀ (ctx : Context) (m : Machine),
      m.stack.maxDepth = none →
        ((t.evaluate ctx).run m).1 = .ok (.literal ⟨.numeric n, t.location⟩) ∧
        ((u.evaluate ctx).run m).1 = .ok (.literal ⟨.numeric n, u.location⟩) := by
  obtain ⟨f, unit, h⟩ := Operator.exists_regroups hop
  refine ⟨Numeric.combined f unit t.numbers, kind_combined f unit t, fun ctx m hm => ?_⟩
  obtain ⟨n, hn, -, hnt⟩ := outcome_of_uniform ctx h ht hm
  obtain ⟨n', hn', -, hnu⟩ := outcome_of_uniform ctx h hu hm
  rw [hnt hte] at hn
  rw [hnu hue, ← Numeric.combined_eq_of_perm h (numbers_perm hleaves)] at hn'
  rw [run_evaluate_fst, run_evaluate_fst]
  exact ⟨hn, hn'⟩

def generated (v : Value) : Expr := .literal ⟨v, .synthetic⟩

/-- `(MAX + 'a') + 5u`, where `MAX` is the greatest signed integer: the first sum wraps. -/
def wrappedFirst : Expr :=
  .binary .add
    (some (.binary .add (some (generated (.signed (BitVec.ofInt 128 Word.maxSigned))))
      (some (generated (.char 'a'))) .synthetic))
    (some (generated (.unsigned 5))) .synthetic

/-- `'a' + (5u + MAX)`, where no sum wraps. -/
def unsignedFirst : Expr :=
  .binary .add (some (generated (.char 'a')))
    (some (.binary .add (some (generated (.unsigned 5)))
      (some (generated (.signed (BitVec.ofInt 128 Word.maxSigned)))) .synthetic)) .synthetic

theorem evaluate_of_perm_wrappedFirst :
    ∃ n : Numeric, n.kind = .unsigned ∧
      ((wrappedFirst.evaluate ⟨none, .default⟩).run ⟨.empty none, #[]⟩).1 =
        .ok (.literal ⟨.numeric n, .synthetic⟩) ∧
      ((unsignedFirst.evaluate ⟨none, .default⟩).run ⟨.empty none, #[]⟩).1 =
        .ok (.literal ⟨.numeric n, .synthetic⟩) := by
  have hw : wrappedFirst.Uniform .add (·.isIntegral = true) :=
    .binary (.binary (.literal _ rfl) (.literal _ rfl)) (.literal _ rfl)
  have hu : unsignedFirst.Uniform .add (·.isIntegral = true) :=
    .binary (.literal _ rfl) (.binary (.literal _ rfl) (.literal _ rfl))
  have hleaves : (wrappedFirst.leaves.map Literal.value).Perm
      (unsignedFirst.leaves.map Literal.value) :=
    (List.Perm.swap _ _ _).trans (.cons _ (.swap _ _ _))
  obtain ⟨n, hkind, hn⟩ := evaluate_of_perm (by decide) hw hu (by decide) (by decide) hleaves
  obtain ⟨ht, hu⟩ := hn ⟨none, .default⟩ ⟨.empty none, #[]⟩ rfl
  exact ⟨n, hkind, ht, hu⟩

end Expr
end PatternExpr
