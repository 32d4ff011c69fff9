import PatternExpr.Proofs.Tree.Outcome

/-! Constant folding: an expression of a tree that yields a literal may be replaced by it. What is
replaced leaves no trace in its siblings, for success does not depend on the frames around it. -/
namespace PatternExpr.Expr

/-- Folding constants. The second tree is the first one with some of its binary expressions, none
inside another, replaced by the literals that they yield without a bound on the depth. -/
inductive Folds (ctx : Context) : Expr → Expr → Prop
  | keep (t : Expr) : Folds ctx t t
  | fold {op : Operator} {left right : Option Expr} {location : Location} {m after : Machine}
      {l : Literal} (hm : m.stack.maxDepth = none)
      (h : ((binary op left right location).evaluate ctx).run m = (.ok (.literal l), after)) :
      Folds ctx (.binary op left right location) (.literal l)
  | operands {op : Operator} {left left' right right' : Expr} {location : Location}
      (hl : Folds ctx left left') (hr : Folds ctx right right') :
      Folds ctx (.binary op (some left) (some right) location)
        (.binary op (some left') (some right') location)
  | left {op : Operator} {left left' : Expr} {location : Location} (hl : Folds ctx left left') :
      Folds ctx (.binary op (some left) none location) (.binary op (some left') none location)
  | right {op : Operator} {right right' : Expr} {location : Location}
      (hr : Folds ctx right right') :
      Folds ctx (.binary op none (some right) location) (.binary op none (some right') location)
  | probe {id : String} {inner inner' : Expr} (h : Folds ctx inner inner') :
      Folds ctx (.probe id inner) (.probe id inner')

variable {ctx : Context} {t t' : Expr} {stack stack' : FrameStack} {r : Reduct}

/-- Frames are seen in faults only: without a bound, what a tree yields it yields under any others
too. -/
theorem outcome_ok_of_unbounded (hs : stack.maxDepth = none) (hs' : stack'.maxDepth = none)
    (h : t.outcome ctx stack = .ok r) : t.outcome ctx stack' = .ok r := by
  induction t generalizing stack stack' r with
  | literal | void | irreducible | failing => exact h
  | probe id inner ih =>
    rw [outcome_probe] at h ⊢
    exact ih hs hs' h
  | incomplete op left right location hn =>
    obtain ⟨inner, hp, hi⟩ := FrameStack.exists_push hs ⟨binaryName, location⟩
    rw [outcome_incomplete hp hn] at h
    cases h
  | binary op left right location hl hr =>
    obtain ⟨inner, hp, hi⟩ := FrameStack.exists_push hs ⟨binaryName, location⟩
    obtain ⟨inner', hp', hi'⟩ := FrameStack.exists_push hs' ⟨binaryName, location⟩
    rw [outcome_binary_eq_ok_iff hp] at h
    obtain ⟨a, b, v, ha, hb, hv, rfl⟩ := h
    rw [outcome_binary_eq_ok_iff hp']
    exact ⟨a, b, v, hl hi hi' ha, hr hi hi' hb, hv, rfl⟩

theorem outcome_of_folds (h : t.Folds ctx t') (hs : stack.maxDepth = none) :
    t'.outcome ctx stack = t.outcome ctx stack := by
  induction h generalizing stack with
  | keep t => rfl
  | @fold op left right location m _ l hm h =>
    have hl : (binary op left right location).outcome ctx m.stack = .ok (.literal l) :=
      outcome_of_evaluates (evaluates_iff.2 h)
    exact (outcome_ok_of_unbounded hm hs hl).symm
  | @operands op _ _ _ _ location _ _ hl hr =>
    obtain ⟨inner, hp, hi⟩ := FrameStack.exists_push hs ⟨binaryName, location⟩
    rw [outcome_binary hp, outcome_binary hp, hl hi, hr hi]
  | @left op _ _ location =>
    obtain ⟨inner, hp, -⟩ := FrameStack.exists_push hs ⟨binaryName, location⟩
    rw [outcome_incomplete hp (.inr rfl), outcome_incomplete hp (.inr rfl)]
  | @right op _ _ location =>
    obtain ⟨inner, hp, -⟩ := FrameStack.exists_push hs ⟨binaryName, location⟩
    rw [outcome_incomplete hp (.inl rfl), outcome_incomplete hp (.inl rfl)]
  | probe _ ih => rw [outcome_probe, outcome_probe, ih hs]

/-- Folding constants changes no outcome. -/
theorem evaluate_of_folds (h : t.Folds ctx t') {m : Machine} (hm : m.stack.maxDepth = none) :
    ((t'.evaluate ctx).run m).1 = ((t.evaluate ctx).run m).1 := by
  calc
    ((t'.evaluate ctx).run m).1 = t'.outcome ctx m.stack := run_evaluate_fst ctx t' m
    _ = t.outcome ctx m.stack := outcome_of_folds h hm
    _ = ((t.evaluate ctx).run m).1 := (run_evaluate_fst ctx t m).symm

/-- `(1 + 2) / (3 - 3)`. -/
def sumOverDifference : Expr :=
  .binary .div (some (.binary .add (some (number 1)) (some (number 2)) ⟨none, 1, 4, 1⟩))
    (some (.binary .sub (some (number 3)) (some (number 3)) ⟨none, 1, 14, 1⟩)) ⟨none, 1, 9, 1⟩

/-- `3 / 0`, with the operands at the places of the expressions they stand for. -/
def threeOverZero : Expr :=
  .binary .div (some (.literal ⟨.unsigned 3, ⟨none, 1, 4, 1⟩⟩))
    (some (.literal ⟨.unsigned 0, ⟨none, 1, 14, 1⟩⟩)) ⟨none, 1, 9, 1⟩

theorem evaluate_of_folds_sumOverDifference :
    sumOverDifference.Folds ⟨none, .default⟩ threeOverZero ∧
      ∃ f : Fault, ((threeOverZero.evaluate ⟨none, .default⟩).run ⟨.empty none, #[]⟩).1 = .error f ∧
        ((sumOverDifference.evaluate ⟨none, .default⟩).run ⟨.empty none, #[]⟩).1 = .error f ∧
        f.cause = .divisionByZero ∧ f.location = some sumOverDifference.location := by
  have h : sumOverDifference.Folds ⟨none, .default⟩ threeOverZero :=
    .operands (.fold (m := ⟨.empty none, #[]⟩) rfl rfl) (.fold (m := ⟨.empty none, #[]⟩) rfl rfl)
  have he := evaluate_of_folds h (m := ⟨.empty none, #[]⟩) rfl
  exact ⟨h, _, rfl, he.symm, rfl, rfl⟩

end PatternExpr.Expr
