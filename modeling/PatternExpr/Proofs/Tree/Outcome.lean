import PatternExpr.Proofs.Tree.Rules

/-! Outcomes. What a tree yields depends on the frame stack it is evaluated on and on nothing else
in the machine, so it can be stated with the stack alone, expression by expression. -/
namespace PatternExpr

/-- What the last step of a binary expression yields. -/
def applied (ctx : Context) (op : Operator) (l r : Reduct) : Except Stop Value :=
  ((applyReducts ctx op l r).run ⟨.empty none, #[]⟩).1

theorem applied_of_run {ctx : Context} {op : Operator} {l r : Reduct} {m after : Machine}
    {x : Except Stop Value} (h : (applyReducts ctx op l r).run m = (x, after)) :
    applied ctx op l r = x := by
  have hi := Evaluation.compositional_ignoresMachine.applyReducts ctx op l r m ⟨.empty none, #[]⟩
  rwa [h] at hi

theorem exists_run_applyReducts {ctx : Context} {op : Operator} {l r : Reduct}
    {x : Except Stop Value} (h : applied ctx op l r = x) (m : Machine) :
    ∃ after, (applyReducts ctx op l r).run m = (x, after) := by
  have hi := Evaluation.compositional_ignoresMachine.applyReducts ctx op l r ⟨.empty none, #[]⟩ m
  exact ⟨_, Prod.ext (hi.trans h) rfl⟩

namespace Expr

/-- An evaluation is determined by the frame stack it starts on, whatever was recorded before. -/
theorem evaluates_of_stack_eq {ctx : Context} {t : Expr} {m after : Machine}
    {x : Except Stop Reduct} (h : t.Evaluates ctx m x after) (m' : Machine)
    (hs : m'.stack = m.stack) : ∃ after', t.Evaluates ctx m' x after' := by
  induction h generalizing m' with
  | literal | void | irreducible | failing => exact ⟨m', by constructor⟩
  | probe _ ih =>
    obtain ⟨after', h⟩ := ih { m' with journal := m'.journal.push _ } hs
    exact ⟨after', .probe h⟩
  | refused hp =>
    rw [← hs] at hp
    exact ⟨m', .refused hp⟩
  | incomplete hp hn =>
    rw [← hs] at hp ⊢
    exact ⟨m', .incomplete hp hn⟩
  | left hp _ ih =>
    rw [← hs] at hp ⊢
    obtain ⟨after', h⟩ := ih { m' with stack := _ } rfl
    exact ⟨_, .left hp h⟩
  | right hp hl _ ihl ihr =>
    rw [← hs] at hp ⊢
    obtain ⟨mid', hl'⟩ := ihl { m' with stack := _ } rfl
    have hmid := (stack_of_evaluates hl').trans (stack_of_evaluates hl).symm
    obtain ⟨after', hr'⟩ := ihr mid' hmid
    exact ⟨_, .right hp hl' hr'⟩
  | failed hp hl _ hx ihl ihr =>
    rw [← hs] at hp ⊢
    obtain ⟨mid', hl'⟩ := ihl { m' with stack := _ } rfl
    have hmid := (stack_of_evaluates hl').trans (stack_of_evaluates hl).symm
    obtain ⟨after', hr'⟩ := ihr mid' hmid
    obtain ⟨last', hx'⟩ := exists_run_applyReducts (applied_of_run hx) after'
    exact ⟨_, .failed hp hl' hr' hx'⟩
  | value hp hl _ hx ihl ihr =>
    rw [← hs] at hp
    obtain ⟨mid', hl'⟩ := ihl { m' with stack := _ } rfl
    have hmid := (stack_of_evaluates hl').trans (stack_of_evaluates hl).symm
    obtain ⟨after', hr'⟩ := ihr mid' hmid
    obtain ⟨last', hx'⟩ := exists_run_applyReducts (applied_of_run hx) after'
    exact ⟨_, .value hp hl' hr' hx'⟩

def outcome (ctx : Context) (t : Expr) (stack : FrameStack) : Except Stop Reduct :=
  ((t.evaluate ctx).run ⟨stack, #[]⟩).1

theorem outcome_of_evaluates {ctx : Context} {t : Expr} {m after : Machine}
    {x : Except Stop Reduct} (h : t.Evaluates ctx m x after) : t.outcome ctx m.stack = x := by
  obtain ⟨after', h⟩ := evaluates_of_stack_eq h ⟨m.stack, #[]⟩ rfl
  rw [outcome, run_of_evaluates h]

theorem evaluates_of_outcome {ctx : Context} {t : Expr} {m : Machine} {x : Except Stop Reduct}
    (h : t.outcome ctx m.stack = x) : ∃ after, t.Evaluates ctx m x after := by
  subst h
  have he := evaluates_evaluate ctx t ⟨m.stack, #[]⟩
  exact evaluates_of_stack_eq he m rfl

theorem run_evaluate_fst (ctx : Context) (t : Expr) (m : Machine) :
    ((t.evaluate ctx).run m).1 = t.outcome ctx m.stack :=
  (outcome_of_evaluates (evaluates_evaluate ctx t m)).symm

theorem outcome_probe (ctx : Context) (id : String) (inner : Expr) (stack : FrameStack) :
    (probe id inner).outcome ctx stack = inner.outcome ctx stack :=
  run_evaluate_fst ctx inner ⟨stack, _⟩

/-- The last step of an expression, and the place it notes in a fault. -/
def finish (location : Location) (enclosing : List Location) (x : Except Stop Value) :
    Except Stop Reduct :=
  (x.mapError (Stop.locate location enclosing)).map fun v => .literal ⟨v, location⟩

@[simp] theorem finish_error (location : Location) (enclosing : List Location) (s : Stop) :
    finish location enclosing (.error s) = .error (s.locate location enclosing) := rfl

@[simp] theorem finish_ok (location : Location) (enclosing : List Location) (v : Value) :
    finish location enclosing (.ok v) = .ok (.literal ⟨v, location⟩) := rfl

section

variable {ctx : Context} {op : Operator} {location : Location} {stack inner : FrameStack}
  {f : Fault}

theorem outcome_incomplete {left right : Option Expr}
    (hp : stack.push ⟨binaryName, location⟩ = .ok inner) (hn : left = none ∨ right = none) :
    (binary op left right location).outcome ctx stack =
      .error (Fault.voidOperand.locate location stack.trace) := by
  have h : Evaluates ctx (.binary op left right location) ⟨stack, #[]⟩ _ _ := .incomplete hp hn
  exact outcome_of_evaluates h

theorem outcome_binary {left right : Expr} (hp : stack.push ⟨binaryName, location⟩ = .ok inner) :
    (binary op (some left) (some right) location).outcome ctx stack =
      finish location stack.trace (do
        applied ctx op (← left.outcome ctx inner) (← right.outcome ctx inner)) := by
  have he := evaluates_evaluate ctx (.binary op (some left) (some right) location) ⟨stack, #[]⟩
  have ho := outcome_of_evaluates he
  rw [ho]
  generalize ((binary op (some left) (some right) location).evaluate ctx).run ⟨stack, #[]⟩ = run
    at he
  obtain ⟨x, last⟩ := run
  cases he with
  | refused hp' => cases hp.symm.trans hp'
  | incomplete _ hn => simp at hn
  | left hp' hl =>
    cases hp.symm.trans hp'
    have hl := outcome_of_evaluates hl
    rw [hl]
    rfl
  | right hp' hl hr =>
    cases hp.symm.trans hp'
    have hs := stack_of_evaluates hl
    have hl := outcome_of_evaluates hl
    have hr := outcome_of_evaluates hr
    rw [hs] at hr
    rw [hl, hr]
    rfl
  | failed hp' hl hr hx | value hp' hl hr hx =>
    cases hp.symm.trans hp'
    have hs := stack_of_evaluates hl
    have hl := outcome_of_evaluates hl
    have hr := outcome_of_evaluates hr
    have hx := applied_of_run hx
    rw [hs] at hr
    rw [hl, hr]
    exact (congrArg (finish location stack.trace) hx).symm

theorem outcome_binary_eq_ok_iff {left right : Expr} {x : Reduct}
    (hp : stack.push ⟨binaryName, location⟩ = .ok inner) :
    (binary op (some left) (some right) location).outcome ctx stack = .ok x ↔
      ∃ a b v, left.outcome ctx inner = .ok a ∧ right.outcome ctx inner = .ok b ∧
        applied ctx op a b = .ok v ∧ .literal ⟨v, location⟩ = x := by
  rw [outcome_binary hp]
  cases left.outcome ctx inner with
  | error f => simp [bind, Except.bind]
  | ok a =>
    cases right.outcome ctx inner with
    | error f => simp [bind, Except.bind]
    | ok b =>
      cases hx : applied ctx op a b with
      | error f => simp [bind, Except.bind, hx]
      | ok v => simp [bind, Except.bind, hx]

end

end Expr
end PatternExpr
