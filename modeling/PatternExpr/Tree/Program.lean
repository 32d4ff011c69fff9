import PatternExpr.Tree.Evaluation

/-! Postfix programs. A tree is flattened into instructions that run from left to right on a stack of
reducts and stop at the first that fails. -/
namespace PatternExpr

inductive Instruction
  | push (r : Reduct)
  | fail (f : Fault)
  | apply (op : Operator) (location : Location)

/-- An application takes its right operand from the top of the stack; it checks the left one first.
Too short a stack, which the program of a tree never meets, counts as an operand without value. -/
def Instruction.run (ctx : Context) : Instruction → List Reduct → Evaluation (List Reduct)
  | .push r, stack => pure (r :: stack)
  | .fail f, _ => .fail f
  | .apply .., _ :: .nothing :: _ => .fail .voidOperand
  | .apply .., _ :: .irreducible _ :: _ => .fail .nonLiteralOperand
  | .apply .., .nothing :: .literal _ :: _ => .fail .voidOperand
  | .apply .., .irreducible _ :: .literal _ :: _ => .fail .nonLiteralOperand
  | .apply op location, .literal b :: .literal a :: stack => do
    let value ← applyOperator ctx op a.value b.value
    pure (.literal ⟨value, location⟩ :: stack)
  | .apply .., _ => .fail .voidOperand

def Instruction.runAll (ctx : Context) : List Instruction → List Reduct → Evaluation (List Reduct)
  | [], stack => pure stack
  | i :: is, stack => do runAll ctx is (← i.run ctx stack)

/-- An expression with an empty slot only fails; any other one evaluates both sides, for every
operator. A probe only observes, so it has no instruction of its own. -/
def Expr.program : Expr → List Instruction
  | .literal l => [.push (.literal l)]
  | .binary op (some left) (some right) location =>
    left.program ++ right.program ++ [.apply op location]
  | .binary .. => [.fail .voidOperand]
  | .void _ => [.push .nothing]
  | .irreducible location => [.push (.irreducible location)]
  | .failing fault _ => [.fail fault]
  | .probe _ inner => inner.program
termination_by structural t => t

theorem Instruction.runAll_append (ctx : Context) (is js : List Instruction) (stack : List Reduct)
    (m : Machine) :
    (runAll ctx (is ++ js) stack).run m =
      (do runAll ctx js (← runAll ctx is stack) : Evaluation (List Reduct)).run m := by
  induction is generalizing stack m with
  | nil => rfl
  | cons i is ih =>
    simp only [List.cons_append, runAll, Evaluation.run_bind]
    rcases i.run ctx stack |>.run m with ⟨f | next, after⟩
    · rfl
    · exact ih next after

end PatternExpr
