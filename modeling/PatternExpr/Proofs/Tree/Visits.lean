import PatternExpr.Proofs.Tree.Rules
import PatternExpr.Tree.Shape
import PatternExpr.Tree.Site

/-! The nodes that an evaluation comes to, and the machine it has there. -/
namespace PatternExpr.Expr

/-- On its way through the tree from the first machine the evaluation comes to the node, which the
listed expressions enclose, the innermost one first, and finds the second machine there. -/
inductive Visits (ctx : Context) : Expr → Machine → Expr → List Expr → Machine → Prop
  | here (t : Expr) (m : Machine) : Visits ctx t m t [] m
  | left {op : Operator} {left right : Expr} {location : Location} {m found : Machine}
      {stack : FrameStack} {e : Expr} {around : List Expr}
      (hp : m.stack.push ⟨binaryName, location⟩ = .ok stack)
      (hl : Visits ctx left { m with stack } e around found) :
      Visits ctx (.binary op (some left) (some right) location) m e
        (around ++ [.binary op (some left) (some right) location]) found
  | right {op : Operator} {left right : Expr} {location : Location} {m mid found : Machine}
      {stack : FrameStack} {l : Reduct} {e : Expr} {around : List Expr}
      (hp : m.stack.push ⟨binaryName, location⟩ = .ok stack)
      (hl : left.Evaluates ctx { m with stack } (.ok l) mid)
      (hr : Visits ctx right mid e around found) :
      Visits ctx (.binary op (some left) (some right) location) m e
        (around ++ [.binary op (some left) (some right) location]) found
  | probe {id : String} {inner : Expr} {m found : Machine} {e : Expr} {around : List Expr}
      (h : Visits ctx inner { m with journal := m.journal.push (.probed id m.stack.frames) } e
        around found) :
      Visits ctx (.probe id inner) m e around found

variable {ctx : Context} {t e : Expr} {m found : Machine} {around : List Expr}

/-- A node is visited with the frames of exactly the expressions around it above the first ones. -/
theorem stack_of_visits (h : t.Visits ctx m e around found) :
    found.stack = m.stack.within around := by
  induction h with
  | here => rfl
  | left hp _ ih =>
    rw [ih, FrameStack.eq_of_push hp]
    simp [FrameStack.within, frame, name, location]
  | right hp hl _ ih =>
    rw [ih, stack_of_evaluates hl, FrameStack.eq_of_push hp]
    simp [FrameStack.within, frame, name, location]
  | probe _ ih => rw [ih]

theorem nesting_of_visits (h : t.Visits ctx m e around found) :
    around.length + e.nesting ≤ t.nesting := by
  induction h with
  | here => simp
  | left _ _ ih | right _ _ _ ih =>
    rw [List.length_append, List.length_singleton, nesting_binary]
    omega
  | probe _ ih => exact ih

end PatternExpr.Expr
