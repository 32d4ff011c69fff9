import PatternExpr.Proofs.Operation.Effects

/-! Evaluation by rules. A rule for each way an evaluation can go tells everything that happens then:
the frame, what the operands leave behind, and where the fault of a failed one is located. -/
namespace PatternExpr

/-- The last step of a binary expression: both operands must be literals, the left one first. -/
def applyReducts (ctx : Context) (op : Operator) (l r : Reduct) : Evaluation Value := do
  let a ← .ofExcept l.operand
  let b ← .ofExcept r.operand
  applyOperator ctx op a b

theorem Evaluation.Compositional.applyReducts {P : (α : Type) → Evaluation α → Prop}
    (h : Compositional P) (ctx : Context) (op : Operator) (l r : Reduct) :
    P _ (applyReducts ctx op l r) :=
  h.bind (h.ofExcept _) fun a => h.bind (h.ofExcept _) fun b => h.applyOperator ctx op a b

theorem ignoresStack_applyReducts (ctx : Context) (op : Operator) (l r : Reduct) :
    (applyReducts ctx op l r).IgnoresStack :=
  Evaluation.compositional_ignoresStack.applyReducts ctx op l r

/-- What the fault says, without the places noted in it. -/
def Fault.unplaced (f : Fault) : Fault := { f with location := none, trace := [] }

@[simp] theorem Fault.unplaced_locate (f : Fault) (own : Location) (enclosing : List Location) :
    (f.locate own enclosing).unplaced = f.unplaced := by
  unfold locate
  split
  · rfl
  · dsimp only
    split <;> rfl

theorem Fault.cause_eq_of_unplaced_eq {f g : Fault} (h : f.unplaced = g.unplaced) :
    f.cause = g.cause := by
  have hc : f.unplaced.cause = g.unplaced.cause := by rw [h]
  exact hc

@[simp] theorem Fault.cause_locate (f : Fault) (own : Location) (enclosing : List Location) :
    (f.locate own enclosing).cause = f.cause := cause_eq_of_unplaced_eq (f.unplaced_locate own enclosing)

namespace Expr

/-- The tree, evaluated on the first machine, ends with this outcome and leaves the second one. -/
inductive Evaluates (ctx : Context) : Expr → Machine → Except Stop Reduct → Machine → Prop
  | literal (l : Literal) (m : Machine) : Evaluates ctx (.literal l) m (.ok (.literal l)) m
  | void (location : Location) (m : Machine) : Evaluates ctx (.void location) m (.ok .nothing) m
  | irreducible (location : Location) (m : Machine) :
      Evaluates ctx (.irreducible location) m (.ok (.irreducible location)) m
  | failing (f : Fault) (location : Location) (m : Machine) :
      Evaluates ctx (.failing f location) m (.error f) m
  | probe {id : String} {inner : Expr} {m after : Machine} {x : Except Stop Reduct}
      (h : Evaluates ctx inner { m with journal := m.journal.push (.probed id m.stack.frames) }
        x after) :
      Evaluates ctx (.probe id inner) m x after
  | refused {op : Operator} {left right : Option Expr} {location : Location} {m : Machine}
      {f : Fault} (hp : m.stack.push ⟨binaryName, location⟩ = .error f) :
      Evaluates ctx (.binary op left right location) m (.error (f.locate location [])) m
  | incomplete {op : Operator} {left right : Option Expr} {location : Location} {m : Machine}
      {stack : FrameStack} (hp : m.stack.push ⟨binaryName, location⟩ = .ok stack)
      (hn : left = none ∨ right = none) :
      Evaluates ctx (.binary op left right location) m
        (.error (Fault.voidOperand.locate location m.stack.trace)) m
  | left {op : Operator} {left right : Expr} {location : Location} {m after : Machine}
      {stack : FrameStack} {s : Stop} (hp : m.stack.push ⟨binaryName, location⟩ = .ok stack)
      (hl : Evaluates ctx left { m with stack } (.error s) after) :
      Evaluates ctx (.binary op (some left) (some right) location) m
        (.error (s.locate location m.stack.trace)) { after with stack := m.stack }
  | right {op : Operator} {left right : Expr} {location : Location} {m mid after : Machine}
      {stack : FrameStack} {l : Reduct} {s : Stop}
      (hp : m.stack.push ⟨binaryName, location⟩ = .ok stack)
      (hl : Evaluates ctx left { m with stack } (.ok l) mid)
      (hr : Evaluates ctx right mid (.error s) after) :
      Evaluates ctx (.binary op (some left) (some right) location) m
        (.error (s.locate location m.stack.trace)) { after with stack := m.stack }
  | failed {op : Operator} {left right : Expr} {location : Location} {m mid after last : Machine}
      {stack : FrameStack} {l r : Reduct} {s : Stop}
      (hp : m.stack.push ⟨binaryName, location⟩ = .ok stack)
      (hl : Evaluates ctx left { m with stack } (.ok l) mid)
      (hr : Evaluates ctx right mid (.ok r) after)
      (hx : (applyReducts ctx op l r).run after = (.error s, last)) :
      Evaluates ctx (.binary op (some left) (some right) location) m
        (.error (s.locate location m.stack.trace)) { last with stack := m.stack }
  | value {op : Operator} {left right : Expr} {location : Location} {m mid after last : Machine}
      {stack : FrameStack} {l r : Reduct} {v : Value}
      (hp : m.stack.push ⟨binaryName, location⟩ = .ok stack)
      (hl : Evaluates ctx left { m with stack } (.ok l) mid)
      (hr : Evaluates ctx right mid (.ok r) after)
      (hx : (applyReducts ctx op l r).run after = (.ok v, last)) :
      Evaluates ctx (.binary op (some left) (some right) location) m
        (.ok (.literal ⟨v, location⟩)) { last with stack := m.stack }

theorem keepsStack_combine (ctx : Context) (op : Operator) (left right : Expr) :
    (combine ctx op (left.evaluate ctx) (right.evaluate ctx)).KeepsStack := by
  refine (left.keepsStack_evaluate ctx).bind fun l => (right.keepsStack_evaluate ctx).bind fun r => ?_
  refine (Evaluation.keepsStack_ofExcept _).bind fun a => (Evaluation.keepsStack_ofExcept _).bind ?_
  exact fun b => keepsStack_applyOperator ctx op a b

theorem run_combine_left {ctx : Context} {op : Operator} {left right : Evaluation Reduct}
    {m after : Machine} {s : Stop} (hl : left.run m = (.error s, after)) :
    (combine ctx op left right).run m = (.error s, after) := by
  simp only [combine, Evaluation.run_bind, hl]

theorem run_combine_right {ctx : Context} {op : Operator} {left right : Evaluation Reduct}
    {m mid after : Machine} {l : Reduct} {s : Stop} (hl : left.run m = (.ok l, mid))
    (hr : right.run mid = (.error s, after)) :
    (combine ctx op left right).run m = (.error s, after) := by
  simp only [combine, Evaluation.run_bind, hl, hr]

theorem run_combine {ctx : Context} {op : Operator} {left right : Evaluation Reduct}
    {m mid after : Machine} {l r : Reduct} (hl : left.run m = (.ok l, mid))
    (hr : right.run mid = (.ok r, after)) :
    (combine ctx op left right).run m = (applyReducts ctx op l r).run after := by
  simp only [combine, applyReducts, Evaluation.run_bind, hl, hr]

section

variable {ctx : Context} {op : Operator} {location : Location} {m after : Machine}
  {stack : FrameStack} {f : Fault}

theorem run_evaluate_refused {left right : Option Expr}
    (hp : m.stack.push ⟨binaryName, location⟩ = .error f) :
    ((binary op left right location).evaluate ctx).run m = (.error (f.locate location []), m) := by
  have he : ∃ body, (binary op left right location).evaluate ctx =
      (do let value ← inFrame location body
          pure (.literal ⟨value, location⟩)) := by
    rcases left with _ | left
    · exact ⟨_, evaluate_incomplete ctx op location (.inl rfl)⟩
    · rcases right with _ | right
      · exact ⟨_, evaluate_incomplete ctx op location (.inr rfl)⟩
      · exact ⟨_, evaluate_binary ctx op left right location⟩
  obtain ⟨body, he⟩ := he
  simp only [he, inFrame, Evaluation.run_bind, Evaluation.run_inFrame_of_push_error _ _ _ hp]

theorem run_evaluate_incomplete {left right : Option Expr}
    (hp : m.stack.push ⟨binaryName, location⟩ = .ok stack) (hn : left = none ∨ right = none) :
    ((binary op left right location).evaluate ctx).run m =
      (.error (Fault.voidOperand.locate location m.stack.trace), m) := by
  simp only [evaluate_incomplete ctx op location hn, inFrame, Evaluation.run_bind,
    Evaluation.run_inFrame_of_push_ok _ _ _ hp, Evaluation.run_fail, FrameStack.pop_of_push hp]
  rfl

theorem run_evaluate_error {left right : Expr} {s : Stop}
    (hp : m.stack.push ⟨binaryName, location⟩ = .ok stack)
    (hc : (combine ctx op (left.evaluate ctx) (right.evaluate ctx)).run { m with stack } =
      (.error s, after)) :
    ((binary op (some left) (some right) location).evaluate ctx).run m =
      (.error (s.locate location m.stack.trace), { after with stack := m.stack }) := by
  have hs : after.stack = stack := by
    simpa only [hc] using keepsStack_combine ctx op left right { m with stack }
  simp only [evaluate_binary, inFrame, Evaluation.run_bind,
    Evaluation.run_inFrame_of_push_ok _ _ _ hp, hc, hs, FrameStack.pop_of_push hp]
  rfl

theorem run_evaluate_value {left right : Expr} {v : Value}
    (hp : m.stack.push ⟨binaryName, location⟩ = .ok stack)
    (hc : (combine ctx op (left.evaluate ctx) (right.evaluate ctx)).run { m with stack } =
      (.ok v, after)) :
    ((binary op (some left) (some right) location).evaluate ctx).run m =
      (.ok (.literal ⟨v, location⟩), { after with stack := m.stack }) := by
  have hs : after.stack = stack := by
    simpa only [hc] using keepsStack_combine ctx op left right { m with stack }
  simp only [evaluate_binary, inFrame, Evaluation.run_bind,
    Evaluation.run_inFrame_of_push_ok _ _ _ hp, hc, hs, FrameStack.pop_of_push hp]
  rfl

end

theorem evaluates_evaluate (ctx : Context) (t : Expr) (m : Machine) :
    t.Evaluates ctx m ((t.evaluate ctx).run m).1 ((t.evaluate ctx).run m).2 := by
  induction t generalizing m with
  | literal l => exact .literal l m
  | binary op left right location hl hr =>
    cases hp : m.stack.push ⟨binaryName, location⟩ with
    | error f =>
      rw [run_evaluate_refused hp]
      exact .refused hp
    | ok stack =>
      have hl := hl { m with stack }
      rcases he : (left.evaluate ctx).run { m with stack } with ⟨s | l, mid⟩
      · rw [run_evaluate_error hp (run_combine_left he)]
        rw [he] at hl
        exact .left hp hl
      rw [he] at hl
      have hr := hr mid
      rcases he' : (right.evaluate ctx).run mid with ⟨s | r, after⟩
      · rw [run_evaluate_error hp (run_combine_right he he')]
        rw [he'] at hr
        exact .right hp hl hr
      rw [he'] at hr
      rcases hx : (applyReducts ctx op l r).run after with ⟨s | v, last⟩
      · rw [run_evaluate_error hp ((run_combine he he').trans hx)]
        exact .failed hp hl hr hx
      · rw [run_evaluate_value hp ((run_combine he he').trans hx)]
        exact .value hp hl hr hx
  | incomplete op left right location hn =>
    cases hp : m.stack.push ⟨binaryName, location⟩ with
    | error f =>
      rw [run_evaluate_refused hp]
      exact .refused hp
    | ok stack =>
      rw [run_evaluate_incomplete hp hn]
      exact .incomplete hp hn
  | void location => exact .void location m
  | irreducible location => exact .irreducible location m
  | failing f location => exact .failing f location m
  | probe id inner h => exact .probe (h _)

theorem run_of_evaluates {ctx : Context} {t : Expr} {m after : Machine} {x : Except Stop Reduct}
    (h : t.Evaluates ctx m x after) : (t.evaluate ctx).run m = (x, after) := by
  induction h with
  | literal | void | irreducible | failing => rfl
  | probe _ ih => exact ih
  | refused hp => exact run_evaluate_refused hp
  | incomplete hp hn => exact run_evaluate_incomplete hp hn
  | left hp _ hl => exact run_evaluate_error hp (run_combine_left hl)
  | right hp _ _ hl hr => exact run_evaluate_error hp (run_combine_right hl hr)
  | failed hp _ _ hx hl hr => exact run_evaluate_error hp ((run_combine hl hr).trans hx)
  | value hp _ _ hx hl hr => exact run_evaluate_value hp ((run_combine hl hr).trans hx)

/-- The rules describe evaluation exactly: every run follows one, and a rule allows nothing else. -/
theorem evaluates_iff {ctx : Context} {t : Expr} {m after : Machine} {x : Except Stop Reduct} :
    t.Evaluates ctx m x after ↔ (t.evaluate ctx).run m = (x, after) := by
  refine ⟨run_of_evaluates, fun h => ?_⟩
  have he := evaluates_evaluate ctx t m
  rwa [h] at he

theorem stack_of_evaluates {ctx : Context} {t : Expr} {m after : Machine}
    {x : Except Stop Reduct} (h : t.Evaluates ctx m x after) : after.stack = m.stack := by
  have hk := t.keepsStack_evaluate ctx m
  rwa [run_of_evaluates h] at hk

end Expr
end PatternExpr
