import PatternExpr.Proofs.Tree.Rules
import PatternExpr.Tree.Program
import PatternExpr.Tree.Shape

/-! Evaluation of a tree against its postfix program. The program knows nothing of frames: it runs the
same operators in the same order, so it ends the same way, but for the places noted in a fault. -/
namespace PatternExpr

/-- Why an evaluation ended, without the places noted in a fault. -/
def Stop.unplaced (s : Stop) : Stop := s.map Fault.unplaced

@[simp] theorem Stop.unplaced_locate (s : Stop) (own : Location) (enclosing : List Location) :
    (s.locate own enclosing).unplaced = s.unplaced := by
  cases s with
  | fault f => exact congrArg fault (f.unplaced_locate own enclosing)
  | capacityOverflow => rfl

namespace Instruction

variable {ctx : Context} {op : Operator} {location : Location} {is : List Instruction}
  {below below' : List Reduct} {m mid after : Machine} {l r : Reduct} {s : Stop} {v : Value}

theorem runAll_append_ok (h : (runAll ctx is below).run m = (.ok below', mid))
    (js : List Instruction) :
    (runAll ctx (is ++ js) below).run m = (runAll ctx js below').run mid := by
  rw [runAll_append, Evaluation.run_bind, h]

theorem runAll_append_error (h : (runAll ctx is below).run m = (.error s, mid))
    (js : List Instruction) : (runAll ctx (is ++ js) below).run m = (.error s, mid) := by
  rw [runAll_append, Evaluation.run_bind, h]

/-- The checks of an application are those of the last step of an expression. -/
theorem run_apply (ctx : Context) (op : Operator) (location : Location) (l r : Reduct)
    (below : List Reduct) :
    (apply op location).run ctx (r :: l :: below) =
      (do let value ← applyReducts ctx op l r
          pure (.literal ⟨value, location⟩ :: below)) := by
  cases l <;> cases r <;> rfl

theorem runAll_apply_ok (h : (applyReducts ctx op l r).run m = (.ok v, after))
    (location : Location) (below : List Reduct) :
    (runAll ctx [.apply op location] (r :: l :: below)).run m =
      (.ok (.literal ⟨v, location⟩ :: below), after) := by
  simp only [runAll, run_apply, Evaluation.run_bind, h, Evaluation.run_pure]

theorem runAll_apply_error (h : (applyReducts ctx op l r).run m = (.error s, after))
    (location : Location) (below : List Reduct) :
    (runAll ctx [.apply op location] (r :: l :: below)).run m = (.error s, after) := by
  simp only [runAll, run_apply, Evaluation.run_bind, h]

end Instruction

namespace Expr

open Instruction

variable {ctx : Context} {t : Expr} {m after : Machine} {r : Reduct} {s : Stop}

/-- The program of a tree that evaluates to a reduct pushes it, whatever lies below. The frame stack
is any: the operands of an expression evaluate under one frame more than their programs run. -/
theorem runAll_program_ok (ht : ∀ a ∈ t.atoms, a.isProbe = false)
    (h : t.Evaluates ctx m (.ok r) after) (stack : FrameStack) (below : List Reduct) :
    (runAll ctx t.program below).run { m with stack } = (.ok (r :: below), { after with stack }) := by
  generalize hx : Except.ok r = x at h
  induction h generalizing r below with
  | literal | void | irreducible =>
    cases hx
    rfl
  | probe => simp [atoms, isProbe] at ht
  | failing | refused | incomplete | left | right | failed => cases hx
  | value hp _ _ hv hl hr =>
    cases hx
    rw [atoms_binary, List.forall_mem_append] at ht
    have hl := hl ht.1 below rfl
    have hr := fun below => hr ht.2 below rfl
    have hv := (ignoresStack_applyReducts ctx _ _ _).run_eq hv stack
    rw [program, List.append_assoc, runAll_append_ok hl, runAll_append_ok (hr _),
      runAll_apply_ok hv]

theorem runAll_program_error (ht : ∀ a ∈ t.atoms, a.isProbe = false) (hd : m.stack.maxDepth = none)
    (h : t.Evaluates ctx m (.error s) after) (stack : FrameStack) (below : List Reduct) :
    ∃ s', (runAll ctx t.program below).run { m with stack } = (.error s', { after with stack }) ∧
      s'.unplaced = s.unplaced := by
  generalize hx : Except.error s = x at h
  induction h generalizing s below with
  | literal | void | irreducible | value => cases hx
  | failing =>
    cases hx
    exact ⟨_, rfl, rfl⟩
  | probe => simp [atoms, isProbe] at ht
  | refused hp => exact absurd hp (FrameStack.push_ne_error hd _ _)
  | @incomplete op left right location m _ hp hn =>
    cases hx
    refine ⟨Fault.voidOperand, ?_, (Stop.unplaced_locate _ _ _).symm⟩
    rcases hn with rfl | rfl
    · rfl
    · cases left <;> rfl
  | left hp hl ih =>
    cases hx
    rw [atoms_binary, List.forall_mem_append] at ht
    obtain ⟨s', hg, hu⟩ := ih ht.1 (by rwa [FrameStack.maxDepth_of_push hp]) below rfl
    refine ⟨s', ?_, by rw [hu, Stop.unplaced_locate]⟩
    rw [program, List.append_assoc, runAll_append_error hg]
  | right hp hl hr _ ih =>
    cases hx
    rw [atoms_binary, List.forall_mem_append] at ht
    have hl' := runAll_program_ok ht.1 hl stack below
    obtain ⟨s', hg, hu⟩ := ih ht.2
      (by rwa [stack_of_evaluates hl, FrameStack.maxDepth_of_push hp]) (_ :: below) rfl
    refine ⟨s', ?_, by rw [hu, Stop.unplaced_locate]⟩
    rw [program, List.append_assoc, runAll_append_ok hl', runAll_append_error hg]
  | failed hp hl hr hf =>
    cases hx
    rw [atoms_binary, List.forall_mem_append] at ht
    have hl := runAll_program_ok ht.1 hl stack below
    have hr := runAll_program_ok ht.2 hr stack
    have hf := (ignoresStack_applyReducts ctx _ _ _).run_eq hf stack
    refine ⟨_, ?_, (Stop.unplaced_locate _ _ _).symm⟩
    rw [program, List.append_assoc, runAll_append_ok hl, runAll_append_ok (hr _),
      runAll_apply_error hf]

theorem run_program_of_ok (ht : ∀ a ∈ t.atoms, a.isProbe = false)
    (h : (t.evaluate ctx).run m = (.ok r, after)) (below : List Reduct) :
    (runAll ctx t.program below).run m = (.ok (r :: below), after) := by
  have he := evaluates_iff.2 h
  have hs : { after with stack := m.stack } = after := by rw [← stack_of_evaluates he]
  have hp := runAll_program_ok ht he m.stack below
  rwa [hs] at hp

theorem run_program_of_error (ht : ∀ a ∈ t.atoms, a.isProbe = false) (hd : m.stack.maxDepth = none)
    (h : (t.evaluate ctx).run m = (.error s, after)) (below : List Reduct) :
    ∃ s', (runAll ctx t.program below).run m = (.error s', after) ∧ s'.unplaced = s.unplaced := by
  have he := evaluates_iff.2 h
  have hs : { after with stack := m.stack } = after := by rw [← stack_of_evaluates he]
  have hp := runAll_program_error ht hd he m.stack below
  rwa [hs] at hp

theorem run_of_program_error {s' : Stop} (ht : ∀ a ∈ t.atoms, a.isProbe = false)
    (hd : m.stack.maxDepth = none) (h : (runAll ctx t.program []).run m = (.error s', after)) :
    ∃ s, (t.evaluate ctx).run m = (.error s, after) ∧ s.unplaced = s'.unplaced := by
  rcases he : (t.evaluate ctx).run m with ⟨s | r, last⟩
  · obtain ⟨s'', hg, hu⟩ := run_program_of_error ht hd he []
    cases hg.symm.trans h
    exact ⟨s, rfl, hu.symm⟩
  · cases (run_program_of_ok ht he []).symm.trans h

theorem reduct_of_binary {op : Operator} {left right : Option Expr} {location : Location}
    (h : (binary op left right location).Evaluates ctx m (.ok r) after) :
    ∃ v, r = .literal ⟨v, location⟩ := by
  cases h with
  | value => exact ⟨_, rfl⟩

/-- Without a bound on the depth, evaluating a tree is running its postfix program: the outcome is
the same, but for the places noted in a fault, and so are the reads. What follows the first failing
instruction does not run, so a fault of the right operand comes before any complaint about what the
left one yielded. -/
theorem evaluate_eq_program (ctx : Context) (t : Expr) (m : Machine)
    (ht : ∀ a ∈ t.atoms, a.isProbe = false) (hd : m.stack.maxDepth = none) :
    ((runAll ctx t.program []).run m).1.mapError Stop.unplaced =
        (((t.evaluate ctx).run m).1.map ([·])).mapError Stop.unplaced ∧
      ((runAll ctx t.program []).run m).2 = ((t.evaluate ctx).run m).2 ∧
      (∀ is js s after, t.program = is ++ js → (runAll ctx is []).run m = (.error s, after) →
        ∃ s', (t.evaluate ctx).run m = (.error s', after) ∧ s'.unplaced = s.unplaced) ∧
      (∀ op left right location l mid s after, t = .binary op (some left) (some right) location →
        (left.evaluate ctx).run m = (.ok l, mid) →
        (right.evaluate ctx).run mid = (.error s, after) →
        ∃ s', (t.evaluate ctx).run m = (.error s', after) ∧ s'.unplaced = s.unplaced) ∧
      (∀ op left right location r after, t = .binary op left right location →
        (t.evaluate ctx).run m = (.ok r, after) → ∃ v, r = .literal ⟨v, location⟩) := by
  have hout : ((runAll ctx t.program []).run m).1.mapError Stop.unplaced =
      (((t.evaluate ctx).run m).1.map ([·])).mapError Stop.unplaced ∧
      ((runAll ctx t.program []).run m).2 = ((t.evaluate ctx).run m).2 := by
    rcases he : (t.evaluate ctx).run m with ⟨s | r, after⟩
    · obtain ⟨g, hg, hu⟩ := run_program_of_error ht hd he []
      rw [hg]
      exact ⟨congrArg Except.error hu, rfl⟩
    · rw [run_program_of_ok ht he []]
      exact ⟨rfl, rfl⟩
  refine ⟨hout.1, hout.2, ?_, ?_, ?_⟩
  · intro is js s after hs hi
    refine run_of_program_error ht hd ?_
    rw [hs, runAll_append_error hi]
  · rintro op left right location l mid s after rfl hl hr
    have hts := ht
    rw [atoms_binary, List.forall_mem_append] at hts
    have hmid : mid.stack.maxDepth = none := by rwa [stack_of_evaluates (evaluates_iff.2 hl)]
    obtain ⟨g', hg, hu⟩ := run_program_of_error hts.2 hmid hr [l]
    have hp : (runAll ctx (binary op (some left) (some right) location).program []).run m =
        (.error g', after) := by
      rw [program, List.append_assoc, runAll_append_ok (run_program_of_ok hts.1 hl []),
        runAll_append_error hg]
    obtain ⟨f, hf, hu'⟩ := run_of_program_error ht hd hp
    exact ⟨f, hf, hu'.trans hu⟩
  · rintro op left right location r after rfl he
    exact reduct_of_binary (evaluates_iff.2 he)

/-- The left operand yields nothing, the right one fails. -/
def voidAndQuotient : Expr :=
  .binary .and (some (.void .synthetic))
    (some (.binary .div (some (number 1)) (some (number 0)) ⟨none, 1, 3, 1⟩)) .synthetic

theorem evaluate_eq_program_voidAndQuotient :
    ∃ s after, (voidAndQuotient.evaluate ⟨none, .default⟩).run ⟨.empty none, #[]⟩ =
        (.error s, after) ∧
      s.unplaced = Fault.divisionByZero ∧
      ((runAll ⟨none, .default⟩ voidAndQuotient.program []).run ⟨.empty none, #[]⟩).1.mapError
        Stop.unplaced = .error Fault.divisionByZero := by
  have hatoms : ∀ a ∈ voidAndQuotient.atoms, a.isProbe = false := by decide
  obtain ⟨hout, -, -, hright, -⟩ :=
    evaluate_eq_program ⟨none, .default⟩ voidAndQuotient ⟨.empty none, #[]⟩ hatoms rfl
  obtain ⟨s, hs, hu⟩ := hright _ _ _ _ _ _ _ _ rfl rfl rfl
  rw [hs] at hout
  exact ⟨s, _, hs, hu, hout.trans (congrArg Except.error hu)⟩

end Expr
end PatternExpr
