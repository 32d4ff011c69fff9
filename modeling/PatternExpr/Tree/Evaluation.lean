import PatternExpr.Operation.Scalar
import PatternExpr.Tree.Expr
import PatternExpr.Tree.Machine

/-! Evaluation of expression trees. -/
namespace PatternExpr

/-- No size in bytes goes beyond what a machine word holds. -/
def addressBound : Nat := Nat.pow 2 64

/-- The bytes that a pattern covers. Their buffer is set up before they are read, and only a size that
is no machine word is answered with a fault. -/
def Evaluation.readPattern (ctx : Context) (p : Pattern) : Evaluation (List UInt8) :=
  if addressBound ≤ p.range.size then
    fail (.dataRead (.other s!"pattern of {p.range.size} bytes does not fit in memory"))
  else if memoryBound ≤ p.range.size then overflow
  else read ctx p.range

/-- Two patterns compare by the bytes they cover, which are read for every operator. -/
def comparePatterns (ctx : Context) (op : Operator) (l r : Pattern) : Evaluation Value := do
  let a ← Evaluation.readPattern ctx l
  let b ← Evaluation.readPattern ctx r
  match op with
  | .relation .eq => pure (.bool (a == b))
  | .relation .ne => pure (.bool (a != b))
  | _ => .fail (.invalidOperand op .pattern .pattern)

/-- A binary operator applied to two values. -/
def applyOperator (ctx : Context) (op : Operator) (l r : Value) : Evaluation Value :=
  match l, r with
  | .pattern a, .pattern b => comparePatterns ctx op a b
  | _, _ => .ofExcept (applyScalar ctx.limits op l r)

/-- A fault without a location gets the one of the expression it passes, with the enclosing places
as its trace unless it has one. -/
def Fault.locate (own : Location) (enclosing : List Location) (f : Fault) : Fault :=
  if f.location.isSome || own.isSynthetic then f
  else
    let f := f.withLocation own
    if f.trace.isEmpty then f.withTrace (Location.shown enclosing) else f

def Stop.locate (own : Location) (enclosing : List Location) (s : Stop) : Stop :=
  s.map (Fault.locate own enclosing)

namespace Expr

/-- The frame of a binary expression; the fault of a refused frame lists the enclosing places
already. -/
def inFrame {α : Type} (own : Location) (body : Evaluation α) : Evaluation α :=
  Evaluation.inFrame ⟨binaryName, own⟩ (Fault.locate own []) (Fault.locate own) body

/-- Both operands are evaluated before either is looked at. -/
def combine (ctx : Context) (op : Operator) (left right : Evaluation Reduct) : Evaluation Value := do
  let l ← left
  let r ← right
  let a ← .ofExcept l.operand
  let b ← .ofExcept r.operand
  applyOperator ctx op a b

/-- An empty operand slot stops a binary expression before the other operand is evaluated. -/
def evaluate (ctx : Context) : Expr → Evaluation Reduct
  | .literal l => pure (.literal l)
  | .binary op left right location => do
    let value ← inFrame location <|
      match left, right with
      | some left, some right => combine ctx op (left.evaluate ctx) (right.evaluate ctx)
      | _, _ => .fail .voidOperand
    pure (.literal ⟨value, location⟩)
  | .void _ => pure .nothing
  | .irreducible location => pure (.irreducible location)
  | .failing fault _ => .fail fault
  | .probe id inner => do
    let frames ← Evaluation.frames
    Evaluation.record (.probed id frames)
    inner.evaluate ctx
termination_by structural t => t

/-- The value of a tree, for a host that needs one. -/
def evaluateToValue (ctx : Context) (t : Expr) : Evaluation Value := do
  match ← t.evaluate ctx with
  | .nothing => .fail .voidOperand
  | .literal l => pure l.value
  | .irreducible location => .fail (Fault.nonLiteralOperand.orLocation location)

theorem evaluate_binary (ctx : Context) (op : Operator) (left right : Expr) (location : Location) :
    (binary op (some left) (some right) location).evaluate ctx =
      (do let value ← inFrame location (combine ctx op (left.evaluate ctx) (right.evaluate ctx))
          pure (.literal ⟨value, location⟩)) := rfl

theorem evaluate_incomplete (ctx : Context) (op : Operator) {left right : Option Expr}
    (location : Location) (h : left = none ∨ right = none) :
    (binary op left right location).evaluate ctx =
      (do let value ← inFrame location (.fail .voidOperand)
          pure (.literal ⟨value, location⟩)) := by
  rcases h with rfl | rfl
  · rfl
  · cases left <;> rfl

end Expr

theorem Evaluation.keepsStack_readPattern (ctx : Context) (p : Pattern) :
    (readPattern ctx p).KeepsStack := by
  unfold readPattern
  split
  · exact keepsStack_fail _
  · split
    · exact keepsStack_overflow
    · exact keepsStack_read ctx p.range

theorem keepsStack_applyOperator (ctx : Context) (op : Operator) (l r : Value) :
    (applyOperator ctx op l r).KeepsStack := by
  unfold applyOperator
  split
  · refine (Evaluation.keepsStack_readPattern ctx _).bind fun a =>
      (Evaluation.keepsStack_readPattern ctx _).bind fun b => ?_
    split
    · exact Evaluation.keepsStack_pure _
    · exact Evaluation.keepsStack_pure _
    · exact Evaluation.keepsStack_fail _
  · exact Evaluation.keepsStack_ofExcept _

theorem Expr.keepsStack_evaluate (ctx : Context) (t : Expr) : (t.evaluate ctx).KeepsStack := by
  induction t with
  | literal l => exact Evaluation.keepsStack_pure _
  | binary op left right location hl hr =>
    rw [evaluate_binary]
    refine Evaluation.KeepsStack.bind (Evaluation.KeepsStack.inFrame _ _ _ ?_) fun _ =>
      Evaluation.keepsStack_pure _
    exact hl.bind fun _ => hr.bind fun _ => (Evaluation.keepsStack_ofExcept _).bind fun _ =>
      (Evaluation.keepsStack_ofExcept _).bind fun _ => keepsStack_applyOperator ctx op _ _
  | incomplete op left right location h =>
    rw [evaluate_incomplete ctx op location h]
    exact (Evaluation.KeepsStack.inFrame _ _ _ (Evaluation.keepsStack_fail _)).bind fun _ =>
      Evaluation.keepsStack_pure _
  | void location => exact Evaluation.keepsStack_pure _
  | irreducible location => exact Evaluation.keepsStack_pure _
  | failing fault location => exact Evaluation.keepsStack_fail _
  | probe id inner h =>
    exact Evaluation.keepsStack_frames.bind fun _ =>
      (Evaluation.keepsStack_record _).bind fun _ => h

theorem Expr.keepsStack_evaluateToValue (ctx : Context) (t : Expr) :
    (t.evaluateToValue ctx).KeepsStack := by
  refine (t.keepsStack_evaluate ctx).bind fun r => ?_
  cases r with
  | nothing => exact Evaluation.keepsStack_fail _
  | literal l => exact Evaluation.keepsStack_pure _
  | irreducible location => exact Evaluation.keepsStack_fail _

end PatternExpr
