import PatternExpr.Tree.Evaluation

/-! Places in a tree. A site is a node together with the binary expressions around it, and the sites
of a tree are listed in the order in which evaluation is done with them. -/
namespace PatternExpr

namespace Expr

/-- The frame that stands for the node on the frame stack while it is evaluated. -/
def frame (t : Expr) : Frame := ⟨t.name, t.location⟩

def isBinary : Expr → Bool
  | .binary .. => true
  | _ => false

@[simp] theorem isBinary_binary (op : Operator) (left right : Option Expr) (location : Location) :
    (binary op left right location).isBinary = true := rfl

@[simp] theorem isBinary_probe (id : String) (inner : Expr) :
    (probe id inner).isBinary = false := rfl

/-- An expression has both its operands; other nodes have no slots to fill. -/
def isComplete : Expr → Bool
  | .binary _ left right _ => left.isSome && right.isSome
  | _ => true

/-- Induction on trees that also goes into the operand beside an empty slot. -/
@[elab_as_elim]
theorem slotInduct {motive : Expr → Prop}
    (literal : ∀ l, motive (.literal l))
    (binary : ∀ op left right location, (∀ l ∈ left, motive l) → (∀ r ∈ right, motive r) →
      motive (.binary op left right location))
    (void : ∀ location, motive (.void location))
    (irreducible : ∀ location, motive (.irreducible location))
    (failing : ∀ fault location, motive (.failing fault location))
    (probe : ∀ id inner, motive inner → motive (.probe id inner)) (t : Expr) : motive t :=
  @Expr.rec motive (fun slot => ∀ t ∈ slot, motive t) literal binary void irreducible failing probe
    nofun (fun _ ht _ h => Option.mem_some_iff.1 h ▸ ht) t

end Expr

/-- The expressions around the node stand innermost first. -/
structure Site where
  node : Expr
  around : List Expr

/-- The sites below a node that these expressions enclose, in post-order: the operands of an
expression, left before right, come before the expression. A probe comes before what it wraps. -/
def Expr.sites : Expr → List Expr → List Site
  | .binary op left right location, around =>
    (match left with
      | some l => l.sites (.binary op left right location :: around)
      | none => []) ++
    (match right with
      | some r => r.sites (.binary op left right location :: around)
      | none => []) ++
    [⟨.binary op left right location, around⟩]
  | .probe id inner, around => ⟨.probe id inner, around⟩ :: inner.sites around
  | t, around => [⟨t, around⟩]
termination_by structural t => t

/-- The stack with the frames of these expressions, the innermost one first, above its own. -/
def FrameStack.within (s : FrameStack) (around : List Expr) : FrameStack :=
  { s with frames := around.map Expr.frame ++ s.frames }

/-- A probe sees its own name and the frames, innermost first. -/
def Event.observation? : Event → Option (String × List Frame)
  | .probed id frames => some (id, frames)
  | .read _ => none

/-- What probes saw so far, in order. -/
def Machine.observations (m : Machine) : List (String × List Frame) :=
  m.journal.toList.filterMap Event.observation?

def Event.range? : Event → Option ByteRange
  | .read range => some range
  | .probed .. => none

/-- The ranges that were asked for so far, in order. -/
def Machine.reads (m : Machine) : List ByteRange := m.journal.toList.filterMap Event.range?

end PatternExpr
