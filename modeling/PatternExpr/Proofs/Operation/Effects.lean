import PatternExpr.Tree.Evaluation

/-! What operators do to the machine they run on. They look at nothing in it, neither at the frames
nor at what was recorded, and all they record is what they read. -/
namespace PatternExpr

namespace Placed

/-- There can be a buffer for the bytes of the pattern. -/
def Fits (p : Pattern) : Prop := p.range.size < memoryBound

/-- The size is a machine word, but no buffer is that large. -/
def Overflows (p : Pattern) : Prop := memoryBound ≤ p.range.size ∧ p.range.size < addressBound

instance (p : Pattern) : Decidable p.Fits := inferInstanceAs (Decidable (_ < _))

instance (p : Pattern) : Decidable p.Overflows := inferInstanceAs (Decidable (_ ∧ _))

variable {p : Pattern}

theorem Fits.not_addressBound_le (h : p.Fits) : ¬ addressBound ≤ p.range.size := by
  have hlt : memoryBound < addressBound := by decide
  exact Nat.not_le.2 (Nat.lt_trans h hlt)

theorem Fits.not_overflows (h : p.Fits) : ¬ p.Overflows := fun ho => Nat.not_le.2 h ho.1

end Placed

namespace Evaluation

theorem readPattern_of_fits {p : Pattern} (h : p.Fits) (ctx : Context) :
    readPattern ctx p = read ctx p.range := by
  rw [readPattern, if_neg h.not_addressBound_le, if_neg (Nat.not_le.2 h)]

theorem readPattern_of_not_fits {p : Pattern} (h : ¬ p.Fits) :
    ∃ s, ∀ ctx, readPattern ctx p = ⟨fun m => (.error s, m)⟩ := by
  by_cases hword : addressBound ≤ p.range.size
  · exact ⟨_, fun ctx => if_pos hword⟩
  · refine ⟨.capacityOverflow, fun ctx => ?_⟩
    rw [readPattern, if_neg hword, if_pos (Nat.not_lt.1 h)]
    rfl

variable {α β : Type}

/-- The property holds of everything that is composed of results, overflows and recorded reads. -/
structure Compositional (P : (α : Type) → Evaluation α → Prop) : Prop where
  ofExcept : ∀ {α : Type} (x : Except Fault α), P α (ofExcept x)
  overflow : ∀ α, P α overflow
  record : ∀ range, P Unit (record (.read range))
  bind : ∀ {α β : Type} {e : Evaluation α} {next : α → Evaluation β},
    P α e → (∀ a, P β (next a)) → P β (e >>= next)

/-- The computation does the same under every frame stack. -/
def IgnoresStack (e : Evaluation α) : Prop :=
  ∀ m stack, e.run { m with stack } = ((e.run m).1, { (e.run m).2 with stack })

theorem IgnoresStack.bind {e : Evaluation α} {next : α → Evaluation β} (he : IgnoresStack e)
    (hnext : ∀ a, IgnoresStack (next a)) : IgnoresStack (e >>= next) := by
  intro m stack
  rw [run_bind, run_bind, he m stack]
  rcases e.run m with ⟨s | a, after⟩
  · rfl
  · exact hnext a after stack

theorem compositional_ignoresStack : Compositional fun _ => IgnoresStack where
  ofExcept _ _ _ := rfl
  overflow _ _ _ := rfl
  record _ _ _ := rfl
  bind := .bind

theorem IgnoresStack.run_eq {e : Evaluation α} (h : IgnoresStack e) {m after : Machine}
    {x : Except Stop α} (hr : e.run m = (x, after)) (stack : FrameStack) :
    e.run { m with stack } = (x, { after with stack }) := by
  rw [h m stack, hr]

theorem IgnoresStack.stack_eq {e : Evaluation α} (h : IgnoresStack e) {m after : Machine}
    {x : Except Stop α} (hr : e.run m = (x, after)) : after.stack = m.stack := by
  have hm : e.run m = (x, { after with stack := m.stack }) := h.run_eq hr m.stack
  have hs := hr.symm.trans hm
  rw [(Prod.mk.inj hs).2]

/-- The computation yields the same on every machine. -/
def IgnoresMachine (e : Evaluation α) : Prop := ∀ m m', (e.run m').1 = (e.run m).1

theorem IgnoresMachine.bind {e : Evaluation α} {next : α → Evaluation β} (he : IgnoresMachine e)
    (hnext : ∀ a, IgnoresMachine (next a)) : IgnoresMachine (e >>= next) := by
  intro m m'
  have h := he m m'
  rw [run_bind, run_bind]
  rcases hm : e.run m with ⟨s | a, after⟩ <;> rcases hm' : e.run m' with ⟨s' | b, after'⟩
  · simpa [hm, hm'] using h
  · simp [hm, hm'] at h
  · simp [hm, hm'] at h
  · obtain rfl : b = a := by simpa [hm, hm'] using h
    exact hnext b after after'

theorem compositional_ignoresMachine : Compositional fun _ => IgnoresMachine where
  ofExcept _ _ _ := rfl
  overflow _ _ _ := rfl
  record _ _ _ := rfl
  bind := .bind

variable {P : (α : Type) → Evaluation α → Prop}

theorem Compositional.read (h : Compositional P) (ctx : Context) (range : ByteRange) :
    P _ (read ctx range) := by
  unfold Evaluation.read
  cases ctx.reader with
  | none => exact h.ofExcept (.error _)
  | some reader => exact h.bind (h.record range) fun _ => h.ofExcept _

theorem Compositional.readPattern (h : Compositional P) (ctx : Context) (p : Pattern) :
    P _ (readPattern ctx p) := by
  unfold Evaluation.readPattern
  split
  · exact h.ofExcept (.error _)
  · split
    · exact h.overflow _
    · exact h.read ctx p.range

theorem Compositional.applyOperator (h : Compositional P) (ctx : Context) (op : Operator)
    (l r : Value) : P _ (applyOperator ctx op l r) := by
  unfold PatternExpr.applyOperator
  split
  · refine h.bind (h.readPattern ctx _) fun a => h.bind (h.readPattern ctx _) fun b => ?_
    split
    · exact h.ofExcept (.ok _)
    · exact h.ofExcept (.ok _)
    · exact h.ofExcept (.error _)
  · exact h.ofExcept _

end Evaluation
end PatternExpr
