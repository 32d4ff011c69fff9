import PatternExpr.Proofs.Data.History
import PatternExpr.Proofs.Tree.Visits
import PatternExpr.Session.Basic

/-! The course of a session: which steps are performed and in which state, what they leave behind,
and which frame stacks pass meanwhile. -/
namespace PatternExpr

mutual

/-- The sections that a step inserts, in order. A scope that is refused its frame inserts none. -/
def Step.insertions (stack : FrameStack) : Step → List (SectionId × List UInt8)
  | .insertSection id bytes => [(id, bytes)]
  | .scope node steps =>
    match stack.push ⟨node.name, node.location⟩ with
    | .error _ => []
    | .ok inner => Step.allInsertions inner steps
  | _ => []
termination_by structural step => step

def Step.allInsertions (stack : FrameStack) : List Step → List (SectionId × List UInt8)
  | [] => []
  | step :: steps => step.insertions stack ++ Step.allInsertions stack steps
termination_by structural steps => steps

end

namespace Session

/-- The session with sections inserted into its source. -/
def extended (s : Session) (entries : List (SectionId × List UInt8)) : Session :=
  { s with source := s.source.map fun d =>
      entries.foldl (fun d entry => d.insertSection entry.1 entry.2) d }

def inMemory (limits : Limits) (stack : FrameStack) (store : Store) : Session :=
  ⟨some (.memory store), limits, stack⟩

@[simp] theorem stack_extended (s : Session) (entries : List (SectionId × List UInt8)) :
    (s.extended entries).stack = s.stack := rfl

@[simp] theorem extended_nil (s : Session) : s.extended [] = s := by
  simp [extended]

theorem extended_append (s : Session) (earlier later : List (SectionId × List UInt8)) :
    s.extended (earlier ++ later) = (s.extended earlier).extended later := by
  simp [extended, Function.comp_def]

theorem extended_inMemory (limits : Limits) (stack : FrameStack) (store : Store)
    (entries : List (SectionId × List UInt8)) :
    (inMemory limits stack store).extended entries =
      inMemory limits stack (store.insertAll entries) := by
  induction entries generalizing store with
  | nil => rfl
  | cons entry entries ih => exact ih (store.insert entry.1 entry.2)

theorem snd_outcome_run {α : Type} (s : Session) (answer : Except Stop α → Answer)
    {e : Evaluation α} (h : e.KeepsStack) : (outcome answer (s.run e)).2 = s.extended [] := by
  have hs := h ⟨s.stack, #[]⟩
  rw [extended_nil]
  simp only [outcome, run, hs]

mutual

/-- A step leaves nothing behind but sections. -/
theorem snd_perform (s : Session) : ∀ step : Step,
    (s.perform step).2 = s.extended (step.insertions s.stack)
  | .evaluate t => s.snd_outcome_run .reduct (t.keepsStack_evaluate s.context)
  | .value t => s.snd_outcome_run .value (t.keepsStack_evaluateToValue s.context)
  | .apply op l r => s.snd_outcome_run .value (keepsStack_applyOperator s.context op l r)
  | .read range => s.snd_outcome_run .bytes (Evaluation.keepsStack_read s.context range)
  | .insertSection id bytes => rfl
  | .inspect => s.extended_nil.symm
  | .scope node steps => by
    cases hp : s.stack.push ⟨node.name, node.location⟩ with
    | error f => simp only [perform, Step.insertions, hp, extended_nil]
    | ok stack =>
      have h := snd_performAll { s with stack } steps
      simp only [perform, Step.insertions, hp, h, stack_extended, FrameStack.pop_of_push hp]
      rfl
termination_by structural step => step

theorem snd_performAll (s : Session) : ∀ steps : List Step,
    (performAll s steps).2 = s.extended (Step.allInsertions s.stack steps)
  | [] => by
    rw [Step.allInsertions, extended_nil]
    rfl
  | step :: steps => by
    have h := snd_perform s step
    have hs := snd_performAll (s.perform step).2 steps
    have hk : (s.perform step).2.stack = s.stack := by rw [h, stack_extended]
    rw [hk] at hs
    rw [Step.allInsertions, extended_append, ← h]
    exact hs
termination_by structural steps => steps

end

section

variable {s : Session} {node : Expr}

theorem fst_perform_refused {f : Fault} (hp : s.stack.push node.frame = .error f)
    (steps : List Step) :
    (s.perform (.scope node steps)).1 = ⟨.refused f, s.stack.depth, #[]⟩ := by
  have hp : s.stack.push ⟨node.name, node.location⟩ = .error f := hp
  simp only [perform, hp]

theorem fst_perform_scope {stack : FrameStack} (hp : s.stack.push node.frame = .ok stack)
    (steps : List Step) :
    (s.perform (.scope node steps)).1 =
      ⟨.scope stack.trace (performAll { s with stack } steps).1, s.stack.depth, #[]⟩ := by
  have hk : (performAll { s with stack } steps).2.stack = stack := by
    rw [snd_performAll, stack_extended]
  have hpop := FrameStack.pop_of_push hp
  have hp : s.stack.push ⟨node.name, node.location⟩ = .ok stack := hp
  simp only [perform, hp, hk, hpop]

end

end Session
end PatternExpr
