import PatternExpr.Proofs.Session.Course

/-! Sessions leave no residue. Whatever steps came before, a step answers as in a fresh session that
has the frames of the open scopes and the last bytes of each section. -/
namespace PatternExpr.Session

theorem context_inMemory (limits : Limits) (stack : FrameStack) (store : Store) :
    (inMemory limits stack store).context = ⟨some store.read, limits⟩ := rfl

theorem fst_outcome_run_congr {α : Type} {store store' : Store}
    (h : ∀ id, store.get? id = store'.get? id) (limits : Limits) (stack : FrameStack)
    (answer : Except Stop α → Answer) (e : Context → Evaluation α) :
    let s := inMemory limits stack store
    let s' := inMemory limits stack store'
    (outcome answer (s.run (e s.context))).1 = (outcome answer (s'.run (e s'.context))).1 := by
  have hr := Store.read_eq_of_get?_eq h
  simp only [context_inMemory, hr]
  rfl

mutual

/-- Stores that hold the same bytes cannot be told apart by a step. -/
theorem fst_perform_congr {store store' : Store} (h : ∀ id, store.get? id = store'.get? id)
    (limits : Limits) (stack : FrameStack) : ∀ step : Step,
    ((inMemory limits stack store).perform step).1 = ((inMemory limits stack store').perform step).1
  | .evaluate t => fst_outcome_run_congr h limits stack .reduct fun ctx => t.evaluate ctx
  | .value t => fst_outcome_run_congr h limits stack .value fun ctx => t.evaluateToValue ctx
  | .apply op l r =>
    fst_outcome_run_congr h limits stack .value fun ctx => applyOperator ctx op l r
  | .read range => fst_outcome_run_congr h limits stack .bytes fun ctx => Evaluation.read ctx range
  | .insertSection id bytes => rfl
  | .inspect => rfl
  | .scope node steps => by
    cases hp : stack.push node.frame with
    | error f =>
      have hl := fst_perform_refused (s := inMemory limits stack store) hp steps
      have hr := fst_perform_refused (s := inMemory limits stack store') hp steps
      exact hl.trans hr.symm
    | ok inner =>
      have hl := fst_perform_scope (s := inMemory limits stack store) hp steps
      have hr := fst_perform_scope (s := inMemory limits stack store') hp steps
      have hi := fst_performAll_congr h limits inner steps
      have hi : (performAll { inMemory limits stack store with stack := inner } steps).1 =
          (performAll { inMemory limits stack store' with stack := inner } steps).1 := hi
      rw [hl, hr, hi]
      rfl
termination_by structural step => step

theorem fst_performAll_congr {store store' : Store} (h : ∀ id, store.get? id = store'.get? id)
    (limits : Limits) (stack : FrameStack) : ∀ steps : List Step,
    (performAll (inMemory limits stack store) steps).1 =
      (performAll (inMemory limits stack store') steps).1
  | [] => rfl
  | step :: steps => by
    have hfirst := fst_perform_congr h limits stack step
    have hs := snd_perform (inMemory limits stack store) step
    have hs' := snd_perform (inMemory limits stack store') step
    rw [extended_inMemory] at hs hs'
    have hi := Store.get?_insertAll_congr h (step.insertions stack)
    have hlater := fst_performAll_congr hi limits stack steps
    simp only [performAll]
    rw [hfirst, hs, hs']
    exact congrArg _ hlater
termination_by structural steps => steps

end

end PatternExpr.Session
