import Mathlib.Data.List.Basic
import PatternExpr.Proofs.Tree.Journal

/-! What probes observe. While a node is evaluated, the frame stack mirrors the path from the root
to it; which probes are reached at all is read off the sites of the tree. -/
namespace PatternExpr

/-- What is observed at the sites: by the probes that only entered expressions enclose and that lie
before the first failure. -/
def observed (ctx : Context) (start : FrameStack) (sites : List Site) :
    List (String × List Frame) :=
  let reached := (sites.filter fun s => allEntered start s.around).takeWhile fun s =>
    !s.fails ctx start
  reached.filterMap (Site.observation? start)

variable {ctx : Context} {start : FrameStack}

theorem observation?_of_fails {s : Site} (h : s.fails ctx start = true) :
    s.observation? start = none := by
  obtain ⟨node, around⟩ := s
  cases node with
  | probe => cases h
  | _ => rfl

/-- The site that fails is no probe, so it does not matter that it is reached too. -/
theorem observed_eq_filterMap_reached (sites : List Site) :
    observed ctx start sites = (reached ctx start sites).filterMap (Site.observation? start) := by
  induction sites with
  | nil => rfl
  | cons s later ih =>
    unfold observed at ih
    by_cases he : allEntered start s.around = true
    · cases hf : s.fails ctx start with
      | true => simp [observed, reached, he, hf, observation?_of_fails hf]
      | false => simpa [observed, reached, he, hf, List.filterMap_cons] using by rw [ih]
    · simpa [observed, reached, he] using ih

theorem observed_sublist (ctx : Context) (start : FrameStack) (sites : List Site) :
    (observed ctx start sites).Sublist (sites.filterMap (Site.observation? start)) := by
  have hs := List.takeWhile_sublist (l := sites.filter fun s => allEntered start s.around)
    fun s => !s.fails ctx start
  exact (hs.trans List.filter_sublist).filterMap _

theorem Site.observations_events (s : Site) :
    (s.events ctx start).filterMap Event.observation? = (s.observation? start).toList := by
  have hr : ((s.reads ctx start).map Event.read).filterMap Event.observation? = [] := by
    simp [List.filterMap_map, Function.comp_def, Event.observation?]
  rw [Site.events, List.filterMap_append, hr, List.append_nil]
  cases s.observation? start <;> rfl

namespace Expr

variable {t : Expr} {around : List Expr}

theorem atoms_of_sites (t : Expr) (around : List Expr) :
    ((t.sites around).map Site.node).filter (fun e => !e.isBinary) = t.atoms := by
  induction t using slotInduct generalizing around with
  | literal | void | irreducible | failing => rfl
  | probe id inner ih => simp [sites, atoms, ih]
  | binary op left right location hl hr =>
    cases left <;> cases right <;> simp_all [sites, atoms]

theorem observations_recorded (sites : List Site) :
    (recorded ctx start sites).filterMap Event.observation? = observed ctx start sites := by
  rw [observed_eq_filterMap_reached, recorded, List.filterMap_flatMap]
  simp only [Site.observations_events]
  exact (List.filterMap_eq_flatMap_toList _ _).symm

theorem observations_of_evaluates {m after : Machine} {x : Except Stop Reduct}
    (h : t.Evaluates ctx m x after) (hm : m.stack = start.within around)
    (he : allEntered start around = true) :
    after.observations = m.observations ++ observed ctx start (t.sites around) := by
  have hj := journal_of_evaluates h hm he
  rw [Machine.observations, hj, List.filterMap_append, observations_recorded]
  rfl

/-- The frame stack mirrors the path. What an evaluation observes is what is observed at its sites,
whose atoms are those of the tree: each probe is passed at most once, in their order, and those that
are passed are the ones that only entered expressions enclose and that lie before the first failure.
If there is no such failure the evaluation does not fail either. -/
theorem observations_evaluate (ctx : Context) (t : Expr) (m : Machine) :
    ((t.evaluate ctx).run m).2.observations =
        m.observations ++ observed ctx m.stack (t.sites []) ∧
      (observed ctx m.stack (t.sites [])).Sublist
        ((t.sites []).filterMap (Site.observation? m.stack)) ∧
      ((t.sites []).map Site.node).filter (fun e => !e.isBinary) = t.atoms ∧
      (((t.evaluate ctx).run m).1.isOk = true ↔
        ∀ s ∈ t.sites [], allEntered m.stack s.around = true → s.fails ctx m.stack = false) := by
  have hroot : m.stack = m.stack.within [] := rfl
  have hobs := observations_of_evaluates (evaluates_evaluate ctx t m) hroot rfl
  have hok : (t.outcome ctx (m.stack.within [])).isOk = true ↔ _ := isOk_outcome_iff rfl
  rw [← hroot, ← run_evaluate_fst] at hok
  exact ⟨hobs, observed_sublist ctx m.stack _, atoms_of_sites t [], hok⟩

/-- `1 / 0 + 2`, where the dividend and the right summand are observed. -/
def observedQuotient : Expr :=
  .binary .add
    (some (.binary .div (some (.probe "dividend" (number 1))) (some (number 0)) ⟨none, 1, 3, 1⟩))
    (some (.probe "summand" (number 2))) ⟨none, 1, 7, 1⟩

/-- The quotient fails, so the right summand is not reached. -/
example : observed ⟨none, .default⟩ (.empty none) (observedQuotient.sites []) =
    [("dividend", [⟨binaryName, ⟨none, 1, 3, 1⟩⟩, ⟨binaryName, ⟨none, 1, 7, 1⟩⟩])] := by
  decide

end Expr
end PatternExpr
