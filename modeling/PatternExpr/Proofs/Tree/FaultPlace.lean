import PatternExpr.Proofs.Tree.Origin

/-! The place and the trace of a failed evaluation. -/
namespace PatternExpr.Expr

def columnOf (content : String) (column : Nat) : Location := ⟨some ⟨"e.pat", content⟩, 1, column, 1⟩

section

variable {ctx : Context} {t : Expr} {m after : Machine} {f : Fault}

/-- The place of a fault is that of the innermost expression around its origin that has one, the
origin included. Its trace lists the places further out, first those of expressions of the tree and
then those of frames that were there before. A bound on the depth makes no difference. -/
theorem place_of_fault (ht : ∀ a ∈ t.atoms, a.isPassive = true)
    (h : (t.evaluate ctx).run m = (.error f, after))
    (hf : ∀ limit, f.cause ≠ .recursionLimitExceeded limit) :
    (∃ raised origin around, t.Raises ctx m raised origin around) ∧
      ∀ raised origin around, t.Raises ctx m raised origin around →
        (origin :: around).getLast? = some t ∧ f.unplaced = raised.unplaced ∧
        (∀ inner e outer, origin :: around = inner ++ e :: outer →
          (∀ i ∈ inner, i.location.isSynthetic = true) → e.location.isSynthetic = false →
          f.location = some e.location ∧
            f.trace = Location.shown (outer.map location) ++ Location.shown m.stack.trace) ∧
        ((∀ e ∈ origin :: around, e.location.isSynthetic = true) →
          f.location = none ∧ f.trace = []) := by
  refine ⟨exists_raises ht (evaluates_iff.2 h), fun raised origin around hr => ?_⟩
  have he := eq_unwind_of_raises h hr
  have hu : f.unplaced = raised.unplaced := by rw [he, Fault.unplaced_unwind]
  have hl : raised.IsLocal := by
    rcases raised_cases hr with hl | ⟨limit, rfl⟩
    · exact hl
    · exact absurd (Fault.cause_eq_of_unplaced_eq hu) (hf limit)
  refine ⟨getLast?_of_raises hr, hu, fun inner e outer hc hi ho => ?_, fun hs => ?_⟩
  · rw [hc, List.map_append, List.map_cons, Fault.unwind_append_cons hl.location
      (List.forall_mem_map.2 hi) ho, Fault.locate_of_not_isSynthetic hl.location ho, hl.trace] at he
    rw [he]
    exact ⟨rfl, Location.shown_append _ _⟩
  · rw [Fault.unwind_of_isSynthetic _ (List.forall_mem_map.2 hs)] at he
    rw [he]
    exact ⟨hl.location, hl.trace⟩

/-- A division without a place, in a sum with one, in a product without. -/
def dividing : Expr :=
  .binary .mul
    (some (.binary .add (some (.binary .div (some (number 1)) (some (number 0)) .synthetic))
      (some (number 2)) (columnOf "x = ((1 / 0) + 2) * 3" 15)))
    (some (number 3)) .synthetic

/-- One frame is open, and there may be so many in all. -/
def inAssignment (maxDepth : Nat) : Machine :=
  ⟨⟨[⟨"assignment", columnOf "x = ((1 / 0) + 2) * 3" 3⟩], some maxDepth⟩, #[]⟩

theorem place_of_fault_dividing :
    ∃ (f : Fault) (after : Machine),
      (dividing.evaluate ⟨none, .default⟩).run (inAssignment 4) = (.error f, after) ∧
      (∀ limit, f.cause ≠ .recursionLimitExceeded limit) ∧
      f.location = some (columnOf "x = ((1 / 0) + 2) * 3" 15) ∧
      f.trace = [columnOf "x = ((1 / 0) + 2) * 3" 3] := by
  have hr : dividing.Raises ⟨none, .default⟩ (inAssignment 4) .divisionByZero _ _ :=
    .left rfl (.left rfl (.failed rfl (.literal _ _) (.literal _ _) rfl))
  have hc : ∀ limit, Cause.divisionByZero ≠ .recursionLimitExceeded limit := nofun
  refine ⟨_, _, rfl, hc, ?_⟩
  obtain ⟨-, hlaw⟩ := place_of_fault (t := dividing) (m := inAssignment 4) (by decide) rfl hc
  obtain ⟨-, -, hplace, -⟩ := hlaw _ _ _ hr
  exact hplace [_] _ [_] rfl (by decide) rfl

/-- A refused frame fails with the place of the innermost expression around it that has one. Its
trace lists the places around the refused expression, and not around that place: unless the refused
expression itself has a place, the place of the fault is the first entry of the trace too. -/
theorem place_of_refused_frame {limit : Nat} (ht : ∀ a ∈ t.atoms, a.isPassive = true)
    (h : (t.evaluate ctx).run m = (.error f, after))
    (hf : f.cause = .recursionLimitExceeded limit) :
    (∃ raised origin around, t.Raises ctx m raised origin around) ∧
      ∀ raised origin around, t.Raises ctx m raised origin around →
        (origin :: around).getLast? = some t ∧ f.unplaced = raised.unplaced ∧
        (∀ inner e outer, origin :: around = inner ++ e :: outer →
          (∀ i ∈ inner, i.location.isSynthetic = true) → e.location.isSynthetic = false →
          f.location = some e.location ∧
            f.trace = (if inner = [] then [] else [e.location]) ++
              (Location.shown (outer.map location) ++ Location.shown m.stack.trace) ∧
            (f.trace = Location.shown (outer.map location) ++ Location.shown m.stack.trace ↔
              inner = [])) ∧
        ((∀ e ∈ origin :: around, e.location.isSynthetic = true) →
          f.location = none ∧ f.trace = Location.shown m.stack.trace) := by
  refine ⟨exists_raises ht (evaluates_iff.2 h), fun raised origin around hr => ?_⟩
  have he := eq_unwind_of_raises h hr
  have hu : f.unplaced = raised.unplaced := by rw [he, Fault.unplaced_unwind]
  have hl : raised.location = none ∧
      raised.trace = Location.shown (around.map location ++ m.stack.trace) := by
    rcases raised_cases hr with hl | ⟨limit, rfl⟩
    · exact absurd ((Fault.cause_eq_of_unplaced_eq hu).symm.trans hf) (hl.cause limit)
    · exact ⟨rfl, rfl⟩
  obtain ⟨hn, htr⟩ := hl
  refine ⟨getLast?_of_raises hr, hu, fun inner e outer hc hi ho => ?_, fun hs => ?_⟩
  · have hc' : origin.location :: around.map location =
        inner.map location ++ e.location :: outer.map location := by
      rw [← List.map_cons, hc, List.map_append, List.map_cons]
    rw [List.map_cons, Fault.unwind_of_shown hn htr hc' (List.forall_mem_map.2 hi) ho] at he
    rw [he]
    simp only [List.map_eq_nil_iff, true_and]
    by_cases hin : inner = [] <;> simp [hin]
  · rw [Fault.unwind_of_isSynthetic _ (List.forall_mem_map.2 hs)] at he
    rw [List.forall_mem_cons] at hs
    rw [he, htr, Location.shown_append, Location.shown_of_isSynthetic (List.forall_mem_map.2 hs.2)]
    exact ⟨hn, rfl⟩

theorem place_of_refused_frame_dividing :
    ∃ (f : Fault) (after : Machine),
      (dividing.evaluate ⟨none, .default⟩).run (inAssignment 3) = (.error f, after) ∧
      f.cause = .recursionLimitExceeded 3 ∧
      f.location = some (columnOf "x = ((1 / 0) + 2) * 3" 15) ∧
      f.trace = [columnOf "x = ((1 / 0) + 2) * 3" 15, columnOf "x = ((1 / 0) + 2) * 3" 3] := by
  have hr : dividing.Raises ⟨none, .default⟩ (inAssignment 3) _ _ _ :=
    .left rfl (.left rfl (.refused rfl))
  refine ⟨_, _, rfl, rfl, ?_⟩
  obtain ⟨-, hlaw⟩ := place_of_refused_frame (t := dividing) (m := inAssignment 3) (by decide) rfl rfl
  obtain ⟨-, -, hplace, -⟩ := hlaw _ _ _ hr
  obtain ⟨hl, ht, -⟩ := hplace [_] _ [_] rfl (by decide) rfl
  exact ⟨hl, ht⟩

def innerSum : Expr := .binary .add (some (number 1)) (some (number 2)) .synthetic

def outerSum : Expr :=
  .binary .add (some innerSum) (some (number 3)) (columnOf "(1 + 2) + 3" 9)

/-- Only one frame fits. No place encloses the outer sum, at which the fault points, and yet the
trace is not empty. -/
theorem refused_frame_place_in_trace :
    ∃ f raised : Fault, ((outerSum.evaluate ⟨none, .default⟩).run ⟨.empty (some 1), #[]⟩).1 = .error f ∧
      f.cause = .recursionLimitExceeded 1 ∧
      outerSum.Raises ⟨none, .default⟩ ⟨.empty (some 1), #[]⟩ raised innerSum [outerSum] ∧
      f.location = some outerSum.location ∧ f.trace = [outerSum.location] :=
  ⟨_, _, rfl, rfl, .left rfl (.refused rfl), rfl, rfl⟩

end

end PatternExpr.Expr
