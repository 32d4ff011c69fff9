import Mathlib.Tactic.ByContra
import PatternExpr.Proofs.Tree.Outcome
import PatternExpr.Tree.Shape
import PatternExpr.Tree.Site

/-! The sites that an evaluation comes to. An expression is entered once it has its frame and both its
operands; inside entered expressions the evaluation goes from site to site, in their order, and ends
at the first that fails. -/
namespace PatternExpr

/-- None of the expressions, innermost first, has an empty slot or is refused its frame when the
evaluation starts on the stack. -/
def allEntered (start : FrameStack) : List Expr → Bool
  | [] => true
  | e :: outer =>
    e.isComplete && ((start.within outer).push e.frame).isOk && allEntered start outer

namespace Site

variable (ctx : Context) (start : FrameStack)

/-- The node, evaluated where it stands, fails. A probe only observes: what it wraps is a site
too. -/
def fails (s : Site) : Bool :=
  !s.node.isProbe && !(s.node.outcome ctx (start.within s.around)).isOk

end Site

/-- The sites that the evaluation comes to: those that only entered expressions enclose, up to the
first of them that fails. -/
def reached (ctx : Context) (start : FrameStack) : List Site → List Site
  | [] => []
  | s :: later =>
    if allEntered start s.around then
      if s.fails ctx start then [s] else s :: reached ctx start later
    else reached ctx start later

variable {ctx : Context} {start : FrameStack}

theorem entered_of_suffix {outer around : List Expr} (h : outer <:+ around)
    (he : allEntered start around = true) : allEntered start outer = true := by
  obtain ⟨inner, rfl⟩ := h
  induction inner with
  | nil => exact he
  | cons e inner ih =>
    have hi : allEntered start (inner ++ outer) = true := (Bool.and_eq_true_iff.1 he).2
    exact ih hi

theorem reached_append_of_all {as : List Site}
    (h : ∀ s ∈ as, allEntered start s.around = true → s.fails ctx start = false) (bs : List Site) :
    reached ctx start (as ++ bs) = reached ctx start as ++ reached ctx start bs := by
  induction as with
  | nil => rfl
  | cons s as ih =>
    obtain ⟨hs, has⟩ := List.forall_mem_cons.1 h
    have ih := ih has
    by_cases he : allEntered start s.around = true
    · simp [reached, he, hs he, ih]
    · simp [reached, he, ih]

theorem reached_append_of_exists {as : List Site}
    (h : ∃ s ∈ as, allEntered start s.around = true ∧ s.fails ctx start = true) (bs : List Site) :
    reached ctx start (as ++ bs) = reached ctx start as := by
  induction as with
  | nil => simp at h
  | cons s as ih =>
    by_cases hs : allEntered start s.around = true ∧ s.fails ctx start = true
    · simp [reached, hs]
    · have hlater : ∃ s ∈ as, allEntered start s.around = true ∧ s.fails ctx start = true := by
        obtain ⟨s', hm, hs'⟩ := h
        rcases List.mem_cons.1 hm with rfl | hm
        · exact absurd hs' hs
        · exact ⟨s', hm, hs'⟩
      have ih := ih hlater
      by_cases he : allEntered start s.around = true
      · have hf : s.fails ctx start = false := Bool.eq_false_iff.2 fun hf => hs ⟨he, hf⟩
        simp [reached, he, hf, ih]
      · simp [reached, he, ih]

theorem reached_append_of_barred {as : List Site}
    (h : ∀ s ∈ as, allEntered start s.around = false) (bs : List Site) :
    reached ctx start (as ++ bs) = reached ctx start bs := by
  induction as with
  | nil => rfl
  | cons s as ih =>
    obtain ⟨hs, has⟩ := List.forall_mem_cons.1 h
    simp [reached, hs, ih has]

theorem reached_sublist (sites : List Site) : (reached ctx start sites).Sublist sites := by
  induction sites with
  | nil => exact List.Sublist.slnil
  | cons s later ih =>
    unfold reached
    split
    · split
      · exact (List.nil_sublist later).cons_cons s
      · exact ih.cons_cons s
    · exact ih.cons s

theorem reached_singleton {s : Site} (h : allEntered start s.around = true) :
    reached ctx start [s] = [s] := by
  simp [reached, h]

namespace Expr

variable {t : Expr} {around : List Expr}

theorem sites_binary (op : Operator) (left right : Expr) (location : Location)
    (around : List Expr) :
    (binary op (some left) (some right) location).sites around =
      left.sites (.binary op (some left) (some right) location :: around) ++
        right.sites (.binary op (some left) (some right) location :: around) ++
        [⟨.binary op (some left) (some right) location, around⟩] := rfl

theorem mem_sites_binary {op : Operator} {left right : Option Expr} {location : Location}
    {s : Site} :
    s ∈ (binary op left right location).sites around ↔
      (∃ l ∈ left, s ∈ l.sites (.binary op left right location :: around)) ∨
      (∃ r ∈ right, s ∈ r.sites (.binary op left right location :: around)) ∨
      s = ⟨.binary op left right location, around⟩ := by
  cases left <;> cases right <;> simp [sites]

theorem suffix_of_mem_sites {s : Site} (hs : s ∈ t.sites around) : around <:+ s.around := by
  induction t using slotInduct generalizing around with
  | literal | void | irreducible | failing =>
    cases List.mem_singleton.1 hs
    exact List.suffix_rfl
  | probe id inner ih =>
    rcases List.mem_cons.1 hs with rfl | hs
    · exact List.suffix_rfl
    · exact ih hs
  | binary op left right location hl hr =>
    have hcons := List.suffix_cons (binary op left right location) around
    rcases mem_sites_binary.1 hs with ⟨l, hm, hs⟩ | ⟨r, hm, hs⟩ | rfl
    · exact hcons.trans (hl l hm hs)
    · exact hcons.trans (hr r hm hs)
    · exact List.suffix_rfl

theorem sites_barred (t : Expr) (h : allEntered start around = false) :
    ∀ s ∈ t.sites around, allEntered start s.around = false := by
  intro s hs
  refine Bool.eq_false_iff.2 fun he => ?_
  have hin := entered_of_suffix (suffix_of_mem_sites hs) he
  simp [h] at hin

theorem entered_binary (op : Operator) (left right : Expr) {location : Location}
    {inner : FrameStack} (he : allEntered start around = true)
    (hp : (start.within around).push ⟨binaryName, location⟩ = .ok inner) :
    allEntered start (.binary op (some left) (some right) location :: around) = true ∧
      inner = start.within (.binary op (some left) (some right) location :: around) := by
  refine ⟨?_, FrameStack.eq_of_push hp⟩
  have hf : (binary op (some left) (some right) location).frame = ⟨binaryName, location⟩ := rfl
  simp [allEntered, hf, hp, he, isComplete, Except.isOk, Except.toBool]

theorem not_entered_of_refused {op : Operator} {left right : Option Expr} {location : Location}
    {f : Fault} (hp : (start.within around).push ⟨binaryName, location⟩ = .error f) :
    allEntered start (.binary op left right location :: around) = false := by
  have hf : (binary op left right location).frame = ⟨binaryName, location⟩ := rfl
  simp [allEntered, hf, hp, Except.isOk, Except.toBool]

theorem not_entered_of_incomplete {op : Operator} {left right : Option Expr} {location : Location}
    (hn : left = none ∨ right = none) :
    allEntered start (.binary op left right location :: around) = false := by
  have hc : (binary op left right location).isComplete = false := by
    rcases hn with rfl | rfl <;> simp [isComplete]
  simp [allEntered, hc]

theorem fails_eq_false_iff (h : t.isProbe = false) :
    (⟨t, around⟩ : Site).fails ctx start = false ↔
      (t.outcome ctx (start.within around)).isOk = true := by
  simp [Site.fails, h]

theorem isOk_operands {op : Operator} {left right : Option Expr} {location : Location}
    {stack : FrameStack} (h : ((binary op left right location).outcome ctx stack).isOk = true) :
    ∃ l r inner, left = some l ∧ right = some r ∧ stack.push ⟨binaryName, location⟩ = .ok inner ∧
      (l.outcome ctx inner).isOk = true ∧ (r.outcome ctx inner).isOk = true := by
  cases hx : (binary op left right location).outcome ctx stack with
  | error f => simp [hx, Except.isOk, Except.toBool] at h
  | ok x =>
    obtain ⟨after, he⟩ := evaluates_of_outcome (m := ⟨stack, #[]⟩) hx
    cases he with
    | @value _ l r _ _ mid _ _ inner _ _ _ hp hl hr _ =>
      have hs : mid.stack = inner := stack_of_evaluates hl
      have hl : l.outcome ctx inner = _ := outcome_of_evaluates hl
      have hr : r.outcome ctx mid.stack = _ := outcome_of_evaluates hr
      rw [hs] at hr
      exact ⟨l, r, inner, rfl, rfl, hp, by rw [hl]; rfl, by rw [hr]; rfl⟩

/-- A tree yields something just if none of its sites fails that only entered expressions
enclose. -/
theorem isOk_outcome_iff (he : allEntered start around = true) :
    (t.outcome ctx (start.within around)).isOk = true ↔
      ∀ s ∈ t.sites around, allEntered start s.around = true → s.fails ctx start = false := by
  induction t using slotInduct generalizing around with
  | literal | void | irreducible | failing =>
    rw [← fails_eq_false_iff rfl]
    simp [sites, he]
  | probe id inner ih =>
    rw [outcome_probe, ih he]
    simp [sites, Site.fails, isProbe]
  | binary op left right location hl hr =>
    constructor
    · intro hok s hs hse
      obtain ⟨l, r, inner, rfl, rfl, hp, hlok, hrok⟩ := isOk_operands hok
      obtain ⟨hin, rfl⟩ := entered_binary op l r he hp
      rcases mem_sites_binary.1 hs with ⟨_, hm, hs⟩ | ⟨_, hm, hs⟩ | rfl
      · obtain rfl := Option.mem_some_iff.1 hm
        exact (hl l rfl hin).1 hlok s hs hse
      · obtain rfl := Option.mem_some_iff.1 hm
        exact (hr r rfl hin).1 hrok s hs hse
      · exact (fails_eq_false_iff rfl).2 hok
    · intro h
      have hroot := h _ (mem_sites_binary.2 (.inr (.inr rfl))) he
      exact (fails_eq_false_iff rfl).1 hroot

theorem reached_binary_of_barred {op : Operator} {left right : Option Expr} {location : Location}
    (he : allEntered start around = true)
    (h : allEntered start (.binary op left right location :: around) = false) :
    reached ctx start ((binary op left right location).sites around) =
      [⟨.binary op left right location, around⟩] := by
  have hs : reached ctx start [⟨.binary op left right location, around⟩] =
      [⟨.binary op left right location, around⟩] := reached_singleton he
  have hb := fun t => sites_barred t h
  cases left with
  | none =>
    cases right with
    | none => exact hs
    | some r => exact (reached_append_of_barred (hb r) _).trans hs
  | some l =>
    cases right with
    | none =>
      rw [sites, List.append_nil]
      exact (reached_append_of_barred (hb l) _).trans hs
    | some r =>
      rw [sites_binary, List.append_assoc, reached_append_of_barred (hb l),
        reached_append_of_barred (hb r), hs]

theorem reached_sites_of_ok {r : Reduct} (he : allEntered start around = true)
    (hr : t.outcome ctx (start.within around) = .ok r) (bs : List Site) :
    reached ctx start (t.sites around ++ bs) =
      reached ctx start (t.sites around) ++ reached ctx start bs := by
  have hok : (t.outcome ctx (start.within around)).isOk = true := by rw [hr]; rfl
  exact reached_append_of_all ((isOk_outcome_iff he).1 hok) bs

theorem reached_sites_of_error {s : Stop} (he : allEntered start around = true)
    (hf : t.outcome ctx (start.within around) = .error s) (bs : List Site) :
    reached ctx start (t.sites around ++ bs) = reached ctx start (t.sites around) := by
  refine reached_append_of_exists ?_ bs
  by_contra hn
  have hall : ∀ s ∈ t.sites around, allEntered start s.around = true → s.fails ctx start = false :=
    fun s hs hse => Bool.eq_false_iff.2 fun hsf => hn ⟨s, hs, hse, hsf⟩
  have hok := (isOk_outcome_iff he).2 hall
  rw [hf] at hok
  cases hok

/-- Once both operands of an expression yield something, its own site is reached after theirs. -/
theorem reached_binary_of_ok {op : Operator} {left right : Expr} {location : Location}
    {l r : Reduct} {inner : List Expr}
    (hi : inner = .binary op (some left) (some right) location :: around)
    (he : allEntered start inner = true) (hl : left.outcome ctx (start.within inner) = .ok l)
    (hr : right.outcome ctx (start.within inner) = .ok r) :
    reached ctx start ((binary op (some left) (some right) location).sites around) =
      reached ctx start (left.sites inner) ++ reached ctx start (right.sites inner) ++
        [⟨.binary op (some left) (some right) location, around⟩] := by
  subst hi
  have ha : allEntered start around = true := entered_of_suffix (List.suffix_cons _ _) he
  rw [sites_binary, List.append_assoc, reached_sites_of_ok he hl, reached_sites_of_ok he hr,
    reached_singleton ha, List.append_assoc]

theorem reached_probe (id : String) (inner : Expr) (he : allEntered start around = true) :
    reached ctx start ((probe id inner).sites around) =
      ⟨.probe id inner, around⟩ :: reached ctx start (inner.sites around) := by
  simp [sites, reached, he, Site.fails, isProbe]

end Expr
end PatternExpr
