import PatternExpr.Proofs.Operation.Faults
import PatternExpr.Proofs.Tree.Rules
import PatternExpr.Tree.Shape

/-! Where faults come from and which places they name. A fault is raised by one binary expression;
on its way out it passes the expressions around that one, and the first of them that has a place in
the source notes it. -/
namespace PatternExpr

namespace Fault

theorem locate_of_isSome {f : Fault} (h : f.location.isSome) (own : Location)
    (enclosing : List Location) : f.locate own enclosing = f := by
  simp [locate, h]

theorem locate_of_isSynthetic {own : Location} (h : own.isSynthetic = true)
    (enclosing : List Location) (f : Fault) : f.locate own enclosing = f := by
  simp [locate, h]

theorem locate_of_not_isSynthetic {f : Fault} {own : Location} (hf : f.location = none)
    (ho : own.isSynthetic = false) (enclosing : List Location) :
    f.locate own enclosing =
      { f with
        location := some own
        trace := if f.trace.isEmpty then Location.shown enclosing else f.trace } := by
  cases ht : f.trace.isEmpty with
  | false => simp [locate, hf, ho, ht, withLocation]
  | true =>
    have hn : f.trace = [] := by simpa using ht
    simp [locate, hf, ho, hn, withLocation, withTrace]

theorem locate_shown {f : Fault} {enclosing : List Location}
    (h : f.trace = Location.shown enclosing) (own : Location) :
    f.locate own [] = f.locate own enclosing := by
  unfold locate
  split
  · rfl
  · cases ht : f.trace.isEmpty with
    | false => simp [ht, withLocation]
    | true =>
      have hn : Location.shown enclosing = [] := by simpa [h] using ht
      have hn' : Location.shown [] = [] := rfl
      simp only [withLocation, ht, hn, hn']

/-- A fault passes the places of the expressions around it, the innermost one first. -/
def unwind (f : Fault) : List Location → List Location → Fault
  | [], _ => f
  | own :: around, outer => (f.locate own (around ++ outer)).unwind around outer

theorem unplaced_unwind (f : Fault) (around outer : List Location) :
    (f.unwind around outer).unplaced = f.unplaced := by
  induction around generalizing f with
  | nil => rfl
  | cons own around ih => rw [unwind, ih, unplaced_locate]

theorem unwind_concat (f : Fault) (around : List Location) (own : Location)
    (outer : List Location) :
    f.unwind (around ++ [own]) outer = (f.unwind around (own :: outer)).locate own outer := by
  induction around generalizing f with
  | nil => rfl
  | cons first around ih =>
    simp only [List.cons_append, unwind, ih, List.append_assoc, List.nil_append]

theorem unwind_of_isSome {f : Fault} (h : f.location.isSome) (around outer : List Location) :
    f.unwind around outer = f := by
  induction around with
  | nil => rfl
  | cons own around ih => rw [unwind, locate_of_isSome h, ih]

theorem unwind_of_isSynthetic (f : Fault) {around : List Location}
    (h : ∀ l ∈ around, l.isSynthetic = true) (outer : List Location) :
    f.unwind around outer = f := by
  induction around with
  | nil => rfl
  | cons own around ih =>
    rw [List.forall_mem_cons] at h
    rw [unwind, locate_of_isSynthetic h.1, ih h.2]

/-- The first place that is not synthetic is the one that is noted. -/
theorem unwind_append_cons {f : Fault} (hf : f.location = none) {inner : List Location}
    (hi : ∀ l ∈ inner, l.isSynthetic = true) {own : Location} (ho : own.isSynthetic = false)
    (around outer : List Location) :
    f.unwind (inner ++ own :: around) outer = f.locate own (around ++ outer) := by
  induction inner with
  | nil =>
    refine unwind_of_isSome ?_ around outer
    rw [locate_of_not_isSynthetic hf ho]
    rfl
  | cons first inner ih =>
    rw [List.forall_mem_cons] at hi
    rw [List.cons_append, unwind, locate_of_isSynthetic hi.1, ih hi.2]

/-- A trace that lists the places around the origin already is kept, so the noted place is in it
unless it is the one of the origin. -/
theorem unwind_of_shown {f : Fault} {own : Location} {around outer : List Location}
    (hf : f.location = none) (ht : f.trace = Location.shown (around ++ outer))
    {inner : List Location} {place : Location} {further : List Location}
    (hc : own :: around = inner ++ place :: further) (hi : ∀ l ∈ inner, l.isSynthetic = true)
    (hp : place.isSynthetic = false) :
    f.unwind (own :: around) outer =
      { f with
        location := some place
        trace := (if inner = [] then [] else [place]) ++
          (Location.shown further ++ Location.shown outer) } := by
  rw [hc, unwind_append_cons hf hi hp, locate_of_not_isSynthetic hf hp]
  congr 1
  cases inner with
  | nil =>
    obtain ⟨-, rfl⟩ := List.cons.inj hc
    rw [ht, ite_self, if_pos rfl, Location.shown_append, List.nil_append]
  | cons first inner =>
    have ha : around = inner ++ place :: further := (List.cons.inj hc).2
    rw [List.forall_mem_cons] at hi
    rw [ha, List.append_assoc, List.cons_append, Location.shown_append,
      Location.shown_of_isSynthetic hi.2, Location.shown_cons, hp] at ht
    simp [ht]

end Fault

theorem isLocal_of_applyReducts {ctx : Context} {op : Operator} {l r : Reduct} {m after : Machine}
    {f : Fault} (h : (applyReducts ctx op l r).run m = (.error f, after)) : f.IsLocal := by
  have hl : (applyReducts ctx op l r).FailsWith Fault.IsLocal :=
    (Evaluation.failsWith_ofExcept l.failsWith_operand).bind fun a =>
      (Evaluation.failsWith_ofExcept r.failsWith_operand).bind fun b =>
        isLocal_of_applyOperator ctx op a b
  exact hl m f (by rw [h])

namespace Expr

/-- Evaluating the tree on this machine fails, and the fault is raised by the expression `origin`,
which the expressions in the list enclose, the innermost one first. The fault is the one that is
raised, with no place noted in it on the way out. -/
inductive Raises (ctx : Context) : Expr → Machine → Fault → Expr → List Expr → Prop
  | refused {op : Operator} {left right : Option Expr} {location : Location} {m : Machine}
      {f : Fault} (hp : m.stack.push ⟨binaryName, location⟩ = .error f) :
      Raises ctx (.binary op left right location) m f (.binary op left right location) []
  | incomplete {op : Operator} {left right : Option Expr} {location : Location} {m : Machine}
      {stack : FrameStack} (hp : m.stack.push ⟨binaryName, location⟩ = .ok stack)
      (hn : left = none ∨ right = none) :
      Raises ctx (.binary op left right location) m .voidOperand (.binary op left right location) []
  | failed {op : Operator} {left right : Expr} {location : Location} {m mid after last : Machine}
      {stack : FrameStack} {l r : Reduct} {f : Fault}
      (hp : m.stack.push ⟨binaryName, location⟩ = .ok stack)
      (hl : left.Evaluates ctx { m with stack } (.ok l) mid)
      (hr : right.Evaluates ctx mid (.ok r) after)
      (hx : (applyReducts ctx op l r).run after = (.error f, last)) :
      Raises ctx (.binary op (some left) (some right) location) m f
        (.binary op (some left) (some right) location) []
  | left {op : Operator} {left right : Expr} {location : Location} {m : Machine}
      {stack : FrameStack} {f : Fault} {origin : Expr} {around : List Expr}
      (hp : m.stack.push ⟨binaryName, location⟩ = .ok stack)
      (hl : Raises ctx left { m with stack } f origin around) :
      Raises ctx (.binary op (some left) (some right) location) m f origin
        (around ++ [.binary op (some left) (some right) location])
  | right {op : Operator} {left right : Expr} {location : Location} {m mid : Machine}
      {stack : FrameStack} {l : Reduct} {f : Fault} {origin : Expr} {around : List Expr}
      (hp : m.stack.push ⟨binaryName, location⟩ = .ok stack)
      (hl : left.Evaluates ctx { m with stack } (.ok l) mid)
      (hr : Raises ctx right mid f origin around) :
      Raises ctx (.binary op (some left) (some right) location) m f origin
        (around ++ [.binary op (some left) (some right) location])

theorem exists_raises {ctx : Context} {t : Expr} {m after : Machine} {f : Fault}
    (ht : ∀ a ∈ t.atoms, a.isPassive = true) (h : t.Evaluates ctx m (.error f) after) :
    ∃ raised origin around, t.Raises ctx m raised origin around := by
  generalize hx : Except.error (Stop.fault f) = x at h
  induction h generalizing f with
  | literal | void | irreducible | value => cases hx
  | failing | probe => simp [atoms, isPassive] at ht
  | refused hp => exact ⟨_, _, _, .refused hp⟩
  | incomplete hp hn => exact ⟨_, _, _, .incomplete hp hn⟩
  | left hp hl ih =>
    rw [atoms_binary, List.forall_mem_append] at ht
    obtain ⟨inner, rfl, -⟩ := Stop.map_eq_fault_iff.1 (Except.error.inj hx).symm
    obtain ⟨raised, origin, around, h⟩ := ih ht.1 rfl
    exact ⟨raised, origin, _, .left hp h⟩
  | right hp hl hr _ ih =>
    rw [atoms_binary, List.forall_mem_append] at ht
    obtain ⟨inner, rfl, -⟩ := Stop.map_eq_fault_iff.1 (Except.error.inj hx).symm
    obtain ⟨raised, origin, around, h⟩ := ih ht.2 rfl
    exact ⟨raised, origin, _, .right hp hl h⟩
  | failed hp hl hr hx' =>
    obtain ⟨inner, rfl, -⟩ := Stop.map_eq_fault_iff.1 (Except.error.inj hx).symm
    exact ⟨_, _, _, .failed hp hl hr hx'⟩

theorem getLast?_of_raises {ctx : Context} {t : Expr} {m : Machine} {raised : Fault}
    {origin : Expr} {around : List Expr} (h : t.Raises ctx m raised origin around) :
    (origin :: around).getLast? = some t := by
  cases h with
  | refused | incomplete | failed => rfl
  | left | right => rw [← List.cons_append, List.getLast?_concat]

/-- The fault of an evaluation is the raised one after it has passed the enclosing expressions. -/
theorem run_of_raises {ctx : Context} {t : Expr} {m : Machine} {raised : Fault} {origin : Expr}
    {around : List Expr} (h : t.Raises ctx m raised origin around) :
    ∃ after, t.Evaluates ctx m
      (.error (raised.unwind ((origin :: around).map location) m.stack.trace : Fault)) after := by
  induction h with
  | @refused op left right location m f hp =>
    obtain ⟨limit, -, rfl⟩ := FrameStack.eq_of_push_error hp
    have h : Evaluates ctx (.binary op left right location) m _ m := .refused hp
    rw [Fault.locate_shown rfl] at h
    exact ⟨m, h⟩
  | incomplete hp hn => exact ⟨_, .incomplete hp hn⟩
  | failed hp hl hr hx => exact ⟨_, .failed hp hl hr hx⟩
  -- While an operand runs, the place of the expression is the first of the trace below it; on the
  -- way out it becomes the last of the places that are passed.
  | left hp _ ih =>
    obtain ⟨after, h⟩ := ih
    rw [FrameStack.trace_of_push hp] at h
    rw [← List.cons_append, List.map_append, List.map_singleton, Fault.unwind_concat]
    exact ⟨_, .left hp h⟩
  | right hp hl _ ih =>
    obtain ⟨after, h⟩ := ih
    rw [stack_of_evaluates hl, FrameStack.trace_of_push hp] at h
    rw [← List.cons_append, List.map_append, List.map_singleton, Fault.unwind_concat]
    exact ⟨_, .right hp hl h⟩

/-- The fault of a refused frame lists the places around it already; any other one is raised without
a place. -/
theorem raised_cases {ctx : Context} {t : Expr} {m : Machine} {raised : Fault} {origin : Expr}
    {around : List Expr} (h : t.Raises ctx m raised origin around) :
    raised.IsLocal ∨ ∃ limit, raised = (Fault.recursionLimitExceeded limit).withTrace
      (Location.shown (around.map location ++ m.stack.trace)) := by
  induction h with
  | refused hp =>
    obtain ⟨limit, -, h⟩ := FrameStack.eq_of_push_error hp
    exact .inr ⟨limit, h⟩
  | incomplete hp hn => exact .inl Fault.isLocal_voidOperand
  | failed _ _ _ hx => exact .inl (isLocal_of_applyReducts hx)
  | left hp _ ih =>
    rw [FrameStack.trace_of_push hp] at ih
    rwa [List.map_append, List.map_singleton, List.append_assoc, List.singleton_append]
  | right hp hl _ ih =>
    rw [stack_of_evaluates hl, FrameStack.trace_of_push hp] at ih
    rwa [List.map_append, List.map_singleton, List.append_assoc, List.singleton_append]

theorem eq_unwind_of_raises {ctx : Context} {t : Expr} {m after : Machine} {f raised : Fault}
    {origin : Expr} {around : List Expr} (h : (t.evaluate ctx).run m = (.error f, after))
    (hr : t.Raises ctx m raised origin around) :
    f = raised.unwind ((origin :: around).map location) m.stack.trace := by
  obtain ⟨after', he⟩ := run_of_raises hr
  rw [evaluates_iff, h] at he
  cases he
  rfl

end Expr
end PatternExpr
