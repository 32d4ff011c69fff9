import PatternExpr.Proofs.Operation.Typing
import PatternExpr.Proofs.Tree.Reach

/-! The journal of an evaluation, site by site. A probe records what it sees, and an expression whose
two operands are patterns records what it reads; nothing else is recorded. -/
namespace PatternExpr

/-- What is read to compare two patterns: the left one and, if that succeeds, the right one. A pattern
that has no buffer is not read. -/
def Context.comparisonReads (ctx : Context) (a b : Pattern) : List ByteRange :=
  match ctx.reader with
  | none => []
  | some reader =>
    if a.Fits then
      match reader a.range with
      | .error _ => [a.range]
      | .ok _ => if b.Fits then [a.range, b.range] else [a.range]
    else []

/-- What is read for two operands: nothing unless both are patterns. -/
def Context.operandReads (ctx : Context) : Option Pattern → Option Pattern → List ByteRange
  | some a, some b => ctx.comparisonReads a b
  | _, _ => []

namespace Site

/-- A probe sees a frame for each of the expressions around it, above those of the start. -/
def observation? (start : FrameStack) (s : Site) : Option (String × List Frame) :=
  match s.node with
  | .probe id _ => some (id, s.around.map Expr.frame ++ start.frames)
  | _ => none

/-- What an expression reads by itself, if it has its frame. -/
def reads (ctx : Context) (start : FrameStack) (s : Site) : List ByteRange :=
  match s.node with
  | .binary _ (some left) (some right) _ =>
    if allEntered start (s.node :: s.around) then ctx.operandReads left.pattern? right.pattern?
    else []
  | _ => []

def events (ctx : Context) (start : FrameStack) (s : Site) : List Event :=
  ((s.observation? start).map fun o => .probed o.1 o.2).toList ++ (s.reads ctx start).map .read

end Site

def Reduct.pattern? : Reduct → Option Pattern
  | .literal l => l.value.pattern?
  | .nothing | .irreducible _ => none

theorem Value.pattern?_eq_none_iff {v : Value} : v.pattern? = none ↔ v.type ≠ .pattern := by
  cases v <;> simp [pattern?, type]

theorem pattern?_of_applyReducts {ctx : Context} {op : Operator} {l r : Reduct}
    {m after : Machine} {v : Value} (h : (applyReducts ctx op l r).run m = (.ok v, after)) :
    v.pattern? = none := by
  cases l with
  | nothing | irreducible => cases h
  | literal a =>
    cases r with
    | nothing | irreducible => cases h
    | literal b =>
      have hc := conforms_applyOperator ctx op a.value b.value m
      have ha : (applyOperator ctx op a.value b.value).run m = (.ok v, after) := h
      rw [ha] at hc
      rw [Value.pattern?_eq_none_iff]
      intro hv
      have ht : op.result? a.value.type b.value.type = some .pattern := hc.trans (congrArg some hv)
      exact op.result?_ne_pattern _ _ ht

namespace Evaluation

variable {α : Type} {ctx : Context} {reader : Reader} {p : Pattern}

theorem run_readPattern_bind_none (hr : ctx.reader = none) (p : Pattern)
    (next : List UInt8 → Evaluation α) (m : Machine) :
    ((readPattern ctx p >>= next).run m).2 = m := by
  by_cases hp : p.Fits
  · simp [readPattern_of_fits hp, read, hr]
  · obtain ⟨s, hs⟩ := readPattern_of_not_fits hp
    rw [hs]
    rfl

theorem run_readPattern_bind_not_fits (hp : ¬ p.Fits) (ctx : Context)
    (next : List UInt8 → Evaluation α) (m : Machine) :
    ((readPattern ctx p >>= next).run m).2 = m := by
  obtain ⟨s, hs⟩ := readPattern_of_not_fits hp
  rw [hs]
  rfl

theorem run_readPattern_bind_ok {bytes : List UInt8} (hr : ctx.reader = some reader)
    (hp : p.Fits) (h : reader p.range = .ok bytes) (next : List UInt8 → Evaluation α) (m : Machine) :
    (readPattern ctx p >>= next).run m =
      (next bytes).run { m with journal := m.journal.push (.read p.range) } := by
  simp only [readPattern_of_fits hp, read, hr, run_bind, run_record, run_ofExcept, h]
  rfl

theorem run_readPattern_bind_error {e : ReadError} (hr : ctx.reader = some reader)
    (hp : p.Fits) (h : reader p.range = .error e) (next : List UInt8 → Evaluation α) (m : Machine) :
    (readPattern ctx p >>= next).run m =
      (.error (Fault.dataRead e), { m with journal := m.journal.push (.read p.range) }) := by
  simp only [readPattern_of_fits hp, read, hr, run_bind, run_record, run_ofExcept, h]
  rfl

end Evaluation

open Evaluation in
theorem journal_comparePatterns (ctx : Context) (op : Operator) (a b : Pattern) (m : Machine) :
    ((comparePatterns ctx op a b).run m).2.journal.toList =
      m.journal.toList ++ (ctx.comparisonReads a b).map .read := by
  unfold comparePatterns Context.comparisonReads
  cases hr : ctx.reader with
  | none =>
    rw [run_readPattern_bind_none hr]
    simp
  | some reader =>
    by_cases ha : a.Fits
    · cases hra : reader a.range with
      | error e =>
        rw [run_readPattern_bind_error hr ha hra]
        simp [ha, hra]
      | ok as =>
        rw [run_readPattern_bind_ok hr ha hra]
        by_cases hb : b.Fits
        · cases hrb : reader b.range with
          | error e =>
            rw [run_readPattern_bind_error hr hb hrb]
            simp [ha, hb, hra]
          | ok bs =>
            rw [run_readPattern_bind_ok hr hb hrb]
            split <;> simp [ha, hb, hra]
        · rw [run_readPattern_bind_not_fits hb]
          simp [ha, hb, hra]
    · rw [run_readPattern_bind_not_fits ha]
      simp [ha]

theorem journal_of_applyReducts {ctx : Context} {op : Operator} {l r : Reduct}
    {m after : Machine} {x : Except Stop Value} (h : (applyReducts ctx op l r).run m = (x, after)) :
    after.journal.toList =
      m.journal.toList ++ (ctx.operandReads l.pattern? r.pattern?).map .read := by
  obtain rfl : ((applyReducts ctx op l r).run m).2 = after := by rw [h]
  cases l with
  | nothing | irreducible => exact (List.append_nil _).symm
  | literal a =>
    cases r with
    | nothing | irreducible =>
      simp only [Reduct.pattern?]
      cases a.value.pattern? <;> exact (List.append_nil _).symm
    | literal b =>
      obtain ⟨v, -⟩ := a
      obtain ⟨w, -⟩ := b
      change ((applyOperator ctx op v w).run m).2.journal.toList =
        _ ++ (ctx.operandReads v.pattern? w.pattern?).map .read
      cases v with
      | numeric | string => exact (List.append_nil _).symm
      | pattern p =>
        cases w with
        | numeric | string => exact (List.append_nil _).symm
        | pattern q => exact journal_comparePatterns ctx op p q m

namespace Expr

variable {ctx : Context} {t : Expr} {start : FrameStack} {around : List Expr} {m after : Machine}

/-- A tree yields a pattern just if it is a literal one. -/
theorem pattern?_of_evaluates {r : Reduct} (h : t.Evaluates ctx m (.ok r) after) :
    r.pattern? = t.pattern? := by
  generalize hx : Except.ok r = x at h
  induction h generalizing r with
  | literal | void | irreducible =>
    cases hx
    rfl
  | failing | refused | incomplete | left | right | failed => cases hx
  | probe _ ih => exact ih hx
  | value _ _ _ hv =>
    cases hx
    exact pattern?_of_applyReducts hv

/-- What is recorded at the sites that the evaluation comes to. -/
def recorded (ctx : Context) (start : FrameStack) (sites : List Site) : List Event :=
  (reached ctx start sites).flatMap (Site.events ctx start)

theorem recorded_singleton (he : allEntered start around = true) :
    recorded ctx start [⟨t, around⟩] = Site.events ctx start ⟨t, around⟩ := by
  have hs : reached ctx start [⟨t, around⟩] = [⟨t, around⟩] := reached_singleton he
  rw [recorded, hs, List.flatMap_singleton]

theorem recorded_binary_of_barred {op : Operator} {left right : Option Expr} {location : Location}
    (he : allEntered start around = true)
    (h : allEntered start (.binary op left right location :: around) = false) :
    recorded ctx start ((binary op left right location).sites around) = [] := by
  have hown : Site.events ctx start ⟨.binary op left right location, around⟩ = [] := by
    cases left <;> cases right <;> simp [Site.events, Site.observation?, Site.reads, h]
  rw [recorded, reached_binary_of_barred he h, List.flatMap_singleton, hown]

/-- One evaluation adds what is recorded at its sites. The induction is on the rules, for a tree that
stands inside entered expressions and is evaluated on their frames. -/
theorem journal_of_evaluates {x : Except Stop Reduct} (h : t.Evaluates ctx m x after)
    (hm : m.stack = start.within around) (he : allEntered start around = true) :
    after.journal.toList = m.journal.toList ++ recorded ctx start (t.sites around) := by
  induction h generalizing around with
  | literal | void | irreducible | failing =>
    change _ = _ ++ recorded ctx start [⟨_, around⟩]
    rw [recorded_singleton he]
    exact (List.append_nil _).symm
  | @probe id inner m after x _ ih =>
    rw [ih hm he, recorded, recorded, reached_probe id inner he]
    simp [Site.events, Site.observation?, Site.reads, hm, FrameStack.within]
  | refused hp =>
    rw [hm] at hp
    rw [recorded_binary_of_barred he (not_entered_of_refused hp), List.append_nil]
  | incomplete hp hn =>
    rw [recorded_binary_of_barred he (not_entered_of_incomplete hn), List.append_nil]
  | @left op left right location m after stack f hp hl ih =>
    rw [hm] at hp
    obtain ⟨hin, rfl⟩ := entered_binary op left right he hp
    have hf := outcome_of_evaluates hl
    rw [recorded, sites_binary, List.append_assoc, reached_sites_of_error hin hf]
    exact ih rfl hin
  | @right op left right location m mid after stack l f hp hl hr ihl ihr =>
    rw [hm] at hp
    obtain ⟨hin, rfl⟩ := entered_binary op left right he hp
    have hs := stack_of_evaluates hl
    have hf := outcome_of_evaluates hr
    rw [hs] at hf
    have hlo : mid.journal.toList = m.journal.toList ++ _ := ihl rfl hin
    have hro : after.journal.toList = mid.journal.toList ++ _ := ihr hs hin
    rw [recorded, sites_binary, List.append_assoc,
      reached_sites_of_ok hin (outcome_of_evaluates hl), reached_sites_of_error hin hf,
      List.flatMap_append, ← List.append_assoc, ← recorded, ← hlo]
    exact hro
  | @failed op left right location m mid after last _ _ _ _ hp hl hr hx ihl ihr
  | @value op left right location m mid after last _ _ _ _ hp hl hr hx ihl ihr =>
    rw [hm] at hp
    obtain ⟨hin, rfl⟩ := entered_binary op left right he hp
    have hs := stack_of_evaluates hl
    have hok := outcome_of_evaluates hr
    rw [hs] at hok
    have hlo : mid.journal.toList = m.journal.toList ++ _ := ihl rfl hin
    have hro : after.journal.toList = mid.journal.toList ++ _ := ihr hs hin
    have hxo := journal_of_applyReducts hx
    rw [pattern?_of_evaluates hl, pattern?_of_evaluates hr] at hxo
    have hown : Site.events ctx start ⟨.binary op (some left) (some right) location, around⟩ =
        (ctx.operandReads left.pattern? right.pattern?).map .read := by
      simp [Site.events, Site.observation?, Site.reads, hin]
    rw [recorded, reached_binary_of_ok rfl hin (outcome_of_evaluates hl) hok, List.flatMap_append,
      List.flatMap_append, List.flatMap_singleton, hown, ← List.append_assoc, ← List.append_assoc,
      ← recorded, ← recorded, ← hlo, ← hro]
    exact hxo

end Expr
end PatternExpr
