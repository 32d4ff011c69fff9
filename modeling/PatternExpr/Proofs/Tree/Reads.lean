import PatternExpr.Proofs.Tree.Journal

/-! What an evaluation reads. The reads are those of the expressions that compare two patterns, site by
site, and the answers to them are all that an evaluation learns from its source. -/
namespace PatternExpr

/-- What is read at the sites that the evaluation comes to. -/
def issued (ctx : Context) (start : FrameStack) (sites : List Site) : List ByteRange :=
  (reached ctx start sites).flatMap (Site.reads ctx start)

/-- The context answers the read as the reader does. -/
def Context.AnswersAs (ctx : Context) (reader : Reader) (range : ByteRange) : Prop :=
  ctx.reader.map (· range) = some (reader range)

namespace Evaluation

variable {α β : Type} {ctx : Context} {reader : Reader}

/-- The second computation does what the first one does, provided that the context answers what the
first one reads as the reader does. -/
def Follows (ctx : Context) (reader : Reader) (e e' : Evaluation α) : Prop :=
  ∀ m, ∃ reads, (e.run m).2.reads = m.reads ++ reads ∧
    ((∀ range ∈ reads, ctx.AnswersAs reader range) → e'.run m = e.run m)

theorem follows_of_reads_eq {e : Evaluation α} (h : ∀ m, (e.run m).2.reads = m.reads) :
    Follows ctx reader e e := by
  intro m
  exact ⟨[], (h m).trans (List.append_nil _).symm, fun _ => rfl⟩

theorem Follows.bind {e e' : Evaluation α} {next next' : α → Evaluation β}
    (he : Follows ctx reader e e') (hnext : ∀ a, Follows ctx reader (next a) (next' a)) :
    Follows ctx reader (e >>= next) (e' >>= next') := by
  intro m
  obtain ⟨reads, hreads, hsame⟩ := he m
  rw [run_bind]
  rcases hr : e.run m with ⟨f | a, after⟩
  · rw [hr] at hreads
    refine ⟨reads, hreads, fun h => ?_⟩
    rw [run_bind, hsame h, hr]
  · rw [hr] at hreads
    obtain ⟨reads', hreads', hsame'⟩ := hnext a after
    refine ⟨reads ++ reads', ?_, fun h => ?_⟩
    · have hmid : after.reads = m.reads ++ reads := hreads
      rw [hreads', hmid, List.append_assoc]
    · obtain ⟨hl, hr'⟩ := List.forall_mem_append.1 h
      rw [run_bind, hsame hl, hr]
      exact hsame' hr'

theorem Follows.inFrame (frame : Frame) (refused : Fault → Fault)
    (failed : List Location → Fault → Fault) {body body' : Evaluation α}
    (h : Follows ctx reader body body') :
    Follows ctx reader (inFrame frame refused failed body) (inFrame frame refused failed body') := by
  intro m
  cases hp : m.stack.push frame with
  | error f =>
    rw [run_inFrame_of_push_error _ _ _ hp, run_inFrame_of_push_error _ _ _ hp]
    exact ⟨[], (List.append_nil _).symm, fun _ => rfl⟩
  | ok stack =>
    obtain ⟨reads, hreads, hsame⟩ := h { m with stack }
    rw [run_inFrame_of_push_ok _ _ _ hp, run_inFrame_of_push_ok _ _ _ hp]
    refine ⟨reads, hreads, fun h => ?_⟩
    rw [hsame h]

theorem follows_read (ctx : Context) (reader : Reader) (limits : Limits) (range : ByteRange) :
    Follows ctx reader (read ⟨some reader, limits⟩ range) (read ctx range) := by
  intro m
  refine ⟨[range], by simp [read, Machine.reads, Event.range?], fun h => ?_⟩
  have ha : ctx.reader.map (· range) = some (reader range) := h range (List.mem_singleton_self _)
  obtain ⟨reader', hr, hsame⟩ := Option.map_eq_some_iff.1 ha
  simp only [read, hr, hsame]

theorem follows_readPattern (reader : Reader) (source : Option Reader) (limits : Limits)
    (p : Pattern) :
    Follows ⟨source, limits⟩ reader (readPattern ⟨some reader, limits⟩ p)
      (readPattern ⟨source, limits⟩ p) := by
  by_cases hp : p.Fits
  · rw [readPattern_of_fits hp, readPattern_of_fits hp]
    exact follows_read ⟨source, limits⟩ reader limits p.range
  · obtain ⟨s, hs⟩ := readPattern_of_not_fits hp
    rw [hs, hs]
    exact follows_of_reads_eq fun _ => rfl

end Evaluation

theorem follows_applyOperator (reader : Reader) (source : Option Reader) (limits : Limits)
    (op : Operator) (l r : Value) :
    Evaluation.Follows ⟨source, limits⟩ reader (applyOperator ⟨some reader, limits⟩ op l r)
      (applyOperator ⟨source, limits⟩ op l r) := by
  unfold applyOperator
  split
  · refine (Evaluation.follows_readPattern reader source limits _).bind fun a =>
      (Evaluation.follows_readPattern reader source limits _).bind fun b => ?_
    refine Evaluation.follows_of_reads_eq fun m => ?_
    split <;> rfl
  · exact Evaluation.follows_of_reads_eq fun _ => rfl

namespace Expr

theorem follows_evaluate (reader : Reader) (source : Option Reader) (limits : Limits) (t : Expr) :
    Evaluation.Follows ⟨source, limits⟩ reader (t.evaluate ⟨some reader, limits⟩)
      (t.evaluate ⟨source, limits⟩) := by
  have hkept : ∀ {α : Type} (x : Except Stop α),
      Evaluation.Follows ⟨source, limits⟩ reader ⟨fun m => (x, m)⟩ ⟨fun m => (x, m)⟩ :=
    fun _ => Evaluation.follows_of_reads_eq fun _ => rfl
  induction t with
  | literal | void | irreducible | failing => exact hkept _
  | probe id inner ih =>
    refine Evaluation.Follows.bind ?_ fun frames => Evaluation.Follows.bind ?_ fun _ => ih
    · exact Evaluation.follows_of_reads_eq fun _ => rfl
    · exact Evaluation.follows_of_reads_eq fun m => by simp [Machine.reads, Event.range?]
  | incomplete op left right location hn =>
    rw [evaluate_incomplete _ _ _ hn, evaluate_incomplete _ _ _ hn]
    exact ((hkept (.error Fault.voidOperand)).inFrame _ _ _).bind fun _ => hkept (.ok _)
  | binary op left right location hl hr =>
    rw [evaluate_binary, evaluate_binary]
    refine Evaluation.Follows.bind (Evaluation.Follows.inFrame _ _ _ ?_) fun _ => hkept (.ok _)
    exact hl.bind fun _ => hr.bind fun _ => (hkept _).bind fun _ => (hkept _).bind fun _ =>
      follows_applyOperator reader source limits op _ _

variable {ctx : Context} {t : Expr} {start : FrameStack}

theorem reads_events (s : Site) :
    (s.events ctx start).filterMap Event.range? = s.reads ctx start := by
  have hr : ((s.reads ctx start).map Event.read).filterMap Event.range? = s.reads ctx start := by
    simp [List.filterMap_map, Function.comp_def, Event.range?]
  rw [Site.events, List.filterMap_append, hr]
  cases s.observation? start <;> rfl

theorem reads_of_evaluates {m after : Machine} {x : Except Stop Reduct}
    (h : t.Evaluates ctx m x after) : after.reads = m.reads ++ issued ctx m.stack (t.sites []) := by
  have hroot : m.stack = m.stack.within [] := rfl
  have hj := journal_of_evaluates h hroot rfl
  rw [Machine.reads, hj, List.filterMap_append, recorded, List.filterMap_flatMap]
  simp only [reads_events]
  rfl

/-- A context that answers the issued reads as the reader does changes nothing. -/
theorem run_evaluate_of_answersAs {reader : Reader} {m : Machine} (hr : ctx.reader = some reader)
    {source : Option Reader}
    (h : ∀ range ∈ issued ctx m.stack (t.sites []),
      Context.AnswersAs { ctx with reader := source } reader range) :
    (t.evaluate { ctx with reader := source }).run m = (t.evaluate ctx).run m := by
  obtain ⟨_, limits⟩ := ctx
  subst hr
  obtain ⟨reads, hreads, hsame⟩ := follows_evaluate reader source limits t m
  have he := reads_of_evaluates (evaluates_evaluate ⟨some reader, limits⟩ t m)
  rw [he] at hreads
  obtain rfl := List.append_cancel_left hreads
  exact hsame h

theorem reads_of_not_comparesPatterns {s : Site} (h : s.node.comparesPatterns = false) :
    s.reads ctx start = [] := by
  obtain ⟨node, around⟩ := s
  cases node with
  | binary op left right location =>
    cases left with
    | none => rfl
    | some left =>
      cases right with
      | none => rfl
      | some right =>
        have hp : ctx.operandReads left.pattern? right.pattern? = [] := by
          cases hl : left.pattern? with
          | none => rfl
          | some a =>
            cases hr : right.pattern? with
            | none => rfl
            | some b => simp [comparesPatterns, hl, hr] at h
        simp [Site.reads, hp]
  | _ => rfl

theorem issued_of_no_comparison (h : ∀ s ∈ t.sites [], s.node.comparesPatterns = false) :
    issued ctx start (t.sites []) = [] := by
  refine List.flatMap_eq_nil_iff.2 fun s hs => ?_
  exact reads_of_not_comparesPatterns (h s ((reached_sublist _).subset hs))

theorem run_evaluate_of_no_comparison (h : ∀ s ∈ t.sites [], s.node.comparesPatterns = false)
    (source : Option Reader) (m : Machine) :
    (t.evaluate { ctx with reader := source }).run m = (t.evaluate ctx).run m := by
  -- Any reader does as the one that both sources are compared with.
  let served : Context := { ctx with reader := some fun _ => .ok [] }
  have hsame : ∀ source, (t.evaluate { ctx with reader := source }).run m =
      (t.evaluate served).run m := by
    intro source
    have hi : issued served m.stack (t.sites []) = [] := issued_of_no_comparison h
    have hreader : served.reader = some fun _ => .ok [] := rfl
    refine run_evaluate_of_answersAs hreader ?_
    rw [hi]
    exact fun _ hr => absurd hr List.not_mem_nil
  exact (hsame source).trans (hsame ctx.reader).symm

/-- The reads of an evaluation are those at the sites that it comes to, in their order: an expression
that compares two patterns, whatever its operator, reads the left one and, if that succeeds, the right
one, up to a pattern that has no buffer. Nothing else is read and nothing is kept, so a later evaluation
reads anew. What an evaluation does depends on the answers to these reads only, and on no source at all
where no two patterns are compared. -/
theorem reads_evaluate (ctx : Context) (t : Expr) (m : Machine) :
    ((t.evaluate ctx).run m).2.reads = m.reads ++ issued ctx m.stack (t.sites []) ∧
      (∀ (later : Expr) (ctx' : Context),
        ((later.evaluate ctx').run ((t.evaluate ctx).run m).2).2.reads =
          m.reads ++ issued ctx m.stack (t.sites []) ++ issued ctx' m.stack (later.sites [])) ∧
      (∀ reader reader' : Reader, ctx.reader = some reader →
        (∀ range ∈ issued ctx m.stack (t.sites []), reader' range = reader range) →
        (t.evaluate { ctx with reader := some reader' }).run m = (t.evaluate ctx).run m) ∧
      ((∀ s ∈ t.sites [], s.node.comparesPatterns = false) → ∀ source : Option Reader,
        (t.evaluate { ctx with reader := source }).run m = (t.evaluate ctx).run m) := by
  have hreads : ∀ (t : Expr) (ctx : Context) (m : Machine),
      ((t.evaluate ctx).run m).2.reads = m.reads ++ issued ctx m.stack (t.sites []) :=
    fun t ctx m => reads_of_evaluates (evaluates_evaluate ctx t m)
  refine ⟨hreads t ctx m, fun later ctx' => ?_, fun reader reader' hr h => ?_, fun h source => ?_⟩
  · rw [hreads later, hreads t, t.keepsStack_evaluate ctx m]
  · exact run_evaluate_of_answersAs hr fun range hm => congrArg some (h range hm)
  · exact run_evaluate_of_no_comparison h source m

def bytePattern (offset : Nat) : Pattern := ⟨offset, ⟨.main, offset, 1⟩, .unsigned 0, none, .synthetic⟩

/-- Two patterns are compared twice; the second time with an operator that does not apply. -/
def twoComparisons : Expr :=
  .binary .or
    (some (.binary (.relation .eq) (some (.literal ⟨.pattern (bytePattern 0), .synthetic⟩))
      (some (.literal ⟨.pattern (bytePattern 2), .synthetic⟩)) .synthetic))
    (some (.binary .add (some (.literal ⟨.pattern (bytePattern 0), .synthetic⟩))
      (some (.literal ⟨.pattern (bytePattern 2), .synthetic⟩)) .synthetic)) .synthetic

def patternBelowSeven : Expr :=
  .binary (.relation .lt) (some (.literal ⟨.pattern (bytePattern 0), .synthetic⟩)) (some (number 7))
    .synthetic

theorem reads_evaluate_twoComparisons :
    let memory : Context := ⟨some (Store.ofMain [7, 9, 7]).read, .default⟩
    let sevens : Reader := fun _ => .ok [7]
    let m : Machine := ⟨.empty none, #[]⟩
    issued memory m.stack (twoComparisons.sites []) =
        [(bytePattern 0).range, (bytePattern 2).range, (bytePattern 0).range,
          (bytePattern 2).range] ∧
      (twoComparisons.evaluate { memory with reader := some sevens }).run m =
        (twoComparisons.evaluate memory).run m ∧
      (patternBelowSeven.evaluate { memory with reader := none }).run m =
        (patternBelowSeven.evaluate memory).run m := by
  intro memory sevens m
  have hissued : issued memory m.stack (twoComparisons.sites []) =
      [(bytePattern 0).range, (bytePattern 2).range, (bytePattern 0).range,
        (bytePattern 2).range] := by decide
  obtain ⟨-, -, hanswers, -⟩ := reads_evaluate memory twoComparisons m
  obtain ⟨-, -, -, hnone⟩ := reads_evaluate memory patternBelowSeven m
  refine ⟨hissued, hanswers _ sevens rfl ?_, hnone ?_ none⟩
  · rw [hissued]
    simp only [List.forall_mem_cons]
    exact ⟨rfl, rfl, rfl, rfl, nofun⟩
  · decide

def largestPattern : Pattern := ⟨1, ⟨.main, 0, addressBound - 1⟩, .unsigned 0, none, .synthetic⟩

def comparisonWithLargest : Expr :=
  .binary (.relation .eq) (some (.literal ⟨.pattern (bytePattern 0), .synthetic⟩))
    (some (.literal ⟨.pattern largestPattern, .synthetic⟩)) .synthetic

/-- The left pattern is read, but there is no second read that could fail. -/
theorem right_unread_of_overflow :
    let memory : Context := ⟨some (Store.ofMain [1, 2, 3, 4]).read, .default⟩
    let after := (comparisonWithLargest.evaluate memory).run ⟨.empty none, #[]⟩
    (Store.ofMain [1, 2, 3, 4]).read (bytePattern 0).range = .ok [1] ∧
      after.2.reads = [(bytePattern 0).range] ∧ after.1 = .error .capacityOverflow := by
  intro memory after
  have hissued : issued memory (.empty none) (comparisonWithLargest.sites []) =
      [(bytePattern 0).range] := by decide
  have hreads : after.2.reads = [] ++ issued memory (.empty none) (comparisonWithLargest.sites []) :=
    reads_of_evaluates (evaluates_evaluate memory comparisonWithLargest ⟨.empty none, #[]⟩)
  exact ⟨rfl, hreads.trans hissued, rfl⟩

end Expr
end PatternExpr
