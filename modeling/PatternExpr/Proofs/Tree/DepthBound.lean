import PatternExpr.Proofs.Tree.Origin
import PatternExpr.Proofs.Tree.Visits

/-! A bound on the depth is transparent: it changes nothing until an expression is started that has
no room for its frame, and then the evaluation fails because of the bound. -/
namespace PatternExpr

def Machine.bounded (m : Machine) (bound : Option Nat) : Machine :=
  { m with stack := { m.stack with maxDepth := bound } }

def Context.bounded (ctx : Context) (bound : Option Nat) : Context :=
  { ctx with limits := { ctx.limits with maxDepth := bound } }

theorem applyOperator_bounded (ctx : Context) (bound : Option Nat) (op : Operator) (l r : Value) :
    applyOperator (ctx.bounded bound) op l r = applyOperator ctx op l r := by
  cases l <;> cases r <;> rfl

theorem run_applyReducts_bounded {ctx : Context} {op : Operator} {l r : Reduct} {m after : Machine}
    {x : Except Stop Value} (h : (applyReducts ctx op l r).run m = (x, after))
    (bound : Option Nat) :
    (applyReducts ctx op l r).run (m.bounded bound) = (x, after.bounded bound) := by
  have hi := ignoresStack_applyReducts ctx op l r
  have hb : after.bounded bound = { after with stack := (m.bounded bound).stack } := by
    simp only [Machine.bounded, hi.stack_eq h]
  rw [hb]
  exact hi.run_eq h (m.bounded bound).stack

namespace FrameStack

variable {s stack : FrameStack} {frame : Frame} {limit : Nat}

theorem push_bounded (h : s.push frame = .ok stack) (hl : s.depth < limit) :
    FrameStack.push { s with maxDepth := some limit } frame =
      .ok { stack with maxDepth := some limit } := by
  rw [eq_of_push h]
  exact if_neg (Nat.not_le.2 hl)

theorem push_refused (frame : Frame) (hl : limit ≤ s.depth) :
    ∃ f, FrameStack.push { s with maxDepth := some limit } frame = .error f ∧
      f.cause = .recursionLimitExceeded limit :=
  ⟨_, if_pos hl, rfl⟩

end FrameStack

namespace Expr

theorem evaluate_bounded (ctx : Context) (bound : Option Nat) (t : Expr) :
    t.evaluate (ctx.bounded bound) = t.evaluate ctx := by
  induction t with
  | literal | void | irreducible | failing => rfl
  | probe id inner ih => simp only [evaluate, ih]
  | incomplete op left right location hn =>
    rw [evaluate_incomplete _ _ _ hn, evaluate_incomplete _ _ _ hn]
  | binary op left right location hl hr =>
    rw [evaluate_binary, evaluate_binary, hl, hr]
    simp only [combine, applyOperator_bounded]

/-- The evaluation starts an expression whose frame has no room under the limit. -/
def StartsBeyond (ctx : Context) (t : Expr) (m : Machine) (limit : Nat) : Prop :=
  ∃ e around found, t.Visits ctx m e around found ∧ e.isBinary = true ∧
    limit < m.stack.depth + (around.length + 1)

/-- Under the limit the evaluation fails since some expression is refused its frame. -/
def IsRefused (ctx : Context) (t : Expr) (m : Machine) (limit : Nat) : Prop :=
  ∃ (f : Fault) (after : Machine), t.Evaluates ctx (m.bounded (some limit)) (.error f) after ∧
    f.cause = .recursionLimitExceeded limit

section

variable {ctx : Context} {t : Expr} {m mid after : Machine} {limit : Nat} {x : Except Stop Reduct}
  {op : Operator} {location : Location} {stack : FrameStack}

theorem startsBeyond_binary {left right : Option Expr} (hl : limit ≤ m.stack.depth) :
    (binary op left right location).StartsBeyond ctx m limit :=
  ⟨_, [], m, .here _ m, rfl, Nat.lt_succ_of_le hl⟩

theorem startsBeyond_probe {id : String} {inner : Expr}
    (h : inner.StartsBeyond ctx { m with journal := m.journal.push (.probed id m.stack.frames) }
      limit) :
    (probe id inner).StartsBeyond ctx m limit := by
  obtain ⟨e, around, found, hv, he, hlt⟩ := h
  exact ⟨e, around, found, .probe hv, he, hlt⟩

theorem startsBeyond_left {left right : Expr} (hp : m.stack.push ⟨binaryName, location⟩ = .ok stack)
    (h : left.StartsBeyond ctx { m with stack } limit) :
    (binary op (some left) (some right) location).StartsBeyond ctx m limit := by
  obtain ⟨e, around, found, hv, he, hlt⟩ := h
  have hd := FrameStack.depth_of_push hp
  refine ⟨e, _, found, .left hp hv, he, ?_⟩
  change limit < stack.depth + _ at hlt
  rw [List.length_append, List.length_singleton]
  omega

theorem startsBeyond_right {left right : Expr} {l : Reduct}
    (hp : m.stack.push ⟨binaryName, location⟩ = .ok stack)
    (hl : left.Evaluates ctx { m with stack } (.ok l) mid) (h : right.StartsBeyond ctx mid limit) :
    (binary op (some left) (some right) location).StartsBeyond ctx m limit := by
  obtain ⟨e, around, found, hv, he, hlt⟩ := h
  have hd := FrameStack.depth_of_push hp
  have hs : mid.stack = stack := stack_of_evaluates hl
  refine ⟨e, _, found, .right hp hl hv, he, ?_⟩
  rw [hs] at hlt
  rw [List.length_append, List.length_singleton]
  omega

theorem startsBeyond_operands {left right : Expr}
    (h : (binary op (some left) (some right) location).StartsBeyond ctx m limit)
    (hroom : m.stack.depth < limit) :
    ∃ stack, m.stack.push ⟨binaryName, location⟩ = .ok stack ∧
      (left.StartsBeyond ctx { m with stack } limit ∨
        ∃ l mid, left.Evaluates ctx { m with stack } (.ok l) mid ∧
          right.StartsBeyond ctx mid limit) := by
  obtain ⟨e, around, found, hv, he, hlt⟩ := h
  cases hv with
  | here =>
    rw [List.length_nil] at hlt
    omega
  | @left _ _ _ _ _ _ stack _ around hp hv =>
    have hd : stack.depth = m.stack.depth + 1 := FrameStack.depth_of_push hp
    rw [List.length_append, List.length_singleton] at hlt
    refine ⟨stack, hp, .inl ⟨e, around, found, hv, he, ?_⟩⟩
    change limit < stack.depth + _
    omega
  | @right _ _ _ _ _ mid _ stack l _ around hp hl hv =>
    have hd : stack.depth = m.stack.depth + 1 := FrameStack.depth_of_push hp
    have hs : mid.stack = stack := stack_of_evaluates hl
    rw [List.length_append, List.length_singleton] at hlt
    refine ⟨stack, hp, .inr ⟨l, mid, hl, e, around, found, hv, he, ?_⟩⟩
    rw [hs]
    omega

theorem not_startsBeyond (h : m.stack.depth + t.nesting ≤ limit) :
    ¬ t.StartsBeyond ctx m limit := by
  rintro ⟨e, around, found, hv, he, hlt⟩
  have hn := nesting_of_visits hv
  have hpos : 1 ≤ e.nesting := by
    cases e with
    | binary _ left right => cases left <;> cases right <;> exact Nat.le_add_left 1 _
    | _ => cases he
  omega

theorem left_of_not_startsBeyond {left right : Expr} (hm : m.stack.maxDepth = none)
    (hp : m.stack.push ⟨binaryName, location⟩ = .ok stack)
    (hs : ¬ (binary op (some left) (some right) location).StartsBeyond ctx m limit) :
    (m.bounded (some limit)).stack.push ⟨binaryName, location⟩ =
        .ok { stack with maxDepth := some limit } ∧
      stack.maxDepth = none ∧ ¬ left.StartsBeyond ctx { m with stack } limit := by
  have hroom := Nat.not_le.1 (mt startsBeyond_binary hs)
  have hn := (FrameStack.maxDepth_of_push hp).trans hm
  exact ⟨FrameStack.push_bounded hp hroom, hn, mt (startsBeyond_left hp) hs⟩

theorem right_of_not_startsBeyond {left right : Expr} {l : Reduct} (hm : m.stack.maxDepth = none)
    (hp : m.stack.push ⟨binaryName, location⟩ = .ok stack)
    (hl : left.Evaluates ctx { m with stack } (.ok l) mid)
    (hs : ¬ (binary op (some left) (some right) location).StartsBeyond ctx m limit) :
    mid.stack.maxDepth = none ∧ ¬ right.StartsBeyond ctx mid limit := by
  have hmid : mid.stack = stack := stack_of_evaluates hl
  have hn := (FrameStack.maxDepth_of_push hp).trans hm
  rw [← hmid] at hn
  exact ⟨hn, mt (startsBeyond_right hp hl) hs⟩

/-- While every expression that is started has room, a limit changes nothing. -/
theorem evaluates_bounded (h : t.Evaluates ctx m x after) (hm : m.stack.maxDepth = none)
    (hs : ¬ t.StartsBeyond ctx m limit) :
    t.Evaluates ctx (m.bounded (some limit)) x (after.bounded (some limit)) := by
  induction h with
  | literal | void | irreducible | failing => constructor
  | probe _ ih => exact .probe (ih hm (mt startsBeyond_probe hs))
  | refused hp => exact absurd hp (FrameStack.push_ne_error hm _ _)
  | incomplete hp hn =>
    have hroom := Nat.not_le.1 (mt startsBeyond_binary hs)
    exact .incomplete (FrameStack.push_bounded hp hroom) hn
  | @left _ _ _ _ m after _ _ hp _ ih =>
    obtain ⟨hp, hn, hsl⟩ := left_of_not_startsBeyond hm hp hs
    have hl := ih hn hsl
    exact @Evaluates.left _ _ _ _ _ (m.bounded _) (after.bounded _) _ _ hp hl
  | @right _ _ _ _ m mid after _ _ _ hp hl _ ihl ihr =>
    obtain ⟨hmid, hsr⟩ := right_of_not_startsBeyond hm hp hl hs
    obtain ⟨hp, hn, hsl⟩ := left_of_not_startsBeyond hm hp hs
    have hl := ihl hn hsl
    have hr := ihr hmid hsr
    exact @Evaluates.right _ _ _ _ _ (m.bounded _) _ (after.bounded _) _ _ _ hp hl hr
  | @failed _ _ _ _ m mid after last _ _ _ _ hp hl _ hx ihl ihr =>
    obtain ⟨hmid, hsr⟩ := right_of_not_startsBeyond hm hp hl hs
    obtain ⟨hp, hn, hsl⟩ := left_of_not_startsBeyond hm hp hs
    have hl := ihl hn hsl
    have hr := ihr hmid hsr
    have hx := run_applyReducts_bounded hx (some limit)
    exact @Evaluates.failed _ _ _ _ _ (m.bounded _) _ _ (last.bounded _) _ _ _ _ hp hl hr hx
  | @value _ _ _ _ m mid after last _ _ _ _ hp hl _ hx ihl ihr =>
    obtain ⟨hmid, hsr⟩ := right_of_not_startsBeyond hm hp hl hs
    obtain ⟨hp, hn, hsl⟩ := left_of_not_startsBeyond hm hp hs
    have hl := ihl hn hsl
    have hr := ihr hmid hsr
    have hx := run_applyReducts_bounded hx (some limit)
    exact @Evaluates.value _ _ _ _ _ (m.bounded _) _ _ (last.bounded _) _ _ _ _ hp hl hr hx

theorem isRefused_binary {left right : Option Expr} (hl : limit ≤ m.stack.depth) :
    (binary op left right location).IsRefused ctx m limit := by
  obtain ⟨f, hp, hc⟩ := FrameStack.push_refused ⟨binaryName, location⟩ hl
  refine ⟨_, m.bounded (some limit), .refused hp, ?_⟩
  rw [Fault.cause_locate, hc]

/-- Starting an expression without room ends the evaluation under the limit. What runs before it has
room, so it runs as it does without a limit. -/
theorem isRefused_of_startsBeyond (hm : m.stack.maxDepth = none)
    (hs : t.StartsBeyond ctx m limit) : t.IsRefused ctx m limit := by
  induction t generalizing m with
  | literal | void | irreducible | failing =>
    obtain ⟨e, around, found, hv, he, -⟩ := hs
    cases hv
    cases he
  | probe id inner ih =>
    obtain ⟨e, around, found, hv, he, hlt⟩ := hs
    cases hv with
    | here => cases he
    | probe hv =>
      have hr : inner.IsRefused ctx
          { m with journal := m.journal.push (.probed id m.stack.frames) } limit :=
        ih hm ⟨e, around, found, hv, he, hlt⟩
      obtain ⟨f, after, hf, hc⟩ := hr
      exact ⟨f, after, .probe hf, hc⟩
  | incomplete op left right location hn =>
    obtain ⟨e, around, found, hv, he, hlt⟩ := hs
    cases hv with
    | here => exact isRefused_binary (Nat.le_of_lt_succ hlt)
    | left | right => simp at hn
  | binary op left right location ihl ihr =>
    by_cases hroom : limit ≤ m.stack.depth
    · exact isRefused_binary hroom
    obtain ⟨stack, hp, hs⟩ := startsBeyond_operands hs (Nat.not_le.1 hroom)
    have hn : stack.maxDepth = none := (FrameStack.maxDepth_of_push hp).trans hm
    have hpb := FrameStack.push_bounded hp (Nat.not_le.1 hroom)
    by_cases hsl : left.StartsBeyond ctx { m with stack } limit
    · obtain ⟨f, after, hf, hc⟩ := ihl hn hsl
      refine ⟨_, _, @Evaluates.left _ _ _ _ _ (m.bounded _) _ _ _ hpb hf, ?_⟩
      rw [Fault.cause_locate, hc]
    · obtain ⟨l, mid, hl, hsr⟩ := hs.resolve_left hsl
      have hmid : mid.stack.maxDepth = none :=
        (congrArg FrameStack.maxDepth (stack_of_evaluates hl)).trans hn
      obtain ⟨f, after, hf, hc⟩ := ihr hmid hsr
      have hl := evaluates_bounded hl hn hsl
      refine ⟨_, _, @Evaluates.right _ _ _ _ _ (m.bounded _) _ _ _ _ _ hpb hl hf, ?_⟩
      rw [Fault.cause_locate, hc]

theorem cause_of_unbounded {f : Fault} (h : t.Evaluates ctx m (.error f) after)
    (hm : m.stack.maxDepth = none)
    (ht : ∀ f location, .failing f location ∈ t.atoms →
      ∀ n, f.cause ≠ .recursionLimitExceeded n) (n : Nat) :
    f.cause ≠ .recursionLimitExceeded n := by
  generalize hx : Except.error (Stop.fault f) = x at h
  induction h generalizing f with
  | literal | void | irreducible | value => cases hx
  | failing f location =>
    cases hx
    exact ht f location (List.mem_singleton_self _) n
  | probe _ ih => exact ih hm (fun f location ha => ht f location (List.mem_cons_of_mem _ ha)) hx
  | refused hp => exact absurd hp (FrameStack.push_ne_error hm _ _)
  | incomplete =>
    cases hx
    rw [Fault.cause_locate]
    exact nofun
  | left hp _ ih =>
    obtain ⟨inner, rfl, rfl⟩ := Stop.map_eq_fault_iff.1 (Except.error.inj hx).symm
    rw [Fault.cause_locate]
    have hn := (FrameStack.maxDepth_of_push hp).trans hm
    exact ih hn (fun f location ha => ht f location (List.mem_append_left _ ha)) rfl
  | right hp hl _ _ ih =>
    obtain ⟨inner, rfl, rfl⟩ := Stop.map_eq_fault_iff.1 (Except.error.inj hx).symm
    rw [Fault.cause_locate]
    have hn := (FrameStack.maxDepth_of_push hp).trans hm
    have hmid := (congrArg FrameStack.maxDepth (stack_of_evaluates hl)).trans hn
    exact ih hmid (fun f location ha => ht f location (List.mem_append_right _ ha)) rfl
  | failed _ _ _ hx' =>
    obtain ⟨inner, rfl, rfl⟩ := Stop.map_eq_fault_iff.1 (Except.error.inj hx).symm
    rw [Fault.cause_locate]
    exact (isLocal_of_applyReducts hx').cause n

end

/-- What is seen of an evaluation on these frames under a bound: its outcome, and everything that it
reads and observes. -/
def answerUnder (ctx : Context) (frames : List Frame) (t : Expr) (bound : Option Nat) :
    Except Stop Reduct × Array Event :=
  let (x, after) := (t.evaluate (ctx.bounded bound)).run ⟨⟨frames, bound⟩, #[]⟩
  (x, after.journal)

/-- The outcome blames this limit on the depth. -/
def ExceedsDepth (limit : Nat) (x : Except Stop Reduct) : Prop :=
  ∃ f : Fault, x = .error f ∧ f.cause = .recursionLimitExceeded limit

section

variable {ctx : Context} {frames : List Frame} {t : Expr} {limit : Nat}

theorem answerUnder_of_evaluates {bound : Option Nat} {x : Except Stop Reduct} {after : Machine}
    (h : t.Evaluates (ctx.bounded none) ⟨⟨frames, bound⟩, #[]⟩ x after) :
    t.answerUnder ctx frames bound = (x, after.journal) := by
  have hr := run_of_evaluates h
  rw [evaluate_bounded] at hr
  simp only [answerUnder, evaluate_bounded, hr]

theorem answerUnder_of_not_startsBeyond
    (hs : ¬ t.StartsBeyond (ctx.bounded none) ⟨⟨frames, none⟩, #[]⟩ limit) :
    t.answerUnder ctx frames (some limit) = t.answerUnder ctx frames none := by
  have he := evaluates_evaluate (ctx.bounded none) t ⟨⟨frames, none⟩, #[]⟩
  have hb := evaluates_bounded he rfl hs
  rw [answerUnder_of_evaluates he, answerUnder_of_evaluates hb]
  rfl

theorem exceedsDepth_of_startsBeyond
    (hs : t.StartsBeyond (ctx.bounded none) ⟨⟨frames, none⟩, #[]⟩ limit) :
    ExceedsDepth limit (t.answerUnder ctx frames (some limit)).1 := by
  obtain ⟨f, after, hf, hc⟩ := isRefused_of_startsBeyond rfl hs
  refine ⟨f, ?_, hc⟩
  rw [answerUnder_of_evaluates hf]

theorem not_exceedsDepth_of_unbounded
    (ht : ∀ f location, .failing f location ∈ t.atoms → ∀ n, f.cause ≠ .recursionLimitExceeded n) :
    ¬ ExceedsDepth limit (t.answerUnder ctx frames none).1 := by
  rintro ⟨f, hf, hc⟩
  have he := evaluates_evaluate (ctx.bounded none) t ⟨⟨frames, none⟩, #[]⟩
  have ha := answerUnder_of_evaluates he
  rw [ha] at hf
  change ((t.evaluate (ctx.bounded none)).run _).1 = _ at hf
  rw [hf] at he
  exact cause_of_unbounded he rfl ht limit hc

theorem startsBeyond_of_exceedsDepth
    (ht : ∀ f location, .failing f location ∈ t.atoms → ∀ n, f.cause ≠ .recursionLimitExceeded n)
    (h : ExceedsDepth limit (t.answerUnder ctx frames (some limit)).1) :
    t.StartsBeyond (ctx.bounded none) ⟨⟨frames, none⟩, #[]⟩ limit := by
  refine Classical.byContradiction fun hs => ?_
  rw [answerUnder_of_not_startsBeyond hs] at h
  exact not_exceedsDepth_of_unbounded ht h

theorem startsBeyond_mono {m : Machine} {larger : Nat} (h : t.StartsBeyond ctx m larger)
    (hl : limit ≤ larger) : t.StartsBeyond ctx m limit := by
  obtain ⟨e, around, found, hv, he, hlt⟩ := h
  exact ⟨e, around, found, hv, he, Nat.lt_of_le_of_lt hl hlt⟩

/-- A bound on the depth is transparent: an evaluation under it goes as without it, or it blames the
bound. The latter happens just if the evaluation without a bound starts an expression that has no
room, so never when there is room for all expressions around one another. A larger bound changes no
other outcome. Nodes of the host are to blame the depth for nothing themselves. -/
theorem depth_bound_transparent
    (ht : ∀ f location, .failing f location ∈ t.atoms → ∀ n, f.cause ≠ .recursionLimitExceeded n) :
    (t.answerUnder ctx frames (some limit) = t.answerUnder ctx frames none ∨
        ExceedsDepth limit (t.answerUnder ctx frames (some limit)).1) ∧
      (ExceedsDepth limit (t.answerUnder ctx frames (some limit)).1 ↔
        ∃ e around found,
          t.Visits (ctx.bounded none) ⟨⟨frames, none⟩, #[]⟩ e around found ∧ e.isBinary = true ∧
            limit < frames.length + (around.length + 1)) ∧
      (frames.length + t.nesting ≤ limit →
        t.answerUnder ctx frames (some limit) = t.answerUnder ctx frames none) ∧
      ∀ larger, limit ≤ larger → ¬ ExceedsDepth limit (t.answerUnder ctx frames (some limit)).1 →
        t.answerUnder ctx frames (some larger) = t.answerUnder ctx frames (some limit) := by
  refine ⟨?_, ⟨startsBeyond_of_exceedsDepth ht, exceedsDepth_of_startsBeyond⟩, ?_, ?_⟩
  · by_cases hs : t.StartsBeyond (ctx.bounded none) ⟨⟨frames, none⟩, #[]⟩ limit
    · exact .inr (exceedsDepth_of_startsBeyond hs)
    · exact .inl (answerUnder_of_not_startsBeyond hs)
  · intro hroom
    exact answerUnder_of_not_startsBeyond (not_startsBeyond hroom)
  · intro larger hl hx
    have hs := mt exceedsDepth_of_startsBeyond hx
    have hs' : ¬ t.StartsBeyond (ctx.bounded none) ⟨⟨frames, none⟩, #[]⟩ larger :=
      fun h => hs (startsBeyond_mono h hl)
    rw [answerUnder_of_not_startsBeyond hs, answerUnder_of_not_startsBeyond hs']

def sumOfProduct : Expr :=
  .binary .add (some (number 1))
    (some (.binary .mul (some (number 2)) (some (number 3)) ⟨none, 1, 7, 1⟩)) ⟨none, 1, 3, 1⟩

theorem depth_bound_transparent_sumOfProduct :
    ExceedsDepth 2 (sumOfProduct.answerUnder ⟨none, .default⟩ [⟨"call", .synthetic⟩] (some 2)).1 ∧
      sumOfProduct.answerUnder ⟨none, .default⟩ [⟨"call", .synthetic⟩] (some 3) =
        sumOfProduct.answerUnder ⟨none, .default⟩ [⟨"call", .synthetic⟩] none := by
  have ht : ∀ f location, .failing f location ∈ sumOfProduct.atoms →
      ∀ n, f.cause ≠ .recursionLimitExceeded n := by
    simp [sumOfProduct, atoms, number]
  obtain ⟨-, hexceeds, -, -⟩ := depth_bound_transparent (t := sumOfProduct) ht
  obtain ⟨-, -, hroom, -⟩ := depth_bound_transparent (t := sumOfProduct) ht
  refine ⟨hexceeds.2 ⟨_, _, _, .right rfl (.literal _ _) (.here _ _), rfl, ?_⟩, hroom ?_⟩
  · decide
  · decide

end

end Expr
end PatternExpr
