import PatternExpr.Data.Store
import PatternExpr.Operation.Repetition
import PatternExpr.Tree.FrameStack

/-! The machine an evaluation runs on. It keeps the frame stack and a journal of what could be seen
from outside: the bytes the evaluation asked for and the probes it passed. A computation that stops
early leaves a machine behind too. -/
namespace PatternExpr

/-- What an evaluation may consult. -/
structure Context where
  reader : Option Reader
  limits : Limits

inductive Event
  | read (range : ByteRange)
  | probed (id : String) (frames : List Frame)

structure Machine where
  stack : FrameStack
  journal : Array Event

/-- Why an evaluation ends without a result. It answers with a fault, but a buffer too large for any
memory unwinds it, and then nobody is answered. -/
inductive Stop
  | fault (f : Fault)
  | capacityOverflow
deriving DecidableEq

namespace Stop

instance : Coe Fault Stop := ⟨fault⟩

/-- Only a fault takes notes on its way out. -/
def map (g : Fault → Fault) : Stop → Stop
  | .fault f => .fault (g f)
  | .capacityOverflow => .capacityOverflow

def ofExcept {α : Type} : Except Fault α → Except Stop α
  | .ok a => .ok a
  | .error f => .error f

@[simp] theorem map_fault (g : Fault → Fault) (f : Fault) : map g f = (g f : Stop) := rfl

@[simp] theorem map_capacityOverflow (g : Fault → Fault) :
    map g .capacityOverflow = .capacityOverflow := rfl

theorem map_eq_fault_iff {g : Fault → Fault} {s : Stop} {f : Fault} :
    s.map g = f ↔ ∃ f', s = fault f' ∧ g f' = f := by
  cases s <;> simp

theorem map_eq_capacityOverflow_iff {g : Fault → Fault} {s : Stop} :
    s.map g = .capacityOverflow ↔ s = .capacityOverflow := by
  cases s <;> simp

@[simp] theorem ofExcept_ok {α : Type} (a : α) : ofExcept (.ok a) = .ok a := rfl

@[simp] theorem ofExcept_error {α : Type} (f : Fault) :
    ofExcept (.error f : Except Fault α) = .error (fault f) := rfl

theorem ofExcept_eq_ok_iff {α : Type} {x : Except Fault α} {a : α} :
    ofExcept x = .ok a ↔ x = .ok a := by
  cases x <;> simp

end Stop

structure Evaluation (α : Type) where
  run : Machine → Except Stop α × Machine

namespace Evaluation

variable {α β : Type}

instance : Monad Evaluation where
  pure a := ⟨fun m => (.ok a, m)⟩
  bind e next := ⟨fun m =>
    match e.run m with
    | (.ok a, after) => (next a).run after
    | (.error s, after) => (.error s, after)⟩

def fail (f : Fault) : Evaluation α := ⟨fun m => (.error f, m)⟩

def overflow : Evaluation α := ⟨fun m => (.error .capacityOverflow, m)⟩

def ofExcept (x : Except Fault α) : Evaluation α := ⟨fun m => (Stop.ofExcept x, m)⟩

/-- The frames of the nodes that are being evaluated, innermost first. -/
def frames : Evaluation (List Frame) := ⟨fun m => (.ok m.stack.frames, m)⟩

def record (event : Event) : Evaluation Unit :=
  ⟨fun m => (.ok (), { m with journal := m.journal.push event })⟩

/-- Every read is recorded before it is served; without a reader there is nothing to record. -/
def read (ctx : Context) (range : ByteRange) : Evaluation (List UInt8) :=
  match ctx.reader with
  | none => fail (.dataRead (.other "no data source attached"))
  | some reader => do
    record (.read range)
    ofExcept ((reader range).mapError Fault.dataRead)

/-- Runs a computation inside a frame, which is popped however that ends. A refused frame fails the
computation before it starts. The frame's own fault and one from inside are handed to `refused` and
to `failed`, the latter with the locations below the frame. -/
def inFrame (frame : Frame) (refused : Fault → Fault) (failed : List Location → Fault → Fault)
    (body : Evaluation α) : Evaluation α :=
  ⟨fun m =>
    match m.stack.push frame with
    | .error f => (.error (refused f), m)
    | .ok stack =>
      let (result, after) := body.run { m with stack }
      let below := after.stack.pop
      (result.mapError (Stop.map (failed below.trace)), { after with stack := below })⟩

@[simp] theorem run_pure (a : α) (m : Machine) : (pure a : Evaluation α).run m = (.ok a, m) := rfl

@[simp] theorem run_bind (e : Evaluation α) (next : α → Evaluation β) (m : Machine) :
    (e >>= next).run m =
      match e.run m with
      | (.ok a, after) => (next a).run after
      | (.error s, after) => (.error s, after) := rfl

@[simp] theorem run_fail (f : Fault) (m : Machine) :
    (fail f : Evaluation α).run m = (.error f, m) := rfl

@[simp] theorem run_overflow (m : Machine) :
    (overflow : Evaluation α).run m = (.error .capacityOverflow, m) := rfl

@[simp] theorem run_ofExcept (x : Except Fault α) (m : Machine) :
    (ofExcept x).run m = (Stop.ofExcept x, m) := rfl

@[simp] theorem run_frames (m : Machine) : frames.run m = (.ok m.stack.frames, m) := rfl

@[simp] theorem run_record (event : Event) (m : Machine) :
    (record event).run m = (.ok (), { m with journal := m.journal.push event }) := rfl

theorem fst_run_read_bind (ctx : Context) (range : ByteRange)
    (next : List UInt8 → Evaluation α) (m : Machine) :
    (∃ e, ((read ctx range >>= next).run m).1 = .error (Fault.dataRead e)) ∨
      ∃ bytes after, ((read ctx range >>= next).run m).1 = ((next bytes).run after).1 := by
  unfold read
  cases ctx.reader with
  | none => exact .inl ⟨_, rfl⟩
  | some reader =>
    simp only [run_bind, run_record, run_ofExcept]
    cases reader range with
    | error e => exact .inl ⟨e, rfl⟩
    | ok bytes => exact .inr ⟨bytes, _, rfl⟩

theorem run_inFrame_of_push_ok {frame : Frame} {m : Machine} {stack : FrameStack}
    (refused : Fault → Fault) (failed : List Location → Fault → Fault) (body : Evaluation α)
    (h : m.stack.push frame = .ok stack) :
    (inFrame frame refused failed body).run m =
      let (result, after) := body.run { m with stack }
      (result.mapError (Stop.map (failed after.stack.pop.trace)),
        { after with stack := after.stack.pop }) := by
  simp only [inFrame, h]

theorem run_inFrame_of_push_error {frame : Frame} {m : Machine} {f : Fault}
    (refused : Fault → Fault) (failed : List Location → Fault → Fault) (body : Evaluation α)
    (h : m.stack.push frame = .error f) :
    (inFrame frame refused failed body).run m = (.error (refused f), m) := by
  simp only [inFrame, h]

/-- The computation hands the frame stack back as it found it. -/
def KeepsStack (e : Evaluation α) : Prop := ∀ m, (e.run m).2.stack = m.stack

theorem keepsStack_pure (a : α) : KeepsStack (pure a : Evaluation α) := fun _ => rfl

theorem keepsStack_fail (f : Fault) : KeepsStack (fail f : Evaluation α) := fun _ => rfl

theorem keepsStack_overflow : KeepsStack (overflow : Evaluation α) := fun _ => rfl

theorem keepsStack_ofExcept (x : Except Fault α) : KeepsStack (ofExcept x) := fun _ => rfl

theorem keepsStack_frames : KeepsStack frames := fun _ => rfl

theorem keepsStack_record (event : Event) : KeepsStack (record event) := fun _ => rfl

theorem KeepsStack.bind {e : Evaluation α} {next : α → Evaluation β} (he : KeepsStack e)
    (hnext : ∀ a, KeepsStack (next a)) : KeepsStack (e >>= next) := by
  intro m
  have h := he m
  rw [run_bind]
  rcases hr : e.run m with ⟨s | a, after⟩
  · simpa [hr] using h
  · rw [hr] at h
    exact (hnext a after).trans h

theorem keepsStack_read (ctx : Context) (range : ByteRange) : KeepsStack (read ctx range) := by
  unfold read
  split
  · exact keepsStack_fail _
  · exact (keepsStack_record _).bind fun _ => keepsStack_ofExcept _

theorem KeepsStack.inFrame (frame : Frame) (refused : Fault → Fault)
    (failed : List Location → Fault → Fault) {body : Evaluation α} (h : KeepsStack body) :
    KeepsStack (inFrame frame refused failed body) := by
  intro m
  cases hp : m.stack.push frame with
  | error f => rw [run_inFrame_of_push_error _ _ _ hp]
  | ok stack =>
    rw [run_inFrame_of_push_ok _ _ _ hp]
    have hs : (body.run { m with stack }).2.stack = stack := h _
    simp only [hs, FrameStack.pop_of_push hp]

end Evaluation
end PatternExpr
