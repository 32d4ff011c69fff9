import PatternExpr.Session.Inspection
import PatternExpr.Tree.Evaluation

/-! Sessions: one evaluator that lives through a sequence of steps. A step works on what earlier
steps left: the sections inserted so far and the frames of the scopes that are open. A host that
catches what unwinds a step goes on with the next one. -/
namespace PatternExpr

/-- Where bytes come from: sections in memory, or whatever the host reads. -/
inductive DataSource
  | memory (store : Store)
  | host (reader : Reader)

def DataSource.reader : DataSource → Reader
  | .memory store => store.read
  | .host reader => reader

/-- The source whose reads all fail. -/
def DataSource.failing (message : String) : DataSource := .host fun _ => .error (.other message)

/-- Only memory takes sections. -/
def DataSource.insertSection (d : DataSource) (id : SectionId) (bytes : List UInt8) : DataSource :=
  match d with
  | .memory store => .memory (store.insert id bytes)
  | .host reader => .host reader

/-- How an evaluator is set up. -/
structure Setup where
  source : Option DataSource
  limits : Limits

def Setup.default : Setup := ⟨none, .default⟩

structure Session where
  source : Option DataSource
  limits : Limits
  stack : FrameStack

/-- What a step asks for. -/
inductive Step
  | evaluate (t : Expr)
  | value (t : Expr)
  | apply (op : Operator) (left right : Value)
  | read (range : ByteRange)
  | insertSection (id : SectionId) (bytes : List UInt8)
  | inspect
  | scope (node : Expr) (steps : List Step)

/-- What is seen after a step: its answer, the depth of the frame stack, and the events in it. -/
structure Outcome (α : Type) where
  answer : α
  depth : Nat
  journal : Array Event

inductive Answer
  | reduct (r : Except Stop Reduct)
  | value (r : Except Stop Value)
  | bytes (r : Except Stop (List UInt8))
  | inserted
  | inspection (hasSource : Bool) (text : String)
  | refused (f : Fault)
  | scope (trace : List Location) (outcomes : List (Outcome Answer))

namespace Session

def start (setup : Setup) : Session := ⟨setup.source, setup.limits, .empty setup.limits.maxDepth⟩

def context (s : Session) : Context := ⟨s.source.map DataSource.reader, s.limits⟩

/-- The state of the session on one line. -/
def toText (s : Session) : String :=
  Inspection.record "Evaluator"
    [("has_data_source", toString s.source.isSome), ("limits", s.limits.inspect),
     ("runtime", s.stack.inspect)]

/-- Runs an evaluation on the frames of the session, which it hands back. -/
def run {α : Type} (s : Session) (e : Evaluation α) : Except Stop α × Array Event × Session :=
  let (result, m) := e.run ⟨s.stack, #[]⟩
  (result, m.journal, { s with stack := m.stack })

def outcome {α : Type} (answer : Except Stop α → Answer)
    (r : Except Stop α × Array Event × Session) : Outcome Answer × Session :=
  (⟨answer r.1, r.2.2.stack.depth, r.2.1⟩, r.2.2)

mutual

/-- A scope holds a frame for its node while its steps run; they leave their sections behind. -/
def perform (s : Session) : Step → Outcome Answer × Session
  | .evaluate t => outcome .reduct (s.run (t.evaluate s.context))
  | .value t => outcome .value (s.run (t.evaluateToValue s.context))
  | .apply op l r => outcome .value (s.run (applyOperator s.context op l r))
  | .read range => outcome .bytes (s.run (Evaluation.read s.context range))
  | .insertSection id bytes =>
    (⟨.inserted, s.stack.depth, #[]⟩, { s with source := s.source.map (·.insertSection id bytes) })
  | .inspect => (⟨.inspection s.source.isSome s.toText, s.stack.depth, #[]⟩, s)
  | .scope node steps =>
    match s.stack.push ⟨node.name, node.location⟩ with
    | .error f => (⟨.refused f, s.stack.depth, #[]⟩, s)
    | .ok stack =>
      let (outcomes, inner) := performAll { s with stack } steps
      let after := { inner with stack := inner.stack.pop }
      (⟨.scope stack.trace outcomes, after.stack.depth, #[]⟩, after)
termination_by structural step => step

def performAll (s : Session) : List Step → List (Outcome Answer) × Session
  | [] => ([], s)
  | step :: steps =>
    let (first, s) := s.perform step
    let (rest, s) := performAll s steps
    (first :: rest, s)
termination_by structural steps => steps

end

end Session
end PatternExpr
