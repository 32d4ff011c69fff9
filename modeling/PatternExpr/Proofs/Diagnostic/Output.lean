import PatternExpr.Proofs.Diagnostic.WholeLines

/-! What a sink holds after a run of an emitter. The emitter never looks at what became of a write, so what
it asks of the sink depends on the emissions alone. However the sink takes its bytes, in which parts and up
to which number, it ends up with a prefix of one text, the diagnostics and summaries one after another, each
of them made of whole lines. -/
namespace PatternExpr

namespace Sink

/-- There is room for so many bytes. -/
def Fits (s : Sink) (size : Nat) : Prop := ∀ n, s.room = some n → size ≤ n

/-- What an emitter asks of its sink. -/
inductive Request
  | write (text : String)
  | flush

def Request.text : Request → String
  | .write text => text
  | .flush => ""

def serve (s : Sink) : Request → Sink
  | .write text => s.write text
  | .flush => s.flush

end Sink

/-- The line feed is asked for on its own, whatever became of the text before it. -/
def Diagnostic.requests (style : Style) (d : Diagnostic) : List Sink.Request :=
  [.write (d.renderIn style), .write (lineEnd (d.renderIn style))]

namespace Emission

def requests (style : Style) : Emission → List Sink.Request
  | .diagnostic d => d.requests style
  | .diagnostics ds => ds.flatMap (·.requests style)
  | .summary count => [.write (summaryText count)]
  | .flush => [.flush]

end Emission

namespace Emitter

/-- What an emitter asks of its sink does not depend on what the sink has taken. -/
theorem perform_eq (e : Emitter) (emission : Emission) :
    e.perform emission = { e with sink := (emission.requests e.style).foldl Sink.serve e.sink } := by
  cases emission with
  | diagnostic d => rfl
  | diagnostics ds =>
    change e.emitAll ds = _
    induction ds generalizing e with
    | nil => rfl
    | cons d ds ih => exact ih (e.emit d)
  | summary count => rfl
  | flush => rfl

theorem run_eq (e : Emitter) (emissions : List Emission) :
    e.run emissions = { e with
      sink := (emissions.flatMap (·.requests e.style)).foldl Sink.serve e.sink } := by
  induction emissions generalizing e with
  | nil => rfl
  | cons emission rest ih =>
    change (e.perform emission).run rest = _
    rw [ih, perform_eq, List.flatMap_cons, List.foldl_append]

end Emitter
end PatternExpr
