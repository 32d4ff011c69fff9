import PatternExpr.Diagnostic.Basic

/-! Writing diagnostics to a sink of bytes. A sink may have room for only so many bytes; what does
not fit is lost, and nothing else changes. -/
namespace PatternExpr

inductive Style
  | compiler | runtime
deriving DecidableEq

/-- Bytes taken so far, how many more fit (no bound if absent), and how often it was flushed. -/
structure Sink where
  bytes : List UInt8
  room : Option Nat
  flushes : Nat

namespace Sink

def ofRoom (room : Option Nat) : Sink := ⟨[], room, 0⟩

def utf8 (text : String) : List UInt8 := text.toUTF8.data.toList

/-- Takes as much of the text as fits. -/
def write (s : Sink) (text : String) : Sink :=
  match s.room with
  | none => { s with bytes := s.bytes ++ utf8 text }
  | some n => { s with
      bytes := s.bytes ++ (utf8 text).take n
      room := some (n - (utf8 text).length) }

def flush (s : Sink) : Sink := { s with flushes := s.flushes + 1 }

end Sink

def Diagnostic.renderIn (d : Diagnostic) : Style → String
  | .compiler => d.render
  | .runtime => d.renderRuntime

/-- The line feed that a text lacks to end its last line. -/
def lineEnd (text : String) : String := if text.toList.getLast? = some '\n' then "" else "\n"

/-- The line that closes a run with so many errors; a run without errors has none. -/
def summaryText : Nat → String
  | 0 => ""
  | 1 => "error: aborting due to previous error\n"
  | n => s!"error: aborting due to {n} previous errors\n"

/-- What can be asked of an emitter. -/
inductive Emission
  | diagnostic (d : Diagnostic)
  | diagnostics (ds : List Diagnostic)
  | summary (count : Nat)
  | flush

structure Emitter where
  style : Style
  sink : Sink

namespace Emitter

def emit (e : Emitter) (d : Diagnostic) : Emitter :=
  let text := d.renderIn e.style
  { e with sink := (e.sink.write text).write (lineEnd text) }

def emitAll (e : Emitter) (ds : List Diagnostic) : Emitter := ds.foldl emit e

def emitSummary (e : Emitter) (count : Nat) : Emitter :=
  { e with sink := e.sink.write (summaryText count) }

def flush (e : Emitter) : Emitter := { e with sink := e.sink.flush }

def perform (e : Emitter) : Emission → Emitter
  | .diagnostic d => e.emit d
  | .diagnostics ds => e.emitAll ds
  | .summary count => e.emitSummary count
  | .flush => e.flush

def run (e : Emitter) (emissions : List Emission) : Emitter := emissions.foldl perform e

end Emitter
end PatternExpr
