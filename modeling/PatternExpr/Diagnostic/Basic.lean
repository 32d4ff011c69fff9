import PatternExpr.Diagnostic.Code
import PatternExpr.Diagnostic.Layout

/-! Diagnostics: what is shown to a user about one failure. -/
namespace PatternExpr

structure Diagnostic where
  code : Code
  message : String
  location : Location
  description : String
  trace : List Location
  hint : Option String
deriving DecidableEq

namespace Diagnostic

/-- The diagnostic that tells nothing but its code. -/
def ofCode (code : Code) : Diagnostic := ⟨code, "", .synthetic, "", [], none⟩

def withMessage (d : Diagnostic) (message : String) : Diagnostic := { d with message }
def withLocation (d : Diagnostic) (location : Location) : Diagnostic := { d with location }
def withDescription (d : Diagnostic) (description : String) : Diagnostic := { d with description }
def withHint (d : Diagnostic) (hint : String) : Diagnostic := { d with hint := some hint }

def withTrace (d : Diagnostic) (entries : List Location) : Diagnostic :=
  { d with trace := d.trace ++ entries }

def hasLocation (d : Diagnostic) : Bool := !d.location.isSynthetic

/-- The description with the hint as its last line, if there is a hint. -/
def fullDescription (d : Diagnostic) : String :=
  let hint := Layout.hintLine d.hint
  if hint.isEmpty || d.description.isEmpty then d.description ++ hint
  else d.description ++ "\n" ++ hint

/-- The compiler layout. -/
def render (d : Diagnostic) : String :=
  Layout.compiler d.location d.message d.fullDescription d.trace

theorem render_eq (d : Diagnostic) : d.render = "error: " ++ d.message ++ "\n" ++
    (Layout.arrow d.location ++ String.join (d.trace.map Layout.traceLine) ++
      Layout.excerptBlock d.location ++ Layout.descriptionBlock d.fullDescription) := by
  simp only [render, Layout.compiler, String.append_assoc]

/-- The runtime layout. -/
def renderRuntime (d : Diagnostic) : String :=
  Layout.runtime d.location d.message d.description d.hint

end Diagnostic
end PatternExpr
