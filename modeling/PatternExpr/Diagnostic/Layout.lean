import PatternExpr.Source.Excerpt

/-! The two layouts of an error. The compiler layout has one line for the message, one for the
location, one for each trace entry, the excerpt, and the description as a block of its own; the
runtime layout is the plain text a running program shows. -/
namespace PatternExpr.Layout

/-- A line of its own for a location that has a line, also if its column is missing. -/
def arrow (l : Location) : String := if 0 < l.line then "  -->   in " ++ l.toText ++ "\n" else ""

def traceLine (l : Location) : String := "   >> from " ++ l.toText ++ "\n"

def excerptBlock (l : Location) : String := if 0 < l.line then l.excerpt ++ "\n" else ""

def descriptionBlock (description : String) : String :=
  if description.isEmpty then "" else "\n" ++ description ++ "\n"

def compiler (location : Location) (message description : String) (trace : List Location) : String :=
  "error: " ++ message ++ "\n" ++ arrow location ++ String.join (trace.map traceLine) ++
    excerptBlock location ++ descriptionBlock description

def runtimeBrief (title description : String) : String :=
  "runtime error: " ++ title ++ if description.isEmpty then "" else "\n" ++ description

def hintLine (hint : Option String) : String :=
  match hint with
  | none => ""
  | some h => if h.isEmpty then "" else "hint: " ++ h

/-- Only the hint, which comes last, ends without a line feed. -/
def runtime (location : Location) (title description : String) (hint : Option String) : String :=
  "runtime error: " ++ title ++ "\n" ++
    (if location.isSynthetic then "" else location.toText ++ ": ") ++ description ++ "\n" ++
    hintLine hint

end PatternExpr.Layout
