import PatternExpr.Operation.Repetition
import PatternExpr.Text.Combining
import PatternExpr.Text.Unprintable
import PatternExpr.Tree.FrameStack

/-! One-line texts of records, for looking into a run. -/
namespace PatternExpr

namespace Inspection

/-- A character inside quotes. One that would not show there, or would show on the character before
it, is written as its code point. -/
def escape (c : Char) : String :=
  if c = '"' then "\\\""
  else if c = '\\' then "\\\\"
  else if c = '\n' then "\\n"
  else if c = '\r' then "\\r"
  else if c = '\t' then "\\t"
  else if c.toNat = 0 then "\\0"
  else if isCombining c || isUnprintable c then
    "\\u\x7b" ++ String.ofList (Nat.toDigits 16 c.toNat) ++ "\x7d"
  else c.toString

def quoted (text : String) : String := "\"" ++ String.join (text.toList.map escape) ++ "\""

def option (n : Option Nat) : String :=
  match n with
  | none => "None"
  | some n => "Some(" ++ toString n ++ ")"

/-- A record is written as its name and its fields with their texts. -/
def record (name : String) (fields : List (String × String)) : String :=
  name ++ " \x7b " ++ ", ".intercalate (fields.map fun f => f.1 ++ ": " ++ f.2) ++ " \x7d"

end Inspection

def Frame.inspect (f : Frame) : String :=
  Inspection.record "RuntimeFrame"
    [("name", Inspection.quoted f.name), ("location", f.location.inspect)]

/-- The frames are listed outermost first. -/
def FrameStack.inspect (s : FrameStack) : String :=
  Inspection.record "RuntimeStack"
    [("frames", "[" ++ ", ".intercalate (s.frames.reverse.map Frame.inspect) ++ "]"),
     ("max_depth", Inspection.option s.maxDepth)]

def Limits.inspect (l : Limits) : String :=
  Inspection.record "EvalLimits"
    [("max_repeat_count", toString l.maxRepeatCount), ("max_string_len", toString l.maxStringLength),
     ("max_depth", Inspection.option l.maxDepth)]

end PatternExpr
