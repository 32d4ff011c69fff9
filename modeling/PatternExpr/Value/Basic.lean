import PatternExpr.Data.Store
import PatternExpr.Source.Location
import PatternExpr.Value.Numeric

/-! What an expression evaluates to. -/
namespace PatternExpr

/-- Content decoded from a range of bytes. The handle tells shared copies of one pattern from
another pattern that looks the same. -/
structure Placed (α : Type) where
  handle : Nat
  range : ByteRange
  content : α
  label : Option String
  location : Location

inductive Value
  | numeric (n : Numeric)
  | string (s : String)
  | pattern (p : Placed Value)

abbrev Pattern := Placed Value

inductive ValueType
  | numeric (k : NumericKind)
  | string
  | pattern
deriving DecidableEq

def NumericKind.typeName : NumericKind → String
  | .unsigned => "unsigned"
  | .signed => "signed"
  | .float => "float"
  | .bool => "bool"
  | .char => "char"

def ValueType.name : ValueType → String
  | .numeric k => k.typeName
  | .string => "str"
  | .pattern => "pattern"

namespace Value

@[match_pattern] abbrev unsigned (w : Word) : Value := .numeric (.unsigned w)
@[match_pattern] abbrev signed (w : Word) : Value := .numeric (.signed w)
@[match_pattern] abbrev float (x : Binary64) : Value := .numeric (.float x)
@[match_pattern] abbrev bool (b : Bool) : Value := .numeric (.bool b)
@[match_pattern] abbrev char (c : Char) : Value := .numeric (.char c)

def type : Value → ValueType
  | .numeric n => .numeric n.kind
  | .string _ => .string
  | .pattern _ => .pattern

def numericKind? : Value → Option NumericKind
  | .numeric n => some n.kind
  | _ => none

def pattern? : Value → Option Pattern
  | .pattern p => some p
  | _ => none

/-- Values of one type compare by content, patterns by identity. -/
def equals : Value → Value → Bool
  | .numeric a, .numeric b => a.equals b
  | .string a, .string b => a == b
  | .pattern a, .pattern b => a.handle == b.handle
  | _, _ => false

instance : BEq Value := ⟨equals⟩

/-- The plain text of a value. A pattern shows its label, else its content, but never the content of
a pattern inside it. -/
def toText : Value → String
  | .numeric n => n.toText
  | .string s => s
  | .pattern p =>
    match p.label, p.content with
    | some label, _ => label
    | none, .pattern _ => s!"<pattern at {hexText p.range.offset}>"
    | none, .numeric n => n.toText
    | none, .string s => s

/-- The text of a value that also tells its type: characters and strings stand in quotes, nothing
inside them is escaped, and a pattern shows where it lies. -/
def toQuotedText : Value → String
  | .numeric (.char c) => s!"'{c}'"
  | .numeric n => n.toText
  | .string s => s!"\"{s}\""
  | .pattern p =>
    s!"<pattern at {hexText p.range.offset}, {p.range.size} bytes, {p.range.within.toText}>"

end Value

def Placed.toText (p : Pattern) : String := (Value.pattern p).toText

end PatternExpr
