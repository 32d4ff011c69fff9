import PatternExpr.Source.Location

/-! From byte offsets to lines and columns. -/
namespace PatternExpr

/-- A 1-based line and column, compared line first. -/
structure Position where
  line : Nat
  column : Nat
deriving DecidableEq

namespace Position

def start : Position := ⟨1, 1⟩

def advance (p : Position) (c : Char) : Position :=
  if c = '\n' then ⟨p.line + 1, 1⟩ else ⟨p.line, p.column + 1⟩

def ofText (cs : List Char) : Position := cs.foldl advance start

def le (p q : Position) : Prop := p.line < q.line ∨ p.line = q.line ∧ p.column ≤ q.column

@[simp] theorem ofText_nil : ofText [] = start := rfl

theorem ofText_concat (cs : List Char) (c : Char) : ofText (cs ++ [c]) = (ofText cs).advance c := by
  simp [ofText]

end Position

/-- The characters before a byte offset; `none` if the offset is inside a character or past the end. -/
def charsBefore? : Nat → List Char → Option (List Char)
  | 0, _ => some []
  | _ + 1, [] => none
  | n + 1, c :: cs =>
    if c.utf8Size ≤ n + 1 then (charsBefore? (n + 1 - c.utf8Size) cs).map (c :: ·) else none

/-- The largest line or column a location holds. -/
def maxCoordinate : Nat := Nat.pow 2 32 - 1

/-- The location of the token that starts at a byte offset. An offset past the end counts as the
end, and so does one inside a character. -/
def Source.locationAt (s : Source) (offset length : Nat) : Location :=
  let text := s.content.toList
  let p := Position.ofText ((charsBefore? offset text).getD text)
  ⟨some s, min p.line maxCoordinate, min p.column maxCoordinate, length⟩

end PatternExpr
