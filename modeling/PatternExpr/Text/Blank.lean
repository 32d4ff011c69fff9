import PatternExpr.Text.CodeRange

/-! The characters with the Unicode property `White_Space`. -/
namespace PatternExpr

def blanks : CodeTable := .ofPairs
  [(0x9, 0xD), (0x20, 0x20), (0x85, 0x85), (0xA0, 0xA0), (0x1680, 0x1680), (0x2000, 0x200A),
   (0x2028, 0x2029), (0x202F, 0x202F), (0x205F, 0x205F), (0x3000, 0x3000)]

example : blanks.isAscending = true := by decide

example : blanks.size = 25 := by decide

def isBlank (c : Char) : Bool := blanks.contains c

end PatternExpr
