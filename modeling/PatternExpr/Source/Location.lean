/-! Source texts and the places diagnostics point at. -/
namespace PatternExpr

structure Source where
  name : String
  content : String
deriving DecidableEq

/-- A token: 1-based line and column and the number of characters it covers. A location whose line
or column is zero is synthetic: it belongs to a generated node and is never shown. -/
structure Location where
  source : Option Source
  line : Nat
  column : Nat
  length : Nat
deriving DecidableEq

namespace Location

/-- The location of generated nodes. -/
def synthetic : Location := ⟨none, 0, 0, 0⟩

def isSynthetic (l : Location) : Bool := l.line == 0 || l.column == 0

def sourceName (l : Location) : String := (l.source.map Source.name).getD "<unknown>"

/-- The text `name:line:column`, empty for a synthetic location. -/
def toText (l : Location) : String :=
  if l.isSynthetic then "" else s!"{l.sourceName}:{l.line}:{l.column}"

/-- The text used where a run is inspected: it also tells the token length. -/
def inspect (l : Location) : String :=
  if l.isSynthetic then "<synthetic>" else s!"{l.sourceName}:{l.line}:{l.column}+{l.length}"

/-- The locations worth showing, in order. -/
def shown (ls : List Location) : List Location := ls.filter fun l => !l.isSynthetic

@[simp] theorem isSynthetic_synthetic : synthetic.isSynthetic = true := rfl

theorem isSynthetic_eq_false_iff {l : Location} :
    l.isSynthetic = false ↔ 0 < l.line ∧ 0 < l.column := by
  simp [isSynthetic, Nat.pos_iff_ne_zero]

@[simp] theorem shown_append (as bs : List Location) : shown (as ++ bs) = shown as ++ shown bs :=
  List.filter_append ..

theorem shown_cons (l : Location) (ls : List Location) :
    shown (l :: ls) = if l.isSynthetic then shown ls else l :: shown ls := by
  cases h : l.isSynthetic <;> simp [shown, h]

theorem shown_of_isSynthetic {ls : List Location} (h : ∀ l ∈ ls, l.isSynthetic = true) :
    shown ls = [] := by
  rw [shown, List.filter_eq_nil_iff]
  intro l hl
  simp [h l hl]

end Location
end PatternExpr
